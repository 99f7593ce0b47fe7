import Instrumentation.Pattern.Encoding
import Instrumentation.Pattern.Shape

set_option autoImplicit false

/-!
# Terms

A term is a shape in the form in which it is compiled: characters are bytes, neighbouring literals are one
literal, sequences and alternatives are flat, and alternatives are gathered where a set or a common
beginning says the same. `Term.ofShape` brings a shape into this form.
-/

namespace Instrumentation.Pattern

open Instrumentation.Unicode

/-- Regular expressions over bytes and sets of characters. -/
inductive Term where
  | empty
  | literal (bytes : List UInt8)
  /-- A character of a set, which has no or at least two members. -/
  | set (members : Ranges)
  | look (l : Look)
  | numbered (a : Term)
  /-- Parts that follow one another. -/
  | seq (items : List Term)
  | alt (branches : List Term)
  | times (a : Term) (least : Nat) (most : Option Nat) (fewFirst : Bool)
deriving Inhabited

namespace Term

/-! ## Lengths -/

/-- A combination of two lengths, if both are known. -/
def combine (f : Nat → Nat → Nat) (a b : Option Nat) : Option Nat := a.bind fun a => b.map (f a)

mutual

/-- The least number of bytes that a term takes; none if it matches nothing. -/
def leastLength? : Term → Option Nat
  | empty => some 0
  | literal bs => some bs.length
  | set rs => rs.head?.map fun r => (encode r.1).length
  | look _ => some 0
  | numbered a => a.leastLength?
  | seq ts => leastLengthOfItems? ts
  | alt ts => leastLengthOfBranches? ts
  | times a least _ _ => a.leastLength?.map (· * least)

/-- The least length of a sequence. -/
def leastLengthOfItems? : List Term → Option Nat
  | [] => some 0
  | t :: ts => combine (· + ·) t.leastLength? (leastLengthOfItems? ts)

/-- The least length of alternatives. -/
def leastLengthOfBranches? : List Term → Option Nat
  | [] => none
  | [t] => t.leastLength?
  | t :: ts => combine min t.leastLength? (leastLengthOfBranches? ts)

end

mutual

/-- The greatest number of bytes that a term takes; none if it is unbounded or matches nothing. -/
def mostLength? : Term → Option Nat
  | empty => some 0
  | literal bs => some bs.length
  | set rs => rs.getLast?.map fun r => (encode r.2).length
  | look _ => some 0
  | numbered a => a.mostLength?
  | seq ts => mostLengthOfItems? ts
  | alt ts => mostLengthOfBranches? ts
  | times a _ most _ => combine (· * ·) a.mostLength? most

/-- The greatest length of a sequence. -/
def mostLengthOfItems? : List Term → Option Nat
  | [] => some 0
  | t :: ts => combine (· + ·) t.mostLength? (mostLengthOfItems? ts)

/-- The greatest length of alternatives. -/
def mostLengthOfBranches? : List Term → Option Nat
  | [] => none
  | [t] => t.mostLength?
  | t :: ts => combine max t.mostLength? (mostLengthOfBranches? ts)

end

/-! ## Anchors -/

mutual

/-- A term can match at the given condition only: it begins with the condition, or it ends with it. -/
def bound (l : Look) (atEnd : Bool) : Term → Bool
  | look m => m == l
  | numbered a => a.bound l atEnd
  | seq ts => if atEnd then boundAtEnd l ts else boundAtStart l ts
  | alt ts => !ts.isEmpty && boundBranches l atEnd ts
  | times a least _ _ => 0 < least && a.bound l atEnd
  | _ => false

/-- The condition stands among the items up to the first one that can take a byte. -/
def boundAtStart (l : Look) : List Term → Bool
  | [] => false
  | t :: ts => t.bound l false || (t.mostLength? == some 0 && boundAtStart l ts)

/-- The condition stands among the items from the last one that can take a byte. -/
def boundAtEnd (l : Look) : List Term → Bool
  | [] => false
  | t :: ts =>
      boundAtEnd l ts || (mostLengthOfItems? ts == some 0 && t.bound l true)

/-- The condition binds every branch. -/
def boundBranches (l : Look) (atEnd : Bool) : List Term → Bool
  | [] => true
  | t :: ts => t.bound l atEnd && boundBranches l atEnd ts

end

/-! ## Equality -/

mutual

/-- Two terms are written alike. Parts with numbers of their own never are. -/
def same : Term → Term → Bool
  | empty, empty => true
  | literal a, literal b => a == b
  | set a, set b => a == b
  | look a, look b => a == b
  | seq as, seq bs => sameAll as bs
  | alt as, alt bs => sameAll as bs
  | times a l m f, times b l' m' f' => l == l' && m == m' && f == f' && a.same b
  | _, _ => false

/-- Two lists of terms are written alike. -/
def sameAll : List Term → List Term → Bool
  | [], [] => true
  | a :: as, b :: bs => a.same b && sameAll as bs
  | _, _ => false

end

mutual

/-- The number of terms inside a term, with itself. -/
def size : Term → Nat
  | numbered a => a.size + 1
  | seq ts => sizeOfAll ts + 1
  | alt ts => sizeOfAll ts + 1
  | times a _ _ _ => a.size + 1
  | _ => 1

/-- The number of terms inside some terms. -/
def sizeOfAll : List Term → Nat
  | [] => 0
  | t :: ts => t.size + sizeOfAll ts

end

/-! ## Building -/

/-- The term of a set. A single character is a literal. -/
def ofSet (rs : Ranges) : Term :=
  match rs with
  | [(a, b)] => if a = b then literal (encode a) else set rs
  | _ => set rs

/-- The items of a sequence; a term that is none stands for itself, and the empty one for nothing. -/
def items : Term → List Term
  | empty => []
  | seq ts => ts
  | t => [t]

/-- Makes one literal of neighbouring literals. -/
def joinLiterals : List Term → List Term
  | [] => []
  | literal a :: ts =>
      match joinLiterals ts with
      | literal b :: us => literal (a ++ b) :: us
      | us => literal a :: us
  | t :: ts => t :: joinLiterals ts

/-- Terms that follow one another. -/
def ofItems (ts : List Term) : Term :=
  match joinLiterals (ts.flatMap items) with
  | [] => empty
  | [t] => t
  | us => seq us

/-- The branches of alternatives; a term that is none is the only branch. -/
def branches : Term → List Term
  | alt ts => ts
  | t => [t]

/-- The character that a literal is, if it is one. -/
def character? : Term → Option Nat
  | literal bs =>
      match (String.fromUTF8? ⟨bs.toArray⟩).map String.toList with
      | some [c] => some c.toNat
      | _ => none
  | _ => none

/-- The members of a set. -/
def members? : Term → Option Ranges
  | set rs => some rs
  | _ => none

/-- The set that alternatives stand for, if all are single characters or all are sets. -/
def gathered? (ts : List Term) : Option Ranges :=
  match ts.mapM character? with
  | some cs => some (Ranges.normal (cs.map fun n => (n, n)))
  | none => (ts.mapM members?).map fun rss => Ranges.normal rss.flatten

/-- The items of a sequence that is one. -/
def sequence? : Term → Option (List Term)
  | seq ts => some ts
  | _ => none

/-- The number of items that two lists have in common at their beginning. -/
def commonLength : List Term → List Term → Nat
  | a :: as, b :: bs => if a.same b then commonLength as bs + 1 else 0
  | _, _ => 0

/-- The number of items that all sequences have in common at their beginning. -/
def commonLengthOfAll : List (List Term) → Nat
  | [] => 0
  | s :: ss => ss.foldl (fun n u => min n (commonLength s u)) s.length

/-- Alternatives, of which no more than a number of common beginnings are taken out. -/
def ofBranchesWithin : Nat → List Term → Term
  | fuel, ts =>
      match ts.flatMap branches with
      | [] => set []
      | [t] => t
      | us =>
          match gathered? us with
          | some rs => ofSet rs
          | none =>
              match fuel, us.mapM sequence? with
              | fuel + 1, some ss =>
                  let n := commonLengthOfAll ss
                  if n = 0 then alt us
                  else
                    let rest := ofBranchesWithin fuel (ss.map fun s => ofItems (s.drop n))
                    ofItems ((ss.headD []).take n ++ [rest])
              | _, _ => alt us

/-- Alternatives. A beginning that all have in common is taken out. -/
def ofBranches (ts : List Term) : Term :=
  match ts with
  | [t] => t
  | _ => ofBranchesWithin (sizeOfAll ts) ts

/-- A term that is repeated. Repeating what takes no byte is the same as taking it once at most. -/
def repeated (a : Term) (least : Nat) (most : Option Nat) (fewFirst : Bool) : Term :=
  let atMostOnce := a.mostLength? == some 0
  let least := if atMostOnce then min least 1 else least
  let most := if atMostOnce then some (most.elim 1 (min 1)) else most
  if least = 0 ∧ most = some 0 then empty
  else if least = 1 ∧ most = some 1 then a
  else times a least most fewFirst

/-- The items of a shape that is taken as a sequence, or its branches if it is taken as alternatives. -/
def parts (asBranches : Bool) : Shape → List Term
  | .empty => [empty]
  | .one c => [ofSet c.toRanges]
  | .look l => [look l]
  | .seq a b =>
      let ts := parts false a ++ parts false b
      if asBranches then [ofItems ts] else ts
  | .alt a b =>
      let ts := ofBranches (parts true a) :: parts true b
      if asBranches then ts else [ofBranches ts]
  | .group isNumbered a =>
      let t := ofBranches (parts true a)
      [if isNumbered then numbered t else t]
  | .times a least most fewFirst => [repeated (ofBranches (parts true a)) least most fewFirst]

/-- The term of a shape. -/
def ofShape (s : Shape) : Term := ofBranches (parts true s)

end Term

end Instrumentation.Pattern
