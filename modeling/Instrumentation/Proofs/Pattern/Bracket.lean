import Instrumentation.Pattern.Bracket
import Instrumentation.Proofs.Pattern.Escape

set_option autoImplicit false

/-!
# Brackets are read locally

A bracket ends with its closing bracket, so nothing in it that looks ahead changes what is read up to there. The readers
of its parts do look ahead: the start of a bracket fails at the end of the text, and a dash is a range or a literal
depending on what comes after it. `AtEnd` and `SetAhead` are the texts that are left where they have looked into a tail.
No bracket is closed in these, so that the bracket as a whole is read locally.
-/

namespace Instrumentation.Pattern

open HasRest (rest withRest)

variable (fl : Flags) {β : Type} [HasRest β]

/-- The text that is left is empty, but without looking ahead nothing would be returned. -/
def AtEnd (y : β) : Prop := rest y = []

/-- The text that is left is too short for a bracket. -/
def SetAhead (y : β) : Prop := rest y = [] ∨ ∃ cs, rest y = '-' :: cs ∧ skip fl cs = []

/-! ## The start of a bracket -/

theorem takeDashes_cons (n : Nat) (p : Partial) (c : Char) (cs : List Char) :
    takeDashes fl (n + 1) p (c :: cs) =
      if c = '-' then takeDashes fl n (p.add ⟨.single '-'.toNat, 0⟩) (skip fl cs) else some (p, c :: cs) := rfl

theorem takeDashes_suffixing (n : Nat) (p : Partial) : Suffixing (takeDashes fl n p) := by
  induction n generalizing p with
  | zero => exact nofun
  | succ n ih =>
      intro t y hy
      cases t with
      | nil => cases hy
      | cons c t =>
          rw [takeDashes_cons] at hy
          split at hy
          · exact (ih _ _ _ hy).trans ((skip_suffix fl t).trans (List.suffix_cons c t))
          · cases hy
            exact List.suffix_refl _

theorem localAt_takeDashes (n m : Nat) (p : Partial) (cs : List Char) (hm : cs.length < m) :
    LocalAt AtEnd (takeDashes fl n p) (takeDashes fl m p) cs := by
  induction n generalizing m p cs with
  | zero => exact nofun
  | succ n ih =>
      cases cs with
      | nil => exact LocalAt.nil_ahead (takeDashes_suffixing fl (n + 1) p) fun _ => id
      | cons c r =>
          obtain ⟨m, rfl⟩ : ∃ k, m = k + 1 := ⟨m - 1, by omega⟩
          have hr : r.length < m := Nat.lt_of_succ_lt_succ hm
          by_cases hc : c = '-'
          · refine LocalAt.cons ?_
            simp only [takeDashes_cons, hc, if_true]
            exact LocalAt.skip fl fun r' hr' => ih m _ r' (Nat.lt_of_le_of_lt hr'.length_le hr)
          · have hkept : ∀ k t, takeDashes fl (k + 1) p (c :: t) = some (p, c :: t) := fun k t => if_neg hc
            exact LocalAt.branch (LocalAt.pure_one p) (hkept n) (hkept m)

/-- What stands right after the dashes. A closing bracket there is a literal if there are no dashes. -/
def takeFirstBracket (negated : Bool) (p : Partial) (cs : List Char) :
    Option (Bool × Partial × List Char) :=
  match cs with
  | ']' :: rest =>
      if p.items.isEmpty then
        let rest := skip fl rest
        if rest.isEmpty then none else some (negated, p.add ⟨.single ']'.toNat, 0⟩, rest)
      else some (negated, p, cs)
  | _ => some (negated, p, cs)

theorem takeFirstBracket_of_ne {c : Char} (hc : c ≠ ']') (negated : Bool) (p : Partial) (t : List Char) :
    takeFirstBracket fl negated p (c :: t) = some (negated, p, c :: t) := by
  rw [takeFirstBracket]
  rintro _ ⟨⟩
  exact hc rfl

/-- The start of a bracket that is not the end of the text. -/
def takeUnlessEmpty (negated : Bool) (p : Partial) (cs : List Char) : Option (Bool × Partial × List Char) :=
  if cs.isEmpty then none else some (negated, p, cs)

theorem localAt_takeUnlessEmpty (negated : Bool) (p : Partial) (cs : List Char) :
    LocalAt AtEnd (takeUnlessEmpty negated p) (takeUnlessEmpty negated p) cs := by
  cases cs with
  | nil =>
      refine LocalAt.nil_ahead (fun t y hy => ?_) fun _ => id
      rw [takeUnlessEmpty] at hy
      split at hy
      · cases hy
      · cases hy
        exact List.suffix_refl t
  | cons c r => exact LocalAt.branch (LocalAt.pure_two negated p) (fun _ => rfl) fun _ => rfl

theorem localAt_takeFirstBracket (negated : Bool) (p : Partial) (cs : List Char) :
    LocalAt AtEnd (takeFirstBracket fl negated p) (takeFirstBracket fl negated p) cs := by
  have hkept : ∀ c t, ¬ (c = ']' ∧ p.items.isEmpty = true) →
      takeFirstBracket fl negated p (c :: t) = some (negated, p, c :: t) := by
    intro c t h
    by_cases hc : c = ']'
    · subst hc
      exact if_neg fun hempty => h ⟨rfl, hempty⟩
    · exact takeFirstBracket_of_ne fl hc negated p t
  have hfirst : ∀ r, p.items.isEmpty = true → LocalAt AtEnd (fun t => takeFirstBracket fl negated p (']' :: t))
      (fun t => takeFirstBracket fl negated p (']' :: t)) r := by
    intro r hempty
    simp only [takeFirstBracket, hempty, if_true]
    exact LocalAt.skip fl fun r' _ => localAt_takeUnlessEmpty negated _ r'
  refine LocalAt.of_kept (fun t => (negated, p, t)) (fun c => c = ']' ∧ p.items.isEmpty = true) (fun _ => rfl)
    (fun _ _ => rfl) rfl rfl (fun c t hc => ⟨hkept c t hc, hkept c t hc⟩) ?_ ?_
  · rintro c ⟨rfl, hempty⟩
    exact (hfirst [] hempty).suffixing
  · rintro c r - ⟨rfl, hempty⟩
    exact hfirst r hempty

/-- The start of a bracket, after its opening, a caret and blanks. -/
def takeFirst (negated : Bool) (cs : List Char) : Option (Bool × Partial × List Char) := do
  let (p, cs) ← takeDashes fl (cs.length + 1) {} cs
  takeFirstBracket fl negated p cs

theorem localAt_takeFirst (negated : Bool) (cs : List Char) :
    LocalAt AtEnd (takeFirst fl negated) (takeFirst fl negated) cs := by
  intro tail y
  refine LocalAt.bind_of_ahead (localAt_takeDashes fl _ _ {} cs (Nat.lt_succ_self _))
    (fun x r _ => localAt_takeFirstBracket fl negated x.1 r) ?_ tail y
  rintro ⟨p, _⟩ r (hend : r = [])
  subst hend
  exact Or.inr fun z hz => by cases hz; rfl

/-- The start of a bracket, after its opening and blanks. -/
def takeStart (cs : List Char) : Option (Bool × Partial × List Char) :=
  match cs with
  | [] => none
  | '^' :: rest => takeFirst fl true (skip fl rest)
  | _ => takeFirst fl false cs

theorem takeStart_of_ne {c : Char} (hc : c ≠ '^') (t : List Char) :
    takeStart fl (c :: t) = takeFirst fl false (c :: t) := by
  rw [takeStart]
  · nofun
  · rintro _ ⟨⟩
    exact hc rfl

theorem takeOpening_eq (cs : List Char) : takeOpening fl cs = takeStart fl (skip fl cs) := by
  rw [takeOpening]
  cases skip fl cs with
  | nil => rfl
  | cons c r =>
      by_cases hc : c = '^'
      · subst hc
        rfl
      · rw [takeStart_of_ne fl hc]
        split
        · cases ‹c :: r = []›
        · cases ‹_ = _›
          exact absurd rfl hc
        · rfl

theorem localAt_takeOpening (cs : List Char) : LocalAt AtEnd (takeOpening fl) (takeOpening fl) cs := by
  have hstart : ∀ cs, LocalAt AtEnd (takeStart fl) (takeStart fl) cs := by
    intro cs
    cases cs with
    | nil =>
        refine LocalAt.nil_ahead (fun t y hy => ?_) fun _ => id
        cases t with
        | nil => cases hy
        | cons c t =>
            by_cases hc : c = '^'
            · subst hc
              exact ((LocalAt.skip fl fun r _ => localAt_takeFirst fl true r).suffixing t y hy).trans
                (List.suffix_cons _ t)
            · rw [takeStart_of_ne fl hc] at hy
              exact (localAt_takeFirst fl false []).suffixing _ y hy
    | cons c r =>
        by_cases hc : c = '^'
        · subst hc
          exact LocalAt.cons (LocalAt.skip fl fun r _ => localAt_takeFirst fl true r)
        · exact LocalAt.branch (localAt_takeFirst fl false (c :: r)) (takeStart_of_ne fl hc) (takeStart_of_ne fl hc)
  intro tail y hy
  rw [takeOpening_eq] at hy ⊢
  exact LocalAt.skip fl (fun r _ => hstart r) tail y hy

/-! ## Items -/

theorem localAt_takeElement (c : Char) (cs : List Char) :
    LocalAt (BraceAhead fl) (fun t => takeElement fl (c :: t)) (fun t => takeElement fl (c :: t)) cs := by
  by_cases hc : c = '\\'
  · subst hc
    exact localAt_takeEscape fl cs
  · have hkept : ∀ t, takeElement fl (c :: t) = some (.literal c false, t) := by
      intro t
      rw [takeElement]
      rintro ⟨⟩
      exact hc rfl
    simp only [hkept]
    exact LocalAt.pure_one _

/-- A range from an element to the next one. -/
def takeRange (first : Element) (cs : List Char) : Option (CharClass × List Char) := do
  let (last, rest) ← takeElement fl cs
  let lo ← rangeEnd? fl first
  let hi ← rangeEnd? fl last
  if lo ≤ hi then some (.ranges [(lo, hi)], rest) else none

theorem local_takeRange (first : Element) (c : Char) :
    Local fun t => takeRange fl first (c :: t) := by
  intro cs
  refine LocalAt.bind_of_ahead (localAt_takeElement fl c cs) (fun x r _ => ?_) ?_
  · exact LocalAt.guard (o := rangeEnd? fl first) fun lo _ => LocalAt.guard (o := rangeEnd? fl x.1) fun hi _ =>
      LocalAt.ite (fun _ => LocalAt.pure_one (CharClass.ranges [(lo, hi)])) fun _ => LocalAt.none
  · -- A word boundary is no end of a range.
    rintro ⟨last, _⟩ r ⟨l, cs, ⟨⟩, -⟩
    exact Or.inl (by cases rangeEnd? fl first <;> rfl)

/-- An item that consists of one element. -/
def takeSingle (first : Element) (cs : List Char) : Option (CharClass × List Char) := do
  let c ← itemClass? fl first
  some (c, cs)

theorem local_takeSingle (first : Element) : Local (takeSingle fl first) := fun _ =>
  LocalAt.guard (o := itemClass? fl first) fun c _ => LocalAt.pure_one c

/-- An item that begins with an element, after the element and blanks. -/
def takeItemEnd (first : Element) : List Char → Option (CharClass × List Char)
  | [] => none
  | '-' :: after =>
      match skip fl after with
      | [] => none
      | next :: more =>
          if next = ']' ∨ next = '-' then takeSingle fl first ('-' :: after)
          else takeRange fl first (next :: more)
  | cs => takeSingle fl first cs

theorem takeItem_eq (cs : List Char) :
    takeItem fl cs = (takeElement fl cs).bind fun (first, rest) => takeItemEnd fl first (skip fl rest) := rfl

section ItemEnd

variable {fl} {first : Element}

theorem takeItemEnd_of_ne {c : Char} (hc : c ≠ '-') (t : List Char) :
    takeItemEnd fl first (c :: t) = takeSingle fl first (c :: t) := by
  rw [takeItemEnd]
  · nofun
  · rintro _ ⟨⟩
    exact hc rfl

/-- After a dash, what comes next tells whether it makes a range. -/
theorem takeItemEnd_dash (after : List Char) :
    takeItemEnd fl first ('-' :: after) =
      match skip fl after with
      | [] => none
      | next :: more =>
          if next = ']' ∨ next = '-' then takeSingle fl first ('-' :: after) else takeRange fl first (next :: more) := rfl

theorem takeItemEnd_dash_end {after : List Char} (h : skip fl after = []) :
    takeItemEnd fl first ('-' :: after) = none := by
  rw [takeItemEnd_dash, h]

theorem takeItemEnd_dash_literal {next : Char} {after more : List Char} (h : skip fl after = next :: more)
    (hnext : next = ']' ∨ next = '-') :
    takeItemEnd fl first ('-' :: after) = takeSingle fl first ('-' :: after) := by
  rw [takeItemEnd_dash, h]
  exact if_pos hnext

theorem takeItemEnd_dash_range {next : Char} {after more : List Char} (h : skip fl after = next :: more)
    (hnext : ¬ (next = ']' ∨ next = '-')) :
    takeItemEnd fl first ('-' :: after) = takeRange fl first (next :: more) := by
  rw [takeItemEnd_dash, h]
  exact if_neg hnext

theorem takeItemEnd_look (l : Look) (cs : List Char) : takeItemEnd fl (.look l) cs = none := by
  have hsingle : ∀ cs, takeSingle fl (.look l) cs = none := fun _ => rfl
  have hrange : ∀ cs, takeRange fl (.look l) cs = none := fun cs => by
    rw [takeRange]
    cases takeElement fl cs <;> rfl
  cases cs with
  | nil => rfl
  | cons c after =>
      by_cases hc : c = '-'
      · subst hc
        cases hafter : skip fl after with
        | nil => exact takeItemEnd_dash_end hafter
        | cons next more =>
            by_cases hnext : next = ']' ∨ next = '-'
            · rw [takeItemEnd_dash_literal hafter hnext, hsingle]
            · rw [takeItemEnd_dash_range hafter hnext, hrange]
      · rw [takeItemEnd_of_ne hc, hsingle]

theorem takeItemEnd_suffixing (first : Element) : Suffixing (takeItemEnd fl first) := by
  intro t y hy
  cases t with
  | nil => cases hy
  | cons c after =>
      by_cases hc : c = '-'
      · subst hc
        cases hafter : skip fl after with
        | nil => cases (takeItemEnd_dash_end hafter).symm.trans hy
        | cons next more =>
            by_cases hnext : next = ']' ∨ next = '-'
            · rw [takeItemEnd_dash_literal hafter hnext] at hy
              exact (local_takeSingle fl first []).suffixing _ y hy
            · rw [takeItemEnd_dash_range hafter hnext] at hy
              have hsuffix := (local_takeRange fl first next []).suffixing more y hy
              have hmore : next :: more <:+ after := hafter ▸ skip_suffix fl after
              exact hsuffix.trans ((List.suffix_cons _ _).trans (hmore.trans (List.suffix_cons _ _)))
      · rw [takeItemEnd_of_ne hc] at hy
        exact (local_takeSingle fl first []).suffixing _ y hy

theorem localAt_takeItemEnd (first : Element) (cs : List Char) :
    LocalAt (SetAhead fl) (takeItemEnd fl first) (takeItemEnd fl first) cs := by
  cases cs with
  | nil => exact LocalAt.nil_ahead (takeItemEnd_suffixing first) fun _ => Or.inl
  | cons c r =>
      by_cases hc : c = '-'
      · subst hc
        intro tail y hy
        cases hr : skip fl r with
        | cons next more =>
            have happend := skip_append_of_cons hr tail
            by_cases hnext : next = ']' ∨ next = '-'
            · rw [takeItemEnd_dash_literal hr hnext]
              rw [List.cons_append, takeItemEnd_dash_literal happend hnext] at hy
              exact (local_takeSingle fl first ('-' :: r)).of_never tail y hy
            · rw [takeItemEnd_dash_range hr hnext]
              rw [List.cons_append, takeItemEnd_dash_range happend hnext] at hy
              have hmore : next :: more <:+ '-' :: r := (hr ▸ skip_suffix fl r).trans (List.suffix_cons _ r)
              exact (local_takeRange fl first next more tail y hy).mono
                ((List.suffix_cons _ _).trans hmore) fun _ h => h.elim
        | nil =>
            -- Whether the dash is a literal is decided in the tail.
            have happend := skip_append_of_nil hr tail
            cases hlater : skip fl (r ++ tail) with
            | nil => cases (takeItemEnd_dash_end hlater).symm.trans hy
            | cons next more =>
                by_cases hnext : next = ']' ∨ next = '-'
                · rw [List.cons_append, takeItemEnd_dash_literal hlater hnext] at hy
                  obtain ⟨cls, -, hy⟩ := Option.bind_eq_some_iff.1 hy
                  cases hy
                  exact .ahead (r := '-' :: r) rfl (List.suffix_refl _) (Or.inr ⟨r, rfl, hr⟩)
                · rw [List.cons_append, takeItemEnd_dash_range hlater hnext] at hy
                  have hsuffix := (local_takeRange fl first next []).suffixing more y hy
                  have hshorter : rest y <:+ tail ∧ rest y ≠ tail := by
                    rw [hlater] at happend
                    refine ⟨hsuffix.trans ((List.suffix_cons _ _).trans happend), fun h => ?_⟩
                    exact ne_cons_of_suffix hsuffix
                      (eq_of_suffix_of_suffix (hsuffix.trans (List.suffix_cons next more)) happend h).1
                  exact .past hshorter.1 hshorter.2
      · exact (local_takeSingle fl first (c :: r)).of_never.branch (takeItemEnd_of_ne hc) (takeItemEnd_of_ne hc)

end ItemEnd

theorem localAt_takeItem (c : Char) (cs : List Char) :
    LocalAt (SetAhead fl) (fun t => takeItem fl (c :: t)) (fun t => takeItem fl (c :: t)) cs := by
  simp only [takeItem_eq]
  refine LocalAt.bind_of_ahead (localAt_takeElement fl c cs)
    (fun x r _ => LocalAt.skip fl fun r' _ => localAt_takeItemEnd x.1 r') ?_
  rintro ⟨first, t⟩ r ⟨l, cs, ⟨⟩, -⟩
  exact Or.inl (takeItemEnd_look l _)

/-! ## Named classes -/

theorem takeAsciiName_eq {cs name rest : List Char} (h : takeAsciiName cs = (name, ':' :: rest)) :
    cs = name ++ ':' :: rest ∧ ∀ t, takeAsciiName (name ++ ':' :: t) = (name, ':' :: t) := by
  induction cs generalizing name with
  | nil => cases h
  | cons c cs ih =>
      rw [takeAsciiName] at h
      by_cases hc : c = ':'
      · rw [if_pos hc] at h
        cases h
        exact ⟨rfl, fun _ => rfl⟩
      · rw [if_neg hc] at h
        cases hname : takeAsciiName cs with
        | mk name' rest' =>
          rw [hname] at h
          cases h
          obtain ⟨rfl, hagain⟩ := ih hname
          refine ⟨rfl, fun t => ?_⟩
          rw [List.cons_append, takeAsciiName, if_neg hc, hagain]

/-- A name and its closing, of a class that is negated or not. -/
def takeAsciiEnd (negated : Bool) (cs : List Char) : Option (CharClass × Bool × List Char) :=
  match takeAsciiName cs with
  | (name, ':' :: ']' :: rest) => (asciiNamedRanges? (String.ofList name)).map fun rs => (.ranges rs, negated, rest)
  | _ => none

/-- Whether a caret negates a named class, and the rest. -/
def takeCaret (cs : List Char) : Bool × List Char :=
  match cs with
  | '^' :: rest => (true, rest)
  | _ => (false, cs)

theorem takeAsciiClass_colon (cs : List Char) :
    takeAsciiClass (':' :: cs) = takeAsciiEnd (takeCaret cs).1 (takeCaret cs).2 := rfl

theorem takeAsciiClass_of_ne {c : Char} (hc : c ≠ '^') (t : List Char) :
    takeAsciiClass (':' :: c :: t) = takeAsciiEnd false (c :: t) := by
  have hcaret : takeCaret (c :: t) = (false, c :: t) := by
    rw [takeCaret]
    rintro _ ⟨⟩
    exact hc rfl
  rw [takeAsciiClass_colon, hcaret]

theorem takeAsciiClass_of_ne_colon {c : Char} (hc : c ≠ ':') (t : List Char) : takeAsciiClass (c :: t) = none := by
  unfold takeAsciiClass
  split
  · cases ‹c :: t = _›
    exact absurd rfl hc
  · rfl

/-- A named class is read off a beginning of the text, whatever comes after it. -/
theorem takeAsciiEnd_eq {negated : Bool} {cs rest : List Char} {cls : CharClass} {flipped : Bool}
    (h : takeAsciiEnd negated cs = some (cls, flipped, rest)) :
    ∃ front, front ≠ [] ∧ cs = front ++ rest ∧ ∀ t, takeAsciiEnd negated (front ++ t) = some (cls, flipped, t) := by
  rw [takeAsciiEnd] at h
  split at h
  · next name rest' hname =>
    obtain ⟨rs, hrs, hcls⟩ := Option.map_eq_some_iff.1 h
    cases hcls
    obtain ⟨rfl, hagain⟩ := takeAsciiName_eq hname
    refine ⟨name ++ [':', ']'], by simp, by simp, fun t => ?_⟩
    have htext : name ++ [':', ']'] ++ t = name ++ ':' :: ']' :: t := by simp
    rw [htext, takeAsciiEnd, hagain]
    simp only [hrs, Option.map_some]
  · cases h

theorem takeAsciiClass_eq {cs rest : List Char} {cls : CharClass} {negated : Bool}
    (h : takeAsciiClass cs = some (cls, negated, rest)) :
    ∃ front, cs = front ++ rest ∧ ∀ t, takeAsciiClass (front ++ t) = some (cls, negated, t) := by
  cases cs with
  | nil => cases h
  | cons c cs =>
      by_cases hc : c = ':'
      · subst hc
        cases cs with
        | nil => cases h
        | cons d cs =>
            by_cases hd : d = '^'
            · subst hd
              obtain ⟨front, -, rfl, hagain⟩ := takeAsciiEnd_eq (h : takeAsciiEnd true cs = _)
              exact ⟨':' :: '^' :: front, rfl, hagain⟩
            · rw [takeAsciiClass_of_ne hd] at h
              obtain ⟨front, hne, hcs, hagain⟩ := takeAsciiEnd_eq h
              cases front with
              | nil => exact absurd rfl hne
              | cons e front =>
                  rw [List.cons_append, List.cons.injEq] at hcs
                  obtain ⟨rfl, rfl⟩ := hcs
                  refine ⟨':' :: d :: front, rfl, fun t => ?_⟩
                  rw [List.cons_append, List.cons_append, takeAsciiClass_of_ne hd]
                  exact hagain t
      · cases (takeAsciiClass_of_ne_colon hc cs).symm.trans h

theorem local_takeAsciiClass : Local takeAsciiClass := by
  rintro cs tail ⟨cls, negated, rest⟩ hy
  obtain ⟨front, hcs, hagain⟩ := takeAsciiClass_eq hy
  rcases List.append_eq_append_iff.1 hcs with ⟨taken, rfl, rfl⟩ | ⟨r, rfl, rfl⟩
  · by_cases htaken : taken = []
    · subst htaken
      have hown := hagain []
      rw [List.append_nil, List.append_nil] at hown
      exact .within (r := []) rfl List.nil_suffix hown
    · refine .past ⟨taken, rfl⟩ fun h => htaken ?_
      exact List.append_left_eq_self.1 h.symm
  · exact .within rfl ⟨front, rfl⟩ (hagain r)

/-! ## Moves in a bracket -/

/-- What is read in a bracket at once. -/
inductive SetMove where
  /-- The bracket goes on. -/
  | on (p : Partial)
  /-- A nested bracket begins. -/
  | into (negated : Bool) (inner : Partial)

/-- The operator that a character stands for when it is doubled. -/
def setOperator? : Char → Option SetOperator
  | '&' => some .inter
  | '-' => some .diff
  | '~' => some .symmDiff
  | _ => none

/-- A named class, after its opening bracket. -/
def takeNamed (p : Partial) (cs : List Char) : Option (SetMove × List Char) := do
  let (c, negated, rest) ← takeAsciiClass cs
  let c ← negateClass fl negated (foldClass fl c)
  some (.on (p.add ⟨c, 0⟩), rest)

/-- The beginning of a nested bracket, after its opening. -/
def takeInner (cs : List Char) : Option (SetMove × List Char) := do
  let (negated, inner, rest) ← takeOpening fl cs
  some (.into negated inner, rest)

/-- A named class or the beginning of a nested bracket, after the opening bracket. -/
def takeNested (p : Partial) (cs : List Char) : Option (SetMove × List Char) :=
  if (takeAsciiClass cs).isSome then takeNamed fl p cs else takeInner fl cs

/-- One more item. -/
def takeAdded (p : Partial) (cs : List Char) : Option (SetMove × List Char) := do
  let (c, rest) ← takeItem fl cs
  some (.on (p.add ⟨c, 0⟩), rest)

/-- A doubled operator, or else an item, after the first character. -/
def takeDoubled (p : Partial) (c : Char) (op : SetOperator) (cs : List Char) : Option (SetMove × List Char) :=
  if cs.head? = some c then some (.on (p.operator fl op), cs.tail) else takeAdded fl p (c :: cs)

/-- A move, after its first character. -/
def takeMove (p : Partial) (c : Char) (cs : List Char) : Option (SetMove × List Char) :=
  if c = '[' then takeNested fl p cs
  else
    match setOperator? c with
    | some op => takeDoubled fl p c op cs
    | none => takeAdded fl p (c :: cs)

/-- The rest of a bracket, after blanks. -/
def takeSetRest (fuel : Nat) (p : Partial) : List Char → Option (Leveled × List Char)
  | [] => none
  | c :: cs =>
      if c = ']' then some (p.close fl, cs)
      else do
        let (move, rest) ← takeMove fl p c cs
        match move with
        | .on p => takeSet fl fuel p rest
        | .into negated inner => do
            let (c, rest) ← takeSet fl fuel inner rest
            let cls ← negateClass fl negated (foldClass fl c.cls)
            takeSet fl fuel (p.add ⟨cls, c.depth + 1⟩) rest

/-- Where no operator is doubled, an item is read. -/
theorem takeMove_item {c : Char} {cs : List Char} (hopen : c ≠ '[')
    (hdouble : ∀ op, setOperator? c = some op → cs.head? ≠ some c) (p : Partial) :
    takeMove fl p c cs = takeAdded fl p (c :: cs) := by
  rw [takeMove, if_neg hopen]
  split
  · next op hop => rw [takeDoubled, if_neg (hdouble op hop)]
  · rfl

theorem eq_of_setOperator? {c : Char} {op : SetOperator} (h : setOperator? c = some op) :
    c = '&' ∨ c = '-' ∨ c = '~' := by
  unfold setOperator? at h
  split at h <;> simp_all

theorem takeSet_succ (n : Nat) (p : Partial) (cs : List Char) :
    takeSet fl (n + 1) p cs = takeSetRest fl n p (skip fl cs) := by
  rw [takeSet]
  generalize skip fl cs = ds
  split
  · rfl
  · rfl
  · next rest =>
    rw [takeSetRest, if_neg (by decide), takeMove, if_pos rfl, takeNested]
    cases hclass : takeAsciiClass rest with
    | none =>
        rw [Option.isSome_none, if_neg Bool.false_ne_true, takeInner]
        cases takeOpening fl rest <;> rfl
    | some x =>
        rw [Option.isSome_some, if_pos rfl, takeNamed, hclass]
        cases hcls : negateClass fl x.2.1 (foldClass fl x.1) <;> simp [hcls]
  · rfl
  · rfl
  · rfl
  · next hnil hclose hopen hinter hdiff hsymm =>
    cases ds with
    | nil => exact absurd rfl hnil
    | cons c r =>
        have hmove : takeMove fl p c r = takeAdded fl p (c :: r) := by
          refine takeMove_item fl (fun h => hopen r (by rw [h])) (fun op hop hhead => ?_) p
          cases r with
          | nil => cases hhead
          | cons d r =>
              rw [List.head?_cons, Option.some.injEq] at hhead
              subst hhead
              rcases eq_of_setOperator? hop with rfl | rfl | rfl
              · exact hinter r rfl
              · exact hdiff r rfl
              · exact hsymm r rfl
        rw [takeSetRest, if_neg fun h => hclose r (by rw [h]), hmove, takeAdded]
        cases takeItem fl (c :: r) <;> rfl

theorem local_takeNamed (p : Partial) : Local (takeNamed fl p) := fun cs =>
  (local_takeAsciiClass cs).bind_two fun c negated _ _ =>
    LocalAt.guard (o := negateClass fl negated (foldClass fl c)) fun c _ =>
      LocalAt.pure_one (SetMove.on (p.add ⟨c, 0⟩))

theorem localAt_takeInner (cs : List Char) : LocalAt AtEnd (takeInner fl) (takeInner fl) cs := by
  refine LocalAt.bind_of_ahead (localAt_takeOpening fl cs)
    (fun x r _ => LocalAt.pure_one (SetMove.into x.1 x.2.1)) ?_
  rintro ⟨negated, inner, _⟩ r (hend : r = [])
  exact Or.inr fun z hz => by cases hz; exact hend

theorem localAt_takeNested (p : Partial) (cs : List Char) :
    LocalAt (SetAhead fl) (takeNested fl p) (takeNested fl p) cs := by
  intro tail y hy
  rw [takeNested] at hy ⊢
  split at hy
  · -- A class that has its name and its closing in `cs` is not changed by the tail.
    refine ((local_takeNamed fl p cs tail y hy).mono (List.suffix_refl _) fun _ h => h.elim).of_own fun z hz => ?_
    obtain ⟨x, hx, -⟩ := Option.bind_eq_some_iff.1 hz
    rw [if_pos (by rw [hx]; rfl), hz]
  · next hclass =>
    have hown : takeAsciiClass cs = none := by
      rw [Option.eq_none_iff_forall_ne_some]
      rintro ⟨c, negated, r⟩ h
      obtain ⟨front, rfl, hagain⟩ := takeAsciiClass_eq h
      rw [List.append_assoc, hagain] at hclass
      exact hclass rfl
    rw [hown, Option.isSome_none, if_neg Bool.false_ne_true]
    exact (localAt_takeInner fl cs tail y hy).mono (List.suffix_refl _) fun _ => Or.inl

theorem localAt_takeAdded (p : Partial) (c : Char) (cs : List Char) :
    LocalAt (SetAhead fl) (fun t => takeAdded fl p (c :: t)) (fun t => takeAdded fl p (c :: t)) cs := by
  refine LocalAt.bind_of_ahead (localAt_takeItem fl c cs) (fun x r _ => LocalAt.pure_one _) ?_
  exact fun x r h => Or.inr fun z hz => by cases hz; exact h

theorem localAt_takeDoubled (p : Partial) (c : Char) (op : SetOperator) (cs : List Char) :
    LocalAt (SetAhead fl) (takeDoubled fl p c op) (takeDoubled fl p c op) cs := by
  cases cs with
  | nil =>
      intro tail y hy
      rw [List.nil_append, takeDoubled] at hy
      split at hy
      · next hhead =>
        cases tail with
        | nil => cases hhead
        | cons d t =>
            cases hy
            exact .past (List.suffix_cons d t) (ne_cons_of_suffix (List.suffix_refl t))
      · exact localAt_takeAdded fl p c [] tail y hy
  | cons d r =>
      by_cases hd : d = c
      · subst hd
        refine LocalAt.cons ?_
        simp only [takeDoubled, List.head?_cons, if_true, List.tail_cons]
        exact LocalAt.pure_one _
      · have hadded : ∀ t, takeDoubled fl p c op (d :: t) = takeAdded fl p (c :: d :: t) := fun t =>
          if_neg fun h => hd (Option.some.inj h)
        exact LocalAt.branch (localAt_takeAdded fl p c (d :: r)) hadded hadded

theorem localAt_takeMove (p : Partial) (c : Char) (cs : List Char) :
    LocalAt (SetAhead fl) (takeMove fl p c) (takeMove fl p c) cs := by
  refine LocalAt.ite (fun _ => localAt_takeNested fl p cs) fun _ => ?_
  cases setOperator? c with
  | some op => exact localAt_takeDoubled fl p c op cs
  | none => exact localAt_takeAdded fl p c cs

/-! ## Brackets -/

theorem takeSet_nil (m : Nat) (p : Partial) : takeSet fl m p [] = none := by
  cases m with
  | zero => rfl
  | succ m => rw [takeSet_succ, skip_nil]; rfl

theorem skip_dash (cs : List Char) : skip fl ('-' :: cs) = '-' :: cs :=
  skip_cons fl (by decide +kernel) (by decide) cs

/-- Too short a text holds no closing bracket. -/
theorem takeSet_of_ahead {y : List Char} (h : SetAhead fl y) (m : Nat) (p : Partial) :
    takeSet fl m p y = none := by
  rcases h with (rfl : y = []) | ⟨cs, (rfl : y = '-' :: cs), hcs⟩
  · exact takeSet_nil fl m p
  · cases m with
    | zero => rfl
    | succ m =>
        have hmove : takeMove fl p '-' cs = takeAdded fl p ('-' :: cs) := by
          refine takeMove_item fl (by decide) (fun _ _ hhead => ?_) p
          cases cs with
          | nil => cases hhead
          | cons d r =>
              cases hhead
              rw [skip_dash] at hcs
              cases hcs
        have hitem : takeItem fl ('-' :: cs) = none := by
          rw [takeItem_eq]
          show takeItemEnd fl (.literal '-' false) (skip fl cs) = none
          rw [hcs]
          rfl
        rw [takeSet_succ, skip_dash, takeSetRest, if_neg (by decide), hmove, takeAdded, hitem]
        rfl

theorem localAt_takeSet (n m : Nat) (p : Partial) (cs : List Char) (hm : cs.length < m) :
    LocalAt Never (takeSet fl n p) (takeSet fl m p) cs := by
  induction n generalizing m p cs with
  | zero => exact nofun
  | succ n ih =>
      have hstep : ∀ p m c r, r.length < m → LocalAt Never (fun t => takeSetRest fl n p (c :: t))
          (fun t => takeSetRest fl m p (c :: t)) r := by
        intro p m c r hr
        refine LocalAt.ite (fun _ => LocalAt.pure_one (p.close fl)) fun _ => ?_
        refine LocalAt.bind_of_ahead (localAt_takeMove fl p c r) ?_ ?_
        · rintro ⟨move, _⟩ r' hr'
          have hr' : r'.length < m := Nat.lt_of_le_of_lt hr'.length_le hr
          cases move with
          | on p => exact ih m p r' hr'
          | into negated inner =>
              refine (ih m inner r' hr').bind_one fun c r'' hr'' =>
                LocalAt.guard (o := negateClass fl negated (foldClass fl c.cls)) fun cls _ =>
                  ih m (p.add ⟨cls, c.depth + 1⟩) r'' ?_
              exact Nat.lt_of_le_of_lt hr''.length_le hr'
        · rintro ⟨move, t⟩ r' h
          refine Or.inr fun z hz => ?_
          have hnone : ∀ p, takeSet fl m p r' = none := fun p => takeSet_of_ahead fl h m p
          cases move with
          | on p => cases (hnone p).symm.trans hz
          | into negated inner =>
              obtain ⟨x, hx, -⟩ := Option.bind_eq_some_iff.1 hz
              cases (hnone inner).symm.trans hx
      obtain ⟨m, rfl⟩ : ∃ k, m = k + 1 := ⟨m - 1, by omega⟩
      intro tail y hy
      rw [takeSet_succ] at hy ⊢
      refine LocalAt.skip fl (fun r hr => ?_) tail y hy
      refine LocalAt.of_cons rfl (fun c => (hstep p 1 c [] Nat.one_pos).suffixing) ?_
      rintro c r' rfl
      exact hstep p m c r' (Nat.lt_of_succ_lt_succ (Nat.lt_of_le_of_lt hr.length_le hm))

theorem local_takeBracket : Local (takeBracket fl) := by
  intro cs
  refine LocalAt.bind_of_ahead (localAt_takeOpening fl cs) ?_ ?_
  · rintro ⟨negated, p, _⟩ r -
    intro tail y
    refine LocalAt.bind_one (localAt_takeSet fl _ _ p r (Nat.lt_succ_self _)) (fun c r' _ => ?_) tail y
    exact LocalAt.guard (o := negateClass fl negated (foldClass fl c.cls)) fun cls _ =>
      LocalAt.pure_one (Leveled.mk cls (c.depth + 1))
  · rintro ⟨negated, p, t⟩ r (hend : r = [])
    subst hend
    exact Or.inr fun z hz => by
      rw [show withRest (negated, p, t) [] = (negated, p, []) from rfl] at hz
      simp [takeSet_nil] at hz

end Instrumentation.Pattern
