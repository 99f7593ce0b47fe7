import Instrumentation.Json.Value

set_option autoImplicit false

/-!
# Reading the data format

`Text.parse?` reads a text into a tree that still knows how it was written: object members keep their
order and repetitions, a string with an unpaired surrogate escape and a number beyond every double are
kept as unreadable leaves. Whether such a leaf matters is decided by the reader of the tree: a member
that nobody asks for may be unreadable.

The grammar is strict. Blanks are space, tab, line feed and carriage return; there are no comments, no
byte order mark, no trailing commas and no leading zeros.
-/

namespace Instrumentation.Json

/-- A text of the format as it is written. -/
inductive Text where
  | null
  | bool (value : Bool)
  /-- A number, or nothing when the literal is beyond every double. -/
  | number (value : Option Number)
  /-- A string, or nothing when it contains an unpaired surrogate. -/
  | string (value : Option String)
  | array (items : List Text)
  | object (members : List (Option String × Text))

namespace Text

instance : Inhabited Text := ⟨.null⟩

/-- The blanks between tokens. -/
def isBlank (c : Char) : Bool := c == ' ' || c == '\t' || c == '\n' || c == '\r'

/-- The rest of a text after its leading blanks. -/
def skipBlanks (cs : List Char) : List Char := cs.dropWhile isBlank

/-- The value of a decimal digit. -/
def digit? (c : Char) : Option Nat :=
  if '0' ≤ c ∧ c ≤ '9' then some (c.toNat - '0'.toNat) else none

/-- The value of a hexadecimal digit. -/
def hexDigit? (c : Char) : Option Nat :=
  if '0' ≤ c ∧ c ≤ '9' then some (c.toNat - '0'.toNat)
  else if 'a' ≤ c ∧ c ≤ 'f' then some (c.toNat - 'a'.toNat + 10)
  else if 'A' ≤ c ∧ c ≤ 'F' then some (c.toNat - 'A'.toNat + 10)
  else none

/-- The digits at the start of a text, and the rest. -/
def takeDigitRun : List Char → List Nat × List Char
  | [] => ([], [])
  | c :: cs =>
      match digit? c with
      | some d => let (ds, rest) := takeDigitRun cs; (d :: ds, rest)
      | none => ([], c :: cs)

/-- Four hexadecimal digits. -/
def takeHex4 : List Char → Option (Nat × List Char)
  | a :: b :: c :: d :: rest => do
      let a ← hexDigit? a
      let b ← hexDigit? b
      let c ← hexDigit? c
      let d ← hexDigit? d
      some (((a * 16 + b) * 16 + c) * 16 + d, rest)
  | _ => none

/-- One unit of the inside of a string. -/
inductive Piece where
  | char (c : Char)
  | surrogate (unit : Nat)
deriving Repr, DecidableEq

/-- The character of a one-letter escape. -/
def simpleEscape? : Char → Option Char
  | '"' => some '"'
  | '\\' => some '\\'
  | '/' => some '/'
  | 'b' => some '\x08'
  | 'f' => some '\x0c'
  | 'n' => some '\n'
  | 'r' => some '\r'
  | 't' => some '\t'
  | _ => none

/-- The piece that an escaped code unit stands for. -/
def Piece.ofUnit (u : Nat) : Piece :=
  if 0xD800 ≤ u ∧ u < 0xE000 then .surrogate u else .char (Char.ofNat u)

/-- The inside of a string up to and including the closing quote. Characters below a blank must be escaped. -/
def pieces : Nat → List Char → Option (List Piece × List Char)
  | 0, _ => none
  | _ + 1, [] => none
  | fuel + 1, c :: cs =>
      if c = '"' then some ([], cs)
      else if c = '\\' then
        match cs with
        | [] => none
        | 'u' :: cs => do
            let (u, cs) ← takeHex4 cs
            let (ps, rest) ← pieces fuel cs
            some (Piece.ofUnit u :: ps, rest)
        | e :: cs => do
            let c ← simpleEscape? e
            let (ps, rest) ← pieces fuel cs
            some (.char c :: ps, rest)
      else if c.toNat < 0x20 then none
      else do
        let (ps, rest) ← pieces fuel cs
        some (.char c :: ps, rest)

/-- Joins surrogate pairs into characters; none when a surrogate stands alone. -/
def join? : List Piece → Option (List Char)
  | [] => some []
  | .char c :: ps => (join? ps).map (c :: ·)
  | .surrogate hi :: .surrogate lo :: ps =>
      if hi < 0xDC00 ∧ 0xDC00 ≤ lo then
        (join? ps).map (Char.ofNat (0x10000 + (hi - 0xD800) * 0x400 + (lo - 0xDC00)) :: ·)
      else none
  | .surrogate _ :: _ => none

/-- A string after its opening quote: its text, or nothing when a surrogate stands alone, and the rest. -/
def takeString (cs : List Char) : Option (Option String × List Char) := do
  let (ps, rest) ← pieces (cs.length + 1) cs
  some ((join? ps).map String.ofList, rest)

/-- A number literal without its sign, and the rest of the text. -/
def takeLiteral (negative : Bool) (cs : List Char) : Option (Literal × List Char) := do
  let (whole, rest) := takeDigitRun cs
  guard (!whole.isEmpty)
  guard (whole.length = 1 || whole.head? != some 0)
  let (fraction, rest) ←
    match rest with
    | '.' :: r =>
        let (ds, r) := takeDigitRun r
        if ds.isEmpty then none else some (some ds, r)
    | _ => some (none, rest)
  let (exponent, rest) ←
    match rest with
    | e :: r =>
        if e = 'e' ∨ e = 'E' then
          let (down, r) := match r with
            | '-' :: r => (true, r)
            | '+' :: r => (false, r)
            | r => (false, r)
          let (ds, r) := takeDigitRun r
          if ds.isEmpty then none else some (some (down, ds), r)
        else some (none, rest)
    | [] => some (none, rest)
  some ({ negative, whole, fraction, exponent }, rest)

/-- A text begins with a word; returns the rest. -/
def dropWord? : List Char → List Char → Option (List Char)
  | [], cs => some cs
  | _ :: _, [] => none
  | w :: ws, c :: cs => if w = c then dropWord? ws cs else none

mutual

/-- One value at the start of a text, after blanks. -/
def value : Nat → List Char → Option (Text × List Char)
  | 0, _ => none
  | fuel + 1, cs =>
      match skipBlanks cs with
      | [] => none
      | 'n' :: rest => do let rest ← dropWord? ['u', 'l', 'l'] rest; some (.null, rest)
      | 't' :: rest => do let rest ← dropWord? ['r', 'u', 'e'] rest; some (.bool true, rest)
      | 'f' :: rest => do let rest ← dropWord? ['a', 'l', 's', 'e'] rest; some (.bool false, rest)
      | '"' :: rest => do let (s, rest) ← takeString rest; some (.string s, rest)
      | '[' :: rest =>
          match skipBlanks rest with
          | ']' :: rest => some (.array [], rest)
          | rest => do
              let (items, rest) ← elements fuel rest
              some (.array items, rest)
      | '{' :: rest =>
          match skipBlanks rest with
          | '}' :: rest => some (.object [], rest)
          | rest => do
              let (ms, rest) ← members fuel rest
              some (.object ms, rest)
      | '-' :: rest => do let (l, rest) ← takeLiteral true rest; some (.number l.toNumber?, rest)
      | rest => do let (l, rest) ← takeLiteral false rest; some (.number l.toNumber?, rest)

/-- The elements of an array up to and including the closing bracket; at least one. -/
def elements : Nat → List Char → Option (List Text × List Char)
  | 0, _ => none
  | fuel + 1, cs => do
      let (v, rest) ← value fuel cs
      match skipBlanks rest with
      | ']' :: rest => some ([v], rest)
      | ',' :: rest => do
          let (vs, rest) ← elements fuel rest
          some (v :: vs, rest)
      | _ => none

/-- The members of an object up to and including the closing brace; at least one. -/
def members : Nat → List Char → Option (List (Option String × Text) × List Char)
  | 0, _ => none
  | fuel + 1, cs =>
      match skipBlanks cs with
      | '"' :: rest => do
          let (key, rest) ← takeString rest
          match skipBlanks rest with
          | ':' :: rest => do
              let (v, rest) ← value fuel rest
              match skipBlanks rest with
              | '}' :: rest => some ([(key, v)], rest)
              | ',' :: rest => do
                  let (ms, rest) ← members fuel rest
                  some ((key, v) :: ms, rest)
              | _ => none
          | _ => none
      | _ => none

end

/-- Reads a whole text. Every step of the grammar consumes a character, so that the length of the text
bounds the number of steps. -/
def parse? (s : String) : Option Text := do
  let cs := s.toList
  let (v, rest) ← value (2 * cs.length + 2) cs
  if (skipBlanks rest).isEmpty then some v else none

end Text

end Instrumentation.Json
