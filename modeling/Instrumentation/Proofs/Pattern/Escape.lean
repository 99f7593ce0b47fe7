import Instrumentation.Proofs.Pattern.Locality

set_option autoImplicit false

/-!
# Escapes are read locally

What follows a backslash takes some characters and leaves the rest, with one exception: a word boundary looks for a
brace that opens its name. Where the text ends after this brace, nothing can be read, while with a tail the boundary may
have no name and leave the brace. `BraceAhead` is the text that is left then.
-/

namespace Instrumentation.Pattern

open HasRest (rest withRest)

variable (fl : Flags)

/-! ## Characters by their codes -/

theorem local_takeHexDigits (n acc : Nat) : Local (takeHexDigits fl n acc) := by
  induction n generalizing acc with
  | zero => exact fun _ => LocalAt.pure_one acc
  | succ n ih =>
      exact local_of_cons rfl fun c cs => LocalAt.guard (o := hexDigit? c) fun d _ =>
        LocalAt.skip fl fun r _ => ih (acc * 16 + d) r

theorem localAt_takeHexBrace (n m count acc : Nat) (cs : List Char) (hm : cs.length < m) :
    LocalAt Never (takeHexBrace fl n count acc) (takeHexBrace fl m count acc) cs := by
  refine LocalAt.fueled (F := fun i n => takeHexBrace fl n i.1 i.2) (fun _ _ => rfl) (fun _ _ => rfl) ?_
    (count, acc) n m cs hm
  rintro ⟨count, acc⟩ n m c r ih
  refine LocalAt.ite (fun _ => LocalAt.skip fl fun _ _ => LocalAt.pure_two count acc) fun _ => ?_
  exact LocalAt.guard (o := hexDigit? c) fun d _ =>
    LocalAt.skip fl fun r' hr' => ih (count + 1, acc * 16 + d) r' hr'

/-- A code in braces, after the opening one and blanks. -/
def takeBracedCode (cs : List Char) : Option (Element × List Char) := do
  let (count, code, rest) ← takeHexBrace fl (cs.length + 1) 0 0 cs
  if count = 0 then none
  else do
    let c ← charOfCode? code
    some (.literal c false, rest)

theorem local_takeBracedCode : Local (takeBracedCode fl) := by
  intro cs tail y
  have hbrace := localAt_takeHexBrace fl ((cs ++ tail).length + 1) (cs.length + 1) 0 0 cs (Nat.lt_succ_self _)
  exact hbrace.bind_two (fun count code r _ => LocalAt.ite (fun _ => LocalAt.none) fun _ =>
    LocalAt.guard (o := charOfCode? code) fun c _ => LocalAt.pure_one (Element.literal c false)) tail y

/-- A character by its code, after the letter that announces it and blanks. -/
def takeCode (digits : Nat) : List Char → Option (Element × List Char)
  | '\x7b' :: rest => takeBracedCode fl (skip fl rest)
  | cs => do
      let (code, rest) ← takeHexDigits fl digits 0 cs
      let c ← charOfCode? code
      some (.literal c (digits == 2), rest)

theorem takeCode_of_ne {c : Char} (hc : c ≠ '\x7b') (digits : Nat) (t : List Char) :
    takeCode fl (digits + 1) (c :: t) = (hexDigit? c).bind fun d =>
      (takeHexDigits fl digits (0 * 16 + d) (skip fl t)).bind fun (code, rest) =>
        (charOfCode? code).bind fun c => some (.literal c (digits + 1 == 2), rest) := by
  rw [takeCode.eq_2]
  · show ((hexDigit? c).bind fun d => takeHexDigits fl digits (0 * 16 + d) (skip fl t)).bind _ = _
    rw [Option.bind_assoc]
    rfl
  · intro rest h
    exact hc (List.cons.inj h).1

theorem local_takeCode (digits : Nat) : Local (takeCode fl (digits + 1)) := by
  refine local_of_cons rfl fun c cs => ?_
  by_cases hc : c = '\x7b'
  · subst hc
    exact LocalAt.skip fl fun r _ => local_takeBracedCode fl r
  · simp only [takeCode_of_ne fl hc]
    refine LocalAt.guard fun d _ =>
      (LocalAt.skip fl fun r _ => local_takeHexDigits fl digits _ r).bind_one fun code r _ => ?_
    exact LocalAt.guard (o := charOfCode? code) fun c _ => LocalAt.pure_one _

theorem local_takeHexEscape (digits : Nat) : Local (takeHexEscape fl (digits + 1)) :=
  fun _ => LocalAt.skip fl fun r _ => local_takeCode fl digits r

/-! ## Properties -/

theorem localAt_takeName (n m : Nat) (cs : List Char) (hm : cs.length < m) :
    LocalAt Never (takeName fl n) (takeName fl m) cs := by
  refine LocalAt.fueled (F := fun (_ : Unit) n => takeName fl n) (fun _ _ => rfl) (fun _ _ => rfl) ?_ () n m cs hm
  intro _ n m c r ih
  exact LocalAt.ite (fun _ => LocalAt.pure_one []) fun _ =>
    (LocalAt.skip fl fun r' hr' => ih () r' hr').bind_one fun name r' _ => LocalAt.pure_one (c :: name)

/-- A property in braces, after the opening one and blanks. -/
def takeBracedProperty (negated : Bool) (cs : List Char) : Option (Element × List Char) := do
  let (name, rest) ← takeName fl (cs.length + 1) cs
  let (c, flipped) ← bracedProperty? name
  some (.property c (negated != flipped), rest)

theorem local_takeBracedProperty (negated : Bool) : Local (takeBracedProperty fl negated) := by
  intro cs tail y
  exact LocalAt.bind_one (localAt_takeName fl _ _ cs (Nat.lt_succ_self _))
    (fun name r _ => LocalAt.guard (o := bracedProperty? name) fun c _ =>
      LocalAt.pure_one (Element.property c.1 (negated != c.2))) tail y

/-- A property, after the letter that announces it and blanks. -/
def takeClass (negated : Bool) : List Char → Option (Element × List Char)
  | [] => none
  | '\x7b' :: rest => takeBracedProperty fl negated (skip fl rest)
  | c :: rest =>
      if c = '\\' then none
      else do
        let cls ← namedClass? (String.ofList [c])
        some (.property cls negated, skip fl rest)

theorem local_takeProperty (negated : Bool) : Local (takeProperty fl negated) := by
  have hclass : Local (takeClass fl negated) := by
    refine local_of_cons rfl fun c cs => ?_
    by_cases hc : c = '\x7b'
    · subst hc
      exact LocalAt.skip fl fun r _ => local_takeBracedProperty fl negated r
    · simp only [takeClass]
      exact LocalAt.ite (fun _ => LocalAt.none) fun _ =>
        LocalAt.guard fun cls _ => LocalAt.skip fl fun _ _ => LocalAt.pure_one _
  exact fun _ => LocalAt.skip fl fun r _ => hclass r

/-! ## Word boundaries -/

/-- The name of a word boundary, up to its closing brace. -/
def takeBoundary : Nat → List Char → Option (List Char × List Char)
  | 0, _ => none
  | _ + 1, [] => none
  | fuel + 1, c :: cs =>
      if isBoundaryChar c then do
        let (name, rest) ← takeBoundary fuel (skip fl cs)
        some (c :: name, rest)
      else if c = '\x7d' then some ([], cs)
      else none

/-- What comes of a name that needs a closing brace. -/
def closedBoundary? : List Char × List Char → Option (List Char × List Char)
  | (name, '\x7d' :: rest) => some (name, rest)
  | _ => none

theorem closedBoundary?_cons (c : Char) (name rest : List Char) :
    closedBoundary? (c :: name, rest) =
      (closedBoundary? (name, rest)).bind fun (name, rest) => some (c :: name, rest) := by
  unfold closedBoundary?
  split
  · next h =>
    cases h
    rfl
  · next hne =>
    split
    · next h =>
      cases h
      exact absurd rfl (hne _ _)
    · rfl

theorem takeBoundary_eq (n : Nat) (cs : List Char) (hn : cs.length < n) :
    takeBoundary fl n cs = closedBoundary? (takeBoundaryName fl n cs) := by
  induction n generalizing cs with
  | zero => exact absurd hn (Nat.not_lt_zero _)
  | succ n ih =>
      cases cs with
      | nil => rfl
      | cons c cs =>
          rw [takeBoundary, takeBoundaryName]
          by_cases hc : isBoundaryChar c = true
          · have hshorter : (skip fl cs).length < n :=
              Nat.lt_of_le_of_lt (skip_suffix fl cs).length_le (Nat.lt_of_succ_lt_succ hn)
            rw [if_pos hc, if_pos hc, ih _ hshorter, closedBoundary?_cons]
            rfl
          · rw [if_neg hc, if_neg hc]
            by_cases hbrace : c = '\x7d'
            · subst hbrace
              rfl
            · rw [if_neg hbrace]
              unfold closedBoundary?
              split
              · next h => cases h; exact absurd rfl hbrace
              · rfl

theorem localAt_takeBoundary (n m : Nat) (cs : List Char) (hm : cs.length < m) :
    LocalAt Never (takeBoundary fl n) (takeBoundary fl m) cs := by
  refine LocalAt.fueled (F := fun (_ : Unit) n => takeBoundary fl n) (fun _ _ => rfl) (fun _ _ => rfl) ?_ () n m cs hm
  intro _ n m c r ih
  refine LocalAt.ite (fun _ => ?_) fun _ => LocalAt.ite (fun _ => LocalAt.pure_one []) fun _ => LocalAt.none
  exact (LocalAt.skip fl fun r' hr' => ih () r' hr').bind_one fun name r' _ => LocalAt.pure_one (c :: name)

/-- The word boundary of a name. -/
def namedBoundary? (name : List Char) : Option Look :=
  match String.ofList name with
  | "start" => some (.wordStart fl.unicode)
  | "end" => some (.wordEnd fl.unicode)
  | "start-half" => some (.wordStartHalf fl.unicode)
  | "end-half" => some (.wordEndHalf fl.unicode)
  | _ => none

/-- A named word boundary, after its opening brace and blanks. -/
def takeNamedBoundary (cs : List Char) : Option (Element × List Char) := do
  let (name, rest) ← takeBoundary fl (cs.length + 1) cs
  let l ← namedBoundary? fl name
  some (.look l, rest)

theorem local_takeNamedBoundary : Local (takeNamedBoundary fl) := by
  intro cs tail y
  exact LocalAt.bind_one (localAt_takeBoundary fl _ _ cs (Nat.lt_succ_self _))
    (fun name r _ => LocalAt.guard (o := namedBoundary? fl name) fun l _ =>
      LocalAt.pure_one (Element.look l)) tail y

/-- The name of a word boundary is what is read up to its end, if a closing brace comes there. -/
theorem takeNamedBoundary_eq (cs : List Char) :
    takeNamedBoundary fl cs =
      (closedBoundary? (takeBoundaryName fl (cs.length + 1) cs)).bind fun (name, rest) =>
        (namedBoundary? fl name).bind fun l => some (.look l, rest) := by
  rw [takeNamedBoundary, takeBoundary_eq fl _ cs (Nat.lt_succ_self _)]
  rfl

/-- What comes after a brace tells whether it opens a name. -/
theorem takeWordBoundary_opening (cs : List Char) :
    takeWordBoundary fl ('\x7b' :: cs) =
      match skip fl cs with
      | [] => none
      | c :: inner =>
          if isBoundaryChar c then takeNamedBoundary fl (c :: inner)
          else some (.look (.wordBoundary fl.unicode), '\x7b' :: cs) := by
  rw [takeWordBoundary]
  cases skip fl cs with
  | nil => rfl
  | cons c inner =>
      refine ite_congr rfl (fun _ => ?_) fun _ => rfl
      rw [takeNamedBoundary_eq]
      rcases takeBoundaryName fl ((c :: inner).length + 1) (c :: inner) with ⟨name, after⟩
      cases after with
      | nil => rfl
      | cons d after =>
          by_cases hd : d = '\x7d'
          · subst hd
            rw [closedBoundary?, Option.bind_some]
            simp only [namedBoundary?]
            generalize String.ofList name = text
            split <;> simp [*]
          · rw [closedBoundary?]
            · simp [hd]
            · rintro _ _ ⟨⟩
              exact hd rfl

theorem takeWordBoundary_named {c : Char} {cs inner : List Char} (hinner : skip fl cs = c :: inner)
    (hc : isBoundaryChar c = true) :
    takeWordBoundary fl ('\x7b' :: cs) = takeNamedBoundary fl (c :: inner) := by
  rw [takeWordBoundary_opening, hinner]
  exact if_pos hc

theorem takeWordBoundary_bare {c : Char} {cs inner : List Char} (hinner : skip fl cs = c :: inner)
    (hc : ¬ isBoundaryChar c = true) :
    takeWordBoundary fl ('\x7b' :: cs) = some (.look (.wordBoundary fl.unicode), '\x7b' :: cs) := by
  rw [takeWordBoundary_opening, hinner]
  exact if_neg hc

theorem takeWordBoundary_brace {cs : List Char} (hnone : skip fl cs = []) :
    takeWordBoundary fl ('\x7b' :: cs) = none := by
  rw [takeWordBoundary_opening, hnone]

theorem takeWordBoundary_of_ne {c : Char} (hc : c ≠ '\x7b') (cs : List Char) :
    takeWordBoundary fl (c :: cs) = some (.look (.wordBoundary fl.unicode), c :: cs) := by
  rw [takeWordBoundary]
  rintro _ ⟨⟩
  exact hc rfl

/-- A word boundary takes nothing, or a name in braces. -/
theorem takeWordBoundary_cases {t : List Char} {y : Element × List Char} (h : takeWordBoundary fl t = some y) :
    y = (.look (.wordBoundary fl.unicode), t) ∨ rest y <:+ t ∧ rest y ≠ t := by
  cases t with
  | nil =>
      cases h
      exact Or.inl rfl
  | cons c t =>
      by_cases hc : c = '\x7b'
      · subst hc
        cases hinner : skip fl t with
        | nil => cases (takeWordBoundary_brace fl hinner).symm.trans h
        | cons d inner =>
            by_cases hd : isBoundaryChar d = true
            · rw [takeWordBoundary_named fl hinner hd] at h
              have hrest := (local_takeNamedBoundary fl []).suffixing _ _ h
              have hsuffix := hrest.trans (hinner ▸ skip_suffix fl t)
              exact Or.inr ⟨hsuffix.trans (List.suffix_cons _ t), ne_cons_of_suffix hsuffix⟩
            · rw [takeWordBoundary_bare fl hinner hd] at h
              cases h
              exact Or.inl rfl
      · rw [takeWordBoundary_of_ne fl hc] at h
        cases h
        exact Or.inl rfl

/-- After a word boundary a brace was seen, and nothing but blanks. -/
def BraceAhead (y : Element × List Char) : Prop :=
  ∃ l cs, y = (.look l, '\x7b' :: cs) ∧ skip fl cs = []

theorem localAt_takeWordBoundary (cs : List Char) :
    LocalAt (BraceAhead fl) (takeWordBoundary fl) (takeWordBoundary fl) cs := by
  cases cs with
  | nil =>
      refine LocalAt.nil (fun t y hy => ?_) fun t y hy hrest => ?_
      · rcases takeWordBoundary_cases fl hy with rfl | ⟨hsuffix, -⟩
        · exact List.suffix_refl t
        · exact hsuffix
      · rcases takeWordBoundary_cases fl hy with rfl | ⟨-, hne⟩
        · rfl
        · exact absurd hrest hne
  | cons c r =>
      by_cases hc : c = '\x7b'
      · subst hc
        intro tail y hy
        cases hinner : skip fl r with
        | cons d inner =>
            have happend := skip_append_of_cons hinner tail
            by_cases hd : isBoundaryChar d = true
            · rw [List.cons_append, takeWordBoundary_named fl happend hd] at hy
              rw [takeWordBoundary_named fl hinner hd]
              refine (local_takeNamedBoundary fl (d :: inner) tail y hy).mono ?_ fun _ h => h.elim
              exact (hinner ▸ skip_suffix fl r).trans (List.suffix_cons _ r)
            · rw [List.cons_append, takeWordBoundary_bare fl happend hd] at hy
              cases hy
              exact .within rfl (List.suffix_refl _) (takeWordBoundary_bare fl hinner hd)
        | nil =>
            -- Without the tail there is nothing to look at after the brace.
            have happend := skip_append_of_nil hinner tail
            cases hlater : skip fl (r ++ tail) with
            | nil => cases (takeWordBoundary_brace fl hlater).symm.trans hy
            | cons d inner =>
                by_cases hd : isBoundaryChar d = true
                · rw [List.cons_append, takeWordBoundary_named fl hlater hd] at hy
                  obtain ⟨hsuffix, hne⟩ := (local_takeNamedBoundary fl []).consuming rfl _ _ hy
                  rw [hlater] at happend
                  exact .past (hsuffix.trans happend) fun h => hne (eq_of_suffix_of_suffix hsuffix happend h).1
                · rw [List.cons_append, takeWordBoundary_bare fl hlater hd] at hy
                  cases hy
                  exact .ahead rfl (List.suffix_refl _) ⟨_, r, rfl, hinner⟩
      · exact LocalAt.branch (LocalAt.pure_one (Element.look (.wordBoundary fl.unicode)))
          (takeWordBoundary_of_ne fl hc) (takeWordBoundary_of_ne fl hc)

/-- An escape reads on in one of four ways, or stands for itself. -/
theorem localAt_takeEscape (cs : List Char) :
    LocalAt (BraceAhead fl) (takeEscape fl) (takeEscape fl) cs := by
  have hstep : ∀ c r, LocalAt (BraceAhead fl) (fun t => takeEscape fl (c :: t))
      (fun t => takeEscape fl (c :: t)) r := by
    intro c r tail y hy
    simp only [takeEscape] at hy ⊢
    split at hy
    · next hself =>
      rw [if_pos hself]
      exact LocalAt.pure_one _ tail y hy
    · next hself =>
      rw [if_neg hself]
      split at hy
      all_goals
        first
        | exact (local_takeHexEscape fl _ r).of_never tail y hy
        | exact (local_takeProperty fl _ r).of_never tail y hy
        | exact localAt_takeWordBoundary fl r tail y hy
        | exact LocalAt.pure_one _ tail y hy
        | cases hy
  exact LocalAt.of_cons rfl (fun c => (hstep c []).suffixing) fun c r _ => hstep c r

end Instrumentation.Pattern
