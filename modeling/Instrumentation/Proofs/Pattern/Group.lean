import Instrumentation.Pattern.Reading
import Instrumentation.Proofs.Pattern.Bracket

set_option autoImplicit false

/-!
# Groups begin and repetitions are read locally

The beginning of a group and the bounds of a repetition are cut into readers that look at one character each. None of
them looks ahead without taking something.
-/

namespace Instrumentation.Pattern

open HasRest (rest withRest)

variable (fl : Flags)

/-! ## The beginning of a group -/

theorem takeGroupName_cons {first : Bool} {c : Char} {t : List Char} {y : List Char × List Char}
    (hy : takeGroupName first (c :: t) = some y) :
    rest y = t ∨ ∃ z, takeGroupName false t = some z ∧ rest y = rest z := by
  rw [takeGroupName] at hy
  split at hy
  · split at hy
    · cases hy
    · cases hy
      exact Or.inl rfl
  · split at hy
    · obtain ⟨z, hz, hy⟩ := Option.bind_eq_some_iff.1 hy
      cases hy
      exact Or.inr ⟨z, hz, rfl⟩
    · cases hy

theorem local_takeGroupName (first : Bool) : Local (takeGroupName first) := by
  intro cs
  induction cs generalizing first with
  | nil =>
      refine LocalAt.nil_of_cons rfl (suffixing_of_step (fun _ => rfl) (fun first c t y hy => ?_) first)
      exact (takeGroupName_cons hy).imp_right fun ⟨z, hz⟩ => ⟨false, z, hz⟩
  | cons c cs ih =>
      exact LocalAt.cons (LocalAt.ite (fun _ => LocalAt.ite (fun _ => LocalAt.none) fun _ => LocalAt.pure_one [])
        fun _ => LocalAt.ite (fun _ => (ih false).bind_one fun name r _ => LocalAt.pure_one (c :: name))
          fun _ => LocalAt.none)

theorem takeFlags_cons {fl : Flags} {seen : List Char} {c : Char} {t : List Char} {y : Flags × FlagsEnd × List Char}
    (hy : takeFlags fl seen (c :: t) = some y) :
    rest y = t ∨ ∃ fl' seen' z, takeFlags fl' seen' t = some z ∧ rest y = rest z := by
  rw [takeFlags] at hy
  split at hy
  · split at hy
    · cases hy
    · cases hy
      exact Or.inl rfl
  · split at hy
    · split at hy
      · cases hy
      · cases hy
        exact Or.inl rfl
    · split at hy
      · cases hy
      · split at hy
        · exact Or.inr ⟨_, _, y, hy, rfl⟩
        · split at hy
          · exact Or.inr ⟨_, _, y, hy, rfl⟩
          · cases hy

theorem suffixing_takeFlags (seen : List Char) (c : Char) : Suffixing fun t => takeFlags fl seen (c :: t) := by
  refine suffixing_of_step (f := fun (i : Flags × List Char) => takeFlags i.1 i.2) (fun _ => rfl)
    (fun i c t y hy => ?_) (fl, seen) c
  exact (takeFlags_cons hy).imp_right fun ⟨fl, seen, z, hz⟩ => ⟨(fl, seen), z, hz⟩

theorem local_takeFlags (seen : List Char) : Local (takeFlags fl seen) := by
  intro cs
  induction cs generalizing fl seen with
  | nil => exact LocalAt.nil_of_cons rfl (suffixing_takeFlags fl seen)
  | cons c cs ih =>
      exact LocalAt.cons
        (LocalAt.ite (fun _ => LocalAt.ite (fun _ => LocalAt.none) fun _ => LocalAt.pure_two fl FlagsEnd.group)
        fun _ => LocalAt.ite (fun _ => LocalAt.ite (fun _ => LocalAt.none) fun _ =>
          LocalAt.pure_two fl (FlagsEnd.alone seen.isEmpty))
        fun _ => LocalAt.ite (fun _ => LocalAt.none)
        fun _ => LocalAt.ite (fun _ => ih fl (c :: seen))
        fun _ => LocalAt.ite (fun _ => ih _ (c :: seen)) fun _ => LocalAt.none)

variable (names : GroupNames)

/-- The name of a group, after its opening. -/
def takeNumbered (cs : List Char) : Option (Opening × List Char) := do
  let (name, rest) ← takeGroupName true cs
  if names.contains name then none else some (.group true fl (name :: names), rest)

theorem local_takeNumbered : Local (takeNumbered fl names) := fun cs =>
  (local_takeGroupName true cs).bind_one fun _ _ _ =>
    LocalAt.ite (fun _ => LocalAt.none) fun _ => LocalAt.pure_one _

/-- Settings, after the question mark. -/
def takeSettings (cs : List Char) : Option (Opening × List Char) := do
  match ← takeFlags fl [] cs with
  | (fl, .group, rest) => some (.group false fl names, rest)
  | (fl, .alone isEmpty, rest) => if isEmpty then none else some (.settings fl, rest)

theorem local_takeSettings : Local (takeSettings fl names) := by
  refine fun cs => (local_takeFlags fl [] cs).bind_two fun fl e r _ => ?_
  cases e with
  | group => exact LocalAt.pure_one _
  | alone isEmpty => exact LocalAt.ite (fun _ => LocalAt.none) fun _ => LocalAt.pure_one _

/-- A name or a condition on the text before, after the opening angle. -/
def takeAngled (cs : List Char) : Option (Opening × List Char) :=
  if cs.head? = some '=' ∨ cs.head? = some '!' then none else takeNumbered fl names cs

/-- A name, after the letter that may stand before it. -/
def takeLettered : List Char → Option (Opening × List Char)
  | '<' :: rest => takeNumbered fl names rest
  | _ => none

/-- The beginning of a group, after its question mark. -/
def takeMarked (cs : List Char) : Option (Opening × List Char) :=
  match cs with
  | '<' :: rest => takeAngled fl names rest
  | 'P' :: rest => takeLettered fl names rest
  | _ => takeSettings fl names cs

/-- The beginning of a group, after its parenthesis and blanks. -/
def takeGroupStart (cs : List Char) : Option (Opening × List Char) :=
  match cs with
  | '?' :: rest => takeMarked fl names rest
  | _ => some (.group true fl names, cs)

theorem takeSettings_eq_none {c : Char} (hc : c ∉ [':', ')', '-']) (hflag : isFlagLetter c = false) (t : List Char) :
    takeSettings fl names (c :: t) = none := by
  simp only [List.mem_cons, List.not_mem_nil, or_false, not_or] at hc
  simp [takeSettings, takeFlags, hc, hflag]

theorem takeMarked_of_ne {c : Char} (hangle : c ≠ '<') (hletter : c ≠ 'P') (t : List Char) :
    takeMarked fl names (c :: t) = takeSettings fl names (c :: t) := by
  rw [takeMarked]
  · rintro _ ⟨⟩
    exact hangle rfl
  · rintro _ ⟨⟩
    exact hletter rfl

theorem takeGroupStart_of_ne {c : Char} (hc : c ≠ '?') (t : List Char) :
    takeGroupStart fl names (c :: t) = some (.group true fl names, c :: t) := by
  rw [takeGroupStart]
  rintro _ ⟨⟩
  exact hc rfl

theorem takeGroupOpening_eq (cs : List Char) :
    takeGroupOpening fl names cs = takeGroupStart fl names (skip fl cs) := by
  rw [takeGroupOpening]
  generalize skip fl cs = ds
  -- Conditions on the surrounding text fail here as settings that nobody knows.
  split
  · exact (takeSettings_eq_none fl names (by decide) (by decide) _).symm
  · exact (takeSettings_eq_none fl names (by decide) (by decide) _).symm
  · rfl
  · rfl
  · rfl
  · next rest hequal hbang =>
    have hhead : ¬ (rest.head? = some '=' ∨ rest.head? = some '!') := by
      rintro (h | h)
      · obtain ⟨t, rfl⟩ := List.head?_eq_some_iff.1 h
        exact hequal t rfl
      · obtain ⟨t, rfl⟩ := List.head?_eq_some_iff.1 h
        exact hbang t rfl
    exact (if_neg hhead).symm
  · next rest _ _ _ _ hlettered hangle =>
    show takeSettings fl names rest = takeMarked fl names rest
    cases rest with
    | nil => rfl
    | cons c t =>
        by_cases hletter : c = 'P'
        · subst hletter
          rw [takeSettings_eq_none fl names (by decide) (by decide)]
          cases t with
          | nil => rfl
          | cons d t =>
              by_cases hd : d = '<'
              · subst hd
                exact absurd rfl (hlettered t)
              · rw [takeMarked, takeLettered]
                rintro _ ⟨⟩
                exact hd rfl
        · rw [takeMarked_of_ne fl names (fun h => hangle t (by rw [h])) hletter]
  · next hmark =>
    cases ds with
    | nil => rfl
    | cons c t =>
        rw [takeGroupStart_of_ne]
        rintro rfl
        exact hmark t rfl

theorem local_takeAngled : Local (takeAngled fl names) := by
  intro cs
  cases cs with
  | nil =>
      refine LocalAt.nil_of_consuming fun t y hy => ?_
      rw [takeAngled] at hy
      split at hy
      · cases hy
      · exact (local_takeNumbered fl names []).consuming rfl t y hy
  | cons c r =>
      have hstep : ∀ t, takeAngled fl names (c :: t) =
          if c = '=' ∨ c = '!' then none else takeNumbered fl names (c :: t) := by
        intro t
        simp only [takeAngled, List.head?_cons, Option.some.injEq]
      have hnamed : Local fun t => if c = '=' ∨ c = '!' then none else takeNumbered fl names t := fun cs =>
        LocalAt.ite (fun _ => LocalAt.none) fun _ => local_takeNumbered fl names cs
      exact (hnamed (c :: r)).branch hstep hstep

theorem local_takeLettered : Local (takeLettered fl names) := by
  refine local_of_sign '<' rfl (fun c t hc => ?_) (local_takeNumbered fl names)
  rw [takeLettered]
  rintro _ ⟨⟩
  exact hc rfl

theorem local_takeMarked : Local (takeMarked fl names) := by
  intro cs
  have hangle : Local fun t => takeMarked fl names ('<' :: t) := local_takeAngled fl names
  have hletter : Local fun t => takeMarked fl names ('P' :: t) := local_takeLettered fl names
  cases cs with
  | nil =>
      refine LocalAt.nil_of_consuming (consuming_of_cons rfl fun c => ?_)
      by_cases hc : c = '<'
      · exact hc ▸ (hangle []).suffixing
      · by_cases hc' : c = 'P'
        · exact hc' ▸ (hletter []).suffixing
        · intro t y hy
          obtain ⟨hsuffix, hne⟩ := (local_takeSettings fl names []).consuming rfl (c :: t) y
            ((takeMarked_of_ne fl names hc hc' t).symm.trans hy)
          exact (List.suffix_cons_iff.1 hsuffix).resolve_left hne
  | cons c r =>
      by_cases hc : c = '<'
      · subst hc
        exact (hangle r).cons
      · by_cases hc' : c = 'P'
        · subst hc'
          exact (hletter r).cons
        · exact LocalAt.branch (local_takeSettings fl names (c :: r)) (takeMarked_of_ne fl names hc hc')
            (takeMarked_of_ne fl names hc hc')

theorem local_takeGroupOpening : Local (takeGroupOpening fl names) := by
  have hstart : Local (takeGroupStart fl names) := by
    refine local_of_kept (fun t => (Opening.group true fl names, t)) (· = '?') (fun _ => rfl) (fun _ _ => rfl) rfl
      (fun c t hc => takeGroupStart_of_ne fl names hc t) ?_
    rintro c rfl
    exact local_takeMarked fl names
  intro cs tail y hy
  rw [takeGroupOpening_eq] at hy ⊢
  exact LocalAt.skip fl (fun r _ => hstart r) tail y hy

/-! ## Repetitions -/

/-- The digits of a number, where the fuel has to reach for all of them. -/
def takeDigits : Nat → Nat → List Char → Option (Nat × List Char)
  | 0, _, _ => none
  | _ + 1, acc, [] => some (acc, [])
  | fuel + 1, acc, c :: cs =>
      if '0' ≤ c ∧ c ≤ '9' then takeDigits fuel (acc * 10 + (c.toNat - 48)) (skip fl cs) else some (acc, c :: cs)

theorem takeDigits_cons (n acc : Nat) (c : Char) (cs : List Char) :
    takeDigits fl (n + 1) acc (c :: cs) =
      if '0' ≤ c ∧ c ≤ '9' then takeDigits fl n (acc * 10 + (c.toNat - 48)) (skip fl cs) else some (acc, c :: cs) := rfl

theorem takeDigits_eq (n m acc : Nat) (cs : List Char) (hn : cs.length < n) (hm : cs.length ≤ m) :
    takeDigits fl n acc cs = some (takeDecimal.digits fl m acc cs) := by
  induction n generalizing m acc cs with
  | zero => exact absurd hn (Nat.not_lt_zero _)
  | succ n ih =>
      cases cs with
      | nil => cases m <;> rfl
      | cons c cs =>
          rw [List.length_cons] at hn hm
          obtain ⟨m, rfl⟩ : ∃ k, m = k + 1 := ⟨m - 1, by omega⟩
          have hlength := (skip_suffix fl cs).length_le
          rw [takeDigits_cons, takeDecimal.digits]
          by_cases hc : '0' ≤ c ∧ c ≤ '9'
          · rw [if_pos hc, if_pos hc]
            exact ih m _ _ (by omega) (by omega)
          · rw [if_neg hc, if_neg hc]

theorem localAt_takeDigits (n m acc : Nat) (cs : List Char) (hm : cs.length < m) :
    LocalAt Never (takeDigits fl n acc) (takeDigits fl m acc) cs := by
  induction n generalizing m acc cs with
  | zero => exact nofun
  | succ n ih =>
      obtain ⟨m, rfl⟩ : ∃ k, m = k + 1 := ⟨m - 1, by omega⟩
      have hdigit : ∀ m c r, '0' ≤ c ∧ c ≤ '9' → r.length < m →
          LocalAt Never (fun t => takeDigits fl (n + 1) acc (c :: t))
            (fun t => takeDigits fl (m + 1) acc (c :: t)) r := by
        intro m c r hc hr
        simp only [takeDigits_cons, if_pos hc]
        exact LocalAt.skip fl fun r' hr' => ih m _ r' (Nat.lt_of_le_of_lt hr'.length_le hr)
      refine LocalAt.of_kept (fun t => (acc, t)) (fun c => '0' ≤ c ∧ c ≤ '9') (fun _ => rfl) (fun _ _ => rfl) rfl rfl
        (fun c t hc => ⟨if_neg hc, if_neg hc⟩) (fun c hc => (hdigit 1 c [] hc Nat.one_pos).suffixing) ?_
      rintro c r rfl hc
      exact hdigit m c r hc (Nat.lt_of_succ_lt_succ hm)

theorem local_dropWhile (p : Char → Bool) : Local fun t => some (t.dropWhile p) := by
  intro cs
  induction cs with
  | nil =>
      refine LocalAt.nil ?_ fun _ _ _ _ => rfl
      rintro t _ ⟨⟩
      exact List.dropWhile_suffix p
  | cons c cs ih =>
      cases hc : p c with
      | true =>
          refine LocalAt.cons ?_
          simp only [List.dropWhile_cons, hc, if_true]
          exact ih
      | false =>
          have hkept : ∀ t, some ((c :: t).dropWhile p) = some (c :: t) := fun t => by
            rw [List.dropWhile_cons, hc, if_neg Bool.false_ne_true]
          exact LocalAt.branch (LocalAt.pure id (fun _ => rfl) fun _ _ => rfl) hkept hkept

/-- A number that may be missing, where no blanks are in front of it. -/
def takeNumber (cs : List Char) : Option (Option Nat × List Char) :=
  match cs with
  | [] => some (none, [])
  | c :: _ =>
      if '0' ≤ c ∧ c ≤ '9' then
        (takeDigits fl (cs.length + 1) 0 cs).bind fun (n, rest) => some (some n, rest.dropWhile isSpace)
      else some (none, cs)

theorem takeDecimal_eq (cs : List Char) : some (takeDecimal fl cs) = takeNumber fl (cs.dropWhile isSpace) := by
  rw [takeDecimal]
  cases cs.dropWhile isSpace with
  | nil => rfl
  | cons c t =>
      rw [takeNumber]
      by_cases hc : '0' ≤ c ∧ c ≤ '9'
      · rw [if_pos hc, takeDigits_eq fl _ _ 0 (c :: t) (Nat.lt_succ_self _) (Nat.le_refl _), Option.bind_some]
        simp only [if_pos hc]
      · rw [if_neg hc]
        simp only [if_neg hc]

theorem localAt_takeNumber_digit {c : Char} (hc : '0' ≤ c ∧ c ≤ '9') (cs : List Char) :
    LocalAt Never (fun t => takeNumber fl (c :: t)) (fun t => takeNumber fl (c :: t)) cs := by
  intro tail y
  simp only [takeNumber, if_pos hc, List.length_cons, takeDigits_cons]
  refine LocalAt.bind_one (LocalAt.skip fl fun r hr => localAt_takeDigits fl _ _ _ r ?_) (fun n r _ => ?_) tail y
  · exact Nat.lt_succ_of_le hr.length_le
  · have hblanks : LocalAt Never (fun t => (some (t.dropWhile isSpace)).bind fun t => some (some n, t))
        (fun t => (some (t.dropWhile isSpace)).bind fun t => some (some n, t)) r :=
      (local_dropWhile isSpace r).bind fun _ _ _ => LocalAt.pure_one (some n)
    exact hblanks

theorem local_takeNumber : Local (takeNumber fl) :=
  local_of_kept (fun t => (none, t)) (fun c => '0' ≤ c ∧ c ≤ '9') (fun _ => rfl) (fun _ _ => rfl) rfl
    (fun _ _ hc => if_neg hc) fun _ hc => localAt_takeNumber_digit fl hc

theorem local_takeDecimal : Local fun t => some (takeDecimal fl t) := by
  intro cs
  simp only [takeDecimal_eq]
  exact (local_dropWhile isSpace cs).bind fun _ r _ => local_takeNumber fl r

/-- The closing brace of a repetition between two bounds. -/
def takeClosing (least most : Nat) : List Char → Option (Nat × Option Nat × List Char)
  | '\x7d' :: rest => if least ≤ most then some (least, some most, rest) else none
  | _ => none

theorem local_takeClosing (least most : Nat) : Local (takeClosing least most) := by
  refine local_of_sign '\x7d' rfl (fun c t hc => ?_) fun _ =>
    LocalAt.ite (fun _ => LocalAt.pure_two least (some most)) fun _ => LocalAt.none
  rw [takeClosing]
  rintro _ ⟨⟩
  exact hc rfl

/-- The upper bound of a repetition and its closing brace. -/
def takeBounded (least : Option Nat) (cs : List Char) : Option (Nat × Option Nat × List Char) := do
  let least ← count? least
  let (most, rest) ← some (takeDecimal fl cs)
  let most ← count? most
  takeClosing least most rest

theorem local_takeBounded (least : Option Nat) : Local (takeBounded fl least) := fun cs =>
  LocalAt.guard fun least _ => (local_takeDecimal fl cs).bind_one fun most r _ =>
    LocalAt.guard (o := count? most) fun most _ => local_takeClosing least most r

/-- What follows the comma of a repetition and blanks. -/
def takeMost (least : Option Nat) : List Char → Option (Nat × Option Nat × List Char)
  | '\x7d' :: rest => do
      let least ← count? least
      some (least, none, rest)
  | rest => takeBounded fl least rest

theorem takeMost_of_ne {c : Char} (hc : c ≠ '\x7d') (least : Option Nat) (t : List Char) :
    takeMost fl least (c :: t) = takeBounded fl least (c :: t) := by
  rw [takeMost]
  rintro _ ⟨⟩
  exact hc rfl

theorem takeBounded_nil (least : Option Nat) : takeBounded fl least [] = none := by
  cases hleast : count? least with
  | none => rw [takeBounded, hleast]; rfl
  | some n => rw [takeBounded, hleast]; rfl

theorem local_takeMost (least : Option Nat) : Local (takeMost fl least) := by
  intro cs
  have hclosed : Local fun t => takeMost fl least ('\x7d' :: t) := fun _ =>
    LocalAt.guard (o := count? least) fun least _ => LocalAt.pure_two least none
  cases cs with
  | nil =>
      refine LocalAt.nil_of_consuming (consuming_of_cons (takeBounded_nil fl least) fun c => ?_)
      by_cases hc : c = '\x7d'
      · exact hc ▸ (hclosed []).suffixing
      · intro t y hy
        obtain ⟨hsuffix, hne⟩ := (local_takeBounded fl least []).consuming (takeBounded_nil fl least) (c :: t) y
          ((takeMost_of_ne fl hc least t).symm.trans hy)
        exact (List.suffix_cons_iff.1 hsuffix).resolve_left hne
  | cons c r =>
      by_cases hc : c = '\x7d'
      · subst hc
        exact (hclosed r).cons
      · exact LocalAt.branch (local_takeBounded fl least (c :: r)) (takeMost_of_ne fl hc least)
          (takeMost_of_ne fl hc least)

/-- What follows the lower bound of a repetition. -/
def takeUpper (least : Option Nat) : List Char → Option (Nat × Option Nat × List Char)
  | ',' :: rest => takeMost fl least (skip fl rest)
  | '\x7d' :: rest => do
      let least ← count? least
      some (least, some least, rest)
  | _ => none

theorem local_takeUpper (least : Option Nat) : Local (takeUpper fl least) := by
  refine local_of_cons rfl fun c cs => ?_
  by_cases hcomma : c = ','
  · subst hcomma
    exact LocalAt.skip fl fun r _ => local_takeMost fl least r
  · by_cases hclose : c = '\x7d'
    · subst hclose
      exact LocalAt.guard (o := count? least) fun least _ => LocalAt.pure_two least (some least)
    · have hnone : ∀ t, takeUpper fl least (c :: t) = none := by
        intro t
        rw [takeUpper]
        · rintro _ ⟨⟩
          exact hcomma rfl
        · rintro _ ⟨⟩
          exact hclose rfl
      simp only [hnone]
      exact LocalAt.none

/-- The bounds of a repetition, after its opening brace and blanks. -/
def takeLower (cs : List Char) : Option (Nat × Option Nat × List Char) :=
  (some (takeDecimal fl cs)).bind fun (least, rest) => takeUpper fl least rest

theorem local_takeLower : Local (takeLower fl) := fun cs =>
  (local_takeDecimal fl cs).bind_one fun least r _ => local_takeUpper fl least r

theorem takeBounds_eq (cs : List Char) : takeBounds fl cs = takeLower fl (skip fl cs) := by
  rw [takeBounds]
  cases skip fl cs with
  | nil => rfl
  | cons c t => rfl

theorem local_takeBounds : Local (takeBounds fl) := by
  intro cs tail y hy
  rw [takeBounds_eq] at hy ⊢
  exact LocalAt.skip fl (fun r _ => local_takeLower fl r) tail y hy

theorem local_takeMark : Local fun t => some (takeMark fl t) := by
  refine local_of_kept (fun t => (fl.fewFirst, t)) (· = '?') (fun _ => rfl) (fun _ _ => rfl) rfl (fun c t hc => ?_) ?_
  · rw [takeMark]
    rintro _ ⟨⟩
    exact hc rfl
  · rintro c rfl
    exact fun _ => LocalAt.pure_one (!fl.fewFirst)

end Instrumentation.Pattern
