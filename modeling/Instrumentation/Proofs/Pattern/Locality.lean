import Instrumentation.Pattern.Escape

set_option autoImplicit false

/-!
# Readers are local

A reader takes something from the start of a text and leaves the rest. Whatever it does with `cs ++ tail`, it either
takes something from the tail, or leaves the tail and would do the same with `cs` alone. `Local` says so of a reader,
and `LocalAt` of two readers and one text: the second one is the first one with other fuel, which counts for `cs` alone.

Readers are composed of few things: they look at the first character, skip blanks, read on where another reader has
stopped, and give up. Locality passes through each of these, so that the locality of a reader follows its definition.

Some readers look ahead without taking what they see, and fail at the end of the text where they would go on. Then `cs`
alone is too short, and `Splits.ahead` says which texts such a reader leaves; what reads on must be stuck there.
-/

namespace Instrumentation.Pattern

/-! ## What is left of a text -/

/-- What a reader returns, with the text that it has left. -/
class HasRest (β : Type) where
  rest : β → List Char
  withRest : β → List Char → β
  withRest_rest : ∀ y, withRest y (rest y) = y
  rest_withRest : ∀ y cs, rest (withRest y cs) = cs

open HasRest (rest withRest)

instance : HasRest (List Char) where
  rest cs := cs
  withRest _ cs := cs
  withRest_rest _ := rfl
  rest_withRest _ _ := rfl

instance {α β : Type} [HasRest β] : HasRest (α × β) where
  rest y := rest y.2
  withRest y cs := (y.1, withRest y.2 cs)
  withRest_rest y := by rw [HasRest.withRest_rest]
  rest_withRest y cs := HasRest.rest_withRest y.2 cs

/-- How reading `cs ++ tail` can go, where reading `cs` alone comes to `own`. -/
inductive Splits {β : Type} [HasRest β] (own : Option β) (Ahead : β → Prop) (cs tail : List Char)
    (y : β) : Prop where
  /-- Something is taken from the tail. -/
  | past (hsuffix : rest y <:+ tail) (hne : rest y ≠ tail)
  /-- The tail is left, and makes no difference. -/
  | within {r : List Char} (hrest : rest y = r ++ tail) (hsuffix : r <:+ cs) (hown : own = some (withRest y r))
  /-- The tail is left, and the reader has looked at it. -/
  | ahead {r : List Char} (hrest : rest y = r ++ tail) (hsuffix : r <:+ cs) (hahead : Ahead (withRest y r))

/-- What splits in front of a tail, splits also where more stands before it. -/
theorem Splits.mono {β : Type} [HasRest β] {own : Option β} {Ahead Seen : β → Prop} {cs cs' tail : List Char} {y : β}
    (h : Splits own Ahead cs tail y) (hsuffix : cs <:+ cs') (hahead : ∀ y, Ahead y → Seen y) :
    Splits own Seen cs' tail y := by
  cases h with
  | past hpast hne => exact .past hpast hne
  | within hrest hwithin hown => exact .within hrest (hwithin.trans hsuffix) hown
  | ahead hrest hwithin hlooked => exact .ahead hrest (hwithin.trans hsuffix) (hahead _ hlooked)

theorem Splits.of_own {β : Type} [HasRest β] {own own' : Option β} {Ahead : β → Prop} {cs tail : List Char} {y : β}
    (h : Splits own Ahead cs tail y) (hown : ∀ z, own = some z → own' = some z) : Splits own' Ahead cs tail y := by
  cases h with
  | past hpast hne => exact .past hpast hne
  | within hrest hwithin hsame => exact .within hrest hwithin (hown _ hsame)
  | ahead hrest hwithin hlooked => exact .ahead hrest hwithin hlooked

/-- Nothing is returned after a look ahead. -/
def Never {β : Type} : β → Prop := fun _ => False

variable {α β γ : Type} [HasRest β] [HasRest γ] {cs : List Char}

/-- Reading a text with a tail splits, where another reader gets the text without the tail. -/
def LocalAt (Ahead : β → Prop) (f own : List Char → Option β) (cs : List Char) : Prop :=
  ∀ tail y, f (cs ++ tail) = some y → Splits (own cs) Ahead cs tail y

/-- Reading splits at every place of a text. -/
def Local (f : List Char → Option β) : Prop := ∀ cs, LocalAt Never f f cs

/-- A reader leaves an end of its text. -/
def Suffixing (f : List Char → Option β) : Prop := ∀ t y, f t = some y → rest y <:+ t

/-- A reader leaves less than its text. -/
def Consuming (f : List Char → Option β) : Prop := ∀ t y, f t = some y → rest y <:+ t ∧ rest y ≠ t

/-- Between a text and itself there is no other one. -/
theorem eq_of_suffix_of_suffix {r s t : List Char} (hrs : r <:+ s) (hst : s <:+ t) (h : r = t) :
    r = s ∧ s = t := by
  subst h
  have hsame := hrs.eq_of_length (Nat.le_antisymm hrs.length_le hst.length_le)
  exact ⟨hsame, hsame.symm⟩

theorem ne_cons_of_suffix {r t : List Char} {c : Char} (h : r <:+ t) : r ≠ c :: t := by
  rintro rfl
  have hlength := h.length_le
  rw [List.length_cons] at hlength
  omega

theorem consuming_of_cons {f : List Char → Option β} (hnil : f [] = none)
    (hcons : ∀ c, Suffixing fun t => f (c :: t)) : Consuming f := by
  intro t y hy
  cases t with
  | nil => cases hnil.symm.trans hy
  | cons c t =>
      have hsuffix := hcons c t y hy
      exact ⟨hsuffix.trans (List.suffix_cons c t), ne_cons_of_suffix hsuffix⟩

/-- A reader that takes its first character, and then is done or reads on without fuel. -/
theorem suffixing_of_step {ι : Type} {f : ι → List Char → Option β} (hnil : ∀ i, f i [] = none)
    (hstep : ∀ i c t y, f i (c :: t) = some y → rest y = t ∨ ∃ j z, f j t = some z ∧ rest y = rest z)
    (i : ι) (c : Char) : Suffixing fun t => f i (c :: t) := by
  have hall : ∀ t i y, f i t = some y → rest y <:+ t := by
    intro t
    induction t with
    | nil =>
        intro i y hy
        cases (hnil i).symm.trans hy
    | cons c t ih =>
        intro i y hy
        rcases hstep i c t y hy with hrest | ⟨j, z, hz, hrest⟩
        · exact hrest ▸ List.suffix_cons c t
        · exact hrest ▸ (ih j z hz).trans (List.suffix_cons c t)
  intro t y hy
  rcases hstep i c t y hy with hrest | ⟨j, z, hz, hrest⟩
  · exact hrest ▸ List.suffix_refl t
  · exact hrest ▸ hall t j z hz

namespace LocalAt

variable {Ahead : β → Prop} {f own : List Char → Option β}

/-- A reader that does not look ahead. -/
theorem of_never (h : LocalAt Never f own cs) : LocalAt Ahead f own cs :=
  fun tail y hy => (h tail y hy).mono (List.suffix_refl cs) fun _ h => h.elim

/-- The empty text is followed by its tail. -/
theorem suffixing (h : LocalAt Ahead f own []) : Suffixing f := by
  intro t y hy
  cases h t y hy with
  | past hsuffix hne => exact hsuffix
  | within hrest hsuffix hown =>
      rw [hrest, List.suffix_nil.1 hsuffix]
      exact List.suffix_refl t
  | ahead hrest hsuffix hahead =>
      rw [hrest, List.suffix_nil.1 hsuffix]
      exact List.suffix_refl t

/-- A reader that makes nothing of the empty text takes something. -/
theorem consuming (h : LocalAt Never f own []) (hnone : own [] = none) : Consuming f := by
  intro t y hy
  cases h t y hy with
  | past hsuffix hne => exact ⟨hsuffix, hne⟩
  | within hrest hsuffix hown =>
      rw [hnone] at hown
      cases hown
  | ahead hrest hsuffix hahead => exact hahead.elim

/-- In front of a tail, the empty text makes a difference only to a reader that takes nothing. -/
theorem nil (hsuffix : Suffixing f) (hown : ∀ t y, f t = some y → rest y = t → own [] = some (withRest y [])) :
    LocalAt Ahead f own [] := by
  intro tail y hy
  by_cases hrest : rest y = tail
  · exact .within (r := []) hrest (List.suffix_refl []) (hown tail y hy hrest)
  · exact .past (hsuffix tail y hy) hrest

/-- In front of a tail, a reader may do what it does not do at the end of the text. -/
theorem nil_ahead (hsuffix : Suffixing f) (hahead : ∀ y, rest y = [] → Ahead y) : LocalAt Ahead f own [] := by
  intro tail y hy
  by_cases hrest : rest y = tail
  · exact .ahead (r := []) hrest (List.suffix_refl []) (hahead _ (HasRest.rest_withRest y []))
  · exact .past (hsuffix tail y hy) hrest

theorem nil_of_consuming (h : Consuming f) : LocalAt Ahead f own [] :=
  nil (fun t y hy => (h t y hy).1) fun t y hy hrest => absurd hrest (h t y hy).2

/-- A reader that takes its first character whatever that is, and makes nothing of the empty text. -/
theorem nil_of_cons (hnil : f [] = none) (hcons : ∀ c, Suffixing fun t => f (c :: t)) :
    LocalAt Ahead f own [] :=
  nil_of_consuming (consuming_of_cons hnil hcons)

/-! ## What readers are composed of -/

/-- A reader that gives up. -/
theorem none : LocalAt Ahead (fun _ => Option.none) (fun _ => Option.none) cs := nofun

/-- A reader that takes nothing. -/
theorem pure (make : List Char → β) (hrest : ∀ t, rest (make t) = t) (hmake : ∀ s t, withRest (make s) t = make t) :
    LocalAt Ahead (fun t => some (make t)) (fun t => some (make t)) cs := by
  rintro tail y ⟨⟩
  exact .within (hrest _) (List.suffix_refl cs) (congrArg some (hmake _ _).symm)

theorem pure_one (a : α) {Ahead : α × List Char → Prop} :
    LocalAt Ahead (fun t => some (a, t)) (fun t => some (a, t)) cs :=
  pure _ (fun _ => rfl) fun _ _ => rfl

theorem pure_two {δ : Type} (a : α) (d : δ) {Ahead : α × δ × List Char → Prop} :
    LocalAt Ahead (fun t => some (a, d, t)) (fun t => some (a, d, t)) cs :=
  pure _ (fun _ => rfl) fun _ _ => rfl

/-- A reader that depends on something else. -/
theorem guard {o : Option α} {f own : α → List Char → Option β}
    (h : ∀ a, o = some a → LocalAt Ahead (f a) (own a) cs) :
    LocalAt Ahead (fun t => o.bind fun a => f a t) (fun t => o.bind fun a => own a t) cs := by
  cases o with
  | none => exact LocalAt.none
  | some a => exact h a rfl

/-- A reader that does one of two things. -/
theorem ite {p : Prop} [Decidable p] {f g f' g' : List Char → Option β} (hp : p → LocalAt Ahead f f' cs)
    (hn : ¬ p → LocalAt Ahead g g' cs) :
    LocalAt Ahead (fun t => if p then f t else g t) (fun t => if p then f' t else g' t) cs := by
  by_cases h : p
  · simp only [h, if_true]
    exact hp h
  · simp only [h, if_false]
    exact hn h

/-- A reader that reads on after its first character. -/
theorem cons {c : Char} (h : LocalAt Ahead (fun t => f (c :: t)) (fun t => own (c :: t)) cs) :
    LocalAt Ahead f own (c :: cs) :=
  fun tail y hy => (h tail y hy).mono (List.suffix_cons c cs) fun _ => id

/-- A reader that needs a first character. -/
theorem of_cons (hnil : f [] = Option.none) (hstart : ∀ c, Suffixing fun t => f (c :: t))
    (hcons : ∀ c r, cs = c :: r → LocalAt Ahead (fun t => f (c :: t)) (fun t => own (c :: t)) r) :
    LocalAt Ahead f own cs := by
  cases cs with
  | nil => exact nil_of_cons hnil hstart
  | cons c r => exact (hcons c r rfl).cons

/-- A reader that looks at the first character to decide which other one to be. -/
theorem branch {c : Char} {f' own' : List Char → Option β} (h : LocalAt Ahead f' own' (c :: cs))
    (hf : ∀ t, f (c :: t) = f' (c :: t)) (hown : ∀ t, own (c :: t) = own' (c :: t)) :
    LocalAt Ahead f own (c :: cs) := by
  intro tail y hy
  rw [hown]
  exact h tail y ((hf _).symm.trans hy)

/-- A reader that goes on where one of some characters comes first, and takes nothing otherwise. -/
theorem of_kept (make : List Char → β) (Goes : Char → Prop) (hrest : ∀ t, rest (make t) = t)
    (hmake : ∀ s t, withRest (make s) t = make t) (hnil : f [] = some (make [])) (hownNil : own [] = some (make []))
    (hkept : ∀ c t, ¬ Goes c → f (c :: t) = some (make (c :: t)) ∧ own (c :: t) = some (make (c :: t)))
    (hstart : ∀ c, Goes c → Suffixing fun t => f (c :: t))
    (hcons : ∀ c r, cs = c :: r → Goes c → LocalAt Ahead (fun t => f (c :: t)) (fun t => own (c :: t)) r) :
    LocalAt Ahead f own cs := by
  cases cs with
  | nil =>
      -- In front of a tail, nothing is taken if the tail begins with a character that is kept.
      have hcases : ∀ t y, f t = some y → y = make t ∨ rest y <:+ t ∧ rest y ≠ t := by
        intro t y hy
        cases t with
        | nil => exact Or.inl (Option.some.inj (hy.symm.trans hnil))
        | cons c t =>
            by_cases hc : Goes c
            · have hsuffix := hstart c hc t y hy
              exact Or.inr ⟨hsuffix.trans (List.suffix_cons c t), ne_cons_of_suffix hsuffix⟩
            · exact Or.inl (Option.some.inj (hy.symm.trans (hkept c t hc).1))
      refine nil (fun t y hy => ?_) fun t y hy hsame => ?_
      · rcases hcases t y hy with rfl | ⟨hsuffix, -⟩
        · exact (hrest t).symm ▸ List.suffix_refl t
        · exact hsuffix
      · rcases hcases t y hy with rfl | ⟨-, hne⟩
        · rw [hownNil, hmake]
        · exact absurd hsame hne
  | cons c r =>
      by_cases hc : Goes c
      · exact (hcons c r rfl hc).cons
      · exact branch (pure make hrest hmake) (fun t => (hkept c t hc).1) fun t => (hkept c t hc).2

section Bind

variable {Seen : γ → Prop} {g own' : β → Option γ}

/-- A reader, and another one that reads on. After a look ahead it may give up, with the tail or without it. -/
theorem bind_of_ahead (hf : LocalAt Ahead f own cs)
    (hg : ∀ y r, r <:+ cs → LocalAt Seen (fun t => g (withRest y t)) (fun t => own' (withRest y t)) r)
    (hahead : ∀ y r, Ahead (withRest y r) → g y = Option.none ∨ ∀ z, own' (withRest y r) = some z → Seen z) :
    LocalAt Seen (fun t => (f t).bind g) (fun t => (own t).bind own') cs := by
  intro tail z hz
  obtain ⟨y, hy, hz⟩ := Option.bind_eq_some_iff.1 hz
  have hagain : g (withRest y (rest y)) = some z := by rw [HasRest.withRest_rest, hz]
  -- `g` reads on in a shorter tail, or splits once more in front of the whole tail.
  cases hf tail y hy with
  | past hsuffix hne =>
      have hlater := (hg y [] List.nil_suffix).suffixing _ _ hagain
      exact .past (hlater.trans hsuffix) fun h => hne (eq_of_suffix_of_suffix hlater hsuffix h).2
  | @within r hrest hsuffix hown =>
      rw [hrest] at hagain
      have hboth : (own cs).bind own' = own' (withRest y r) := by rw [hown, Option.bind_some]
      cases hg y r hsuffix tail z hagain with
      | past hlater hne => exact .past hlater hne
      | within hrest' hlater hown' => exact .within hrest' (hlater.trans hsuffix) (hboth.trans hown')
      | ahead hrest' hlater hseen => exact .ahead hrest' (hlater.trans hsuffix) hseen
  | @ahead r hrest hsuffix hlooked =>
      rw [hrest] at hagain
      cases hg y r hsuffix tail z hagain with
      | past hlater hne => exact .past hlater hne
      | within hrest' hlater hown' =>
          rcases hahead y r hlooked with hnone | hseen
          · cases hnone.symm.trans hz
          · exact .ahead hrest' (hlater.trans hsuffix) (hseen _ hown')
      | ahead hrest' hlater hseen => exact .ahead hrest' (hlater.trans hsuffix) hseen

theorem bind (hf : LocalAt Never f own cs)
    (hg : ∀ y r, r <:+ cs → LocalAt Seen (fun t => g (withRest y t)) (fun t => own' (withRest y t)) r) :
    LocalAt Seen (fun t => (f t).bind g) (fun t => (own t).bind own') cs :=
  bind_of_ahead hf hg fun _ _ h => h.elim

end Bind

section BindParts

variable {δ : Type} {Seen : γ → Prop}

/-- A reader of one part, and another one that reads on. -/
theorem bind_one {f own : List Char → Option (α × List Char)} {g own' : α × List Char → Option γ}
    (hf : LocalAt Never f own cs)
    (hg : ∀ a r, r <:+ cs → LocalAt Seen (fun t => g (a, t)) (fun t => own' (a, t)) r) :
    LocalAt Seen (fun t => (f t).bind g) (fun t => (own t).bind own') cs :=
  hf.bind fun y r hr => hg y.1 r hr

/-- A reader of two parts, and another one that reads on. -/
theorem bind_two {f own : List Char → Option (α × δ × List Char)} {g own' : α × δ × List Char → Option γ}
    (hf : LocalAt Never f own cs)
    (hg : ∀ a d r, r <:+ cs → LocalAt Seen (fun t => g (a, d, t)) (fun t => own' (a, d, t)) r) :
    LocalAt Seen (fun t => (f t).bind g) (fun t => (own t).bind own') cs :=
  hf.bind fun y r hr => hg y.1 y.2.1 r hr

end BindParts

/-- Readers with fuel that need a first character: fuel for the text alone is enough for the text alone. -/
theorem fueled {ι : Type} {F : ι → Nat → List Char → Option β} (hzero : ∀ i t, F i 0 t = Option.none)
    (hnil : ∀ i n, F i (n + 1) [] = Option.none)
    (hstep : ∀ i n m c r, (∀ j r', r' <:+ r → LocalAt Ahead (F j n) (F j m) r') →
      LocalAt Ahead (fun t => F i (n + 1) (c :: t)) (fun t => F i (m + 1) (c :: t)) r)
    (i : ι) (n m : Nat) (cs : List Char) (hm : cs.length < m) : LocalAt Ahead (F i n) (F i m) cs := by
  -- The fuel with the tail goes down; the fuel without it stays above the length of the text.
  induction n generalizing i m cs with
  | zero =>
      intro tail y hy
      cases (hzero i _).symm.trans hy
  | succ n ih =>
      have hlater : ∀ m r, r.length < m → ∀ j r', r' <:+ r → LocalAt Ahead (F j n) (F j m) r' :=
        fun m r hr j r' hr' => ih j m r' (Nat.lt_of_le_of_lt hr'.length_le hr)
      refine LocalAt.of_cons (hnil i n)
        (fun c => (hstep i n 1 c [] (hlater 1 [] Nat.one_pos)).suffixing) ?_
      rintro c r rfl
      cases m with
      | zero => exact absurd hm (Nat.not_lt_zero _)
      | succ m => exact hstep i n m c r (hlater m r (Nat.lt_of_succ_lt_succ hm))

end LocalAt

/-- A reader that needs a first character, and goes on behind it. -/
theorem local_of_cons {f : List Char → Option β} (hnil : f [] = none) (hcons : ∀ c, Local fun t => f (c :: t)) :
    Local f := fun _ =>
  LocalAt.of_cons hnil (fun c => (hcons c []).suffixing) fun c r _ => hcons c r

/-- A reader that needs a sign as its first character, and goes on behind it. -/
theorem local_of_sign {f : List Char → Option β} (sign : Char) (hnil : f [] = none)
    (hother : ∀ c t, c ≠ sign → f (c :: t) = none) (hsign : Local fun t => f (sign :: t)) : Local f := by
  refine local_of_cons hnil fun c => ?_
  by_cases hc : c = sign
  · subst hc
    exact hsign
  · simp only [hother c _ hc]
    exact fun _ => LocalAt.none

/-- A reader that goes on behind some characters, and otherwise takes nothing. -/
theorem local_of_kept {f : List Char → Option β} (make : List Char → β) (Goes : Char → Prop)
    (hrest : ∀ t, rest (make t) = t) (hmake : ∀ s t, withRest (make s) t = make t) (hnil : f [] = some (make []))
    (hkept : ∀ c t, ¬ Goes c → f (c :: t) = some (make (c :: t))) (hgoes : ∀ c, Goes c → Local fun t => f (c :: t)) :
    Local f := fun _ =>
  LocalAt.of_kept make Goes hrest hmake hnil hnil (fun c t hc => ⟨hkept c t hc, hkept c t hc⟩)
    (fun c hc => (hgoes c hc []).suffixing) fun c r _ hc => hgoes c hc r

/-! ## Blanks -/

theorem afterLine_suffix (t : List Char) : afterLine t <:+ t := by
  induction t with
  | nil => exact List.suffix_refl []
  | cons c t ih =>
      rw [afterLine]
      split
      · exact List.suffix_cons c t
      · exact ih.trans (List.suffix_cons c t)

@[simp] theorem skipVerbose_nil : skipVerbose [] = [] := by
  rw [skipVerbose.eq_def]

section SkipVerbose

variable {c : Char} (t : List Char)

theorem skipVerbose_cons (c : Char) : skipVerbose (c :: t) =
    if isSpace c then skipVerbose t else if c = '#' then skipVerbose (afterLine t) else c :: t := by
  rw [skipVerbose.eq_def]

theorem skipVerbose_of_blank (hblank : isSpace c = true) : skipVerbose (c :: t) = skipVerbose t := by
  rw [skipVerbose_cons, if_pos hblank]

theorem skipVerbose_of_comment (hblank : ¬ isSpace '#' = true) :
    skipVerbose ('#' :: t) = skipVerbose (afterLine t) := by
  rw [skipVerbose_cons, if_neg hblank, if_pos rfl]

theorem skipVerbose_of_other (hblank : ¬ isSpace c = true) (hcomment : ¬ c = '#') :
    skipVerbose (c :: t) = c :: t := by
  rw [skipVerbose_cons, if_neg hblank, if_neg hcomment]

theorem skipVerbose_suffix : skipVerbose t <:+ t := by
  induction t using skipVerbose.induct with
  | case1 => simp only [skipVerbose_nil, List.suffix_refl]
  | case2 c t hblank ih =>
      rw [skipVerbose_of_blank t hblank]
      exact ih.trans (List.suffix_cons c t)
  | case3 t hblank ih =>
      rw [skipVerbose_of_comment t hblank]
      exact ih.trans ((afterLine_suffix t).trans (List.suffix_cons '#' t))
  | case4 c t hblank hcomment =>
      simp only [skipVerbose_of_other t hblank hcomment, List.suffix_refl]

end SkipVerbose

theorem skip_suffix (fl : Flags) (t : List Char) : skip fl t <:+ t := by
  rw [skip]
  split
  · exact skipVerbose_suffix t
  · exact List.suffix_refl t

@[simp] theorem skip_nil (fl : Flags) : skip fl [] = [] := List.suffix_nil.1 (skip_suffix fl [])

theorem skip_cons (fl : Flags) {c : Char} (hblank : isSpace c = false) (hcomment : c ≠ '#') (cs : List Char) :
    skip fl (c :: cs) = c :: cs := by
  rw [skip, skipVerbose_of_other cs (by rw [hblank]; exact Bool.false_ne_true) hcomment, ite_self]

theorem afterLine_append (cs tail : List Char) :
    afterLine (cs ++ tail) = afterLine cs ++ tail ∨ afterLine cs = [] ∧ afterLine (cs ++ tail) <:+ tail := by
  induction cs with
  | nil => exact Or.inr ⟨rfl, afterLine_suffix tail⟩
  | cons c cs ih =>
      rw [List.cons_append, afterLine, afterLine]
      split
      · exact Or.inl rfl
      · exact ih

theorem skipVerbose_append (cs tail : List Char) :
    skipVerbose (cs ++ tail) = skipVerbose cs ++ tail ∨
      skipVerbose cs = [] ∧ skipVerbose (cs ++ tail) <:+ tail := by
  induction cs using skipVerbose.induct with
  | case1 => exact Or.inr ⟨skipVerbose_nil, skipVerbose_suffix tail⟩
  | case2 c cs hblank ih =>
      rw [List.cons_append, skipVerbose_of_blank _ hblank, skipVerbose_of_blank _ hblank]
      exact ih
  | case3 cs hblank ih =>
      rw [List.cons_append, skipVerbose_of_comment _ hblank, skipVerbose_of_comment _ hblank]
      rcases afterLine_append cs tail with hline | ⟨hline, hsuffix⟩
      · rw [hline]
        exact ih
      · rw [hline]
        exact Or.inr ⟨skipVerbose_nil, (skipVerbose_suffix _).trans hsuffix⟩
  | case4 c cs hblank hcomment =>
      rw [List.cons_append, skipVerbose_of_other _ hblank hcomment, skipVerbose_of_other _ hblank hcomment]
      exact Or.inl rfl

/-- Blanks are skipped as without the tail, unless there is nothing else before the tail. -/
theorem skip_append (fl : Flags) (cs tail : List Char) :
    skip fl (cs ++ tail) = skip fl cs ++ tail ∨ skip fl cs = [] ∧ skip fl (cs ++ tail) <:+ tail := by
  rw [skip, skip]
  split
  · exact skipVerbose_append cs tail
  · exact Or.inl rfl

theorem skip_append_of_nil {fl : Flags} {cs : List Char} (h : skip fl cs = []) (tail : List Char) :
    skip fl (cs ++ tail) <:+ tail := by
  rcases skip_append fl cs tail with hsame | ⟨-, hsuffix⟩
  · rw [hsame, h]
    exact List.suffix_refl tail
  · exact hsuffix

theorem skip_append_of_cons {fl : Flags} {c : Char} {cs r : List Char} (h : skip fl cs = c :: r)
    (tail : List Char) : skip fl (cs ++ tail) = c :: (r ++ tail) := by
  rcases skip_append fl cs tail with hsame | ⟨hnil, -⟩
  · rw [hsame, h]
    rfl
  · cases hnil.symm.trans h

theorem local_skip (fl : Flags) : Local fun t => some (skip fl t) := by
  rintro cs tail _ ⟨⟩
  rcases skip_append fl cs tail with hsame | ⟨hnil, hsuffix⟩
  · exact .within hsame (skip_suffix fl cs) rfl
  · by_cases hrest : skip fl (cs ++ tail) = tail
    · exact .within (r := []) hrest List.nil_suffix (congrArg some hnil)
    · exact .past hsuffix hrest

/-- A reader that skips blanks first. -/
theorem LocalAt.skip {Ahead : β → Prop} {f own : List Char → Option β} (fl : Flags)
    (h : ∀ r, r <:+ cs → LocalAt Ahead f own r) :
    LocalAt Ahead (fun t => f (Pattern.skip fl t)) (fun t => own (Pattern.skip fl t)) cs :=
  (local_skip fl cs).bind fun _ r hr => h r hr

end Instrumentation.Pattern
