import Instrumentation.Proofs.Pattern.Group

set_option autoImplicit false

/-!
# Groups are read locally

Reading a group goes from move to move: a part is added, the last part is repeated, or a group inside begins. A move
splits in front of a tail, and so, by induction on the fuel, does the whole group. After a move that has looked into the
tail, a brace with nothing but blanks is left, and a group is stuck there.

`localAt_takeBody` is used for a text that is put into another one: with what follows it, the text is read as it is read
alone, or some of what follows belongs to a part of the text.
-/

namespace Instrumentation.Pattern

open HasRest (rest withRest)

/-! ## Moves in a group -/

/-- What is read in a group at once. -/
inductive BodyMove where
  /-- The group goes on. -/
  | on (fl : Flags) (b : Body)
  /-- A group inside begins. -/
  | into (numbered : Bool) (inner : Flags) (names : GroupNames)

variable (fl : Flags) (names : GroupNames) (b : Body)

/-- What a parenthesis opens. -/
def openingMove : Opening → BodyMove
  | .settings inner => .on inner (b.add ⟨.empty, 0, false⟩)
  | .group numbered inner names => .into numbered inner names

/-- A part is added. -/
def addMove (shape : Shape) (depth : Nat) : BodyMove := .on fl (b.add ⟨shape, depth, true⟩)

/-- The last part is repeated. -/
def repeatMove (least : Nat) (most : Option Nat) : Bool × List Char → Option (BodyMove × List Char)
  | (fewFirst, rest) => do
      let b ← b.repeatLast least most fewFirst
      some (.on fl b, rest)

/-- A repetition of the last part, after its sign. -/
def takeRepeated (least : Nat) (most : Option Nat) (cs : List Char) : Option (BodyMove × List Char) :=
  (some (takeMark fl cs)).bind (repeatMove fl b least most)

/-- A move, after its first character. -/
def takeBodyMove (c : Char) (cs : List Char) : Option (BodyMove × List Char) :=
  match c with
  | '|' => some (.on fl b.alternative, cs)
  | '(' => do
      let (o, rest) ← takeGroupOpening fl names cs
      some (openingMove b o, rest)
  | '[' => do
      let (c, rest) ← takeBracket fl cs
      some (addMove fl b (.one c.cls) c.depth, rest)
  | '?' => takeRepeated fl b 0 (some 1) cs
  | '*' => takeRepeated fl b 0 none cs
  | '+' => takeRepeated fl b 1 none cs
  | '\x7b' => do
      let (least, most, rest) ← takeBounds fl cs
      takeRepeated fl b least most (skip fl rest)
  | '\\' => do
      let (e, rest) ← takeEscape fl cs
      let s ← elementShape? fl e
      some (addMove fl b s 0, rest)
  | '.' => do
      let c ← dotClass? fl
      some (addMove fl b (.one c) 0, cs)
  | '^' => some (addMove fl b (.look (caretLook fl)) 0, cs)
  | '$' => some (addMove fl b (.look (dollarLook fl)) 0, cs)
  | c => some (addMove fl b (literalShape fl c) 0, cs)

/-- The characters that do not stand for themselves. -/
def moveSigns : List Char := ['|', '(', '[', '?', '*', '+', '\x7b', '\\', '.', '^', '$']

theorem takeBodyMove_of_literal {c : Char} (hc : c ∉ moveSigns) (cs : List Char) :
    takeBodyMove fl names b c cs = some (addMove fl b (literalShape fl c) 0, cs) := by
  simp only [moveSigns, List.mem_cons, List.not_mem_nil, not_or] at hc
  unfold takeBodyMove
  split <;> simp_all

/-- What follows a group inside, after its closing parenthesis. -/
def takeAfterGroup (fuel : Nat) (numbered : Bool) :
    Part × GroupNames × List Char → Option (Part × GroupNames × List Char)
  | (p, names, ')' :: rest) => takeBody fuel fl names (b.add ⟨.group numbered p.shape, p.depth + 1, true⟩) rest
  | _ => none

/-- What follows a move. -/
def takeOn (fuel : Nat) : BodyMove × List Char → Option (Part × GroupNames × List Char)
  | (.on fl b, rest) => takeBody fuel fl names b rest
  | (.into numbered inner names, rest) =>
      (takeBody fuel inner names {} rest).bind (takeAfterGroup fl b fuel numbered)

/-- The rest of a group, after blanks. -/
def takeBodyRest (fuel : Nat) : List Char → Option (Part × GroupNames × List Char)
  | [] => some (b.close, names, [])
  | c :: cs =>
      if c = ')' then some (b.close, names, c :: cs)
      else (takeBodyMove fl names b c cs).bind (takeOn fl names b fuel)

theorem takeOn_repeated (fuel least : Nat) (most : Option Nat) (cs : List Char) :
    (takeRepeated fl b least most cs).bind (takeOn fl names b fuel) =
      (b.repeatLast least most (takeMark fl cs).1).bind fun b => takeBody fuel fl names b (takeMark fl cs).2 := by
  rw [takeRepeated, Option.bind_some, repeatMove]
  cases hb : b.repeatLast least most (takeMark fl cs).1 <;> rfl

theorem takeBody_succ (n : Nat) (cs : List Char) :
    takeBody (n + 1) fl names b cs = takeBodyRest fl names b n (skip fl cs) := by
  rw [takeBody]
  generalize skip fl cs = ds
  split
  · rfl
  · rfl
  · rfl
  · next rest =>
    rw [takeBodyRest, if_neg (by decide), takeBodyMove]
    cases takeGroupOpening fl names rest with
    | none => rfl
    | some x =>
      obtain ⟨o, rest⟩ := x
      cases o with
      | settings inner => rfl
      | group numbered inner names => rfl
  · next rest =>
    rw [takeBodyRest, if_neg (by decide), takeBodyMove]
    cases takeBracket fl rest <;> rfl
  · exact (takeOn_repeated fl names b n 0 (some 1) _).symm
  · exact (takeOn_repeated fl names b n 0 none _).symm
  · exact (takeOn_repeated fl names b n 1 none _).symm
  · next rest =>
    rw [takeBodyRest, if_neg (by decide), takeBodyMove]
    cases takeBounds fl rest with
    | none => rfl
    | some x => exact (takeOn_repeated fl names b n x.1 x.2.1 _).symm
  · next rest =>
    rw [takeBodyRest, if_neg (by decide), takeBodyMove]
    cases takeEscape fl rest with
    | none => rfl
    | some x => cases hs : elementShape? fl x.1 <;> simp [hs, addMove, takeOn]
  · rw [takeBodyRest, if_neg (by decide), takeBodyMove]
    cases dotClass? fl <;> rfl
  · rfl
  · rfl
  · next c rest hclose _ _ _ _ _ _ _ _ _ _ _ =>
    rw [takeBodyRest, if_neg hclose, takeBodyMove_of_literal fl names b (by simp_all [moveSigns])]
    rfl

/-- After a move a brace was seen, and nothing but blanks. -/
def MoveAhead (y : BodyMove × List Char) : Prop :=
  ∃ fl b cs, y = (.on fl b, '\x7b' :: cs) ∧ skip fl cs = []

theorem local_takeRepeated (least : Nat) (most : Option Nat) : Local (takeRepeated fl b least most) := fun cs =>
  (local_takeMark fl cs).bind fun y _ _ =>
    LocalAt.guard (o := b.repeatLast least most y.1) fun b _ => LocalAt.pure_one (BodyMove.on fl b)

theorem localAt_escapeMove (cs : List Char) :
    LocalAt MoveAhead (takeBodyMove fl names b '\\') (takeBodyMove fl names b '\\') cs := by
  refine (localAt_takeEscape fl cs).bind_of_ahead (fun y r _ => ?_) fun y r hahead => Or.inr fun z hz => ?_
  · exact LocalAt.guard (o := elementShape? fl y.1) fun s _ => LocalAt.pure_one (addMove fl b s 0)
  · obtain ⟨l, cs, hy, hskip⟩ := hahead
    rw [hy] at hz
    cases hz
    exact ⟨fl, _, cs, rfl, hskip⟩

theorem localAt_takeBodyMove (c : Char) (cs : List Char) :
    LocalAt MoveAhead (takeBodyMove fl names b c) (takeBodyMove fl names b c) cs := by
  intro tail y hy
  unfold takeBodyMove at hy
  split at hy
  · exact LocalAt.pure_one _ tail y hy
  · exact ((local_takeGroupOpening fl names cs).bind_one fun o _ _ =>
      LocalAt.pure_one (openingMove b o)).of_never tail y hy
  · exact ((local_takeBracket fl cs).bind_one fun c _ _ =>
      LocalAt.pure_one (addMove fl b (.one c.cls) c.depth)).of_never tail y hy
  · exact (local_takeRepeated fl b 0 (some 1) cs).of_never tail y hy
  · exact (local_takeRepeated fl b 0 none cs).of_never tail y hy
  · exact (local_takeRepeated fl b 1 none cs).of_never tail y hy
  · exact ((local_takeBounds fl cs).bind_two fun least most r _ =>
      LocalAt.skip fl fun r _ => local_takeRepeated fl b least most r).of_never tail y hy
  · exact localAt_escapeMove fl names b cs tail y hy
  · exact LocalAt.guard (fun c _ => LocalAt.pure_one (addMove fl b (.one c) 0)) tail y hy
  · exact LocalAt.pure_one _ tail y hy
  · exact LocalAt.pure_one _ tail y hy
  · next hbar hopen hbracket hmark hstar hplus hbrace hbackslash hdot hcaret hdollar =>
    have hkept : takeBodyMove fl names b c cs = some (addMove fl b (literalShape fl c) 0, cs) :=
      takeBodyMove_of_literal fl names b (by simp_all [moveSigns]) cs
    rw [hkept]
    exact LocalAt.pure_one _ tail y hy

/-! ## Groups -/

/-- A brace with nothing but blanks after it is no repetition. -/
theorem takeBody_brace {cs : List Char} (hskip : skip fl cs = []) (n : Nat) :
    takeBody n fl names b ('\x7b' :: cs) = none := by
  cases n with
  | zero => rfl
  | succ n =>
      have hbounds : takeBounds fl cs = none := by
        rw [takeBounds, hskip]
        rfl
      rw [takeBody_succ, skip_cons fl (by decide) (by decide), takeBodyRest, if_neg (by decide), takeBodyMove, hbounds]
      rfl

section Step

variable {n m : Nat} {cs : List Char}
  (ih : ∀ fl names b r, r <:+ cs → LocalAt Never (takeBody n fl names b) (takeBody m fl names b) r)

include ih in
theorem localAt_takeAfterGroup (numbered : Bool) (p : Part) {r : List Char} (hr : r <:+ cs) :
    LocalAt Never (fun t => takeAfterGroup fl b n numbered (p, names, t))
      (fun t => takeAfterGroup fl b m numbered (p, names, t)) r := by
  have hstep : ∀ c r, r <:+ cs → LocalAt Never (fun t => takeAfterGroup fl b n numbered (p, names, c :: t))
      (fun t => takeAfterGroup fl b m numbered (p, names, c :: t)) r := by
    intro c r hr
    by_cases hc : c = ')'
    · subst hc
      exact ih fl names _ r hr
    · have hnone : ∀ k t, takeAfterGroup fl b k numbered (p, names, c :: t) = none := by
        intro k t
        rw [takeAfterGroup]
        rintro _ _ _ ⟨⟩
        exact hc rfl
      simp only [hnone]
      exact LocalAt.none
  refine LocalAt.of_cons rfl (fun c => (hstep c [] List.nil_suffix).suffixing) ?_
  rintro c r' rfl
  exact hstep c r' ((List.suffix_cons c r').trans hr)

include ih in
theorem localAt_takeOn (move : BodyMove) {r : List Char} (hr : r <:+ cs) :
    LocalAt Never (fun t => takeOn fl names b n (move, t)) (fun t => takeOn fl names b m (move, t)) r := by
  cases move with
  | on fl b => exact ih fl names b r hr
  | into numbered inner names =>
      exact (ih inner names {} r hr).bind_two fun p names r' hr' =>
        localAt_takeAfterGroup fl names b ih numbered p (hr'.trans hr)

include ih in
theorem localAt_takeMoveOn (c : Char) :
    LocalAt Never (fun t => (takeBodyMove fl names b c t).bind (takeOn fl names b n))
      (fun t => (takeBodyMove fl names b c t).bind (takeOn fl names b m)) cs := by
  refine (localAt_takeBodyMove fl names b c cs).bind_of_ahead (fun y r hr => ?_) fun y r hahead => Or.inr fun z hz => ?_
  · exact localAt_takeOn fl names b ih y.1 hr
  · -- Without the tail there are no bounds after the brace that was seen.
    obtain ⟨fl, b, cs, hy, hskip⟩ := hahead
    rw [hy, takeOn, takeBody_brace fl names b hskip] at hz
    cases hz

end Step

/-- **A group is read locally.** With a tail, it is read into the tail, or as it is read without the tail. -/
theorem localAt_takeBody (n m : Nat) (cs : List Char) (hm : cs.length < m) :
    LocalAt Never (takeBody n fl names b) (takeBody m fl names b) cs := by
  -- Induction on the fuel with the tail. Settings, names and parts read so far change from move to move.
  induction n generalizing m fl names b cs with
  | zero => exact nofun
  | succ n ih =>
      obtain ⟨m, rfl⟩ : ∃ k, m = k + 1 := ⟨m - 1, by omega⟩
      have hmove : ∀ m c r, r.length < m → LocalAt Never
          (fun t => (takeBodyMove fl names b c t).bind (takeOn fl names b n))
          (fun t => (takeBodyMove fl names b c t).bind (takeOn fl names b m)) r := fun m c r hr =>
        localAt_takeMoveOn fl names b (fun fl names b r' hr' =>
          ih fl names b m r' (Nat.lt_of_le_of_lt hr'.length_le hr)) c
      intro tail y
      simp only [takeBody_succ]
      refine LocalAt.skip fl (fun r hr => ?_) tail y
      refine LocalAt.of_kept (fun t => (b.close, names, t)) (· ≠ ')') (fun _ => rfl) (fun _ _ => rfl) rfl rfl
        (fun c t hc => ?_) (fun c hc => ?_) ?_
      · rw [Classical.not_not.1 hc]
        exact ⟨rfl, rfl⟩
      · simp only [takeBodyRest, if_neg hc]
        exact (hmove 1 c [] Nat.one_pos).suffixing
      · rintro c r rfl hc
        simp only [takeBodyRest, if_neg hc]
        exact hmove m c r (Nat.lt_of_succ_lt_succ (Nat.lt_of_le_of_lt hr.length_le hm))

/-- A group ends where its text does, or in front of a closing parenthesis. -/
theorem takeBody_rest {n : Nat} {cs : List Char} {y : Part × GroupNames × List Char}
    (hy : takeBody n fl names b cs = some y) : rest y = [] ∨ ∃ r, rest y = ')' :: r := by
  induction n generalizing fl names b cs y with
  | zero => cases hy
  | succ n ih =>
      rw [takeBody_succ] at hy
      cases hskip : skip fl cs with
      | nil =>
          rw [hskip] at hy
          cases hy
          exact Or.inl rfl
      | cons c r =>
          rw [hskip, takeBodyRest] at hy
          split at hy
          · next hc =>
            cases hy
            exact Or.inr ⟨r, by rw [hc]; rfl⟩
          · obtain ⟨⟨move, r'⟩, -, hon⟩ := Option.bind_eq_some_iff.1 hy
            cases move with
            | on fl b => exact ih fl names b hon
            | into numbered inner names =>
                obtain ⟨⟨p, names, r''⟩, -, hafter⟩ := Option.bind_eq_some_iff.1 hon
                rw [takeAfterGroup.eq_def] at hafter
                split at hafter
                · exact ih _ _ _ hafter
                · cases hafter

end Instrumentation.Pattern
