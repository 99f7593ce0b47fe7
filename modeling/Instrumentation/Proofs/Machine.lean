set_option autoImplicit false

/-!
# Machines that give things out

A machine is driven by inputs. Each input changes the state and may give something out. `Machine.run` drives
a machine by a list of inputs and collects what is given out.

`invariant_run` carries an invariant from the steps of a machine to its runs, and `exists_step_of_after` finds
the step of a run that brought something about. `countP_given_le_one` is the argument for everything that is given
out at most once: giving it out spends something, what is spent stays spent, and nothing is given out of what is
spent. `tally` sums up a quantity over the steps of a run, and `count_after` compares it with a count that the machine
keeps.
-/

namespace Instrumentation

universe u v w

/-- A machine with states `S` and inputs `A` that gives out values of `G`. -/
abbrev Machine (S : Type u) (A : Type v) (G : Type w) := S → A → Option G × S

namespace Machine

variable {S : Type u} {A : Type v} {G : Type w}

/-- What a machine gives out for a list of inputs, in order, and its state afterwards. -/
def run (m : Machine S A G) (s : S) : List A → List G × S
  | [] => ([], s)
  | a :: rest =>
      let tail := run m (m s a).2 rest
      ((m s a).1.toList ++ tail.1, tail.2)

/-- The state of a machine after a list of inputs. -/
def after (m : Machine S A G) (s : S) (inputs : List A) : S := (run m s inputs).2

/-- What a machine gives out for a list of inputs. -/
def given (m : Machine S A G) (s : S) (inputs : List A) : List G := (run m s inputs).1

variable (m : Machine S A G)

@[simp] theorem after_nil (s : S) : after m s [] = s := rfl

@[simp] theorem after_cons (s : S) (a : A) (rest : List A) :
    after m s (a :: rest) = after m (m s a).2 rest := rfl

@[simp] theorem given_nil (s : S) : given m s [] = [] := rfl

@[simp] theorem given_cons (s : S) (a : A) (rest : List A) :
    given m s (a :: rest) = (m s a).1.toList ++ given m (m s a).2 rest := rfl

theorem after_append (s : S) (front rest : List A) :
    after m s (front ++ rest) = after m (after m s front) rest := by
  induction front generalizing s with
  | nil => rfl
  | cons a front ih => rw [List.cons_append, after_cons, after_cons, ih]

/-- What every step on an input of a run keeps, the run keeps. -/
theorem invariant_run_of_mem {I : S → Prop} {inputs : List A}
    (keeps : ∀ s, ∀ a ∈ inputs, I s → I (m s a).2) {s : S} (hs : I s) :
    I (after m s inputs) := by
  induction inputs generalizing s with
  | nil => exact hs
  | cons a rest ih =>
      exact ih (fun t b hb => keeps t b (List.mem_cons_of_mem a hb))
        (keeps s a List.mem_cons_self hs)

/-- What every step keeps, every run keeps. -/
theorem invariant_run {I : S → Prop} (keeps : ∀ s a, I s → I (m s a).2) {s : S} (hs : I s)
    (inputs : List A) : I (after m s inputs) :=
  invariant_run_of_mem m (fun s a _ => keeps s a) hs

/-- What is so after a run, and was not so before it, was brought about by one of its steps. -/
theorem exists_step_of_after {P : S → Prop} {s : S} (hs : ¬ P s) {inputs : List A}
    (h : P (after m s inputs)) :
    ∃ front a rest, inputs = front ++ a :: rest ∧ ¬ P (after m s front) ∧
      P (m (after m s front) a).2 := by
  induction inputs generalizing s with
  | nil => exact absurd h hs
  | cons a rest ih =>
      by_cases ha : P (m s a).2
      · exact ⟨[], a, rest, rfl, hs, ha⟩
      · obtain ⟨front, b, later, rfl, hbefore, hafter⟩ := ih ha h
        exact ⟨a :: front, b, later, rfl, hbefore, hafter⟩

/-- A run of inputs that give nothing out gives nothing out. -/
theorem given_eq_nil {inputs : List A} (h : ∀ s, ∀ a ∈ inputs, (m s a).1 = none) (s : S) :
    given m s inputs = [] := by
  induction inputs generalizing s with
  | nil => rfl
  | cons a rest ih =>
      rw [given_cons, h s a List.mem_cons_self,
        ih fun t b hb => h t b (List.mem_cons_of_mem a hb)]
      rfl

/-- What holds of everything that a step gives out holds of everything that a run gives out. -/
theorem forall_mem_given {I : S → Prop} {Q : G → Prop} (keeps : ∀ s a, I s → I (m s a).2)
    (each : ∀ s a g, I s → (m s a).1 = some g → Q g) {s : S} (hs : I s) (inputs : List A) :
    ∀ g ∈ given m s inputs, Q g := by
  induction inputs generalizing s with
  | nil => intro g hg; simp at hg
  | cons a rest ih =>
      intro g hg
      rw [given_cons, List.mem_append] at hg
      rcases hg with hg | hg
      · exact each s a g hs (Option.mem_toList.1 hg)
      · exact ih (keeps s a hs) g hg

section Spending

variable {m}
variable (spent : S → Prop) {wanted : G → Bool}

/-- After it is spent, nothing wanted is given out. -/
theorem countP_given_of_spent (keepsSpent : ∀ s a, spent s → spent (m s a).2)
    (silent : ∀ s a g, spent s → (m s a).1 = some g → wanted g = false) {s : S} (hs : spent s)
    (inputs : List A) : (given m s inputs).countP wanted = 0 := by
  induction inputs generalizing s with
  | nil => rfl
  | cons a rest ih =>
      rw [given_cons, List.countP_append, ih (keepsSpent s a hs)]
      cases hg : (m s a).1 with
      | none => rfl
      | some g => simp [silent s a g hs hg]

/-- What spends something when it is given out, and is not given out of what is spent, is given out at most
once. -/
theorem countP_given_le_one (keepsSpent : ∀ s a, spent s → spent (m s a).2)
    (silent : ∀ s a g, spent s → (m s a).1 = some g → wanted g = false)
    (spends : ∀ s a g, (m s a).1 = some g → wanted g = true → spent (m s a).2)
    (s : S) (inputs : List A) : (given m s inputs).countP wanted ≤ 1 := by
  induction inputs generalizing s with
  | nil => exact Nat.zero_le 1
  | cons a rest ih =>
      have hrest := ih (m s a).2
      rw [given_cons, List.countP_append]
      cases hg : (m s a).1 with
      | none => simpa using hrest
      | some g =>
          cases hw : wanted g with
          | false => simpa [hw] using hrest
          | true =>
              -- The first wanted value: from here on the rest of the run gives out none.
              have hzero := countP_given_of_spent spent keepsSpent silent (spends s a g hg hw) rest
              simp [hw, hzero]

/-- What was given out and wanted at some place of a run is spent at its end. -/
theorem spent_of_mem_given (keepsSpent : ∀ s a, spent s → spent (m s a).2)
    (spends : ∀ s a g, (m s a).1 = some g → wanted g = true → spent (m s a).2)
    {s : S} {inputs : List A} {g : G} (hg : g ∈ given m s inputs)
    (hw : wanted g = true) : spent (after m s inputs) := by
  induction inputs generalizing s with
  | nil => simp at hg
  | cons a rest ih =>
      rw [given_cons, List.mem_append] at hg
      rcases hg with hg | hg
      · have hfirst : (m s a).1 = some g := Option.mem_toList.1 hg
        exact invariant_run m keepsSpent (spends s a g hfirst hw) rest
      · exact ih hg

end Spending

section Tally

/-- The sum of a quantity over the steps of a run. -/
def tally (quantity : S → A → Nat) (s : S) : List A → Nat
  | [] => 0
  | a :: rest => quantity s a + tally quantity (m s a).2 rest

@[simp] theorem tally_nil (quantity : S → A → Nat) (s : S) : tally m quantity s [] = 0 := rfl

@[simp] theorem tally_cons (quantity : S → A → Nat) (s : S) (a : A) (rest : List A) :
    tally m quantity s (a :: rest) = quantity s a + tally m quantity (m s a).2 rest := rfl

theorem tally_add (f g : S → A → Nat) (s : S) (inputs : List A) :
    tally m (fun s a => f s a + g s a) s inputs = tally m f s inputs + tally m g s inputs := by
  induction inputs generalizing s with
  | nil => rfl
  | cons a rest ih =>
      rw [tally_cons, tally_cons, tally_cons, ih]
      omega

/-- A quantity of the inputs alone. -/
theorem tally_countP (p : A → Bool) (s : S) (inputs : List A) :
    tally m (fun _ a => if p a then 1 else 0) s inputs = inputs.countP p := by
  induction inputs generalizing s with
  | nil => rfl
  | cons a rest ih => rw [tally_cons, ih, List.countP_cons, Nat.add_comm]

/-- What happens at most once in a step happens at most as often as there are steps. -/
theorem tally_le_length {quantity : S → A → Nat} (h : ∀ s a, quantity s a ≤ 1) (s : S)
    (inputs : List A) : tally m quantity s inputs ≤ inputs.length := by
  induction inputs generalizing s with
  | nil => exact Nat.zero_le 0
  | cons a rest ih =>
      have hfirst := h s a
      have hlater := ih (m s a).2
      rw [tally_cons, List.length_cons]
      omega

/-- What a step adds at most, a run adds at most. -/
theorem measure_after_le (measure : S → Nat) (quantity : S → A → Nat)
    (h : ∀ s a, measure (m s a).2 ≤ measure s + quantity s a) (s : S) (inputs : List A) :
    measure (after m s inputs) ≤ measure s + tally m quantity s inputs := by
  induction inputs generalizing s with
  | nil => exact Nat.le_refl _
  | cons a rest ih =>
      have hfirst := h s a
      have hlater := ih (m s a).2
      rw [after_cons, tally_cons]
      omega

/-- A count of 64 bits to which every step adds a quantity. -/
theorem count_after (count : S → UInt64) (quantity : S → A → Nat)
    (h : ∀ s a, count (m s a).2 = count s + UInt64.ofNat (quantity s a)) (s : S)
    (inputs : List A) :
    count (after m s inputs) = count s + UInt64.ofNat (tally m quantity s inputs) := by
  induction inputs generalizing s with
  | nil => exact (UInt64.add_zero _).symm
  | cons a rest ih => rw [after_cons, tally_cons, ih, h, UInt64.ofNat_add, UInt64.add_assoc]

end Tally

end Machine

end Instrumentation
