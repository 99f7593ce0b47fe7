import Instrumentation.Proofs.Pattern.Body
import Instrumentation.Proofs.Registry.Reach

set_option autoImplicit false

/-!
# Patterns match whole simple names

The text of a pattern is put between `^(?:` and `)$` as it stands, and the whole is read as one expression. Since groups
are read locally, there are two cases. The text alone is an expression, the group around it ends behind it, and what is
matched is a simple name as a whole. Or the text closes a parenthesis that it did not open: it is no expression, the
group around it ends inside it, and the anchors belong to different alternatives. Nothing refuses such a text.
-/

namespace Instrumentation

namespace Pattern

open HasRest (rest withRest)

/-! ## Shapes between anchors -/

namespace Shape

variable {a : Shape} {s : Subject}

/-- A shape that has to begin and to end with the subject. -/
def anchored (a : Shape) : Shape := .seq (.look .textStart) (.seq (.group false a) (.look .textEnd))

theorem filter_textStart (s : Subject) : (allPositions s).filter (fun i => Look.textStart.holds s i) = [0] := by
  have hlater : ((List.range s.size).map Nat.succ).filter (fun i => Look.textStart.holds s i) = [] := by
    simp [Look.holds]
  rw [allPositions, List.range_succ_eq_map, List.filter_cons_of_pos (by simp [Look.holds]), hlater]

/-- Where it occurs, it covers the subject. -/
theorem occursIn_anchored : a.anchored.occursIn s = true ↔ a.covers s = true := by
  have hends : a.anchored.ends s (allPositions s) = (a.ends s [0]).filter fun i => Look.textEnd.holds s i := by
    rw [anchored, ends, ends, ends, ends, ends, filter_textStart]
  rw [occursIn, covers, hends]
  simp [Look.holds]

end Shape

/-! ## Texts between anchors -/

/-- The group that a text is, up to its end or to a closing parenthesis that it did not open. -/
def outermost (cs : List Char) : Option (Part × GroupNames × List Char) :=
  takeBody (cs.length + 1) {} [] {} cs

/-- A text is an expression, of a shape that is nested not too deeply. -/
def Reads (cs : List Char) (shape : Shape) : Prop :=
  ∃ p names, outermost cs = some (p, names, []) ∧ p.depth ≤ nestingLimit ∧ p.shape = shape

/-- A text closes a parenthesis that it did not open. -/
def ClosesUnopened (cs : List Char) : Prop := ∃ p names t, outermost cs = some (p, names, ')' :: t)

instance (cs : List Char) : Decidable (ClosesUnopened cs) :=
  match h : outermost cs with
  | none => isFalse fun ⟨_, _, _, hy⟩ => by cases h.symm.trans hy
  | some (p, names, []) => isFalse fun ⟨_, _, _, hy⟩ => by cases h.symm.trans hy
  | some (p, names, c :: t) =>
      if hc : c = ')' then isTrue ⟨p, names, t, hc ▸ h⟩
      else isFalse fun ⟨_, _, _, hy⟩ => by
        cases h.symm.trans hy
        exact hc rfl

variable {cs : List Char} {shape : Shape}

theorem Reads.not_closesUnopened (h : Reads cs shape) : ¬ ClosesUnopened cs := by
  rintro ⟨p, names, t, hcloses⟩
  obtain ⟨p', names', hreads, -⟩ := h
  cases hreads.symm.trans hcloses

theorem Reads.eq {other : Shape} (h : Reads cs shape) (hother : Reads cs other) : shape = other := by
  obtain ⟨p, names, hp, -, rfl⟩ := h
  obtain ⟨q, names', hq, -, rfl⟩ := hother
  cases hp.symm.trans hq
  rfl

/-- An expression is what reads as one and takes no more memory than it may. -/
theorem read?_eq_some_iff : read? cs = some shape ↔ Reads cs shape ∧ fits shape = true := by
  rw [read?]
  constructor
  · intro h
    split at h
    · next p names hp =>
      split at h
      · next hlimits =>
        cases h
        exact ⟨⟨p, names, hp, hlimits.1, rfl⟩, hlimits.2⟩
      · cases h
    · cases h
  · rintro ⟨⟨p, names, hp, hdepth, rfl⟩, hfits⟩
    rw [outermost] at hp
    rw [hp]
    exact if_pos ⟨hdepth, hfits⟩

/-- What stands before a text between anchors. -/
def front : Body := Body.add {} ⟨.look .textStart, 0, true⟩

theorem outermost_anchored (text : String) :
    outermost (SimpleNamePattern.anchored text) =
      (takeBody (text.toList.length + 5) {} [] {} (text.toList ++ [')', '$'])).bind
        (takeAfterGroup {} front (text.toList.length + 5) false) := by
  have hlength : (SimpleNamePattern.anchored text).length = text.toList.length + 6 := by
    simp [SimpleNamePattern.anchored]
  -- The anchor in front and the opening of the group are one move each.
  rw [outermost, hlength, takeBody_succ]
  show takeBody (text.toList.length + 6) {} [] front ('(' :: '?' :: ':' :: (text.toList ++ [')', '$'])) = _
  rw [takeBody_succ]
  rfl

/-- A text between anchors is read as the text alone, unless the text closes the group around it. -/
theorem reads_anchored {text : String} (h : Reads (SimpleNamePattern.anchored text) shape) :
    ClosesUnopened text.toList ∨ ∃ own, Reads text.toList own ∧ shape = own.anchored := by
  obtain ⟨p', names', hp', hdepth, rfl⟩ := h
  rw [outermost_anchored] at hp'
  obtain ⟨⟨p, names, left⟩, hbody, hafter⟩ := Option.bind_eq_some_iff.1 hp'
  rw [takeAfterGroup.eq_def] at hafter
  split at hafter
  · next p names t heq =>
    cases heq
    cases localAt_takeBody {} [] {} _ _ text.toList (Nat.lt_succ_self _) _ _ hbody with
    | past hsuffix hne =>
      -- Nothing behind the first closing parenthesis begins with one.
      have hcases : ')' :: t <:+ ['$'] := (List.suffix_cons_iff.1 hsuffix).resolve_left hne
      simp [List.suffix_cons_iff] at hcases
    | @within r hrest hsuffix hown =>
      -- The text alone is read up to its end, or up to a closing parenthesis of its own.
      rcases takeBody_rest {} [] {} hown with hnil | ⟨t', hcons⟩
      · obtain rfl : r = [] := hnil
        obtain rfl : t = ['$'] := (List.cons.inj hrest).2
        rw [takeBody_succ] at hafter
        cases hafter
        refine Or.inr ⟨p.shape, ⟨p, _, hown, ?_, rfl⟩, rfl⟩
        have hdeeper : 1 + max (max 0 (p.depth + 1)) 0 ≤ nestingLimit := hdepth
        omega
      · obtain rfl : r = ')' :: t' := hcons
        exact Or.inl ⟨p, names, t', hown⟩
    | ahead hrest hsuffix hahead => exact hahead.elim
  · cases hafter

end Pattern

namespace Rule

open Pattern (ClosesUnopened Reads)

variable {rule : Rule}

/-- A rule with a pattern accepts the simple names in which its shape occurs. -/
theorem accepts_of_pattern {package simple : String} {p : SimpleNamePattern} (h : rule.matcher = .pattern package p) :
    rule.accepts simple = p.accepts simple := by
  rw [accepts, h]

/-- **A pattern rule describes whole simple names, unless its text closes a parenthesis too many.** Where a rule has
been made of a name, the text after the last separator is an expression of its own if and only if it closes no
parenthesis that it did not open. Then the rule accepts a simple name if and only if this expression covers it from its
beginning to its end. The limit on memory is the only one that the text alone may miss. -/
theorem accepts_whole_names_iff (name : String) (kind : UnitKind) (hrule : Rule.pattern name kind = .ok rule) :
    let text := ((splitUnitName name).getD ("", name)).2
    (ClosesUnopened text.toList ↔ ¬ ∃ shape, Reads text.toList shape) ∧
      ∀ shape, Reads text.toList shape →
        (Pattern.fits shape = true → Pattern.read? text.toList = some shape) ∧
        ∀ simple, rule.accepts simple = true ↔ shape.covers simple.toList.toArray = true := by
  intro text
  obtain ⟨p, hp, hmatcher⟩ := matcher_of_pattern hrule rfl
  obtain ⟨anchored, hread, rfl⟩ := Option.map_eq_some_iff.1 hp
  have hcases := Pattern.reads_anchored (Pattern.read?_eq_some_iff.1 hread).1
  refine ⟨⟨?_, ?_⟩, ?_⟩
  · rintro hcloses ⟨shape, hshape⟩
    exact hshape.not_closesUnopened hcloses
  · intro hnone
    rcases hcases with hcloses | ⟨own, hown, -⟩
    · exact hcloses
    · exact absurd ⟨own, hown⟩ hnone
  · intro shape hshape
    refine ⟨fun hfits => Pattern.read?_eq_some_iff.2 ⟨hshape, hfits⟩, fun simple => ?_⟩
    obtain ⟨own, hown, rfl⟩ := hcases.resolve_left hshape.not_closesUnopened
    rw [accepts_of_pattern hmatcher, hshape.eq hown]
    exact Pattern.Shape.occursIn_anchored

/-- The rule of the data access objects of a package accepts the names that its text covers on its own. -/
theorem accepts_whole_names_iff_dao :
    ∃ shape, Reads "(User|Order)Dao".toList shape ∧
      ∀ simple, Registry.daoRule.accepts simple = true ↔ shape.covers simple.toList.toArray = true := by
  have hparts : ((splitUnitName "com/acme/(User|Order)Dao").getD ("", "com/acme/(User|Order)Dao")).2 =
      "(User|Order)Dao" := by
    decide +kernel
  have h := accepts_whole_names_iff _ _ Registry.pattern_daoRule
  rw [hparts] at h
  obtain ⟨hcloses, hcovers⟩ := h
  obtain ⟨shape, hshape⟩ := Classical.not_not.1 (mt hcloses.2 (by decide +kernel))
  exact ⟨shape, hshape, (hcovers shape hshape).2⟩

/-- A text that is no expression ends the group around it, so that one anchor is left on each side. -/
theorem unopened_parenthesis_accepted :
    ∃ rule, Rule.pattern "com/acme/a)|(b" .other = .ok rule ∧ Pattern.read? "a)|(b".toList = none ∧
      rule.accepts "ax" = true ∧ rule.accepts "xb" = true := by
  have hrule : (Rule.pattern "com/acme/a)|(b" .other).toOption.any (fun rule =>
      rule.accepts "ax" && rule.accepts "xb") = true := by
    decide +kernel
  have hread : (Pattern.read? "a)|(b".toList).isNone = true := by decide +kernel
  cases h : Rule.pattern "com/acme/a)|(b" .other with
  | error e =>
      rw [h] at hrule
      cases hrule
  | ok rule =>
      rw [h] at hrule
      exact ⟨rule, rfl, Option.isNone_iff_eq_none.1 hread, Bool.and_eq_true_iff.1 hrule⟩

end Rule

end Instrumentation
