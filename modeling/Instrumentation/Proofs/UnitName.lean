import Instrumentation.UnitName

set_option autoImplicit false

/-!
# Beginnings and parts of names

The tests on names mean what they say: `beginsWith` is the order of prefixes, `occursIn` the order of parts.

A unit name is split into its package and its simple name in one way only (`splitUnitName_eq_some_iff`).

Joining and splitting undo each other: the owner of a qualified method name is the unit that it was made from,
whatever characters the unit name has (`methodOwner?_qualifiedMethodName`), and a name with an owner was made of it
and of a method name without a point (`methodOwner?_eq_some_iff`).
-/

namespace Instrumentation

theorem beginsWith_iff {start text : String} :
    beginsWith start text = true ↔ start.toList <+: text.toList :=
  List.isPrefixOf_iff_prefix

theorem occursIn_iff {part text : List Char} : occursIn part text = true ↔ part <:+: text := by
  induction text with
  | nil => simp [occursIn]
  | cons c cs ih =>
      rw [occursIn, Bool.or_eq_true, ih, List.isPrefixOf_iff_prefix, List.infix_cons_iff]

theorem splitAfterLast_cons (sep c : Char) (cs : List Char) :
    splitAfterLast sep (c :: cs) =
      match splitAfterLast sep cs with
      | some (before, after) => some (c :: before, after)
      | none => if c = sep then some ([c], cs) else none := rfl

theorem splitAfterLast_eq_none {sep : Char} {cs : List Char} (h : sep ∉ cs) :
    splitAfterLast sep cs = none := by
  induction cs with
  | nil => rfl
  | cons c cs ih =>
      rw [List.mem_cons, not_or] at h
      rw [splitAfterLast_cons, ih h.2, if_neg (Ne.symm h.1)]

/-- A text is split after a separator that none comes after. -/
theorem splitAfterLast_append {sep : Char} (before : List Char) {after : List Char}
    (h : sep ∉ after) :
    splitAfterLast sep (before ++ sep :: after) = some (before ++ [sep], after) := by
  induction before with
  | nil => rw [List.nil_append, splitAfterLast_cons, splitAfterLast_eq_none h, if_pos rfl, List.nil_append]
  | cons c before ih => rw [List.cons_append, splitAfterLast_cons, ih, List.cons_append]

theorem not_mem_of_splitAfterLast {sep : Char} {cs : List Char} (h : splitAfterLast sep cs = none) :
    sep ∉ cs := by
  induction cs with
  | nil => exact List.not_mem_nil
  | cons c cs ih =>
      rw [splitAfterLast_cons] at h
      cases hrest : splitAfterLast sep cs with
      | some parts =>
          rw [hrest] at h
          cases h
      | none =>
          rw [hrest] at h
          by_cases hc : c = sep
          · simp [hc] at h
          · rw [List.mem_cons, not_or]
            exact ⟨Ne.symm hc, ih hrest⟩

/-- What is split has the separator at the end of its first part and none in its second. -/
theorem splitAfterLast_eq_some {sep : Char} {cs before after : List Char}
    (h : splitAfterLast sep cs = some (before, after)) :
    ∃ front, before = front ++ [sep] ∧ cs = front ++ sep :: after ∧ sep ∉ after := by
  induction cs generalizing before with
  | nil => cases h
  | cons c cs ih =>
      rw [splitAfterLast_cons] at h
      cases hrest : splitAfterLast sep cs with
      | some parts =>
          rw [hrest] at h
          cases h
          obtain ⟨front, hbefore, hcs, hafter⟩ := ih hrest
          exact ⟨c :: front, by rw [hbefore, List.cons_append], by rw [hcs, List.cons_append], hafter⟩
      | none =>
          rw [hrest] at h
          by_cases hc : c = sep
          · subst hc
            simp only [if_true, Option.some.injEq, Prod.mk.injEq] at h
            obtain ⟨rfl, rfl⟩ := h
            exact ⟨[], rfl, rfl, not_mem_of_splitAfterLast hrest⟩
          · simp [hc] at h

/-! ## Packages and simple names -/

/-- The name of a package: it ends in a separator. -/
def IsPackage (package : String) : Prop := ∃ front : String, package = front ++ String.singleton pathSeparator

/-- A name without package. -/
def IsSimpleName (name : String) : Prop := pathSeparator ∉ name.toList

theorem isPackage_iff {package : String} :
    IsPackage package ↔ ∃ front, package.toList = front ++ [pathSeparator] := by
  constructor
  · rintro ⟨front, rfl⟩
    exact ⟨front.toList, by simp⟩
  · rintro ⟨front, h⟩
    exact ⟨String.ofList front, String.toList_inj.1 (by rw [h]; simp)⟩

/-- A name is split into its package and its simple name, which make it up. -/
theorem splitUnitName_eq_some_iff {name package simple : String} :
    splitUnitName name = some (package, simple) ↔
      name = package ++ simple ∧ IsPackage package ∧ IsSimpleName simple := by
  rw [isPackage_iff]
  constructor
  · intro h
    obtain ⟨⟨before, after⟩, hsplit, hparts⟩ := Option.map_eq_some_iff.1 h
    obtain ⟨front, rfl, hname, hafter⟩ := splitAfterLast_eq_some hsplit
    cases hparts
    refine ⟨String.toList_inj.1 ?_, ⟨front, by simp⟩, by rwa [IsSimpleName, String.toList_ofList]⟩
    rw [hname]
    simp [String.toList_append]
  · rintro ⟨rfl, ⟨front, hpackage⟩, hsimple⟩
    have hname : (package ++ simple).toList = front ++ pathSeparator :: simple.toList := by
      simp [String.toList_append, hpackage]
    rw [splitUnitName, hname, splitAfterLast_append front hsimple, Option.map_some]
    simp [← hpackage]

theorem splitUnitName_eq_none_iff {name : String} :
    splitUnitName name = none ↔ IsSimpleName name := by
  rw [splitUnitName, Option.map_eq_none_iff]
  exact ⟨not_mem_of_splitAfterLast, splitAfterLast_eq_none⟩

/-! ## Units and methods -/

/-- A method name without a point belongs to the unit that it was joined to. -/
theorem methodOwner?_qualifiedMethodName (unit : String) {method : String}
    (h : methodSeparator ∉ method.toList) :
    methodOwner? (qualifiedMethodName unit method) = some unit := by
  have htext : (qualifiedMethodName unit method).toList =
      unit.toList ++ methodSeparator :: method.toList := by
    simp [qualifiedMethodName, String.toList_append]
  rw [methodOwner?, htext, splitAfterLast_append _ h]
  show some (String.ofList (unit.toList ++ [methodSeparator]).dropLast) = some unit
  rw [List.dropLast_concat, String.ofList_toList]

/-- The owner of a name is what stands before its last point. -/
theorem methodOwner?_eq_some_iff {name unit : String} :
    methodOwner? name = some unit ↔
      ∃ method : String, methodSeparator ∉ method.toList ∧ name = qualifiedMethodName unit method := by
  constructor
  · intro h
    obtain ⟨⟨before, after⟩, hsplit, howner⟩ := Option.map_eq_some_iff.1 h
    obtain ⟨front, rfl, hname, hafter⟩ := splitAfterLast_eq_some hsplit
    refine ⟨String.ofList after, by rwa [String.toList_ofList], String.toList_inj.1 ?_⟩
    rw [hname, ← howner]
    simp [qualifiedMethodName, String.toList_append]
  · rintro ⟨method, hmethod, rfl⟩
    exact methodOwner?_qualifiedMethodName unit hmethod

end Instrumentation
