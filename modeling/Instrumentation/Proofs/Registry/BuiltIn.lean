import Instrumentation.BuiltIn

set_option autoImplicit false

/-!
# Built-in rules

A selection leaves families out and changes nothing else (`builtInRules_sublist`). So what holds of the rules
of all families holds of every selection: they are exact rules of built-in origin (`origin_of_mem`), and no two
of them name one unit (`names_nodup`).
-/

namespace Instrumentation

namespace BuiltIn

theorem builtInRules_sublist (s : BuiltInSelection) :
    (builtInRules s).Sublist (builtInRules .all) := by
  have hfamily : ∀ (b : Bool) (rules : List Rule),
      (if b then rules else []).Sublist rules := by
    intro b rules
    cases b with
    | true => exact List.Sublist.refl rules
    | false => exact List.nil_sublist rules
  unfold builtInRules
  split
  · exact (((hfamily _ _).append (hfamily _ _)).append (hfamily _ _)).append
      (List.Sublist.refl _) |>.append (List.Sublist.refl _)
  · exact List.nil_sublist _

theorem origin_of_mem {rule : Rule} {s : BuiltInSelection} (h : rule ∈ builtInRules s) :
    rule.origin = .builtIn ∧ rule.isPattern = false := by
  have hall : ∀ rule ∈ builtInRules .all, rule.origin = .builtIn ∧ rule.isPattern = false := by
    decide +kernel
  exact hall rule ((builtInRules_sublist s).subset h)

theorem names_nodup (s : BuiltInSelection) : ((builtInRules s).map Rule.name).Nodup := by
  have hall : ((builtInRules .all).map Rule.name).Nodup := by decide +kernel
  exact hall.sublist ((builtInRules_sublist s).map Rule.name)

end BuiltIn

end Instrumentation
