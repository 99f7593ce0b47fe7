import Instrumentation.Registry.Basic

set_option autoImplicit false

/-!
# Configuring the registry

A configuration adds excluded beginnings, installs built-in rules and adds rules of its own. Rules that
were there stay, as far as they are not excluded now and not replaced. A rule takes the place of the rule
with the same key, except that a built-in rule does not displace a configured one. No rule is added for a
unit that is claimed.
-/

namespace Instrumentation.Registry

/-- Adds excluded beginnings. -/
def addExclusions (r : Registry) (beginnings : List String) : Registry :=
  { r with excluded := r.excluded.insertAll beginnings }

/-- Removes the configured rules whose names are excluded. -/
def prune (r : Registry) : Registry :=
  { r with
    pending := r.pending.filter fun _ rule => !r.dropsRule rule
    patterns := r.patterns.filter fun _ rule => !r.dropsRule rule }

/-- Adds one rule under its key. -/
def insert (r : Registry) (rule : Rule) : Registry :=
  if rule.isPattern then { r with patterns := r.patterns.insert rule.key rule }
  else
    match r.pending.find? rule.name with
    | some there =>
        if rule.origin == .builtIn && there.origin == .configured then r
        else { r with pending := r.pending.insert rule.name rule }
    | none =>
        if r.claimed.contains rule.name then r
        else { r with pending := r.pending.insert rule.name rule }

/-- Adds a rule unless it is a configured rule with an excluded name, which is counted. -/
def addRule (r : Registry) (rule : Rule) : Registry :=
  if r.dropsRule rule then r.count .droppedExcluded else r.insert rule

/-- Notes whether built-in rules are on, and installs the selected ones. -/
def install (r : Registry) (selection : BuiltInSelection) : Registry :=
  (builtInRules selection).foldl insert { r with builtInEnabled := selection.enabled }

/-- Applies a configuration: exclusions first, then built-in rules, then the given rules in order. -/
def configure (r : Registry) (rules : List Rule) (beginnings : List String)
    (selection : BuiltInSelection) : Registry :=
  rules.foldl addRule ((r.addExclusions beginnings).prune.install selection)

/-- Plans given out from now on carry the mode. -/
def setDebugMode (r : Registry) (debugMode : Bool) : Registry := { r with debugMode }

end Instrumentation.Registry
