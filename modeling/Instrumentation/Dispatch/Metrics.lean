import Instrumentation.Event.Kind

set_option autoImplicit false

/-!
# Counts of dispatch outcomes

Every submitted event ends in one of four outcomes, which are counted for each kind of event.
-/

namespace Instrumentation

/-- How a submitted event ends. -/
inductive Outcome where
  /-- A handler accepted the event. -/
  | delivered
  /-- There was no handler for the thread. -/
  | unrouted
  /-- The exception filter refused the event. -/
  | filtered
  /-- The handler returned an error or panicked. -/
  | failed
deriving DecidableEq, Repr, Inhabited

/-- How often each outcome was seen. Counts have 64 bits. -/
structure EventCounts where
  delivered : UInt64 := 0
  unrouted : UInt64 := 0
  filtered : UInt64 := 0
  failed : UInt64 := 0
deriving DecidableEq, Repr, Inhabited

namespace EventCounts

/-- Counts one outcome. -/
def record (c : EventCounts) : Outcome → EventCounts
  | .delivered => { c with delivered := c.delivered + 1 }
  | .unrouted => { c with unrouted := c.unrouted + 1 }
  | .filtered => { c with filtered := c.filtered + 1 }
  | .failed => { c with failed := c.failed + 1 }

/-- The number of events. -/
def total (c : EventCounts) : UInt64 := c.delivered + c.unrouted + c.filtered + c.failed

/-- The sum of two counts. -/
def add (a b : EventCounts) : EventCounts :=
  { delivered := a.delivered + b.delivered
    unrouted := a.unrouted + b.unrouted
    filtered := a.filtered + b.filtered
    failed := a.failed + b.failed }

end EventCounts

/-- The counts of all kinds of events. -/
structure DispatchMetrics where
  perKind : Vector EventCounts EventKind.count := Vector.replicate _ {}

/-- The counts at one moment: the kinds that were seen, and the sum over all kinds. -/
structure DispatchSnapshot where
  byKind : List (EventKind × EventCounts)
  totals : EventCounts
deriving Repr, Inhabited

namespace DispatchMetrics

/-- Nothing has been counted. -/
def zero : DispatchMetrics := {}

instance : Inhabited DispatchMetrics := ⟨zero⟩

/-- The counts of a kind. -/
def counts (m : DispatchMetrics) (k : EventKind) : EventCounts := m.perKind[k.index]

/-- Counts one outcome of an event of a kind. -/
def record (m : DispatchMetrics) (k : EventKind) (o : Outcome) : DispatchMetrics :=
  { perKind := m.perKind.set k.index ((m.counts k).record o) }

/-- Counts one outcome several times. -/
def recordTimes (m : DispatchMetrics) (k : EventKind) (o : Outcome) : Nat → DispatchMetrics
  | 0 => m
  | n + 1 => recordTimes (m.record k o) k o n

/-- The kinds that were seen at least once, with their counts, and the sum of these. -/
def snapshot (m : DispatchMetrics) : DispatchSnapshot :=
  let seen := (EventKind.all.map fun k => (k, m.counts k)).filter fun e => e.2.total != 0
  { byKind := seen, totals := seen.foldl (fun acc e => acc.add e.2) {} }

/-- Counting changes the counts of the event's own kind only. -/
theorem counts_record (m : DispatchMetrics) (k k' : EventKind) (o : Outcome) :
    (m.record k o).counts k' = if k' = k then (m.counts k).record o else m.counts k' := by
  unfold record counts
  by_cases h : k' = k
  · subst h; simp
  · have hi : (k.index : Nat) ≠ k'.index := fun he => h (EventKind.index_injective (Fin.ext he)).symm
    simp [h, Vector.getElem_set_ne _ _ hi]

end DispatchMetrics

end Instrumentation
