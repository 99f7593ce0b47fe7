import Instrumentation.Yaml.Document

set_option autoImplicit false

/-!
# Jumps to anchored nodes

A reader that meets an alias jumps to the node that the alias stands for. Since that node may hold aliases
itself, a short text can stand for a huge tree. Therefore the number of jumps is limited by the size of the
text, and it is counted before anything is read. What a reader does not look at does not count.
-/

namespace Instrumentation.Yaml

/-- The number of jumps that are allowed for every event of a text. -/
def jumpsPerEvent : Nat := 100

namespace Node

mutual

/-- The number of events that a tree is written with: one for a leaf, and the start and the end of a
collection. -/
def events : Node → Nat
  | void => 1
  | aliasOf _ => 1
  | scalar _ _ _ => 1
  | sequence _ items => 2 + itemEvents items
  | mapping _ entries => 2 + entryEvents entries
  | anchored _ n => events n

/-- The number of events of the items of a sequence. -/
def itemEvents : List Node → Nat
  | [] => 0
  | n :: ns => events n + itemEvents ns

/-- The number of events of the entries of a mapping. -/
def entryEvents : List (Node × Node) → Nat
  | [] => 0
  | (k, v) :: es => events k + events v + entryEvents es

end

/-- The jumps that are left after the step to a node; none if an alias finds none left. -/
def jump? (left : Nat) : Node → Option Nat
  | aliasOf _ => if left = 0 then none else some (left - 1)
  | _ => some left

/-- The jumps that are left after a node has been taken in whole, inside of which a number of collections
may be nested. -/
def jumpWhole? (targets : List (Nat × Node)) (depth left : Nat) (node : Node) : Option Nat := do
  let left ← jump? left node
  match ← bare? targets node with
  | sequence _ items =>
      match depth with
      | 0 => none
      | d + 1 => items.foldlM (jumpWhole? targets d) left
  | mapping _ entries =>
      match depth with
      | 0 => none
      | d + 1 =>
          entries.foldlM (fun left (k, v) => do
            let left ← jumpWhole? targets d left k
            jumpWhole? targets d left v) left
  | _ => some left

mutual

/-- The jumps that are left after a node has been read by an outline. -/
def jumpOutline? (targets : List (Nat × Node)) (depth left : Nat) (node : Node) :
    Outline → Option Nat
  | .value => jump? left node
  | .list item => do
      let left ← jump? left node
      match ← bare? targets node with
      | sequence _ items =>
          items.foldlM (fun left n => jumpOutline? targets (depth - 1) left n item) left
      | _ => some left
  | .record fields => do
      let left ← jump? left node
      match ← bare? targets node with
      | mapping _ entries =>
          entries.foldlM (fun left (k, v) => do
            let left ← jump? left k
            match ← bare? targets k with
            | scalar _ _ name => jumpField? targets (depth - 1) left name v fields
            | _ => none) left
      | _ => some left
  | .whole => jumpWhole? targets depth left node

/-- The jumps that are left after the value of a field has been read, if a record has the field. -/
def jumpField? (targets : List (Nat × Node)) (depth left : Nat) (name : String) (node : Node) :
    List (String × Outline) → Option Nat
  | [] => some left
  | (field, o) :: fields =>
      if field = name then jumpOutline? targets depth left node o
      else jumpField? targets depth left name node fields

end

end Node

/-- The tree of a text for a reader with an outline; none if reading it would take too many jumps. -/
def Piece.ofText? (outline : Outline) (text : String) : Option Piece := do
  let n ← Node.ofText? text
  let p := whole n
  let _ ← n.jumpOutline? p.targets nestingLimit (jumpsPerEvent * n.events) outline
  some p

end Instrumentation.Yaml
