set_option autoImplicit false

/-!
# Names of code units and methods

A unit name is a path, `com/acme/Job`: a package, which ends in the separator, and a simple name without
one. A method is named by its unit, a point and its own name, `com/acme/Job.run`.
-/

namespace Instrumentation

/-- The separator between the parts of a unit name. -/
def pathSeparator : Char := '/'

/-- The separator between a unit and its method. -/
def methodSeparator : Char := '.'

/-- Splits a text after the last occurrence of a character; none if it does not occur. -/
def splitAfterLast (sep : Char) : List Char → Option (List Char × List Char)
  | [] => none
  | c :: cs =>
      match splitAfterLast sep cs with
      | some (before, after) => some (c :: before, after)
      | none => if c = sep then some ([c], cs) else none

/-- The package of a unit name, with its separator, and the simple name; none for a name without package. -/
def splitUnitName (name : String) : Option (String × String) :=
  (splitAfterLast pathSeparator name.toList).map fun (p, s) => (String.ofList p, String.ofList s)

/-- The name of a method of a unit. -/
def qualifiedMethodName (owner method : String) : String :=
  owner ++ String.singleton methodSeparator ++ method

/-- The unit of a qualified method name: what stands before its last point. -/
def methodOwner? (name : String) : Option String :=
  (splitAfterLast methodSeparator name.toList).map fun (p, _) => String.ofList p.dropLast

/-- A text begins with another one. -/
def beginsWith (start text : String) : Bool := start.toList.isPrefixOf text.toList

/-- A list of characters occurs inside another one. -/
def occursIn (part : List Char) : List Char → Bool
  | [] => part.isEmpty
  | c :: cs => part.isPrefixOf (c :: cs) || occursIn part cs

end Instrumentation
