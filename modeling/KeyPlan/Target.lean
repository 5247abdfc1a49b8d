/-!
# Targets

A target names an application that is to be brought to the front, by its name and if possible by its
bundle identifier.

## Main definitions

* `Target`: the name of an application
* `Target.sameAs`: two targets mean the same application
* `Target.display`: how a target is shown
-/

namespace KeyPlan

/-- **The name of an application**, with its bundle identifier if that is known. -/
structure Target where
  bundleId : Option String := none
  name : String
  deriving DecidableEq, Repr

namespace Target

/-- **Two targets mean the same application**: bundle identifiers decide if both are known,
otherwise names do. -/
def sameAs (a b : Target) : Bool :=
  match a.bundleId, b.bundleId with
  | some i, some j => i == j
  | _, _ => a.name == b.name

/-- How a target is shown. -/
def display (t : Target) : String :=
  match t.bundleId with
  | some id => t.name ++ " (" ++ id ++ ")"
  | none => t.name

end Target

end KeyPlan
