import KeyPlan.Target
import KeyPlan.Text.Case
import KeyPlan.Text.Search

/-!
# Applications

The applications that are running, and which of them a target means. A bundle identifier has to be
met exactly. A name alone is looked for three times, in any letter case: as a whole name, as a part
of a name, and as a part of a bundle identifier; the first application wins each time.

## Main definitions

* `Application`: a running application
* `Application.resolve?`: the application that a target means
-/

namespace KeyPlan

/-- **A running application.** -/
structure Application where
  pid : Int32
  name : String
  bundleId : Option String := none
  hidden : Bool := false
  deriving DecidableEq, Repr

namespace Application

/-- The name in lower case. -/
def lowerName (a : Application) : List Char := Text.lower a.name.toList

/-- The application has the name, given in lower case. -/
def isNamed (needle : List Char) (a : Application) : Bool :=
  a.lowerName == needle

/-- The name of the application has the part, given in lower case. -/
def nameHas (needle : List Char) (a : Application) : Bool :=
  Text.occursIn needle a.lowerName

/-- The bundle identifier of the application has the part, given in lower case. -/
def bundleHas (needle : List Char) (a : Application) : Bool :=
  a.bundleId.any fun id => Text.occursIn needle (Text.lower id.toList)

/-- **The application that a target means.** -/
def resolve? (apps : List Application) (target : Target) : Option Application :=
  match target.bundleId with
  | some id => apps.find? fun a => a.bundleId == some id
  | none =>
    let needle := Text.lower target.name.toList
    ((apps.find? (isNamed needle)).or (apps.find? (nameHas needle))).or
      (apps.find? (bundleHas needle))

end Application

end KeyPlan
