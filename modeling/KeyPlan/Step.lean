import KeyPlan.Action.Instruction
import KeyPlan.Log

/-!
# Steps

A step is an instruction with a name and a description, as a plan hands it over. The steps of a plan
become actions in order; a step whose instruction is refused is dropped, and the log tells why.

## Main definitions

* `Step`: one step of a plan
* `Step.parse`: the action of a step
* `Step.actions`, `Step.dropped`: the actions of a plan, and the lines on what is dropped
-/

namespace KeyPlan

/-- **One step of a plan.** -/
structure Step where
  name : String := ""
  instruction : String
  description : String := ""
  deriving DecidableEq, Repr

namespace Step

/-- The action of a step. -/
def parse (s : Step) : Except Instruction.Error Action :=
  Instruction.parse s.instruction s.description

/-- The action of a step, if its instruction has one. -/
def action? (s : Step) : Option Action := s.parse.toOption

/-- The line on a step that is dropped. -/
def dropLine? (s : Step) : Option LogLine :=
  match s.parse with
  | .ok _ => none
  | .error e =>
    some ⟨.warn, "⚠️ [Plan] Dropping step '" ++ s.name ++ "' (" ++
      String.ofList (Text.quoted s.instruction.toList) ++ "): " ++ e.message⟩

/-- **The actions of a plan**, in order. -/
def actions (steps : List Step) : List Action := steps.filterMap action?

/-- The lines on the steps of a plan that are dropped. -/
def dropped (steps : List Step) : List LogLine := steps.filterMap dropLine?

@[simp] theorem actions_append (xs ys : List Step) :
    actions (xs ++ ys) = actions xs ++ actions ys :=
  List.filterMap_append

/-- Every step is either an action or a line on why it is none. -/
theorem action?_isSome_iff (s : Step) : s.action?.isSome ↔ s.dropLine? = none := by
  unfold action? dropLine?
  cases s.parse <;> simp [Except.toOption]

end Step

end KeyPlan
