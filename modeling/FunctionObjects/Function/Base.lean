import FunctionObjects.Function.Attribute
/-!
# Functions, predicates and operators

The three shapes of a call.  A function or predicate hands its input to the method that its class
defines.  An operator does so only if both sides are there: nothing on one side leaves the other.
-/

namespace FunctionObjects

variable (d : Dispatch)

/-- Calls a function with an input. -/
def callFunction (self x : Value) : Run Value := d.method self "apply" [x]

/-- Calls a predicate with an input. -/
def callPredicate (self x : Value) : Run Value := d.method self "test" [x]

/-- Calls an operator with a state and an input. -/
def callOperator (self state x : Value) : Run Value := d.method self "apply" [state, x]

/-- Folds an input into a state. -/
def applyOperator (self state x : Value) : Run Value :=
  if state.isNone then return x
  else if x.isNone then return state
  else d.method self "_apply" [state, x]

end FunctionObjects
