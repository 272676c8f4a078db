import FunctionObjects.Function.Base
/-!
# Combining predicates

Predicates are asked from the first to the last, and only as long as the answer is open.
-/

namespace FunctionObjects.Logical

variable (d : Dispatch)

/-- Whether all of some predicates accept a value. -/
def all (x : Value) : List Value → Run Bool
  | [] => return true
  | f :: fs => do if ← d.accepts f x then all x fs else return false

/-- Whether one of some predicates accepts a value. -/
def any (x : Value) : List Value → Run Bool
  | [] => return false
  | f :: fs => do if ← d.accepts f x then return true else any x fs

def conjunction (self x : Value) : Run Value := do
  return .bool (← all d x (← d.itemsOf self "predicates"))

def disjunction (self x : Value) : Run Value := do
  return .bool (← any d x (← d.itemsOf self "predicates"))

/-- The opposite of a predicate; without one nothing is accepted. -/
def negation (self x : Value) : Run Value := do
  match ← Run.optional self "predicate" with
  | none => return .bool false
  | some f => return .bool (!(← d.accepts f x))

end FunctionObjects.Logical
