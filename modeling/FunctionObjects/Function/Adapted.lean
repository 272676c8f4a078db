import FunctionObjects.Function.Base
/-!
# Adapted functions

An adapted object translates what comes in for the function inside, and what that gives for the
outside.  The output either replaces the value or is folded into the state that came in; both at
once are refused when the object is made.
-/

namespace FunctionObjects.Adapted

variable (d : Dispatch)

/-- How the input is adapted. -/
def inputKind (self : Value) : Run AdapterKind := do
  return if (← Run.optional self "input_adapter").isSome then .map else .identity

/-- How the output is adapted. -/
def outputKind (self : Value) : Run AdapterKind := do
  if (← Run.optional self "output_fold").isSome then return .fold
  if (← Run.optional self "output_adapter").isSome then return .map
  return .identity

/-- Adapts an input; without an adapter it passes through. -/
def adaptInput (self x : Value) : Run Value := do
  match ← Run.optional self "input_adapter" with
  | some f => d.call f [x]
  | none => return x

/-- Adapts an output; without an adapter it passes through. -/
def adaptOutput (self output state : Value) : Run Value := do
  match ← outputKind self with
  | .fold => d.call (← Run.field self "output_fold") [state, output]
  | .map => d.call (← Run.field self "output_adapter") [output]
  | .identity => return output

/-- The function inside, which must be set. -/
def inner (self : Value) (name : String) (role : Role) : Run Value := do
  match ← Run.optional self name with
  | some f => return f
  | none => throw (.innerMissing (← Run.typeName self) role)

/-- Adapts the input, applies the function, and adapts the output to the input as its state. -/
def applyFunction (self x : Value) : Run Value := do
  let f ← inner self "function" .function
  let y ← d.call f [← d.method self "adapt_input" [x]]
  d.method self "adapt_output" [y, x]

/-- Adapts the input and tests it. -/
def testPredicate (self x : Value) : Run Value := do
  let f ← inner self "predicate" .predicate
  d.call f [← d.method self "adapt_input" [x]]

/-- Adapts the state and the input, applies the operator, and adapts the output to the state. -/
def applyOperator (self state x : Value) : Run Value := do
  let f ← inner self "binary_operator" .operator
  let s ← d.method self "adapt_input" [state]
  let y ← d.method self "adapt_input" [x]
  d.method self "adapt_output" [← d.call f [s, y], state]

/-- The slots of an output, of which only one may be set. -/
def checkSlots (self adapter fold : Value) : Run Unit := do
  if !adapter.isNone && !fold.isNone then throw (.bothSlots (← Run.typeName self))

/-- Sets up the input slot. -/
def setInput (self adapter : Value) : Run Unit := Run.setField self "input_adapter" adapter

/-- Sets up the output slots. -/
def setOutput (self adapter fold : Value) : Run Unit := do
  checkSlots self adapter fold
  Run.setField self "output_adapter" adapter
  Run.setField self "output_fold" fold

/-- Sets up all slots. -/
def setSlots (self input adapter fold : Value) : Run Unit := do
  setInput self input
  setOutput self adapter fold

end FunctionObjects.Adapted
