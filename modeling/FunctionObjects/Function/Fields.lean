import FunctionObjects.Function.Adapted
import FunctionObjects.Tuple.Positional
/-!
# Tuple fields as inputs and outputs

One adapter selects values of a tuple, the other one writes an output back into it.  A single
reference stands for the value itself, several ones for a tuple of values.
-/

namespace FunctionObjects.Fields

variable (d : Dispatch)

/-- The values under some references. -/
def selected (x : Value) (selection : List Value) : Run Value := do
  match selection with
  | [r] => d.method x "get" [r]
  | rs => PositionalTuple.ofValues (← rs.mapM fun r => d.method x "get" [r])

def select (self x : Value) : Run Value := do
  if x.isNone then return .none
  selected d x (← d.itemsOf self "selection")

/-- Stores values under references, one after the other. -/
def store (state : Value) (pairs : List (Value × Value)) : Run Unit :=
  pairs.forM fun (r, v) => do let _ ← d.method state "put" [r, v]

/-- Writes an output into a state, and gives the state itself. -/
def project (self state output : Value) : Run Value := do
  let projection ← d.itemsOf self "projection"
  if projection.isEmpty then throw .projectionMissing
  if state.isNone then return state
  match projection with
  | [r] =>
    let _ ← d.method state "put" [r, output]
    return state
  | rs =>
    let vs ← d.items output
    if vs.length = rs.length then
      store d state (rs.zip vs)
      return state
    else throw (.arity (← Run.typeName self) rs.length (.count vs.length))

end FunctionObjects.Fields
