import FunctionObjects.Function.Base
/-!
# Aggregating key by key

Every value of the input is combined with what the state has under the same key, or with nothing.
The first input goes into a new dictionary, so the inputs stay as they are.
-/

namespace FunctionObjects.ByKey

variable (d : Dispatch)

/-- The entries of a dictionary. -/
def entries (v : Value) : Run (List (Value × Value)) := do
  match v with
  | .ref r =>
    match ← Run.cell? r with
    | some (.dict es) => return es
    | _ => throw .noAttribute
  | _ => throw .noAttribute

/-- What a state has under a key, or nothing. -/
def current (state k : Value) : Run Value := d.method state "get" [k]

/-- Stores a value under a key of a dictionary. -/
def store (state k v : Value) : Run Unit := do
  match state with
  | .ref r =>
    match ← Run.cell? r with
    | some (.dict es) => Run.write r (.dict (← Run.insert es k v))
    | _ => throw .wrongType
  | _ => throw .wrongType

/-- Combines one entry of an input into a state. -/
def step (f state : Value) (e : Value × Value) : Run Unit := do
  store state e.1 (← d.call f [← current d state e.1, e.2])

/-- Combines an input into a state. -/
def combine (self state x : Value) : Run Value := do
  match ← Run.optional self "binary_operator" with
  | none => throw (.innerMissing "BinaryOperatorMap" .operator)
  | some f =>
    (← entries x).forM (step d f state)
    return state

/-- Combines an input into a state or a new dictionary. -/
def apply (self state x : Value) : Run Value := do
  if x.isNone then return state
  let state ← if state.isNone then Run.alloc (.dict []) else pure state
  d.method self "_apply" [state, x]

end FunctionObjects.ByKey
