import FunctionObjects.Function.Base
import FunctionObjects.Value.Conversion
/-!
# Aggregating

What operators do with their state and an input: numbers are aggregated, texts and collections are joined.
Truth values do not count as numbers here.
-/

namespace FunctionObjects.Aggregation

variable (d : Dispatch)

/-- Whether a value is a number that is no truth value. -/
def isNumber (w : World) (v : Value) : Bool :=
  let c := w.classOf v
  !w.hierarchy.sub c (.core "bool") && w.hierarchy.sub c ⟨"numbers", "Number"⟩

/-- Refuses what is no number. -/
def requireNumber (self v : Value) : Run Unit := do
  if !isNumber (← get) v then throw (.notANumber (← Run.typeName self) (← Run.typeName v))

/-- Aggregates two numbers as the class says. -/
def apply (self state x : Value) : Run Value := do
  requireNumber self state
  requireNumber self x
  d.method self "_aggregate" [state, x]

/-- The greater one of two values, the first one of equal ones. -/
def greatest (x y : Value) : Run Value := do if ← Run.holds .gt y x then return y else return x

/-- The lesser one of two values, the first one of equal ones. -/
def least (x y : Value) : Run Value := do if ← Run.holds .lt y x then return y else return x

end FunctionObjects.Aggregation

/-!
## Concatenating

Texts are joined by a separator.  Collections that can grow take the items of the input in, so the
state stays the object that it is.
-/

namespace FunctionObjects.Concatenation

variable (d : Dispatch)

/-- Joins two values as texts. -/
def joinTexts (self state x : Value) : Run Value := do
  let separator ← Run.field self "separator"
  return .str ((← Run.plain state) ++ (← Run.plain separator) ++ (← Run.plain x))

/-- Adds the items of the input to the state. -/
def extend (state x : Value) : Run Value := do
  match state with
  | .ref r =>
    match ← Run.cell? r with
    | some (.set ms) =>
      let more ← Run.addMembers [] (← d.items x)
      Run.write r (.set (← Run.addMembers ms more))
      return state
    | some (.list vs) =>
      let more ← d.items x
      Run.write r (.list (vs ++ more))
      return state
    | some (.bytearray bs) =>
      let more ← Dispatch.bytesOf.numbers d x
      Run.write r (.bytearray (bs ++ more))
      return state
    | _ => throw (.notACollection (← Run.typeName state))
  | _ => throw (.notACollection (← Run.typeName state))

end FunctionObjects.Concatenation
