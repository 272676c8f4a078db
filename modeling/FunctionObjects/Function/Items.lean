import FunctionObjects.Function.Base
/-!
# Items of iterables

An iterator is advanced only as far as an answer needs it.
-/

namespace FunctionObjects.Items

variable (d : Dispatch)

/-- The position that a selection stands for. -/
def position (v : Value) : Run Nat := do
  if v.isNone then return 0
  match v with
  | .atom a =>
    match a.index? with
    | some n => if 0 ≤ n && Numeral.Scalar.fits true 64 n then return n.toNat else throw .wrongValue
    | none => throw .wrongValue
  | _ => throw .wrongValue

/-- The item at the position that is set. -/
def nth (self x : Value) : Run Value := do
  if x.isNone then throw .nullInput
  let selection ← Run.field self "selection"
  let n ← position selection
  let c ← d.cursor x
  match ← (← c.skip (min n (c.rest (← get)).length)).next with
  | some (v, _) => return v
  | none => throw (.noItem (← Run.plain selection))

/-- The first item that the predicate accepts. -/
def firstValid (self x : Value) : Run Value := do
  if x.isNone then return .none
  match ← Run.optional self "predicate" with
  | none => return .none
  | some f =>
    let found ← (← d.cursor x).search fun v => do
      return if ← d.accepts f v then some v else none
    return found.getD .none

def isEmpty (x : Value) : Run Value := do
  if x.isNone then throw .nullInput
  return .bool (← (← d.cursor x).next).isNone

/-- The items of all items, one after the other. -/
def concat (x : Value) : Run Value := do
  if x.isNone then throw .nullIterables
  Run.newList (← (← d.cursor x).flatMap d.items)

/-- The items that the predicate accepts. -/
def filter (self x : Value) : Run Value := do
  match ← Run.optional self "predicate" with
  | none => return x
  | some f =>
    if x.isNone then return x
    Run.newList (← (← d.cursor x).filter (d.accepts f))

end FunctionObjects.Items
