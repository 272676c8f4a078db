import FunctionObjects.Call.Method
/-!
# Using tuples as collections

Tuples can be read by brackets, searched, and made of a size.
-/

namespace FunctionObjects.TupleObject

variable (d : Dispatch)

/-- A tuple of so many positions without values; a negative size counts as none. -/
def ofSize (size : Value) : Run Value := do
  let n ← Run.require .wrongType (← Run.atom size).index?
  Run.alloc (.slots LibraryClass.arrayTuple.className none (List.replicate n.toNat .none))

/-- What an object has in brackets. -/
def item (self r : Value) : Run Value := do
  let w ← get
  match w.member? (w.classOf self) "__getitem__" with
  | some _ => d.method self "__getitem__" [r]
  | none => throw .wrongType

/-- The names of an object's fields. -/
def names (self : Value) : Run Value := d.method self "fields" []

/-- Whether a value is among the items of an object. -/
def holds (self x : Value) : Run Bool := do
  let found ← (← d.cursor self).search fun v => do
    return if ← Run.contains [v] x then some () else none
  return found.isSome

/-- The values of a tuple, read again after the list of them has been changed. -/
def valuesAfterEdit (self : Value) (extra : Value) : Run Value := do
  let vs ← d.method self "values" []
  match vs with
  | .ref r =>
    match ← Run.cell? r with
    | some (.list items) => Run.write r (.list (items ++ [extra]))
    | _ => throw .noAttribute
  | _ => throw .noAttribute
  d.method self "values" []

/-- Whether two values have the same hash; both must have one. -/
def sameHash (x y : Value) : Run Bool := do
  let k ← Run.require .wrongType (← Run.datum x).hashKey?
  let l ← Run.require .wrongType (← Run.datum y).hashKey?
  return k.sameItem l

end FunctionObjects.TupleObject
