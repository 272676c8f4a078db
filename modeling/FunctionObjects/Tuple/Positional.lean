import FunctionObjects.Function.Attribute
/-!
# Tuples addressed by position

The number of positions is set when a tuple is made.  Classes that fix it refuse any other number.
-/

namespace FunctionObjects.PositionalTuple

/-- The classes that fix from one to five positions. -/
def fixedClass? (n : Nat) : Option LibraryClass :=
  [.tuple1, .tuple2, .tuple3, .tuple4, .tuple5][n - 1]? |>.filter fun _ => n != 0

/-- Puts values into the tuple class of their number, or of any number beyond the largest one. -/
def ofValues (vs : List Value) : Run Value :=
  let k := (fixedClass? vs.length).getD .arrayTuple
  Run.alloc (.slots k.className none vs)

/-- The class and the values of a tuple. -/
def contents (self : Value) : Run (Ref × ClassName × Option Ty × List Value) := do
  match self with
  | .ref r =>
    match ← Run.cell? r with
    | some (.slots c a vs) => return (r, c, a, vs)
    | _ => throw .noAttribute
  | _ => throw .noAttribute

/-- The position that a value stands for; truth values do not count as numbers here. -/
def index (count : Nat) (v : Value) : Run Nat := do
  match v with
  | .atom (.int i) =>
    if 0 ≤ i ∧ i < count then return i.toNat else throw (.tupleIndexRange i count)
  | v => throw (.tupleIndexType (← Run.typeName v))

/-- The value at a position. -/
def get (self : Value) (i : Value) : Run Value := do
  let (_, _, _, vs) ← contents self
  Run.require .noIndex vs[← index vs.length i]?

/-- Stores a value at a position. -/
def put (self : Value) (i v : Value) : Run Value := do
  let (r, c, a, vs) ← contents self
  let n ← index vs.length i
  Run.write r (.slots c a (vs.set n v))
  return .none

/-- A new list of the values. -/
def values (self : Value) : Run Value := do
  let (_, _, _, vs) ← contents self
  Run.newList vs

end FunctionObjects.PositionalTuple
