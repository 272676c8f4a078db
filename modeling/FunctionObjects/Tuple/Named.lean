import FunctionObjects.Function.Attribute
/-!
# Tuples addressed by name

Names that are not there read as nothing.
-/

namespace FunctionObjects.NamedTuple

/-- The class and the entries of a tuple. -/
def contents (self : Value) : Run (Ref × ClassName × Option Ty × List (Value × Value)) := do
  match self with
  | .ref r =>
    match ← Run.cell? r with
    | some (.fields c a es) => return (r, c, a, es)
    | _ => throw .noAttribute
  | _ => throw .noAttribute

/-- The value under a name, or nothing. -/
def get (self : Value) (k : Value) : Run Value := do
  let (_, _, _, es) ← contents self
  return (← Run.lookup? es k).getD .none

/-- Stores a value under a name. -/
def put (self : Value) (k v : Value) : Run Value := do
  let (r, c, a, es) ← contents self
  Run.write r (.fields c a (← Run.insert es k v))
  return .none

/-- A new list of the values, in the order of their names. -/
def values (self : Value) : Run Value := do
  let (_, _, _, es) ← contents self
  Run.newList (es.map (·.2))

/-- A new list of the names. -/
def names (self : Value) : Run Value := do
  let (_, _, _, es) ← contents self
  Run.newList (es.map (·.1))

end FunctionObjects.NamedTuple
