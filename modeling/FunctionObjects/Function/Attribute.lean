import FunctionObjects.Class.Member
import FunctionObjects.Value.Operators
/-!
# Attributes

Function objects keep what they are made of under names, in the order in which the names were first
set.  A name that is not there is a fault.
-/

namespace FunctionObjects

namespace Run

/-- What is set under a name on an object. -/
def field? (self : Value) (name : String) : Run (Option Value) :=
  return ((← get).attributes self).lookup name

/-- What is set under a name on an object that must have it. -/
def field (self : Value) (name : String) : Run Value := do
  require .noAttribute (← field? self name)

/-- What is set under a name, or nothing for the value that stands for nothing. -/
def optional (self : Value) (name : String) : Run (Option Value) := do
  let v ← field self name
  return if v.isNone then none else some v

/-- Sets a name: in its place if it is there, or at the end. -/
def assign (attributes : List (String × Value)) (name : String) (v : Value) :
    List (String × Value) :=
  if attributes.any (·.1 == name) then
    attributes.map fun a => if a.1 == name then (name, v) else a
  else attributes ++ [(name, v)]

/-- Sets a name on an object. -/
def setField (self : Value) (name : String) (v : Value) : Run Unit := do
  match self with
  | .ref r =>
    match ← cell? r with
    | some (.object c a fields) => write r (.object c a (assign fields name v))
    | _ => throw .noAttribute
  | _ => throw .noAttribute

end Run

namespace Dispatch

variable (d : Dispatch)

/-- A new list of the items of a value, which may also be nothing or empty. -/
def listOf (v : Value) : Run Value := do
  if ← d.truth v then Run.newList (← d.items v) else Run.newList []

/-- The items that are set under a name. -/
def itemsOf (self : Value) (name : String) : Run (List Value) := do
  d.items (← Run.field self name)

/-- Calls a value and asks whether the outcome counts as true. -/
def accepts (f : Value) (x : Value) : Run Bool := do
  d.truth (← d.call f [x])

end Dispatch

/-- An operation whose failure on values of the wrong type counts as a no. -/
def Run.orUnordered (x : Run Bool) : Run Bool :=
  tryCatch x fun f => if f.kind = .type then return false else throw f

end FunctionObjects
