import FunctionObjects.Function.Base
import FunctionObjects.Value.Operators
/-!
# Age

A time stamp in milliseconds is young if less than the age that is set lies between it and the
clock.  The age can also be read and set in days and in hours.
-/

namespace FunctionObjects.Age

def hour : Nat := 3600000

def day : Nat := 24 * hour

/-- A year. -/
def standard : Nat := 365 * day

/-- The age in units of some milliseconds. -/
def inUnits (self : Value) (unit : Nat) : Run Value := do
  match ← Run.field self "age_off_time" with
  | .atom a =>
    let q ← Run.require .wrongType (Quantity.ofAtom? a)
    return .atom (← Run.lift (q.dividedBy unit)).toAtom
  | _ => throw .wrongType

/-- Sets the age in units of some milliseconds. -/
def setInUnits (self v : Value) (unit : Nat) : Run Unit := do
  Run.setField self "age_off_time" (← Run.mul v (.int unit))

/-- Whether a time stamp is young. -/
def test (self x : Value) : Run Value := do
  if x.isNone then return .bool false
  let now ← Run.mul (← get).clock (.int 1000)
  Run.relation .lt (← Run.sub now x) (← Run.field self "age_off_time")

end FunctionObjects.Age
