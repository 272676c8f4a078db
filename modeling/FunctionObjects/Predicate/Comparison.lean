import FunctionObjects.Function.Base
import FunctionObjects.Signature.Recovery
/-!
# Comparisons with a value

Values that are not ordered are in no order, which is an answer and not a fault.
-/

namespace FunctionObjects.Comparison

variable (d : Dispatch)

/-- Whether a relation holds between two values, of which neither may be nothing. -/
def ordered (r : Rel) (x y : Value) : Run Value := do
  if x.isNone || y.isNone then return .bool false
  return .bool (← Run.orUnordered (Run.holds r x y))

/-- Whether the input stands in a relation to the value that is set; `orEqual` is the relation to use
if equal values are accepted. -/
def test (strict orEqual : Rel) (self x : Value) : Run Value := do
  let accepted ← d.truth (← Run.field self "or_equal_to")
  ordered (if accepted then orEqual else strict) x (← Run.field self "value")

/-- Whether the input is equal to the value that is set. -/
def isEqual (self x : Value) : Run Value := do Run.equal x (← Run.field self "value")

/-- Checks two types that have to be the same, after all else has been checked. -/
def sameTypes (r : ValidationResult) (ts : List Ty) : ValidationResult :=
  match ts with
  | [t, u] =>
    if r.isValid && !t.same u then
      r.addError ("Inputs must be of the same type, got " ++ t.name ++ " and " ++ u.name)
    else r
  | _ => r

end FunctionObjects.Comparison
