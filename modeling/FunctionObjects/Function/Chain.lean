import FunctionObjects.Function.Base
import FunctionObjects.Signature.Recovery
/-!
# Chains

A chain applies its functions in order, each to what the one before gave.
-/

namespace FunctionObjects.Chain

variable (d : Dispatch)

/-- Hands a value through functions. -/
def through (x : Value) (fs : List Value) : Run Value := fs.foldlM (fun x f => d.call f [x]) x

def apply (self x : Value) : Run Value := do through d x (← d.itemsOf self "functions")

/-- Checks every two consecutive functions. -/
def validate (self : Value) : Run Value := do
  let fs ← d.itemsOf self "functions"
  return .atom (.result (← Run.lift ((← get).validateChain fs)))

end FunctionObjects.Chain
