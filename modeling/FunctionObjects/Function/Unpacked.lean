import FunctionObjects.Function.Base
import FunctionObjects.Signature.Recovery
import FunctionObjects.Tuple.Positional
/-!
# Functions of several values

A function of several values is called with one tuple of exactly that many values.  A plain tuple
that it gives is packed again if its signature promises a tuple.
-/

namespace FunctionObjects.Unpacked

variable (d : Dispatch)

/-- The whole number that an object has under the name of its arity. -/
def arity (self : Value) : Run Int := do
  let w ← get
  match w.member? (w.classOf self) "arity" with
  | some (.arity n) => return n
  | some (.library .arrayTuple (.property .size)) =>
    let (_, _, _, vs) ← PositionalTuple.contents self
    return vs.length
  | _ => throw .noAttribute

/-- Whether a value is a tuple addressed by position, or of a class that counts as one. -/
def isPositional (v : Value) : Run Bool := do
  let w ← get
  return w.hierarchy.sub (w.classOf v) LibraryClass.arrayTuple.className

/-- The values of an input, which must be a tuple of the arity that an object has. -/
def unpack (self x : Value) : Run (List Value) := do
  let n ← arity self
  if ← isPositional x then
    let m ← arity x
    if m = n then d.items (← d.method x "values" [])
    else throw (.arity (← Run.typeName self) n (.count m))
  else throw (.arity (← Run.typeName self) n (.instance' (← Run.typeName x)))

/-- Whether the output of a function is declared to be a tuple class that fixes its positions. -/
def declaresTuple (w : World) (self : Value) : Except Fault Bool := do
  match ← w.signature .output self with
  | .single _ => return false
  | .tuple t _ =>
    return t.originClass?.any fun c => w.isSubclass c LibraryClass.fixedTuple.className

/-- Packs a plain tuple again if it is declared. -/
def repack (self result : Value) : Run Value := do
  match result with
  | .tuple vs =>
    if ← Run.lift (declaresTuple (← get) self) then PositionalTuple.ofValues vs else return result
  | v => return v

/-- Unpacks the input for the function. -/
def delegateApply (self x : Value) : Run Value := do
  repack self (← d.method self "apply" (← unpack d self x))

/-- Unpacks the input for the predicate. -/
def delegateTest (self x : Value) : Run Value := do
  d.method self "test" (← unpack d self x)

def callFunction (self x : Value) : Run Value := d.method self "delegate_apply" [x]

def callPredicate (self x : Value) : Run Value := d.method self "delegate_test" [x]

end FunctionObjects.Unpacked
