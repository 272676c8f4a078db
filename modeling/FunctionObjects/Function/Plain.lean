import FunctionObjects.Function.Base
import FunctionObjects.Function.Expressions
import FunctionObjects.Tuple.Positional
/-!
# Functions of numbers and texts

Numbers are divided and multiplied, texts are joined, and what matches in them is replaced.  Division
floors, so the remainder has the sign of the divisor.
-/

namespace FunctionObjects.Numbers

/-- Stores a divisor, which must not be zero. -/
def setDivisor (self by' : Value) : Run Unit := do
  if ← Run.same by' (.int 0) then throw .divisorZero
  Run.setField self "by" by'

/-- Quotient and remainder as a tuple. -/
def divide (self x : Value) : Run Value := do
  if x.isNone then return .none
  let (q, r) ← Run.divMod x (← Run.field self "by")
  PositionalTuple.ofValues [q, r]

def multiply (self x : Value) : Run Value := do
  if x.isNone then return .none
  Run.mul x (← Run.field self "by")

end FunctionObjects.Numbers

/-!
## Replacing and joining texts
-/

namespace FunctionObjects.Texts

/-- Stores an expression, read if it is given as a text, and what replaces its matches. -/
def setUp (self regex replacement : Value) : Run Unit := do
  let regex ← match regex with
    | .atom a =>
      if a.text?.isSome then do
        let p ← Run.pattern regex
        pure (.atom (.pattern (← Run.lift (p.mapError Regex.Malformed.fault))))
      else pure regex
    | v => pure v
  Run.setField self "regex" regex
  Run.setField self "replacement" replacement

/-- Replaces every match in the input. -/
def replace (self x : Value) : Run Value := do
  if x.isNone then return .none
  match ← Run.optional self "regex" with
  | none => throw .regexMissing
  | some (.atom (.pattern p)) =>
    let replacement ← Run.subject p (← Run.field self "replacement")
    let g ← Run.program p
    let _ ← Run.lift ((Regex.pieces g replacement.length replacement).mapError
      Regex.Malformed.fault)
    let cs ← Run.subject p x
    let out ← Run.lift ((g.replace replacement cs).mapError Regex.Malformed.fault)
    return if p.binary then .atom (.bytes (out.map Char.toNat)) else .str (String.ofList out)
  | some _ => throw .noAttribute

/-- Joins two values as texts; what stands for nothing is left out. -/
def concat (self x y : Value) : Run Value := do
  if x.isNone && y.isNone then return .none
  match ← Run.field self "separator" with
  | .atom a =>
    match a.text?, a.bytes? with
    | some s, _ =>
      let texts ← ([x, y].filter (!·.isNone)).mapM Run.plain
      return .str (String.intercalate s texts)
    | _, some _ => throw .wrongType
    | _, _ => throw .noAttribute
  | _ => throw .noAttribute

end FunctionObjects.Texts
