import FunctionObjects.Function.Base
import FunctionObjects.Function.Expressions
/-!
# Texts that match expressions

An expression matches if it matches the whole text; what is no text does not match.
-/

namespace FunctionObjects.Matching

variable (d : Dispatch)

/-- Reads an expression; one that is malformed is refused with its text. -/
def compile (v : Value) : Run Value := do
  match ← Run.pattern v with
  | .ok p => return .atom (.pattern p)
  | .error .syntaxRule => throw (.badExpression (← Run.shown v))
  | .error m => throw m.fault

/-- Stores an expression, or nothing. -/
def setExpression (self v : Value) : Run Unit := do
  Run.setField self "value" (← if v.isNone then pure v else compile v)

/-- Stores several expressions. -/
def setExpressions (self v : Value) : Run Unit := do
  let vs ← if ← d.truth v then d.items v else pure []
  Run.setField self "patterns" (← Run.newList (← vs.mapM compile))

def isText (x : Value) : Bool :=
  match x with
  | .atom a => a.text?.isSome
  | _ => false

/-- Whether the expression matches. -/
def test (self x : Value) : Run Value := do
  if !isText x then return .bool false
  match ← Run.optional self "value" with
  | none => return .bool false
  | some p => return .bool (← Run.matchesWhole p x)

/-- Whether one of the expressions matches. -/
def testAny (self x : Value) : Run Value := do
  if !isText x then return .bool false
  return .bool (← go (← d.itemsOf self "patterns"))
where
  go : List Value → Run Bool
    | [] => return false
    | p :: ps => do if ← Run.matchesWhole p x then return true else go ps

end FunctionObjects.Matching
