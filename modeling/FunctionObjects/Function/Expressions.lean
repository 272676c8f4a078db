import FunctionObjects.Function.Attribute
import FunctionObjects.Regex.Template
import FunctionObjects.Value.Text
/-!
# Regular expressions as values

An expression as a value knows its text and flags; it is read again where it is used.
-/

namespace FunctionObjects

open FunctionObjects.Regex

/-- The fault that a malformed expression or replacement gives. -/
def Regex.Malformed.fault : Malformed → Fault
  | .syntaxRule => .malformedExpression
  | .countTooLarge => .overflow
  | .unknownGroupName => .noIndex

namespace Pattern

def hasFlag (p : Pattern) (bit : Nat) : Bool := p.flags / bit % 2 = 1

/-- The flags of an expression, by name. -/
def flagSet (p : Pattern) : Flags :=
  ⟨p.hasFlag 2, p.hasFlag 8, p.hasFlag 16, p.hasFlag 64, p.hasFlag 256⟩

def program? (p : Pattern) : Except Malformed Program :=
  Program.read p.source.toList (!p.binary) p.flagSet

/-- The number of a set of flags. -/
def flagNumber (f : Flags) : Nat :=
  (if f.ignoreCase then 2 else 0) + (if f.multiline then 8 else 0) + (if f.dotAll then 16 else 0) +
    (if f.verbose then 64 else 0) + (if f.ascii then 256 else 0)

/-- The expression of a text under some flags; flags that the text sets itself are among its own. -/
def read (source : String) (binary : Bool) (flags : Nat) : Except Malformed Pattern := do
  let g ← program? ⟨source, binary, flags⟩
  let number := flagNumber g.flags
  return ⟨source, binary, if binary || g.flags.ascii then number else number + unicodeFlag⟩

end Pattern

namespace Run

/-- The expression that a value is or that its text makes. -/
def pattern (v : Value) : Run (Except Malformed Pattern) := do
  match v with
  | .atom (.pattern p) => return .ok p
  | .atom a =>
    match a.text?, a.bytes? with
    | some s, _ => return Pattern.read s false 0
    | _, some bs => return Pattern.read (String.ofList (bs.map Char.ofNat)) true 0
    | _, _ => throw .wrongType
  | _ => throw .wrongType

/-- Reads an expression that has been read before. -/
def program (p : Pattern) : Run Program := lift (p.program?.mapError Malformed.fault)

/-- The characters of a subject for an expression of its kind. -/
def subject (p : Pattern) (v : Value) : Run (List Char) := do
  match v with
  | .atom a =>
    if p.binary then return (← require .wrongType a.bytes?).map Char.ofNat
    else return (← require .wrongType a.text?).toList
  | _ => throw .wrongType

/-- Whether an expression matches the whole of a text. -/
def matchesWhole (p v : Value) : Run Bool := do
  match p with
  | .atom (.pattern p) =>
    let cs ← subject p v
    return (← program p).matchesWhole cs.toArray
  | _ => throw .noAttribute

end Run

end FunctionObjects
