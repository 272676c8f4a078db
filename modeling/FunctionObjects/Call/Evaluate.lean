import FunctionObjects.Call.Builtins
import FunctionObjects.Call.Property
/-!
# Calling values

A class makes an object, a function runs, and an object hands its arguments to the method of its
class that answers calls.  Calls reach other calls only so many levels deep.
-/

namespace FunctionObjects

/-- Calls a value, given how the calls inside it are made. -/
def callValue (d : Dispatch) (f : Value) (args : List Value) : Run Value := do
  match f with
  | .atom (.type t) => Construction.ofType d t (.ofList args)
  | .atom (.builtin b) => b.run d args
  | .ref r =>
    match ← Run.cell? r with
    | some (.routine f) => f.run d (throw .wrongType) args
    | some (.object c _ _) =>
      let w ← get
      if (w.member? c "__call__").isSome then Method.inClasses d f "__call__" args (w.hierarchy.mro c)
      else throw .wrongType
    | _ => throw .wrongType
  | _ => throw .wrongType

namespace Dispatch

/-- Calls and methods that go at most so many levels deep. -/
def ofDepth : Nat → Dispatch
  | 0 => ⟨fun _ _ => throw .tooDeep, fun _ _ _ => throw .tooDeep⟩
  | n + 1 => ⟨fun f args => callValue (ofDepth n) f args,
      fun self name args => Method.call (ofDepth n) self name args⟩

/-- How deep calls go before they are refused. -/
def depthLimit : Nat := 1000

/-- Calls and methods as programs make them. -/
def standard : Dispatch := ofDepth depthLimit

end Dispatch

end FunctionObjects
