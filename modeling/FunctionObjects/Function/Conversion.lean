import FunctionObjects.Function.Base
import FunctionObjects.Value.Conversion
/-!
# Converting and looking up

Nothing converts to nothing.
-/

namespace FunctionObjects.Conversion

variable (d : Dispatch)

/-- Calls the class that is set with the input. -/
def cast (self x : Value) : Run Value := do
  match ← Run.optional self "output_class" with
  | none => return x
  | some c => if x.isNone then return x else d.call c [x]

/-- The whole number that a value is turned into. -/
def toLong (x : Value) : Run Value := if x.isNone then return .none else d.convert .int x

/-- Asks a value for what it has under a key, as dictionaries and tuples do. -/
def getFrom (v key : Value) : Run Value := d.method v "get" [key]

/-- What a dictionary has under the input, or nothing. -/
def lookUp (self x : Value) : Run Value := do
  match ← Run.optional self "dictionary" with
  | none => throw (.dictionaryMissing (← Run.typeName self))
  | some t => if x.isNone then return .none else getFrom d t x

/-- A list as it is, any other collection as a list, and everything else in a list. -/
def toArray (x : Value) : Run Value := do
  let w ← get
  let c := w.classOf x
  let sub (name : String) : Bool := w.hierarchy.sub c ⟨"collections.abc", name⟩
  if w.hierarchy.sub c (.core "list") then return x
  else if sub "Iterable" && !sub "Mapping" && !w.hierarchy.sub c (.core "str") &&
      !w.hierarchy.sub c (.core "bytes") then
    Run.newList (← d.items x)
  else Run.newList [x]

end FunctionObjects.Conversion
