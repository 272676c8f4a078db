import FunctionObjects.Call.Construction
import FunctionObjects.Class.Loading
import FunctionObjects.Document.Spec
import FunctionObjects.Document.Writing
/-!
# Reading function objects

A dictionary with the name of a class becomes an object of that class, one with nothing but the name
of a type becomes that type, and every other one stays a dictionary.  All of them are read from the
inside out, and a property that the constructor does not have is refused.
-/

namespace FunctionObjects

namespace Reading

variable (d : Dispatch)

/-- The properties of a specification that a class does not have, in order. -/
def unknown {α : Type} (w : World) (c : ClassName) (s : Spec α) : List String :=
  let known := (w.properties c).map (·.name)
  (s.properties.map (·.1)).filter (!known.contains ·) |>.mergeSort fun a b => a ≤ b

/-- Makes the object of a specification, each property of which is read when its turn comes. -/
def ofSpec (s : Spec (Run Value)) : Run Value := do
  let w ← get
  let c ← Run.lift (w.registry.classNamed s.className)
  let strangers := unknown w c s
  if !strangers.isEmpty then throw (.unknownProperties s.className strangers)
  let named ← s.properties.mapM fun (n, v) => do return (n, ← v)
  Construction.make d c ⟨[], named⟩

/-- Makes the object that the entries of a dictionary specify. -/
def ofEntries (entries : List (Value × Document × Run Value)) : Run Value := do
  match Spec.ofEntries (← get) Prod.fst entries with
  | .ok s => ofSpec d (s.map Prod.snd)
  | .error ps => throw (.badSpec ps)

/-- The name of a type, if the entries of a dictionary give that and nothing else. -/
def typeEntry? : List (Value × Document × Run Value) → Option Document
  | [(k, doc, _)] => if Document.textOf? k == some typeKey then some doc else none
  | _ => none

/-- Reads the entries of a dictionary that specifies no object. -/
def plainEntries (entries : List (Value × Document × Run Value)) : Run Value := do
  match typeEntry? entries with
  | some doc =>
    let name ← doc.build
    return .type (← Run.lift ((← get).loadType name))
  | none => Run.alloc (.dict (← entries.mapM fun (k, _, v) => do return (k, ← v)))

mutual

/-- Reads a document. -/
def value : Document → Run Value
  | .leaf v => return v
  | .list ds => do Run.newList (← values ds)
  | .dict es =>
    let read := entries es
    if (Document.lookup? es classKey).isSome then ofEntries d read else plainEntries read

def values : List Document → Run (List Value)
  | [] => return []
  | doc :: ds => return (← value doc) :: (← values ds)

/-- The entries of a dictionary, each with the way to read it. -/
def entries : List (Value × Document) → List (Value × Document × Run Value)
  | [] => []
  | (k, doc) :: es => (k, doc, value doc) :: entries es

end

/-- Reads a function object from a document, which must be a dictionary. -/
def function (doc : Document) : Run Value := do
  match doc with
  | .dict es => ofEntries d (entries d es)
  | _ => throw (.badSpec [⟨.notModel (some "FunctionSpec"), []⟩])

/-- Reads a function object from a text. -/
def text (s : String) : Run Value := do
  let j ← Run.require .badJson (Text.Json.parse? s)
  match Document.ofJson j with
  | .dict es => function d (.dict es)
  | doc => throw (.notAnObject (doc.typeName (← get)))

end Reading

end FunctionObjects
