import FunctionObjects.Call.Property
import FunctionObjects.Document.Basic
import FunctionObjects.Registry
/-!
# Writing function objects

A function object is written as a dictionary: the name of its class, and one entry for every
parameter of the constructor, read back from the attribute of that name.  What stands for nothing
and what is at its default is left out.  Function objects inside are written in the same way.
-/

namespace FunctionObjects

/-- The key of the name of a class. -/
def classKey : String := "class"

/-- The key of the name of a type. -/
def typeKey : String := "type"

namespace Document

/-- The type of a name, as it is written. -/
def ofTypeName (name : String) : Document := .dict [(.str typeKey, .str name)]

/-- Puts an entry in the place of the one with its key, or at the end. -/
def put (k : String) (d : Document) : List (Value × Document) → List (Value × Document)
  | [] => [(.str k, d)]
  | (l, e) :: rest => if textOf? l == some k then (l, d) :: rest else (l, e) :: put k d rest

end Document

namespace Writing

/-- Whether a value is a core collection without items. -/
def isEmptyCollection (w : World) : Value → Bool
  | .tuple vs => vs.isEmpty
  | .frozenset vs => vs.isEmpty
  | .ref r =>
    match w.cell? r with
    | some (.list vs) => vs.isEmpty
    | some (.dict es) => es.isEmpty
    | some (.set vs) => vs.isEmpty
    | _ => false
  | .atom _ => false

/-- Whether a value is at a default.  An empty collection is at its default also if that is
nothing. -/
def isDefault (w : World) (v default : Value) : Bool :=
  if isEmptyCollection w v then default.isNone || (w.read default).same (w.read v)
  else w.classOf v == w.classOf default && (w.read v).same (w.read default)

/-- The attribute for a parameter; `none` if there is none. -/
def attribute? (self : Value) (name : String) : Run (Option Value) :=
  tryCatch (Attribute.read? self name) fun f =>
    if f = .noAttribute then return none else throw f

/-- An atom as it is written. -/
def atom (w : World) (a : Atom) : Except Fault Document :=
  match a with
  | .pattern p =>
    if p.binary then return .leaf (.atom (.bytes (p.source.toList.map Char.toNat)))
    else return .str p.source
  | .type (.cls c) => return .ofTypeName c.qualified
  | .type .any => return .ofTypeName "typing.Any"
  | a =>
    if (Document.atomJson? a).isSome then return .leaf (.atom a)
    else throw (.notWritable (w.classOfAtom a).name)

mutual

/-- Writes a value, given how the cells of the heap are written. -/
def value (cell : Ref → Run Document) : Value → Run Document
  | .atom a => do Run.lift (atom (← get) a)
  | .tuple vs => return .list (← values cell vs)
  | .frozenset vs => return .list (← values cell vs)
  | .ref r => cell r

def values (cell : Ref → Run Document) : List Value → Run (List Document)
  | [] => return []
  | v :: vs => return (← value cell v) :: (← values cell vs)

end

/-- Writes the entries of a dictionary; their keys are written as texts. -/
def entries (cell : Ref → Run Document) (es : List (Value × Value)) :
    Run (List (Value × Document)) :=
  es.foldlM (fun written (k, v) => do
    let key ← Run.plain k
    return Document.put key (← value cell v) written) []

/-- Writes the parameters of a function object after what is written already. -/
def parameters (cell : Ref → Run Document) (self : Value) (c : ClassName) (ps : List Param)
    (start : List (Value × Document)) : Run (List (Value × Document)) :=
  ps.foldlM (fun written p => do
    match ← attribute? self p.name with
    | none => throw (.hiddenProperty c.name p.name)
    | some v =>
      let w ← get
      if v.isNone || (p.default.any fun x => isDefault w v x) then return written
      else return Document.put p.name (← value cell v) written) start

/-- Writes a function object, given how the cells of the heap are written. -/
def functionWith (cell : Ref → Run Document) (self : Value) : Run Document := do
  let w ← get
  let c := w.classOf self
  let name ← Run.lift (w.registry.nameOf c)
  return .dict (← parameters cell self c (w.properties c) [(.str classKey, .str name)])

/-- Writes what a cell holds, following at most so many levels. -/
def cell : Nat → Ref → Run Document
  | 0, _ => throw .tooDeep
  | n + 1, r => do
    let w ← get
    match w.cell? r with
    | some (.list vs) => return .list (← values (cell n) vs)
    | some (.set vs) => return .list (← values (cell n) vs)
    | some (.dict es) => return .dict (← entries (cell n) es)
    | _ =>
      let c := w.classOf (.ref r)
      if w.registry.isRegistered c then functionWith (cell n) (.ref r)
      else throw (.notWritable c.name)

/-- Writes a function object. -/
def function (self : Value) : Run Document := do
  functionWith (cell ((← get).heap.size + 1)) self

/-- Writes a function object as text. -/
def text (self : Value) (indent : Option Nat) : Run String := do
  let j ← Run.require .wrongType (← function self).toJson?
  return j.text indent

end Writing

end FunctionObjects
