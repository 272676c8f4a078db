import FunctionObjects.Text.Json
import FunctionObjects.Value.Operators
/-!
# Documents

A document is a tree of lists and dictionaries with values at its ends.  Function objects are
written as documents and read from them; a document can be built in the heap, read from there, and
turned into text and back.
-/

namespace FunctionObjects

open FunctionObjects.Numeral
open FunctionObjects.Text

inductive Document where
  | leaf (v : Value)
  | list (items : List Document)
  | dict (entries : List (Value × Document))
deriving Repr, Inhabited

namespace Document

def str (s : String) : Document := .leaf (.str s)

/-- The text that a value is, if it is one. -/
def textOf? : Value → Option String
  | .atom a => a.text?
  | _ => none

/-- The entry under a name. -/
def lookup? {α : Type} (entries : List (Value × α)) (name : String) : Option α :=
  (entries.find? fun e => textOf? e.1 == some name).map (·.2)

/-- The document that a value holds, following at most so many levels. -/
def read (h : Heap) : Nat → Value → Document
  | n + 1, .ref r =>
    match h[r]? with
    | some (.list vs) => .list (vs.map (read h n))
    | some (.dict es) => .dict (es.map fun (k, v) => (k, read h n v))
    | _ => .leaf (.ref r)
  | _, v => .leaf v

/-- The document that a value holds. -/
def ofValue (w : World) (v : Value) : Document := read w.heap (w.heap.size + 1) v

mutual

/-- A value that holds a document. -/
def build : Document → Run Value
  | .leaf v => return v
  | .list ds => do Run.newList (← buildAll ds)
  | .dict es => do Run.alloc (.dict (← Run.insertAll [] (← buildEntries es)))

def buildAll : List Document → Run (List Value)
  | [] => return []
  | d :: ds => return (← build d) :: (← buildAll ds)

def buildEntries : List (Value × Document) → Run (List (Value × Value))
  | [] => return []
  | (k, d) :: es => return (k, ← build d) :: (← buildEntries es)

end

/-- A value as it is written; only texts, numbers, truth values and nothing are. -/
def atomJson? : Atom → Option Json
  | .none => some .null
  | .bool b => some (.bool b)
  | .int n => some (.int n)
  | .float x => some (.float x)
  | .str s => some (.str s)
  | .scalar (.float 64 x) => some (.float x)
  | .scalar (.str s) => some (.str s)
  | _ => none

mutual

/-- A document as it is written; `none` if a value in it cannot be. -/
def toJson? : Document → Option Json
  | .leaf (.atom a) => atomJson? a
  | .leaf _ => none
  | .list ds => (allToJson? ds).map .list
  | .dict es => (entriesToJson? es).map .object

def allToJson? : List Document → Option (List Json)
  | [] => some []
  | d :: ds => do return (← toJson? d) :: (← allToJson? ds)

def entriesToJson? : List (Value × Document) → Option (List (String × Json))
  | [] => some []
  | (k, d) :: es => do return (← textOf? k, ← toJson? d) :: (← entriesToJson? es)

end

mutual

/-- The document that is written in a certain way. -/
def ofJson : Json → Document
  | .null => .leaf .none
  | .bool b => .leaf (.bool b)
  | .int n => .leaf (.int n)
  | .float x => .leaf (.float x)
  | .str s => .leaf (.str s)
  | .list js => .list (allOfJson js)
  | .object ms => .dict (membersOfJson ms)

def allOfJson : List Json → List Document
  | [] => []
  | j :: js => ofJson j :: allOfJson js

def membersOfJson : List (String × Json) → List (Value × Document)
  | [] => []
  | (n, j) :: ms => (.str n, ofJson j) :: membersOfJson ms

end

/-- The name of the class of what a document stands for. -/
def typeName (w : World) : Document → String
  | .leaf v => (w.classOf v).name
  | .list _ => "list"
  | .dict _ => "dict"

end Document

end FunctionObjects
