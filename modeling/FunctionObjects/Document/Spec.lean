import FunctionObjects.Document.Basic
import FunctionObjects.Fault
/-!
# Specifications of function objects

A dictionary specifies a function object if it names a class; everything else in it is a property.
The checks find all problems at once, those of the name first and those of the keys after it.
-/

namespace FunctionObjects

/-- The name of a class with the properties of an object. -/
structure Spec (α : Type) where
  className : String
  properties : List (String × α)

namespace Spec

variable {α : Type}

def map {β : Type} (f : α → β) (s : Spec α) : Spec β :=
  ⟨s.className, s.properties.map fun (n, a) => (n, f a)⟩

/-- The place of a value as a key. -/
def placeOf (w : World) (k : Value) : Place :=
  let whole (n : Int) : Place :=
    if Numeral.Scalar.fits true 64 n then .index n else .field (toString n)
  match k with
  | .atom (.int n) => whole n
  | .atom (.bool b) => whole (if b then 1 else 0)
  | k => .field (w.read k).shown

/-- The text that stands for a value where a text is asked for: bytes are read as text. -/
def asText? (v : Value) : Except Problem String :=
  match v with
  | .atom a =>
    match a.text?, a.bytes? with
    | some s, _ => return s
    | _, some bs =>
      (String.fromUTF8? (ByteArray.mk (bs.map UInt8.ofNat).toArray)).elim (throw .notEncoded) pure
    | _, _ => throw .notText
  | _ => throw .notText

/-- A text of at least one character. -/
def nonemptyText (doc : Document) : Except Problem String := do
  match doc with
  | .leaf v =>
    let s ← asText? v
    if s.isEmpty then throw .emptyText else return s
  | _ => throw .notText

/-- The key under which the name of the class stands: the other one counts only if the first one is
missing. -/
def nameKey? (entries : List (Value × α)) : Option String :=
  ["class", "class_name"].find? fun k => (Document.lookup? entries k).isSome

/-- The name of the class, or what is wrong with it. -/
def name (doc : α → Document) (entries : List (Value × α)) : Except Detail String :=
  match nameKey? entries with
  | none => throw ⟨.missing, [.field "class"]⟩
  | some k =>
    match Document.lookup? entries k with
    | some a => (nonemptyText (doc a)).mapError fun p => ⟨p, [.field "class"]⟩
    | none => throw ⟨.missing, [.field "class"]⟩

/-- A property, or what is wrong with its key. -/
def property (w : World) (e : Value × α) : Except Detail (String × α) :=
  match asText? e.1 with
  | .ok s => return (s, e.2)
  | .error _ => throw ⟨.badKey, [placeOf w e.1]⟩

/-- The problems among some outcomes. -/
def problems {β : Type} (rs : List (Except Detail β)) : List Detail :=
  rs.filterMap fun r => match r with
    | .error e => some e
    | .ok _ => none

/-- The specification that the entries of a dictionary make up, or all that is wrong with them. -/
def ofEntries (w : World) (doc : α → Document) (entries : List (Value × α)) :
    Except (List Detail) (Spec α) :=
  let used := nameKey? entries
  let others := entries.filter fun e => used.isNone || Document.textOf? e.1 != used
  let properties := others.map (property w)
  match name doc entries, problems properties with
  | .ok s, [] => return ⟨s, properties.filterMap Except.toOption⟩
  | .ok _, ps => throw ps
  | .error e, ps => throw (e :: ps)

end Spec

end FunctionObjects
