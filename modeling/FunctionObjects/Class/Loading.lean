import FunctionObjects.Class.Member
import FunctionObjects.Class.Namespace
import FunctionObjects.Text.Word
/-!
# Loading classes by name

A name without dots is that of a core class, any other one starts with a module.  Only names made of
words are looked up at all.
-/

namespace FunctionObjects

/-- Whether characters make up a word that does not start with a digit. -/
def isIdentifier (cs : List Char) : Bool :=
  match cs with
  | [] => false
  | c :: rest => (c.isAlpha || c == '_') && rest.all Text.isWord

/-- Whether a text is made of words and dots; a line break may follow. -/
def isTypeName (s : String) : Bool :=
  let cs := s.toList
  let cs := if cs.getLast? == some '\n' then cs.dropLast else cs
  (cs.splitOn '.').all isIdentifier

/-- The type that stands for a class of that name. -/
def ClassName.asType (c : ClassName) : Ty := if c == ⟨"typing", "Any"⟩ then .any else .cls c

/-- The class of a name. -/
def typeNamed (name : String) : Except Fault Ty :=
  if !isTypeName name then throw (.badTypeName (Text.quoted name))
  else
    match (name.toList.splitOn '.').map String.ofList with
    | [_] =>
      ((Module.find? "builtins").bind (·.class? name)).elim (throw (.unknownCoreType name))
        fun c => return c.asType
    | parts => (ClassName.ofPath? parts).elim (throw (.unloadableType name)) fun c => return c.asType

/-- The class that a value names. -/
def World.loadType (w : World) (v : Value) : Except Fault Ty :=
  match v with
  | .atom a =>
    match a.text? with
    | some name => typeNamed name
    | none => throw (.badTypeName a.shown)
  | v => throw (.badTypeName (w.read v).shown)

end FunctionObjects
