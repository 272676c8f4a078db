import FunctionObjects.Registry
/-!
# Declaring classes

What a caller can add: classes with methods, classes that count as subclasses of others, and generic
classes among whose parameters types are found.  A class is refused if its bases have no common order
or do not list their type variables.
-/

namespace FunctionObjects

namespace ClassTable

/-- Classes of the core whose objects are laid out in a way of their own. -/
def solid : List ClassName :=
  ["int", "float", "complex", "str", "bytes", "bytearray", "list", "tuple", "dict", "set",
    "frozenset", "type", "BaseException"].map ClassName.core

/-- Classes from which none can be derived. -/
def sealedClasses : List ClassName :=
  ["bool", "NoneType", "ellipsis", "function", "range", "slice"].map ClassName.core ++
    [LibraryClass.adapterKind.className]

/-- Whether a base is a class, or a form of one. -/
def isBase : Ty → Bool
  | .cls _ => true
  | .any => true
  | .named _ => true
  | .app (.cls _) _ => true
  | .app (.named _) _ => true
  | _ => false

/-- Whether classes can be laid out together: of those with a layout of their own, one has that of all
others. -/
def layoutsFit (t : ClassTable) (cs : List ClassName) : Bool :=
  let layouts := cs.map fun c => (t.mro c).filter solid.contains
  layouts.all fun l => l.isEmpty || layouts.all fun m => m.isEmpty || l.head? == m.head?

/-- Whether bases name all of their type variables where they name some, and do so once. -/
def variablesListed (bases : List Ty) : Bool :=
  let lists := bases.filter fun b => b.originClass? == some generic
  match lists with
  | [] => true
  | [.app _ vs] => (Ty.distinct [] (Ty.occurrencesAll bases)).all (Ty.within vs ·)
  | _ => false

/-- Whether a class can have some bases. -/
def allows (t : ClassTable) (bases : List Ty) : Bool :=
  let cs := superclasses bases
  bases.all isBase && !cs.any sealedClasses.contains && t.layoutsFit cs && variablesListed bases &&
    (cs.eraseDups.length == cs.length)

end ClassTable

/-- What a class brings along that interfaces ask for, by the methods that it defines. -/
def traitsOf (methods : List String) : List (Trait × Bool) :=
  let named : List (String × Trait) := [("__iter__", .iter), ("__next__", .next), ("__len__", .len),
    ("__contains__", .contains), ("__call__", .call), ("__hash__", .hash)]
  let own := named.filterMap fun (n, t) => if methods.contains n then some (t, true) else none
  if methods.contains "__eq__" && !methods.contains "__hash__" then own ++ [(.hash, false)] else own

namespace Run

/-- Adds a class. -/
def declareClass (decl : Declaration) (bases : List Ty) (arity : Option Nat) : Run Unit := do
  let w ← get
  if !w.hierarchy.table.allows bases then throw .wrongType
  let traits := traitsOf (decl.methods.map (·.1))
  match w.hierarchy.table.declare? decl.name bases false traits (arity.map some) with
  | some table =>
    set { w with
      hierarchy := { w.hierarchy with table := table },
      declarations := decl :: w.declarations }
  | none => throw .wrongType

/-- Makes a generic class one among whose parameters types are found. -/
def declareSite (c : ClassName) (input : Int) (position : Option Int) (type : Option Ty) :
    Run Unit := do
  let output ← match position, type with
    | some i, none => pure (SiteOutput.position i)
    | none, some t => pure (SiteOutput.fixed t)
    | _, _ => throw (.outputAmbiguous c.name)
  let site : Site := ⟨c, input, output⟩
  modify fun w =>
    if w.sites.any (·.cls == c) then
      { w with sites := w.sites.map fun s => if s.cls == c then site else s }
    else { w with sites := w.sites ++ [site] }

/-- Makes a class count as a subclass of an abstract one. -/
def declareVirtual (c base : ClassName) : Run Unit := do
  let w ← get
  if !(w.hierarchy.info base).abstract then throw .noAttribute
  if w.hierarchy.sub c base then return
  if w.hierarchy.sub base c then throw .inheritanceCycle
  set { w with hierarchy := { w.hierarchy with virtual := w.hierarchy.virtual ++ [(c, base)] } }

end Run

namespace World

/-- The declaration sites that the library itself has. -/
def initialSites : List Site := [
  ⟨LibraryClass.function.className, 0, .position 1⟩,
  ⟨LibraryClass.predicate.className, 0, .fixed (.cls (.core "bool"))⟩,
  ⟨LibraryClass.binaryOperator.className, 0, .position 0⟩]

/-- The state before anything is declared, in some surroundings and with some interfaces. -/
def starting (s : Surroundings) (protocols : List Protocol) : World where
  heap := #[]
  hierarchy := protocols.foldl .bring .initial
  declarations := []
  sites := initialSites
  registry := .initial
  trace := []
  log := []
  clock := .none
  surroundings := s

end World

/-- An interface that refuses subclass questions. -/
def plainProtocol : ClassName := ⟨"decl", "PlainProtocol"⟩

/-- A state to start from, with a few time zones, an interface for whatever has a length, and one that
refuses subclass questions. -/
def World.initial : World :=
  .starting ⟨.recent, []⟩ [⟨⟨"decl", "Sized"⟩, some [.len]⟩, ⟨plainProtocol, none⟩]

end FunctionObjects
