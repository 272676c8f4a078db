import FunctionObjects.Descriptor.Substitution
/-!
# Classes and their linear order

A class lists its bases as they are written, with their arguments.  From them comes the linear order
in which a class and its ancestors are searched: every class comes before its bases, and the bases
keep the order in which they are written.
-/

namespace FunctionObjects

/-- What a class can do that interfaces ask for by name. -/
inductive Trait where
  | iter | next | len | contains | call | hash
deriving DecidableEq, Repr

structure ClassInfo where
  name : ClassName
  /-- The bases as written. -/
  bases : List Ty
  /-- The class and its ancestors in the order of search. -/
  mro : List ClassName
  /-- The type variables that the class is parameterized by. -/
  params : List Ty
  /-- Whether other classes can be declared to be subclasses of this one. -/
  abstract : Bool
  /-- What the class itself defines, or takes away. -/
  traits : List (Trait × Bool)
  /-- The number of positions that the class itself fixes; `some none` if objects compute it. -/
  arity : Option (Option Nat)
deriving Repr, Inhabited

abbrev ClassTable := List ClassInfo

namespace ClassTable

def find? (t : ClassTable) (c : ClassName) : Option ClassInfo := List.find? (fun i => i.name == c) t

/-- The order of search of a class; an unknown class has only itself and the root. -/
def mro (t : ClassTable) (c : ClassName) : List ClassName :=
  match t.find? c with
  | some i => i.mro
  | none => [c, .object]

/-- The class that a base is, without its arguments. -/
def baseClass (b : Ty) : ClassName := (b.originClass?).getD .object

/-- Whether a class stands behind the first place of one of the lists. -/
def inTail (lists : List (List ClassName)) (c : ClassName) : Bool :=
  lists.any fun l => (l.drop 1).contains c

/-- Merges orders into one that keeps them all: takes the first head that no list has behind its
first place, and goes on without it. -/
def merge : Nat → List (List ClassName) → Option (List ClassName)
  | 0, lists => if lists.all List.isEmpty then some [] else none
  | n + 1, lists =>
    let lists := lists.filter (!·.isEmpty)
    if lists.isEmpty then some []
    else do
      let c ← (lists.filterMap List.head?).find? fun c => !inTail lists c
      let rest ← merge n (lists.map fun l => if l.head? == some c then l.drop 1 else l)
      return c :: rest

/-- The order of search of a new class; `none` if its bases allow none. -/
def linearize? (t : ClassTable) (c : ClassName) (bases : List ClassName) : Option (List ClassName) :=
  let bases := if bases.isEmpty && c != .object then [.object] else bases
  let lists := bases.map t.mro ++ [bases]
  (merge (lists.flatten.length + 1) lists).map (c :: ·)

/-- The class whose parameters are named instead of inherited. -/
def generic : ClassName := ⟨"typing", "Generic"⟩

/-- Whether a base makes the plain generic class behind it superfluous. -/
def isGenericForm : Ty → Bool
  | .named _ => true
  | .app (.named _) _ => true
  | .app (.cls c) _ => !c.isPlainGeneric
  | _ => false

/-- The classes that some bases stand for: interfaces of the core bring the generic class along, and
a list of type variables counts only if nothing generic follows. -/
def superclasses : List Ty → List ClassName
  | [] => []
  | b :: bs =>
    let later := bs.any isGenericForm
    let c := baseClass b
    match b with
    | .named _ => (if later then [c] else [c, generic]) ++ superclasses bs
    | .app (.named _) _ => (if later then [c] else [c, generic]) ++ superclasses bs
    | .app (.cls d) _ => (if d == generic && later then [] else [c]) ++ superclasses bs
    | _ => c :: superclasses bs

/-- The type variables of a class: those it names, or else all that occur in its bases. -/
def parametersOf (bases : List Ty) : List Ty :=
  match bases.find? fun b => b.originClass? == some generic && !b.args.isEmpty with
  | some g => g.args
  | none => Ty.distinct [] (Ty.occurrencesAll bases)

/-- Adds a class; `none` if its bases have no common order. -/
def declare? (t : ClassTable) (name : ClassName) (bases : List Ty) (abstract : Bool)
    (traits : List (Trait × Bool)) (arity : Option (Option Nat)) : Option ClassTable := do
  let supers := superclasses bases
  let mro ← t.linearize? name supers
  let inherited := (mro.drop 1).any fun c => ((t.find? c).map (·.abstract)).getD false
  return t ++ [⟨name, bases, mro, parametersOf bases, abstract || inherited, traits, arity⟩]

end ClassTable

end FunctionObjects
