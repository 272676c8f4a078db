import FunctionObjects.Class.Library
import FunctionObjects.Descriptor.Assignable
/-!
# The subclass relation

A class is a subclass of its ancestors, of the interfaces whose operations it defines, and of the
abstract classes that it, or one of its ancestors, has been declared to be a subclass of.
-/

namespace FunctionObjects

/-- An interface that a program brings along. -/
structure Protocol where
  name : ClassName
  /-- The operations that make a class satisfy it; `none` if it refuses subclass questions. -/
  operations : Option (List Trait)
deriving Repr, Inhabited

/-- The classes that are known, and the subclasses that have only been declared. -/
structure Hierarchy where
  table : ClassTable
  /-- A class and the abstract class that it has been declared to be a subclass of. -/
  virtual : List (ClassName × ClassName)
  protocols : List Protocol := []
deriving Repr, Inhabited

namespace Hierarchy

def info (h : Hierarchy) (c : ClassName) : ClassInfo :=
  (h.table.find? c).getD ⟨c, [], [c, .object], [], false, [], none⟩

def mro (h : Hierarchy) (c : ClassName) : List ClassName := h.table.mro c

/-- Whether a class has a trait: the first class in its order of search that defines the trait or
takes it away decides. -/
def hasTrait (h : Hierarchy) (c : ClassName) (t : Trait) : Bool :=
  ((h.mro c).findSome? fun d => (h.info d).traits.lookup t).getD false

/-- The ancestors of a class together with all that is declared for them. -/
def above (h : Hierarchy) : Nat → List ClassName → List ClassName
  | 0, cs => cs
  | n + 1, cs =>
    let more := h.virtual.filterMap fun (c, d) =>
      if cs.contains c && !cs.contains d then some (h.mro d) else none
    if more.isEmpty then cs else above h n (cs ++ more.flatten)

def protocol? (h : Hierarchy) (d : ClassName) : Option Protocol := h.protocols.find? (·.name == d)

/-- Whether a class answers subclass questions, as all but some interfaces do. -/
def answers (h : Hierarchy) (d : ClassName) : Bool :=
  !(h.info d).abstract || (h.protocol? d).all (·.operations.isSome)

/-- Whether a class satisfies an interface by the operations that it defines. -/
def satisfies (h : Hierarchy) (c d : ClassName) : Bool :=
  match CoreClasses.hooks.lookup d <|> (h.protocol? d).bind (·.operations) with
  | some ts => ts.all (h.hasTrait c)
  | none => false

/-- The subclass relation, for classes that answer. -/
def sub (h : Hierarchy) (c d : ClassName) : Bool :=
  d == .object || (h.mro c).contains d ||
    ((h.info d).abstract &&
      (h.satisfies c d || (h.above (h.virtual.length + 1) (h.mro c)).contains d))

/-- Whether a class is a subclass; `none` if the second class does not answer. -/
def sub? (h : Hierarchy) (c d : ClassName) : Option Bool :=
  if h.answers d then some (h.sub c d) else none

/-- The number of positions that objects of a class have, if that is fixed. -/
def arity? (h : Hierarchy) (c : ClassName) : Option Nat :=
  ((h.mro c).findSome? fun d => (h.info d).arity).bind id

/-- The number of positions of a class of tuples that fixes it. -/
def tupleArity? (h : Hierarchy) (c : ClassName) : Option Nat :=
  if (h.mro c).contains LibraryClass.fixedTuple.className then h.arity? c else none

/-- What descriptors need to know. -/
def classes (h : Hierarchy) : Classes :=
  ⟨fun c d => (h.sub? c d).getD false, h.tupleArity?⟩

def addRow (t : ClassTable) (r : CoreClasses.Row) : ClassTable :=
  (t.declare? r.name (r.bases.map .cls) r.abstract r.traits none).getD t

/-- The classes of the core and of the library. -/
def initial : Hierarchy :=
  let core := (CoreClasses.rows ++ SizedClasses.rows).foldl addRow []
  let table := LibraryClass.all.foldl
    (fun t k => (t.declare? k.className k.bases false k.traits k.arity).getD t) core
  { table := table, virtual := CoreClasses.declared }

/-- Adds an interface that a program brings along. -/
def bring (h : Hierarchy) (p : Protocol) : Hierarchy :=
  let row := ⟨p.name, [⟨"typing", "Protocol"⟩], true, (p.operations.getD []).map (·, true)⟩
  { h with table := addRow h.table row, protocols := p :: h.protocols }

end Hierarchy

end FunctionObjects
