/-!
# Type descriptors

What a function says about the values it takes and gives: a class, a parameterized form, a union, a
type variable, or nothing at all (`any`).  Descriptors are plain terms; what a class is a subclass
of is not part of them.
-/

namespace FunctionObjects

/-- A class, known by the module that defines it and its name there. -/
structure ClassName where
  module : String
  name : String
deriving DecidableEq, Repr, Inhabited

namespace ClassName

/-- A class of the language core, which needs no module. -/
def core (name : String) : ClassName := ⟨"builtins", name⟩

def isCore (c : ClassName) : Bool := c.module == "builtins"

/-- Whether a class can be given arguments without counting or changing them. -/
def isPlainGeneric (c : ClassName) : Bool :=
  c.isCore || c.module == "collections" || c.module == "numpy"

/-- The name with the module in front, which core classes go without. -/
def qualified (c : ClassName) : String := if c.isCore then c.name else c.module ++ "." ++ c.name

def object : ClassName := core "object"
def noneType : ClassName := core "NoneType"
def tuple : ClassName := core "tuple"

end ClassName

/-- A type variable; variables of one name in different scopes are different. -/
structure TypeVar where
  scope : String
  name : String
deriving DecidableEq, Repr, Inhabited

/-- The names under which core containers and interfaces can be parameterized. -/
inductive Alias where
  | list | dict | set | frozenset | type | tuple
  | sequence | mapping | iterable | collection | iterator | callable | hashable
deriving DecidableEq, Repr, Inhabited

namespace Alias

def name : Alias → String
  | list => "List" | dict => "Dict" | set => "Set" | frozenset => "FrozenSet" | type => "Type"
  | tuple => "Tuple" | sequence => "Sequence" | mapping => "Mapping" | iterable => "Iterable"
  | collection => "Collection" | iterator => "Iterator" | callable => "Callable"
  | hashable => "Hashable"

/-- The class that an alias stands for. -/
def origin : Alias → ClassName
  | list => .core "list" | dict => .core "dict" | set => .core "set"
  | frozenset => .core "frozenset" | type => .core "type" | tuple => .core "tuple"
  | a => ⟨"collections.abc", a.name⟩

/-- How many parameters an alias takes, where that is fixed. -/
def arity? : Alias → Option Nat
  | dict => some 2 | mapping => some 2 | hashable => some 0
  | tuple => none | callable => none
  | _ => some 1

def all : List Alias :=
  [list, dict, set, frozenset, type, tuple, sequence, mapping, iterable, collection, iterator,
    callable, hashable]

end Alias

/-- A constant that stands where a type is expected. -/
inductive Literal where
  | bool (b : Bool)
  | int (n : Int)
  | str (s : String)
  /-- Any other object, by the text that shows it. -/
  | object (shown : String)
deriving DecidableEq, Repr, Inhabited

/-- What is parameterized. -/
inductive Head where
  | cls (c : ClassName)
  | named (a : Alias)
  | literal
deriving DecidableEq, Repr, Inhabited

inductive Ty where
  /-- No constraint. -/
  | any
  /-- The value that stands for the class of nothing. -/
  | none
  | ellipsis
  | cls (c : ClassName)
  | named (a : Alias)
  /-- A form that is no type until it is parameterized. -/
  | form (name : String)
  | var (v : TypeVar) (bound : Option Ty)
  | app (head : Head) (args : List Ty)
  /-- Members joined by bars or by the name of the union form. -/
  | union (bars : Bool) (members : List Ty)
  /-- The parameters of a callable. -/
  | params (ts : List Ty)
  | lit (l : Literal)
  /-- A name to be looked up later. -/
  | forward (text : String)
deriving Repr, Inhabited

namespace Ty

mutual

/-- Whether two descriptors are the same type.  The order and the spelling of a union do not
count. -/
def same : Ty → Ty → Bool
  | .any, .any => true
  | .none, .none => true
  | .ellipsis, .ellipsis => true
  | .cls c, .cls d => c == d
  | .named a, .named b => a == b
  | .form a, .form b => a == b
  | .var v _, .var w _ => v == w
  | .app .literal ts, .app .literal us => allWithin ts us && us.length == ts.length
  | .app h ts, .app k us => h == k && allSame ts us
  | .union _ ts, .union _ us => allWithin ts us && us.length == ts.length
  | .params ts, .params us => allSame ts us
  | .lit a, .lit b => a == b
  | .forward a, .forward b => a == b
  | _, _ => false

def allSame : List Ty → List Ty → Bool
  | [], [] => true
  | t :: ts, u :: us => t.same u && allSame ts us
  | _, _ => false

/-- Whether each type of one list is in another. -/
def allWithin : List Ty → List Ty → Bool
  | [], _ => true
  | t :: ts, us => us.any (t.same ·) && allWithin ts us

end

mutual

/-- Whether two descriptors are the same type, with variables of one bound, and differ at most in the
order of members and constants and in how unions are written. -/
def respells : Ty → Ty → Bool
  | .any, .any => true
  | .none, .none => true
  | .ellipsis, .ellipsis => true
  | .cls c, .cls d => c == d
  | .named a, .named b => a == b
  | .form a, .form b => a == b
  | .var v (some b), .var w (some c) => v == w && respells b c
  | .var v Option.none, .var w Option.none => v == w
  | .app .literal ts, .app .literal us => respellsInSomeOrder ts us
  | .app h ts, .app k us => h == k && respellsEach ts us
  | .union _ ts, .union _ us => respellsInSomeOrder ts us
  | .params ts, .params us => respellsEach ts us
  | .lit a, .lit b => a == b
  | .forward a, .forward b => a == b
  | _, _ => false

def respellsEach : List Ty → List Ty → Bool
  | [], [] => true
  | t :: ts, u :: us => respells t u && respellsEach ts us
  | _, _ => false

/-- Whether the types of one list are those of another one in some order. -/
def respellsInSomeOrder : List Ty → List Ty → Bool
  | [], us => us.isEmpty
  | t :: ts, us =>
    match us.findIdx? (respells t ·) with
    | some i => respellsInSomeOrder ts (us.eraseIdx i)
    | Option.none => false

end

/-- The spelling in which some types are known already, or else their own. -/
def spelling (known : List (List Ty)) (ts : List Ty) : List Ty :=
  (known.find? (respellsEach · ts)).getD ts

/-- Whether a list holds a type. -/
def within (ts : List Ty) (t : Ty) : Bool := ts.any fun u => t.same u

/-- The parameters of a parameterized form, or the members of a union. -/
def args : Ty → List Ty
  | .app _ ts => ts
  | .union _ ts => ts
  | _ => []

/-- The class that a descriptor is, or that it parameterizes. -/
def originClass? : Ty → Option ClassName
  | .cls c => some c
  | .named a => some a.origin
  | .app (.cls c) _ => some c
  | .app (.named a) _ => some a.origin
  | _ => Option.none

/-- A type variable that nothing is bound to stands for its bound, or else for anything. -/
def finalize : Ty → Ty
  | .var _ (some b) => b
  | .var _ Option.none => .any
  | t => t

def isUnion : Ty → Bool
  | .union .. => true
  | _ => false

def object : Ty := .cls .object
def noneType : Ty := .cls .noneType

theorem sizeOf_finalize_le (t : Ty) : sizeOf t.finalize ≤ sizeOf t := by
  unfold finalize
  split
  · simp
    omega
  · simp
  · exact Nat.le_refl _

theorem sizeOf_lt_of_mem_args {t u : Ty} (h : u ∈ t.args) : sizeOf u < sizeOf t := by
  cases t <;> simp [args] at h
  all_goals
    have := List.sizeOf_lt_of_mem h
    simp
    omega

end Ty

end FunctionObjects
