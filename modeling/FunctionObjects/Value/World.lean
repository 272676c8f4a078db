import FunctionObjects.Value.Order
import FunctionObjects.Class.Table
import FunctionObjects.Fault
import FunctionObjects.Time.Zone
/-!
# The state of a program

Everything that an operation can change or look up: the heap, the classes, what has been registered,
and what has been logged.  An operation that fails keeps the changes that it made before.
-/

namespace FunctionObjects

/-- The output of a declaration site: a parameter of the class, or a fixed type. -/
inductive SiteOutput where
  | position (i : Int)
  | fixed (t : Ty)
deriving Repr

/-- A class among whose parameters the types of inputs and outputs are found. -/
structure Site where
  cls : ClassName
  input : Int
  output : SiteOutput
deriving Repr

/-- Types that a class states for one side of its objects. -/
structure Stated where
  asList : Bool
  types : List Ty
deriving Repr, Inhabited

/-- What a class declared by a caller defines. -/
structure Declaration where
  name : ClassName
  methods : List (String × Routine)
  /-- The parameters of its constructor, each stored under its own name unless hidden. -/
  init : Option (List Param)
  hidden : List String
  inputTypes : Option Stated
  outputTypes : Option Stated
deriving Inhabited

/-- The names of function classes: the classes by name, and the latest name of each class. -/
structure Registry where
  classes : List (String × ClassName)
  names : List (ClassName × String)
deriving Repr, Inhabited

/-- A call that was recorded, with the heap as it was then. -/
structure CallRecord where
  label : String
  args : List Value
  heap : Heap

inductive Level where
  | debug | info | warning | error
deriving DecidableEq, Repr

structure LogRecord where
  level : Level
  logger : String
  message : String
deriving DecidableEq, Repr

/-- What a program finds around it and does not change. -/
structure Surroundings where
  zones : Time.Zones := fun _ => none
  /-- Lists of types that are joined to tuple types, in the order in which they first are. -/
  joined : List (List Ty) := []
deriving Inhabited

structure World where
  heap : Heap
  hierarchy : Hierarchy
  declarations : List Declaration
  sites : List Site
  registry : Registry
  trace : List CallRecord
  log : List LogRecord
  /-- The seconds that the clock shows. -/
  clock : Value
  surroundings : Surroundings := {}
deriving Inhabited

/-- An operation on the state that may fail. -/
abbrev Run := ExceptT Fault (StateM World)

namespace World

def isSubclass (w : World) (c d : ClassName) : Bool := (w.hierarchy.mro c).contains d

/-- The time zones that there are. -/
def zones (w : World) : Time.Zones := w.surroundings.zones

/-- Reads a value with all that it holds. -/
def read (w : World) (v : Value) : Datum :=
  w.heap.read (fun c => w.isSubclass c LibraryClass.structural.className) v

def cell? (w : World) (r : Ref) : Option Cell := w.heap[r]?

/-- The items of a list or a plain tuple. -/
def sequence? (w : World) : Value → Option (List Value)
  | .tuple vs => some vs
  | .ref r =>
    match w.cell? r with
    | some (.list vs) => some vs
    | _ => none
  | _ => none

def declaration? (w : World) (c : ClassName) : Option Declaration :=
  w.declarations.find? fun d => d.name == c

end World

namespace Run

def alloc (c : Cell) : Run Value := do
  let w ← get
  set { w with heap := w.heap.push c }
  return .ref w.heap.size

def write (r : Ref) (c : Cell) : Run Unit :=
  modify fun w => { w with heap := w.heap.setIfInBounds r c }

def cell? (r : Ref) : Run (Option Cell) := return (← get).heap[r]?

def newList (vs : List Value) : Run Value := alloc (.list vs)

/-- Reads a value with all that it holds. -/
def datum (v : Value) : Run Datum := return (← get).read v

def require {α : Type} (f : Fault) : Option α → Run α
  | some x => return x
  | none => throw f

end Run

/-- The metaclass of a class: that of classes with virtual subclasses, or the plain one. -/
def World.metaclass (w : World) (c : ClassName) : ClassName :=
  if c == LibraryClass.adapterKind.className then ⟨"enum", "EnumType"⟩
  else if (w.hierarchy.info c).abstract then ⟨"abc", "ABCMeta"⟩
  else .core "type"

/-- The class of a descriptor as a value. -/
def World.classOfTy (w : World) : Ty → ClassName
  | .any => ⟨"typing", "_AnyMeta"⟩
  | .none => .noneType
  | .ellipsis => .core "ellipsis"
  | .cls c => w.metaclass c
  | .named .callable => ⟨"typing", "_CallableType"⟩
  | .named .tuple => ⟨"typing", "_TupleType"⟩
  | .named _ => ⟨"typing", "_SpecialGenericAlias"⟩
  | .form _ => ⟨"typing", "_SpecialForm"⟩
  | .var .. => ⟨"typing", "TypeVar"⟩
  | .app (.cls c) _ => if c.isPlainGeneric then ⟨"types", "GenericAlias"⟩ else ⟨"typing", "_GenericAlias"⟩
  | .app (.named .callable) _ => ⟨"typing", "_CallableGenericAlias"⟩
  | .app .literal _ => ⟨"typing", "_LiteralGenericAlias"⟩
  | .app _ _ => ⟨"typing", "_GenericAlias"⟩
  | .union true _ => ⟨"types", "UnionType"⟩
  | .union false _ => ⟨"typing", "_UnionGenericAlias"⟩
  | .params _ => .core "list"
  | .lit (.bool _) => .core "bool"
  | .lit (.int _) => .core "int"
  | .lit (.str _) => .core "str"
  | .lit (.object _) => .object
  | .forward _ => ⟨"typing", "ForwardRef"⟩

/-- The class of an atom. -/
def World.classOfAtom (w : World) : Atom → ClassName
  | .none => .noneType
  | .bool _ => .core "bool"
  | .int _ => .core "int"
  | .float _ => .core "float"
  | .complex .. => .core "complex"
  | .str _ => .core "str"
  | .bytes _ => .core "bytes"
  | .scalar s => ⟨"numpy", s.name⟩
  | .decimal _ => ⟨"decimal", "Decimal"⟩
  | .fraction .. => ⟨"fractions", "Fraction"⟩
  | .moment _ => ⟨"datetime", "datetime"⟩
  | .date _ => ⟨"datetime", "date"⟩
  | .pattern _ => ⟨"re", "Pattern"⟩
  | .type t => w.classOfTy t
  | .builtin _ => .core "builtin_function_or_method"
  | .kind _ => LibraryClass.adapterKind.className
  | .result _ => ⟨"fnweave.core.validation_result", "ValidationResult"⟩
  | .other c => c

/-- The class of a value. -/
def World.classOf (w : World) : Value → ClassName
  | .atom a => w.classOfAtom a
  | .tuple _ => .core "tuple"
  | .frozenset _ => .core "frozenset"
  | .ref r =>
    match w.heap[r]? with
    | some (.list _) => .core "list"
    | some (.dict _) => .core "dict"
    | some (.set _) => .core "set"
    | some (.bytearray _) => .core "bytearray"
    | some (.slots c _ _) => c
    | some (.fields c _ _) => c
    | some (.object c _ _) => c
    | some (.routine _) => .core "function"
    | some (.iterator c _) => c
    | some (.keys _) => .core "dict_keys"
    | none => .object

namespace Run

def classOf (v : Value) : Run ClassName := return (← get).classOf v

/-- The name of a value's class, as messages give it. -/
def typeName (v : Value) : Run String := return (← classOf v).name

end Run

end FunctionObjects
