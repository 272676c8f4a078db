import FunctionObjects.Descriptor.Substitution
import FunctionObjects.Numeral.Decimal
import FunctionObjects.Numeral.Scalar
import FunctionObjects.Time.Moment
import FunctionObjects.Fault
/-!
# Values and the heap

Function objects pass values of any kind along.  A value that can change, or that is told apart from
an equal one, lives in a cell of the heap and is known by its number; all other values are terms.  The
code of a function is a tree: what it asks for, and how it goes on with each answer.
-/

namespace FunctionObjects

open FunctionObjects.Numeral
open FunctionObjects.Time

/-- A regular expression as a value: its text and the numbers of its flags. -/
structure Pattern where
  source : String
  /-- Whether it is made of bytes instead of characters. -/
  binary : Bool
  flags : Nat
deriving DecidableEq, Repr, Inhabited

/-- How an adapter changes the value that passes through it. -/
inductive AdapterKind where
  | identity | map | fold
deriving DecidableEq, Repr, Inhabited

/-- The functions of the language core that can be used as steps. -/
inductive Builtin where
  | len | abs | max | min | sum | sorted | divmod | pow | repr | isinstance | any | all | reversed
  | ord | chr | round
deriving DecidableEq, Repr, Inhabited

namespace Builtin

def name : Builtin → String
  | len => "len" | abs => "abs" | max => "max" | min => "min" | sum => "sum" | sorted => "sorted"
  | divmod => "divmod" | pow => "pow" | repr => "repr" | isinstance => "isinstance"
  | any => "any" | all => "all" | reversed => "reversed" | ord => "ord" | chr => "chr"
  | round => "round"

def every : List Builtin :=
  [len, abs, max, min, sum, sorted, divmod, pow, repr, isinstance, any, all, reversed, ord, chr,
    round]

end Builtin

/-- A value without parts that could be changed. -/
inductive Atom where
  | none
  | bool (b : Bool)
  | int (n : Int)
  | float (x : Floating)
  | complex (re im : Floating)
  | str (s : String)
  | bytes (bs : List Nat)
  | scalar (s : Scalar)
  | decimal (d : Decimal)
  | fraction (num : Int) (den : Nat)
  | moment (t : Moment)
  | date (d : Date)
  | pattern (p : Pattern)
  | type (t : Ty)
  | builtin (b : Builtin)
  | kind (k : AdapterKind)
  | result (r : ValidationResult)
  /-- A value of which only the class counts. -/
  | other (c : ClassName)
deriving Repr, Inhabited

/-- The number of a cell. -/
abbrev Ref := Nat

inductive Value where
  | atom (a : Atom)
  | tuple (items : List Value)
  | frozenset (items : List Value)
  | ref (r : Ref)
deriving Repr, Inhabited

namespace Value

def none : Value := .atom .none
def bool (b : Bool) : Value := .atom (.bool b)
def int (n : Int) : Value := .atom (.int n)
def float (x : Floating) : Value := .atom (.float x)
def str (s : String) : Value := .atom (.str s)
def type (t : Ty) : Value := .atom (.type t)
def cls (c : ClassName) : Value := .atom (.type (.cls c))

def isNone : Value → Bool
  | .atom .none => true
  | _ => false

end Value

/-- How a parameter is passed. -/
inductive ParamKind where
  | positional | standard | rest | keyword | keywords
deriving DecidableEq, Repr, Inhabited

structure Param where
  name : String
  kind : ParamKind
  default : Option Value
  type : Option Ty
deriving Repr, Inhabited

/-- What a cell holds, whatever its form and its class. -/
inductive Filling where
  | items (vs : List Value)
  | entries (es : List (Value × Value))
  | attributes (es : List (String × Value))
  | bytes (bs : List Nat)
deriving Repr, Inhabited

/-- Something for which code asks. -/
inductive Request where
  | call (f : Value) (args : List Value)
  | method (v : Value) (name : String) (args : List Value)
  /-- The same method of the next class, with the same arguments. -/
  | inherited
  | add (x y : Value)
  | mul (x y : Value)
  | less (x y : Value)
  /-- Whether a value counts as true. -/
  | truth (v : Value)
  /-- The plain text of a value. -/
  | text (v : Value)
  /-- A new list, dictionary or bytearray. -/
  | make (c : Filling)
  /-- Other contents for a cell. -/
  | store (r : Ref) (c : Filling)
deriving Repr

/-- Code written by a caller.  What it does next depends on all that it was given before, and it goes on
after a failure if it likes. -/
inductive Code where
  | give (v : Value)
  | fail (f : Fault)
  /-- Looks at what a cell holds. -/
  | look (r : Ref) (next : Option Filling → Code)
  | ask (q : Request) (next : Except Fault Value → Code)
  /-- Makes a function. -/
  | define (name : String) (params : List Param) (returns : Option Ty) (body : List Value → Code)
    (next : Value → Code)
deriving Inhabited

/-- What a function written by a caller does with its arguments. -/
structure Body where
  code : List Value → Code
deriving Inhabited

/-- A function written by a caller. -/
structure Routine where
  name : String
  params : List Param
  returns : Option Ty
  body : Body
  /-- The label under which its calls are recorded. -/
  label : Option String
deriving Inhabited

inductive Cell where
  | list (items : List Value)
  | dict (entries : List (Value × Value))
  | set (items : List Value)
  | bytearray (bs : List Nat)
  /-- A tuple addressed by position. -/
  | slots (cls : ClassName) (origin : Option Ty) (items : List Value)
  /-- A tuple addressed by name. -/
  | fields (cls : ClassName) (origin : Option Ty) (entries : List (Value × Value))
  /-- An object with named attributes, in the order in which they were set. -/
  | object (cls : ClassName) (origin : Option Ty) (attributes : List (String × Value))
  | routine (r : Routine)
  /-- An iterator with the items that are left. -/
  | iterator (cls : ClassName) (rest : List Value)
  /-- A view of the keys of a dictionary. -/
  | keys (items : List Value)
deriving Inhabited

namespace Cell

/-- What a cell holds; the code of a function is not seen. -/
def filling? : Cell → Option Filling
  | list vs | set vs | slots _ _ vs | iterator _ vs | keys vs => some (.items vs)
  | dict es | fields _ _ es => some (.entries es)
  | object _ _ as => some (.attributes as)
  | bytearray bs => some (.bytes bs)
  | routine _ => Option.none

/-- The cell with other contents, if it can be given them; its form and its class stay. -/
def filled? : Cell → Filling → Option Cell
  | list _, .items vs => some (list vs)
  | set _, .items vs => some (set vs)
  | slots c o _, .items vs => some (slots c o vs)
  | iterator c _, .items vs => some (iterator c vs)
  | dict _, .entries es => some (dict es)
  | fields c o _, .entries es => some (fields c o es)
  | object c o _, .attributes as => some (object c o as)
  | bytearray _, .bytes bs => some (bytearray bs)
  | _, _ => Option.none

/-- A new cell with some contents; objects with attributes are made by their classes. -/
def ofFilling? : Filling → Option Cell
  | .items vs => some (list vs)
  | .entries es => some (dict es)
  | .bytes bs => some (bytearray bs)
  | .attributes _ => Option.none

end Cell

/-- The cells, by number. -/
abbrev Heap := Array Cell

end FunctionObjects
