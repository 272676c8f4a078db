import FunctionObjects.Numeral.Shortest
/-!
# Sized scalars

Numbers of a fixed width, with the truth values and texts that belong to them.  Whole numbers wrap
around at their width, and fractional ones are rounded to their format.  An operation on two
scalars takes place in the smallest kind that holds both.
-/

namespace FunctionObjects.Numeral

inductive Scalar where
  | int (signed : Bool) (bits : Nat) (v : Int)
  | float (bits : Nat) (x : Floating)
  | complex (bits : Nat) (re im : Floating)
  | bool (b : Bool)
  | str (s : String)
  | bytes (bs : List Nat)
deriving DecidableEq, Repr, Inhabited

/-- The kind of a scalar number. -/
inductive ScalarKind where
  | bool
  | int (signed : Bool) (bits : Nat)
  | float (bits : Nat)
deriving DecidableEq, Repr

namespace Scalar

def formatOf (bits : Nat) : Floating.Format :=
  if bits = 16 then .half else if bits = 32 then .single else .double

/-- The name of the kind. -/
def name : Scalar → String
  | .int s b _ => (if s then "int" else "uint") ++ toString b
  | .float b _ => "float" ++ toString b
  | .complex b .. => "complex" ++ toString b
  | .bool _ => "bool"
  | .str _ => "str_"
  | .bytes _ => "bytes_"

/-- Wraps a whole number around at a width. -/
def wrap (signed : Bool) (bits : Nat) (n : Int) : Int :=
  if signed then Int.bmod n (Nat.pow 2 bits) else n % (Nat.pow 2 bits : Nat)

/-- Whether a whole number fits a width. -/
def fits (signed : Bool) (bits : Nat) (n : Int) : Bool := wrap signed bits n == n

def kind? : Scalar → Option ScalarKind
  | .bool _ => some .bool
  | .int s b _ => some (.int s b)
  | .float b _ => some (.float b)
  | _ => none

end Scalar

namespace ScalarKind

/-- The fractional kind that a whole-number kind needs. -/
def floatFor (bits : Nat) : Nat := if bits ≤ 8 then 16 else if bits ≤ 16 then 32 else 64

/-- The smallest kind that holds two kinds. -/
def join : ScalarKind → ScalarKind → ScalarKind
  | .bool, k => k
  | k, .bool => k
  | .float a, .float b => .float (max a b)
  | .float a, .int _ b => .float (max a (floatFor b))
  | .int _ b, .float a => .float (max a (floatFor b))
  | .int s a, .int t b =>
    if s == t then .int s (max a b)
    else
      let unsigned := if s then b else a
      let signed := if s then a else b
      if unsigned < signed then .int true signed
      else if unsigned < 64 then .int true (2 * unsigned)
      else .float 64

end ScalarKind

end FunctionObjects.Numeral
