import FunctionObjects.Value.Basic
/-!
# Numbers compared exactly

Numbers of all kinds are compared by their exact values, whatever their kinds.
-/

namespace FunctionObjects

open FunctionObjects.Numeral

/-- The exact value of a real number. -/
inductive Magnitude where
  | ratio (num : Int) (den : Nat)
  | infinite (negative : Bool)
  | nan
deriving DecidableEq, Repr

namespace Magnitude

def ofInt (n : Int) : Magnitude := .ratio n 1

def ofFloating (x : Floating) : Magnitude :=
  match x with
  | .nan _ => .nan
  | .infinite s => .infinite s
  | .finite .. =>
    match x.ratio? with
    | some (n, d) => .ratio n d
    | none => .nan

def ofDecimal (x : Decimal) : Magnitude :=
  match x with
  | .nan _ => .nan
  | .infinite s => .infinite s
  | .finite .. =>
    match x.ratio? with
    | some (n, d) => .ratio n d
    | none => .nan

/-- Orders two values; nothing is ordered against what is no number. -/
def compare? : Magnitude → Magnitude → Option Ordering
  | .nan, _ => none
  | _, .nan => none
  | .infinite s, .infinite t => some (if s == t then .eq else if s then .lt else .gt)
  | .infinite s, .ratio .. => some (if s then .lt else .gt)
  | .ratio .., .infinite t => some (if t then .gt else .lt)
  | .ratio a b, .ratio c d => some (compare (a * d) (c * b))

def same (a b : Magnitude) : Bool := a.compare? b == some .eq

def isZero : Magnitude → Bool
  | .ratio n _ => n == 0
  | _ => false

end Magnitude

namespace Numeral.Scalar

/-- The value of a scalar that is a real number. -/
def real? : Scalar → Option Magnitude
  | .int _ _ v => some (.ofInt v)
  | .float _ x => some (.ofFloating x)
  | .bool b => some (.ofInt (if b then 1 else 0))
  | _ => none

/-- The text of a scalar. -/
def text : Scalar → String
  | .int _ _ v => toString v
  | .float b x => Layout.standard.text (formatOf b) true x
  | .complex .. => ""
  | .bool b => if b then "True" else "False"
  | .str s => s
  | .bytes bs => Text.quotedBytes bs

end Numeral.Scalar

namespace Atom

/-- The value of a real number; truth values count as one and zero. -/
def real? : Atom → Option Magnitude
  | .bool b => some (.ofInt (if b then 1 else 0))
  | .int n => some (.ofInt n)
  | .float x => some (.ofFloating x)
  | .scalar s => s.real?
  | .decimal d => some (.ofDecimal d)
  | .fraction n d => some (.ratio n d)
  | _ => Option.none

/-- The real and imaginary parts of a number. -/
def number? : Atom → Option (Magnitude × Magnitude)
  | .complex re im => some (.ofFloating re, .ofFloating im)
  | .scalar (.complex _ re im) => some (.ofFloating re, .ofFloating im)
  | a => a.real?.map fun m => (m, .ofInt 0)

/-- The characters of a text. -/
def text? : Atom → Option String
  | .str s => some s
  | .scalar (.str s) => some s
  | _ => Option.none

def bytes? : Atom → Option (List Nat)
  | .bytes bs => some bs
  | .scalar (.bytes bs) => some bs
  | _ => Option.none

def isNothing : Atom → Bool
  | .none => true
  | _ => false

/-- Where a moment stands: on its clock, or in time if its offset is known. -/
def standing (t : Time.Moment) : Bool × Int :=
  match t.offset with
  | some o => (true, t.sinceEpoch o)
  | Option.none => (false, t.clock)

/-- Whether two atoms are equal. -/
def same (a b : Atom) : Bool :=
  match a.number?, b.number? with
  | some (x, y), some (z, w) => x.same z && y.same w
  | _, _ =>
    match a.text?, b.text? with
    | some s, some t => s == t
    | _, _ =>
      match a.bytes?, b.bytes? with
      | some s, some t => s == t
      | _, _ =>
        match a, b with
        | .none, .none => true
        | .moment t, .moment u => standing t == standing u
        | .date d, .date e => d == e
        | .pattern p, .pattern q => p == q
        | .type t, .type u => t.same u
        | .builtin f, .builtin g => f == g
        | .kind k, .kind l => k == l
        | .result r, .result s => r == s
        | _, _ => false

/-- Whether two atoms may be one and the same object although they are not equal to themselves:
not-a-number, with the mark of one literal. -/
def identical : Atom → Atom → Bool
  | .float x, .float y => x == y
  | .complex x y, .complex z w => x == z && y == w
  | .scalar s, .scalar t => s == t
  | .decimal d, .decimal e => d == e
  | _, _ => false

end Atom

end FunctionObjects
