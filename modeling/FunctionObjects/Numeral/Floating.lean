/-!
# Binary floating-point numbers

A number is a sign, a natural mantissa and a binary exponent, so every finite value is an exact
rational and arithmetic is exact arithmetic followed by one rounding.  A format only says where
that rounding happens.  The mantissa of a built number is odd, or zero with exponent zero, so
equal finite values of one sign are equal terms.
-/

namespace FunctionObjects.Numeral

/-- A floating-point number.  A NaN carries the mark of the literal it was read from, which tells
one NaN apart from another where identity counts. -/
inductive Floating where
  | nan (mark : Nat)
  | infinite (negative : Bool)
  | finite (negative : Bool) (mantissa : Nat) (exponent : Int)
deriving DecidableEq, Repr, Inhabited

namespace Floating

/-- Where a format rounds: significant bits, the least exponent of a unit, and the exponent of the
unit of its largest numbers. -/
structure Format where
  precision : Nat
  least : Int
  greatest : Int
deriving DecidableEq, Repr

def Format.half : Format := ⟨11, -24, 5⟩
def Format.single : Format := ⟨24, -149, 104⟩
def Format.double : Format := ⟨53, -1074, 971⟩

/-- Positive zero. -/
def zero : Floating := .finite false 0 0

/-- Divides out factors of two, counting them. -/
def oddPart (m : Nat) (e : Int) : Nat × Int :=
  if h : m ≠ 0 ∧ m % 2 = 0 then oddPart (m / 2) (e + 1) else (m, e)
termination_by m
decreasing_by omega

/-- The number `± m · 2 ^ e`. -/
def ofDyadic (negative : Bool) (m : Nat) (e : Int) : Floating :=
  if m = 0 then .finite negative 0 0
  else
    let (m, e) := oddPart m e
    .finite negative m e

def powTwo (e : Int) : Nat := Nat.pow 2 e.toNat

/-- Scales `num / den` by `2 ^ (-e)`. -/
def scaled (num den : Nat) (e : Int) : Nat × Nat :=
  if 0 ≤ e then (num, den * powTwo e) else (num * powTwo (-e), den)

/-- Divides, going to the nearest natural and from a tie to the even one. -/
def divNearestEven (num den : Nat) : Nat :=
  let q := num / den
  let r := num % den
  if 2 * r > den ∨ (2 * r = den ∧ q % 2 = 1) then q + 1 else q

/-- The exponent of the unit in which `num / den` is rounded. -/
def unitOf (f : Format) (num den : Nat) : Int :=
  let guess := (Nat.log2 num : Int) - (Nat.log2 den : Int) - f.precision
  let guess := if guess < f.least then f.least else guess
  let (n, d) := scaled num den guess
  if n / d ≥ Nat.pow 2 f.precision then guess + 1 else guess

/-- The number of format `f` nearest to `± num / den`. -/
def round (f : Format) (negative : Bool) (num den : Nat) : Floating :=
  if num = 0 then .finite negative 0 0
  else
    let unit := unitOf f num den
    let (n, d) := scaled num den unit
    let m := divNearestEven n d
    if unit > f.greatest ∨ (unit = f.greatest ∧ m ≥ Nat.pow 2 f.precision) then .infinite negative
    else ofDyadic negative m unit

/-- A finite number as a numerator and a denominator. -/
def ratio? : Floating → Option (Int × Nat)
  | .finite s m e =>
    let num : Nat := m * powTwo e
    some (if s then -(num : Int) else num, powTwo (-e))
  | _ => none

def isNan : Floating → Bool
  | .nan _ => true
  | _ => false

def isZero : Floating → Bool
  | .finite _ 0 _ => true
  | _ => false

def isNegative : Floating → Bool
  | .nan _ => false
  | .infinite s => s
  | .finite s _ _ => s

def neg : Floating → Floating
  | .nan k => .nan k
  | .infinite s => .infinite (!s)
  | .finite s m e => .finite (!s) m e

def abs : Floating → Floating
  | .nan k => .nan k
  | .infinite _ => .infinite false
  | .finite _ m e => .finite false m e

def ofRatio (f : Format) (num : Int) (den : Nat) : Floating :=
  round f (num < 0) num.natAbs den

def ofInt (f : Format) (n : Int) : Floating := ofRatio f n 1

/-- The whole part of a finite number. -/
def truncate? (x : Floating) : Option Int :=
  x.ratio?.map fun (n, d) => n.tdiv d

/-- The nearest whole number, a tie going to the even one. -/
def nearestInt? (x : Floating) : Option Int :=
  x.ratio?.map fun (n, d) =>
    let q := divNearestEven n.natAbs d
    if n < 0 then -(q : Int) else q

/-- Orders a number against an exact rational. -/
def compareRatio? (x : Floating) (num : Int) (den : Nat) : Option Ordering :=
  match x with
  | .nan _ => none
  | .infinite s => some (if s then .lt else .gt)
  | .finite s m e =>
    (ratio? (.finite s m e)).map fun (a, b) => compare (a * den) (num * b)

def add (f : Format) : Floating → Floating → Floating
  | .nan k, _ => .nan k
  | _, .nan k => .nan k
  | .infinite s, .infinite t => if s = t then .infinite s else .nan 0
  | .infinite s, .finite .. => .infinite s
  | .finite .., .infinite t => .infinite t
  | .finite s m e, .finite t n g =>
    match ratio? (.finite s m e), ratio? (.finite t n g) with
    | some (a, b), some (c, d) =>
      let num := a * d + c * b
      if num = 0 then .finite (s && t) 0 0 else ofRatio f num (b * d)
    | _, _ => .nan 0

def sub (f : Format) (x y : Floating) : Floating := add f x y.neg

def mul (f : Format) : Floating → Floating → Floating
  | .nan k, _ => .nan k
  | _, .nan k => .nan k
  | .infinite s, .infinite t => .infinite (s != t)
  | .infinite s, .finite t n _ => if n = 0 then .nan 0 else .infinite (s != t)
  | .finite s m _, .infinite t => if m = 0 then .nan 0 else .infinite (s != t)
  | .finite s m e, .finite t n g =>
    let (num, den) := scaled (m * n) 1 (-(e + g))
    round f (s != t) num den

/-- Division by a number that is not zero. -/
def div (f : Format) : Floating → Floating → Floating
  | .nan k, _ => .nan k
  | _, .nan k => .nan k
  | .infinite _, .infinite _ => .nan 0
  | .infinite s, .finite t _ _ => .infinite (s != t)
  | .finite s _ _, .infinite t => .finite (s != t) 0 0
  | .finite s m e, .finite t n g =>
    let (num, den) := scaled m n (g - e)
    round f (s != t) num den

/-- The remainder of a division that truncates; it has the sign of the dividend. -/
def remainder (f : Format) (x y : Floating) : Floating :=
  match x, y with
  | .nan k, _ => .nan k
  | _, .nan k => .nan k
  | .infinite _, _ => .nan 0
  | .finite s m e, .infinite _ => .finite s m e
  | .finite s m e, .finite t n g =>
    match ratio? (.finite s m e), ratio? (.finite t n g) with
    | some (a, b), some (c, d) =>
      if c = 0 then .nan 0
      else
        let r : Nat := (a.natAbs * d) % (c.natAbs * b)
        if r = 0 then .finite s 0 0 else round f s r (b * d)
    | _, _ => .nan 0

/-- The greatest whole number that is not above a finite number. -/
def floor (f : Format) (x : Floating) : Floating :=
  match x with
  | .finite s m e =>
    match ratio? (.finite s m e) with
    | some (n, d) =>
      let q := n.fdiv d
      if q = 0 then .finite s 0 0 else ofInt f q
    | none => x
  | _ => x

/-- Quotient and remainder of a division that floors, each rounded as it arises. -/
def floorDivMod (f : Format) (x y : Floating) : Floating × Floating :=
  let m := remainder f x y
  let q := div f (sub f x m) y
  let (m, q) :=
    if m.isZero then (Floating.finite y.isNegative 0 0, q)
    else if m.isNan then (m, q)
    else if y.isNegative != m.isNegative then (add f m y, sub f q (ofInt f 1))
    else (m, q)
  let q :=
    if q.isZero then
      Floating.finite ((div f x y).isNegative) 0 0
    else
      let low := floor f q
      match (sub f q low).compareRatio? 1 2 with
      | some .gt => add f low (ofInt f 1)
      | _ => low
  (q, m)

/-- The same number in another format. -/
def convert (f : Format) : Floating → Floating
  | .finite s m e =>
    let (num, den) := scaled m 1 (-e)
    round f s num den
  | x => x

/-- The bit of the sign. -/
def signBit : Nat := 0x8000000000000000

/-- The bit above those of the fraction. -/
def leadingBit : Nat := 0x10000000000000

/-- The bits of a double. -/
def toBits : Floating → Nat
  | .nan _ => 0x7ff8000000000000
  | .infinite s => (if s then signBit else 0) + 0x7ff0000000000000
  | .finite s m e =>
    let sign := if s then signBit else 0
    if m = 0 then sign
    else
      let top : Int := (Nat.log2 m : Int) + e
      if top < -1022 then sign + m * powTwo (e + 1074)
      else
        sign + (top + 1023).toNat * leadingBit +
          (m * Nat.pow 2 (52 - Nat.log2 m) - leadingBit)

/-- The double with the given bits. -/
def ofBits (b : Nat) : Floating :=
  let s : Bool := b / signBit % 2 = 1
  let ex : Nat := b / leadingBit % 2048
  let fr : Nat := b % leadingBit
  if ex = 2047 then (if fr = 0 then .infinite s else .nan 0)
  else if ex = 0 then ofDyadic s fr (-1074)
  else ofDyadic s (fr + leadingBit) ((ex : Int) - 1075)

/-- A power of doubles, by the machine's own function. -/
def pow (x y : Floating) : Floating :=
  ofBits ((Float.ofBits x.toBits.toUInt64).pow (Float.ofBits y.toBits.toUInt64)).toBits.toNat

end Floating

end FunctionObjects.Numeral
