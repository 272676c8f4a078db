import FunctionObjects.Numeral.Literal
/-!
# Decimal floating-point numbers

A decimal keeps the exponent it was written with, so `2.20` and `2.2` are equal and print
differently.  Sums and products are exact up to 28 digits and are then rounded, a tie going to the
even digit.
-/

namespace FunctionObjects.Numeral

inductive Decimal where
  | finite (negative : Bool) (coefficient : Nat) (exponent : Int)
  | infinite (negative : Bool)
  | nan (mark : Nat)
deriving DecidableEq, Repr

namespace Decimal

/-- The significant digits that a result keeps. -/
def precision : Nat := 28

def width (n : Nat) : Nat := (Nat.toDigits 10 n).length

/-- Rounds a coefficient to the precision. -/
def rounded (negative : Bool) (n : Nat) (e : Int) : Decimal :=
  let excess := width n - precision
  if excess = 0 then .finite negative n e
  else
    let m := Floating.divNearestEven n (Nat.pow 10 excess)
    if width m > precision then .finite negative (m / 10) (e + excess + 1)
    else .finite negative m (e + excess)

def ofInt (n : Int) : Decimal := .finite (n < 0) n.natAbs 0

/-- The exact value of a finite double. -/
def ofFloating : Floating → Decimal
  | .nan k => .nan k
  | .infinite s => .infinite s
  | .finite s m e =>
    if e ≥ 0 then .finite s (m * Nat.pow 2 e.toNat) 0
    else .finite s (m * Nat.pow 5 (-e).toNat) e

def ratio? : Decimal → Option (Int × Nat)
  | .finite s n e =>
    let (num, den) := Shortest.tenPower e
    some (if s then -((n * num : Nat) : Int) else (n * num : Nat), den)
  | _ => none

def isZero : Decimal → Bool
  | .finite _ 0 _ => true
  | _ => false

/-- The coefficient that a finite decimal has at a smaller exponent. -/
def coefficientAt (n : Nat) (e target : Int) : Nat := n * Nat.pow 10 (e - target).toNat

def neg : Decimal → Decimal
  | .finite s n e => .finite (!s) n e
  | .infinite s => .infinite (!s)
  | .nan k => .nan k

def abs : Decimal → Decimal
  | .finite _ n e => .finite false n e
  | .infinite _ => .infinite false
  | .nan k => .nan k

/-- The sum; `none` for opposite infinities. -/
def add? : Decimal → Decimal → Option Decimal
  | .nan k, _ => some (.nan k)
  | _, .nan k => some (.nan k)
  | .infinite s, .infinite t => if s = t then some (.infinite s) else none
  | .infinite s, _ => some (.infinite s)
  | _, .infinite t => some (.infinite t)
  | .finite s m e, .finite t n g =>
    let low := min e g
    let a := coefficientAt m e low
    let b := coefficientAt n g low
    let total : Int := (if s then -(a : Int) else a) + (if t then -(b : Int) else b)
    some (rounded (if total = 0 then s && t else total < 0) total.natAbs low)

/-- The product; `none` for infinity times zero. -/
def mul? : Decimal → Decimal → Option Decimal
  | .nan k, _ => some (.nan k)
  | _, .nan k => some (.nan k)
  | .infinite s, .infinite t => some (.infinite (s != t))
  | .infinite s, .finite t n _ => if n = 0 then none else some (.infinite (s != t))
  | .finite s n _, .infinite t => if n = 0 then none else some (.infinite (s != t))
  | .finite s m e, .finite t n g => some (rounded (s != t) (m * n) (e + g))

/-- Quotient and remainder of a division that truncates, by a divisor that is not zero. -/
def divMod? : Decimal → Decimal → Option (Decimal × Decimal)
  | .finite s m e, .finite t n g =>
    let low := min e g
    let a := coefficientAt m e low
    let b := coefficientAt n g low
    if b = 0 then none
    else some (.finite (s != t) (a / b) 0, rounded s (a % b) low)
  | .nan k, _ => some (.nan k, .nan k)
  | _, .nan k => some (.nan k, .nan k)
  | .finite s m e, .infinite t => some (.finite (s != t) 0 0, .finite s m e)
  | .infinite _, _ => none

def text : Decimal → String
  | .nan _ => "NaN"
  | .infinite s => if s then "-Infinity" else "Infinity"
  | .finite s n e =>
    let ds := Nat.toDigits 10 n
    let left : Int := e + ds.length
    let place : Int := if e ≤ 0 ∧ left > -6 then left else 1
    let body :=
      if place ≤ 0 then "0." ++ zeros (-place).toNat ++ String.ofList ds
      else if place ≥ ds.length then String.ofList ds ++ zeros (place - ds.length).toNat
      else String.ofList (ds.take place.toNat) ++ "." ++ String.ofList (ds.drop place.toNat)
    let shift := left - place
    (if s then "-" else "") ++ body ++
      (if shift = 0 then "" else "E" ++ (if shift > 0 then "+" else "") ++ toString shift)

/-- Reads a decimal number. -/
def ofText? (mark : Nat) (cs : List Char) : Option Decimal :=
  let (negative, rest) := Literal.sign ((Text.strip cs).filter (· != '_'))
  let lower := rest.map Char.toLower
  if lower == "inf".toList || lower == "infinity".toList then some (.infinite negative)
  else if lower == "nan".toList then some (.nan mark)
  else
    let (whole, rest) := Literal.digitRun rest
    let (fraction, rest) :=
      match rest with
      | '.' :: more => Literal.digitRun more
      | _ => ([], rest)
    if whole.isEmpty && fraction.isEmpty then none
    else
      let (e, rest) := Literal.exponent rest
      if rest.isEmpty then
        some (.finite negative (Literal.ofDigits (whole ++ fraction)) (e - fraction.length))
      else none

end Decimal

end FunctionObjects.Numeral
