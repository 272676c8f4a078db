import FunctionObjects.Numeral.Shortest
import FunctionObjects.Text.Ranges
/-!
# Numbers read from text

Readers for whole, floating-point and complex numbers.  Blank characters around a number are
ignored, the digits may be those of any script, and a single underscore may stand between two of
them.  No function raises: what is not a number is `none`.
-/

namespace FunctionObjects.Numeral.Literal

open FunctionObjects.Text

/-- The digits at the front of a text, most significant first, and what follows them. -/
def digits : List Char → List Nat × List Char
  | [] => ([], [])
  | c :: cs =>
    match digit? c with
    | some d => let (ds, rest) := digits cs; (d :: ds, rest)
    | none =>
      match c, cs with
      | '_', n :: _ => if isDigit n then digits cs else ([], c :: cs)
      | _, _ => ([], c :: cs)

/-- As `digits`, but an underscore may not come first. -/
def digitRun (cs : List Char) : List Nat × List Char :=
  match cs with
  | '_' :: _ => ([], cs)
  | _ => digits cs

def ofDigits (ds : List Nat) : Nat := ds.foldl (fun n d => n * 10 + d) 0

/-- Splits off a sign; `true` for a minus. -/
def sign : List Char → Bool × List Char
  | '-' :: cs => (true, cs)
  | '+' :: cs => (false, cs)
  | cs => (false, cs)

def signed (negative : Bool) (n : Nat) : Int := if negative then -(n : Int) else n

/-- Reads a whole number. -/
def int? (cs : List Char) : Option Int :=
  let (negative, rest) := sign (strip cs)
  match digitRun rest with
  | ([], _) => none
  | (ds, []) => some (signed negative (ofDigits ds))
  | _ => none

/-- The exponent part of a number, zero when there is none. -/
def exponent (cs : List Char) : Int × List Char :=
  match cs with
  | e :: rest =>
    if e == 'e' || e == 'E' then
      let (negative, rest) := sign rest
      match digitRun rest with
      | ([], _) => (0, cs)
      | (ds, rest) => (signed negative (ofDigits ds), rest)
    else (0, cs)
  | [] => (0, cs)

/-- The double nearest to `± n · 10 ^ e`.  Exponents far outside its range are not computed. -/
def scaledDouble (negative : Bool) (n : Nat) (e : Int) : Floating :=
  let size : Int := (Nat.toDigits 10 n).length + e
  if n = 0 then .finite negative 0 0
  else if size > 400 then .infinite negative
  else if size < -400 then .finite negative 0 0
  else
    let (num, den) := Shortest.tenPower e
    .round .double negative (n * num) den

/-- Whether a text starts with a word, whatever its case. -/
def startsWith (word : List Char) (cs : List Char) : Bool :=
  (cs.take word.length).map Char.toLower == word

/-- Reads an unsigned floating-point number at the front of a text. -/
def floatPart? (mark : Nat) (negative : Bool) (cs : List Char) : Option (Floating × List Char) :=
  if startsWith "infinity".toList cs then some (.infinite negative, cs.drop 8)
  else if startsWith "inf".toList cs then some (.infinite negative, cs.drop 3)
  else if startsWith "nan".toList cs then some (.nan mark, cs.drop 3)
  else
    let (whole, rest) := digitRun cs
    let (fraction, rest) :=
      match rest with
      | '.' :: more => digitRun more
      | _ => ([], rest)
    if whole.isEmpty && fraction.isEmpty then none
    else
      let (e, rest) := exponent rest
      some (scaledDouble negative (ofDigits (whole ++ fraction)) (e - fraction.length), rest)

/-- Reads a floating-point number; a NaN gets the given mark. -/
def float? (mark : Nat) (cs : List Char) : Option Floating :=
  let (negative, rest) := sign (strip cs)
  match floatPart? mark negative rest with
  | some (x, []) => some x
  | _ => none

def isImaginaryUnit (c : Char) : Bool := c == 'j' || c == 'J'

/-- The coefficient of an imaginary part: a number, or one when only the unit is written. -/
def imaginary? (mark : Nat) (cs : List Char) : Option Floating :=
  let (negative, rest) := sign cs
  match rest with
  | [u] => if isImaginaryUnit u then some (Floating.ofInt .double (if negative then -1 else 1)) else none
  | _ =>
    match floatPart? mark negative rest with
    | some (x, [u]) => if isImaginaryUnit u then some x else none
    | _ => none

/-- Removes one pair of parentheses around a number. -/
def unparenthesized (cs : List Char) : List Char :=
  match cs, cs.reverse with
  | '(' :: rest, ')' :: _ => strip rest.dropLast
  | _, _ => cs

/-- Reads a complex number as its real and imaginary parts; a NaN gets the given mark. -/
def complex? (mark : Nat) (cs : List Char) : Option (Floating × Floating) :=
  let body := unparenthesized (strip cs)
  match imaginary? mark body with
  | some y => some (.zero, y)
  | none =>
    let (negative, rest) := sign body
    match floatPart? mark negative rest with
    | some (x, []) => some (x, .zero)
    | some (x, c :: more) =>
      if c == '+' || c == '-' then (imaginary? mark (c :: more)).map fun y => (x, y) else none
    | none => none

end FunctionObjects.Numeral.Literal
