import FunctionObjects.Numeral.Floating
/-!
# Shortest decimal text

The decimal written for a number is the nearest among the shortest ones that read back as the same
number.  On the grid of `n` digits only the two neighbours of the number can qualify, so the search
tests those two for each `n` in exact arithmetic.
-/

namespace FunctionObjects.Numeral

/-- Decimal digits: the number is `digits · 10 ^ exponent`. -/
structure Scientific where
  digits : Nat
  exponent : Int
deriving DecidableEq, Repr

namespace Shortest

/-- The reals, as fractions of one denominator, that round to a given number. -/
structure Interval where
  low : Nat
  value : Nat
  high : Nat
  denominator : Nat
  closed : Bool

/-- The interval around `m · 2 ^ e`, which is a positive number of the format. -/
def intervalOf (f : Floating.Format) (m : Nat) (e : Int) : Interval :=
  let width : Int := (Nat.log2 m : Int) + 1
  let unit : Int := max f.least (e + width - f.precision)
  let whole := m * Floating.powTwo (e - unit)
  let lowStep := if whole = Nat.pow 2 (f.precision - 1) ∧ unit > f.least then 1 else 2
  let scale := Floating.powTwo (unit - 2)
  ⟨(4 * whole - lowStep) * scale, 4 * whole * scale, (4 * whole + 2) * scale,
    Floating.powTwo (2 - unit), whole % 2 = 0⟩

/-- Whether `d · num / den` lies in the interval. -/
def Interval.holds (i : Interval) (d num den : Nat) : Bool :=
  let x := d * num * i.denominator
  if i.closed then i.low * den ≤ x && x ≤ i.high * den
  else i.low * den < x && x < i.high * den

/-- The numerator and denominator of a power of ten. -/
def tenPower (e : Int) : Nat × Nat := (Nat.pow 10 e.toNat, Nat.pow 10 (-e).toNat)

/-- Picks a grid point of unit `10 ^ e` that lies in the interval, nearest to the value. -/
def onGrid (i : Interval) (e : Int) : Option Scientific :=
  let (num, den) := tenPower e
  let below := i.value * den / (i.denominator * num)
  let lowHit := i.holds below num den && below ≠ 0
  let highHit := i.holds (below + 1) num den
  let exact := i.value * den
  let unit := i.denominator * num
  let toLow := exact - below * unit
  let toHigh := (below + 1) * unit - exact
  if lowHit && highHit then
    some ⟨if toLow < toHigh || (toLow == toHigh && below % 2 == 0) then below else below + 1, e⟩
  else if lowHit then some ⟨below, e⟩
  else if highHit then some ⟨below + 1, e⟩
  else none

/-- The exponent of the leading decimal digit of `num / den`, or one more. -/
def leading (num den : Nat) : Int :=
  let guess : Int := ((Nat.toDigits 10 num).length : Int) - (Nat.toDigits 10 den).length
  let (p, q) := tenPower guess
  if num * q < p * den then guess - 1 else guess

/-- Tries ever finer grids, each a tenth of the one before. -/
def search (i : Interval) : Nat → Int → Option Scientific
  | 0, _ => none
  | n + 1, e =>
    match onGrid i e with
    | some s => some s
    | none => search i n (e - 1)

end Shortest

/-- Drops trailing zeros of the digits. -/
def Scientific.trim (s : Scientific) : Scientific :=
  if h : s.digits ≠ 0 ∧ s.digits % 10 = 0 then trim ⟨s.digits / 10, s.exponent + 1⟩ else s
termination_by s.digits
decreasing_by omega

/-- The shortest decimal that reads back as the positive number `m · 2 ^ e` of the format. -/
def shortest (f : Floating.Format) (m : Nat) (e : Int) : Scientific :=
  let i := Shortest.intervalOf f m e
  match Shortest.search i 20 (Shortest.leading i.value i.denominator) with
  | some s => s.trim
  | none => ⟨0, 0⟩

/-- How a number is laid out: positional notation is used while the exponent of the leading digit
is at least `positionalFrom` and below `positionalTo`. -/
structure Layout where
  positionalFrom : Int
  positionalTo : Int
  nan : String
  infinite : String
deriving Repr

/-- Numbers are written positionally from 0.0001 up to 10 ^ 16, and always show that they are not
whole-number literals. -/
def Layout.standard : Layout := ⟨-4, 16, "nan", "inf"⟩

def zeros (n : Nat) : String := String.ofList (List.replicate n '0')

/-- An exponent: its sign, then at least two digits. -/
def exponentText (e : Int) : String :=
  let d := toString e.natAbs
  (if e < 0 then "e-" else "e+") ++ (if d.length < 2 then "0" ++ d else d)

/-- Lays out digits, with `.0` after a whole number when `point` is set. -/
def Layout.scientific (l : Layout) (point : Bool) (s : Scientific) : String :=
  let ds := (toString s.digits).toList
  let lead : Int := s.exponent + ds.length - 1
  if l.positionalFrom ≤ lead ∧ lead < l.positionalTo then
    if lead < 0 then
      "0." ++ zeros (-lead - 1).toNat ++ String.ofList ds
    else
      let whole := lead.toNat + 1
      if ds.length ≤ whole then
        String.ofList ds ++ zeros (whole - ds.length) ++ (if point then ".0" else "")
      else String.ofList (ds.take whole) ++ "." ++ String.ofList (ds.drop whole)
  else
    let rest := ds.drop 1
    String.ofList (ds.take 1) ++ (if rest.isEmpty then "" else "." ++ String.ofList rest) ++
      exponentText lead

/-- The text of a number of the format. -/
def Layout.text (l : Layout) (f : Floating.Format) (point : Bool) : Floating → String
  | .nan _ => l.nan
  | .infinite s => (if s then "-" else "") ++ l.infinite
  | .finite s m e =>
    (if s then "-" else "") ++
      (if m = 0 then (if point then "0.0" else "0") else l.scientific point (shortest f m e))

/-- The text of a double, which shows that it is not a whole-number literal. -/
def Floating.text (x : Floating) : String := Layout.standard.text .double true x

end FunctionObjects.Numeral
