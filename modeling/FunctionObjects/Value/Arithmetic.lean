import FunctionObjects.Value.Magnitude
import FunctionObjects.Fault
/-!
# Arithmetic

Whole numbers, fractions and decimals are computed exactly or to their own precision, and a
fractional number takes the other operand along.  Decimals do not mix with fractions.  A sized
scalar keeps its kind beside a plain number and meets another scalar in the kind that holds both.
-/

namespace FunctionObjects

open FunctionObjects.Numeral

/-- A number that can be computed with. -/
inductive Quantity where
  | int (n : Int)
  | ratio (num : Int) (den : Nat)
  | decimal (d : Decimal)
  | float (x : Floating)
  | complex (re im : Floating)
  | scalar (s : Scalar)
deriving Repr, Inhabited

/-- The operations of a ring. -/
inductive Operation where
  | add | sub | mul
deriving DecidableEq, Repr

namespace Operation

def onInt : Operation → Int → Int → Int
  | add => (· + ·)
  | sub => (· - ·)
  | mul => (· * ·)

def onFloating (f : Floating.Format) : Operation → Floating → Floating → Floating
  | add => Floating.add f
  | sub => Floating.sub f
  | mul => Floating.mul f

def onDecimal? : Operation → Decimal → Decimal → Option Decimal
  | add => Decimal.add?
  | sub => fun x y => Decimal.add? x y.neg
  | mul => Decimal.mul?

/-- Fractions over a common denominator. -/
def onRatio : Operation → Int × Nat → Int × Nat → Int × Nat
  | add, (a, b), (c, d) => (a * d + c * b, b * d)
  | sub, (a, b), (c, d) => (a * d - c * b, b * d)
  | mul, (a, b), (c, d) => (a * c, b * d)

def onComplex (f : Floating.Format) :
    Operation → Floating × Floating → Floating × Floating → Floating × Floating
  | add, (a, b), (c, d) => (.add f a c, .add f b d)
  | sub, (a, b), (c, d) => (.sub f a c, .sub f b d)
  | mul, (a, b), (c, d) =>
    (.sub f (.mul f a c) (.mul f b d), .add f (.mul f a d) (.mul f b c))

/-- Truth values of a fixed width are joined instead of added; they cannot be subtracted. -/
def onBool? : Operation → Bool → Bool → Option Bool
  | add, a, b => some (a || b)
  | mul, a, b => some (a && b)
  | sub, _, _ => none

end Operation

namespace Quantity

/-- The number that an atom is; truth values count as one and zero. -/
def ofAtom? : Atom → Option Quantity
  | .bool b => some (.int (if b then 1 else 0))
  | .int n => some (.int n)
  | .float x => some (.float x)
  | .complex re im => some (.complex re im)
  | .scalar (.str _) => none
  | .scalar (.bytes _) => none
  | .scalar s => some (.scalar s)
  | .decimal d => some (.decimal d)
  | .fraction n d => some (.ratio n d)
  | _ => none

/-- A fraction in lowest terms. -/
def lowest (n : Int) (d : Nat) : Atom :=
  let g := Nat.gcd n.natAbs d
  if g = 0 then .fraction n d else .fraction (n / g) (d / g)

def toAtom : Quantity → Atom
  | int n => .int n
  | ratio n d => lowest n d
  | decimal d => .decimal d
  | float x => .float x
  | complex re im => .complex re im
  | scalar s => .scalar s

/-- The nearest double of an exact number that a double can hold. -/
def double (n : Int) (d : Nat) : Except Fault Floating :=
  match Floating.ofRatio .double n d with
  | .infinite _ => throw .overflow
  | x => return x

/-- The parts of a number that is no decimal, as doubles. -/
def parts : Quantity → Except Fault (Floating × Floating)
  | int n => return (← double n 1, .zero)
  | ratio n d => return (← double n d, .zero)
  | float x => return (x, .zero)
  | complex re im => return (re, im)
  | scalar (.int _ _ n) => return (← double n 1, .zero)
  | scalar (.float _ x) => return (x, .zero)
  | scalar (.complex _ re im) => return (re, im)
  | scalar (.bool b) => return (if b then .ofInt .double 1 else .zero, .zero)
  | _ => throw .wrongType

/-- A scalar without its width. -/
def unsized : Quantity → Quantity
  | scalar (.int _ _ n) => .int n
  | scalar (.float _ x) => .float x
  | scalar (.complex _ re im) => .complex re im
  | scalar (.bool b) => .int (if b then 1 else 0)
  | q => q

/-- The kind in which a scalar of some kind meets another number; `none` if it needs parts. -/
def kindWith (k : ScalarKind) : Quantity → Option ScalarKind
  | int _ => some (match k with
    | .bool => .int true 64
    | k => k)
  | float _ => some (match k with
    | .float b => .float b
    | _ => .float 64)
  | scalar s => s.kind?.map k.join
  | _ => none

/-- The width of a complex scalar that holds a number beside a sized one. -/
def complexBits : Quantity → Nat
  | scalar (.complex b ..) => b
  | scalar (.float b _) => if b = 64 then 128 else 64
  | scalar (.int _ b _) => if b ≤ 16 then 64 else 128
  | _ => 64

/-- The whole number that a number is in a kind of whole numbers. -/
def wholeIn (signed : Bool) (bits : Nat) : Quantity → Except Fault Int
  | int n => if Scalar.fits signed bits n then return n else throw .overflow
  | scalar (.int _ _ n) => return n
  | scalar (.bool b) => return if b then 1 else 0
  | _ => throw .wrongType

/-- The number that a number is in a kind of fractional numbers. -/
def floatingIn (bits : Nat) : Quantity → Except Fault Floating
  | int n => return .ofInt (Scalar.formatOf bits) n
  | float x => return x.convert (Scalar.formatOf bits)
  | scalar (.int _ _ n) => return .ofInt (Scalar.formatOf bits) n
  | scalar (.float _ x) => return x.convert (Scalar.formatOf bits)
  | scalar (.bool b) => return .ofInt (Scalar.formatOf bits) (if b then 1 else 0)
  | _ => throw .wrongType

/-- The kind in which two numbers meet of which one is sized. -/
def meeting (x y : Quantity) : Option ScalarKind :=
  match x, y with
  | scalar s, y => s.kind?.bind fun k => kindWith k y
  | x, scalar s => s.kind?.bind fun k => kindWith k x
  | _, _ => none

def isSized : Quantity → Bool
  | scalar _ => true
  | _ => false

def isExact : Quantity → Bool
  | ratio .. => true
  | decimal _ => true
  | _ => false

def isComplex : Quantity → Bool
  | complex .. => true
  | scalar (.complex ..) => true
  | _ => false

/-- An operation on numbers without width. -/
def combinePlain (o : Operation) (x y : Quantity) : Except Fault Quantity :=
  match x, y with
  | int a, int b => return .int (o.onInt a b)
  | decimal a, decimal b => (o.onDecimal? a b).elim (throw .decimalOperation) fun d => return .decimal d
  | decimal a, int b =>
    (o.onDecimal? a (.ofInt b)).elim (throw .decimalOperation) fun d => return .decimal d
  | int a, decimal b =>
    (o.onDecimal? (.ofInt a) b).elim (throw .decimalOperation) fun d => return .decimal d
  | decimal _, _ => throw .wrongType
  | _, decimal _ => throw .wrongType
  | ratio a b, ratio c d => let (n, m) := o.onRatio (a, b) (c, d); return .ratio n m
  | ratio a b, int c => let (n, m) := o.onRatio (a, b) (c, 1); return .ratio n m
  | int a, ratio c d => let (n, m) := o.onRatio (a, 1) (c, d); return .ratio n m
  | x, y => do
    let p ← x.parts
    let q ← y.parts
    if x.isComplex || y.isComplex then
      let (re, im) := o.onComplex .double p q
      return .complex re im
    else return .float (o.onFloating .double p.1 q.1)

/-- An operation on numbers of which one is sized. -/
def combineSized (o : Operation) (x y : Quantity) : Except Fault Quantity :=
  if x.isComplex || y.isComplex then do
    let bits := max x.complexBits y.complexBits
    let (re, im) := o.onComplex .double (← x.parts) (← y.parts)
    let f := Scalar.formatOf (bits / 2)
    return .scalar (.complex bits (re.convert f) (im.convert f))
  else
    match meeting x y with
    | some .bool =>
      match x, y with
      | scalar (.bool a), scalar (.bool b) =>
        (o.onBool? a b).elim (throw .wrongType) fun c => return .scalar (.bool c)
      | _, _ => throw .wrongType
    | some (.int s b) => do
      return .scalar (.int s b (Scalar.wrap s b (o.onInt (← x.wholeIn s b) (← y.wholeIn s b))))
    | some (.float b) => do
      return .scalar
        (.float b (o.onFloating (Scalar.formatOf b) (← x.floatingIn b) (← y.floatingIn b)))
    | none => throw .wrongType

/-- An operation on any two numbers. -/
def combine (o : Operation) (x y : Quantity) : Except Fault Quantity :=
  if (x.isSized || y.isSized) && !x.isExact && !y.isExact then combineSized o x y
  else combinePlain o x.unsized y.unsized

/-- Quotient and remainder of numbers without width. -/
def divModPlain (x y : Quantity) : Except Fault (Quantity × Quantity) :=
  match x, y with
  | int a, int b => if b = 0 then throw .zeroDivision else return (.int (a.fdiv b), .int (a.fmod b))
  | decimal a, decimal b =>
    if b.isZero then throw .decimalOperation
    else (a.divMod? b).elim (throw .decimalOperation) fun (q, r) => return (.decimal q, .decimal r)
  | decimal a, int b =>
    if b = 0 then throw .decimalOperation
    else (a.divMod? (.ofInt b)).elim (throw .decimalOperation) fun (q, r) =>
      return (.decimal q, .decimal r)
  | int a, decimal b =>
    if b.isZero then throw .decimalOperation
    else ((Decimal.ofInt a).divMod? b).elim (throw .decimalOperation) fun (q, r) =>
      return (.decimal q, .decimal r)
  | decimal _, _ => throw .wrongType
  | _, decimal _ => throw .wrongType
  | ratio a b, ratio c d => exact a b c d
  | ratio a b, int c => exact a b c 1
  | int a, ratio c d => exact a 1 c d
  | x, y =>
    if x.isComplex || y.isComplex then throw .wrongType
    else do
      let (p, _) ← x.parts
      let (q, _) ← y.parts
      if q.isZero then throw .zeroDivision
      else
        let (a, b) := Floating.floorDivMod .double p q
        return (.float a, .float b)
where
  exact (a : Int) (b : Nat) (c : Int) (d : Nat) : Except Fault (Quantity × Quantity) :=
    if c = 0 then throw .zeroDivision
    else
      let q := (a * d).fdiv (c * b)
      return (.int q, .ratio (a * d - q * c * b) (b * d))

/-- Quotient and remainder; the remainder has the sign of the divisor. -/
def divMod (x y : Quantity) : Except Fault (Quantity × Quantity) :=
  if (x.isSized || y.isSized) && !x.isExact && !y.isExact then
    if x.isComplex || y.isComplex then throw .wrongType
    else
      match meeting x y with
      | some (.int s b) => do
        let p ← x.wholeIn s b
        let q ← y.wholeIn s b
        if q = 0 then return (.scalar (.int s b 0), .scalar (.int s b 0))
        else return (.scalar (.int s b (Scalar.wrap s b (p.fdiv q))), .scalar (.int s b (p.fmod q)))
      | some (.float b) => do
        let (p, q) := Floating.floorDivMod (Scalar.formatOf b) (← x.floatingIn b) (← y.floatingIn b)
        return (.scalar (.float b p), .scalar (.float b q))
      | some .bool => do
        let p ← x.wholeIn true 8
        let q ← y.wholeIn true 8
        if q = 0 then return (.scalar (.int true 8 0), .scalar (.int true 8 0))
        else return (.scalar (.int true 8 (p.fdiv q)), .scalar (.int true 8 (p.fmod q)))
      | none => throw .wrongType
  else divModPlain x.unsized y.unsized

/-- The quotient of decimals to their precision, with as few digits as an exact one needs. -/
def quotientDecimal (s t : Bool) (m n : Nat) (e g : Int) : Decimal :=
  let shift := Decimal.width n + Decimal.precision + 1 - min (Decimal.width m) Decimal.precision
  let q := m * Nat.pow 10 shift / n
  let sticky := if m * Nat.pow 10 shift % n = 0 || q % 5 != 0 then q else q + 1
  let low : Int := e - g - shift
  if m * Nat.pow 10 shift % n = 0 then
    let rec strip : Nat → Nat → Int → Decimal
      | 0, q, low => Decimal.rounded (s != t) q low
      | k + 1, q, low =>
        if low < e - g ∧ q % 10 = 0 then strip k (q / 10) (low + 1)
        else Decimal.rounded (s != t) q low
    strip shift q low
  else Decimal.rounded (s != t) sticky low

/-- The quotient of a number by a whole number that is not zero. -/
def dividedBy (x : Quantity) (n : Nat) : Except Fault Quantity :=
  match x with
  | int a => return .float (← double a n)
  | ratio a b => return .ratio a (b * n)
  | decimal (.finite s m e) =>
    return .decimal (if m = 0 then .finite s 0 e else quotientDecimal s false m n e 0)
  | decimal d => return .decimal d
  | float a => return .float (Floating.div .double a (.ofInt .double n))
  | complex re im =>
    return .complex (Floating.div .double re (.ofInt .double n))
      (Floating.div .double im (.ofInt .double n))
  | scalar (.float b a) =>
    let f := Scalar.formatOf b
    return .scalar (.float b (Floating.div f a (.ofInt f n)))
  | scalar (.complex b re im) =>
    let f := Scalar.formatOf (b / 2)
    return .scalar (.complex b (Floating.div f re (.ofInt f n)) (Floating.div f im (.ofInt f n)))
  | scalar (.int _ _ a) =>
    return .scalar (.float 64 (Floating.div .double (.ofInt .double a) (.ofInt .double n)))
  | scalar (.bool b) =>
    return .scalar (.float 64
      (Floating.div .double (.ofInt .double (if b then 1 else 0)) (.ofInt .double n)))
  | scalar _ => throw .wrongType

/-- The nearest double to the length of a vector. -/
def length (re im : Floating) : Floating :=
  match re.ratio?, im.ratio? with
  | some (a, b), some (c, d) =>
    let num := (a * d).natAbs * (a * d).natAbs + (c * b).natAbs * (c * b).natAbs
    let den := b * d
    let scale := Nat.pow 2 128
    .ofRatio .double (Nat.sqrt (num * (scale * scale))) (den * scale)
  | _, _ =>
    match re, im with
    | .infinite _, _ => .infinite false
    | _, .infinite _ => .infinite false
    | .nan k, _ => .nan k
    | _, y => y

/-- The size of a number. -/
def abs : Quantity → Except Fault Quantity
  | int n => return .int n.natAbs
  | ratio n d => return .ratio n.natAbs d
  | decimal d => return .decimal d.abs
  | float x => return .float x.abs
  | complex re im => return .float (length re im)
  | scalar (.int s b n) => return .scalar (.int s b (Scalar.wrap s b n.natAbs))
  | scalar (.float b x) => return .scalar (.float b x.abs)
  | scalar (.complex b re im) => return .scalar (.float (b / 2) (length re im))
  | scalar (.bool b) => return .scalar (.bool b)
  | scalar _ => throw .wrongType

/-- The nearest whole number of an exact one; a half goes to the even neighbour. -/
def nearest (n : Int) (d : Nat) : Int :=
  let m := Floating.divNearestEven n.natAbs d
  if n < 0 then -(m : Int) else m

/-- The whole number nearest to a fractional one. -/
def nearestFloating (x : Floating) : Except Fault Int :=
  match x with
  | .nan _ => throw .wrongValue
  | .infinite _ => throw .overflow
  | x => return x.nearestInt?.getD 0

/-- A number rounded to a whole one. -/
def rounded : Quantity → Except Fault Int
  | int n => return n
  | ratio n d => return nearest n d
  | decimal (.nan _) => throw .wrongValue
  | decimal (.infinite _) => throw .overflow
  | decimal d => return (d.ratio?.map fun (n, m) => nearest n m).getD 0
  | float x => nearestFloating x
  | scalar (.int _ _ n) => return n
  | scalar (.float _ x) => nearestFloating x
  | _ => throw .wrongType

/-- A power of numbers without width. -/
def power (x y : Quantity) : Except Fault Quantity :=
  match x.unsized, y.unsized with
  | int a, int b =>
    if b ≥ 0 then return .int (Int.pow a b.toNat)
    else if a = 0 then throw .zeroDivision
    else return .float (Floating.pow (← double a 1) (← double b 1))
  | decimal _, _ => throw .wrongType
  | _, decimal _ => throw .wrongType
  | x, y => do
    if x.isComplex || y.isComplex then throw .wrongType
    let (p, _) ← x.parts
    let (q, _) ← y.parts
    if p.isZero && q.isNegative && !q.isZero then throw .zeroDivision
    return .float (Floating.pow p q)

end Quantity

end FunctionObjects
