import FunctionObjects.Predicate.Membership
import FunctionObjects.Value.Conversion
/-!
# Functions of the language core

What the functions of the core do when they are called with values of any kind.
-/

namespace FunctionObjects

open FunctionObjects.Numeral

/-- A power of two whole numbers, of which only the remainder counts. -/
def powerModulo (m : Nat) : Nat → Nat → Nat → Nat
  | 0, _, _ => 1 % m
  | n + 1, base, e =>
    let half := powerModulo m n (base * base % m) (e / 2)
    if e % 2 = 1 then half * base % m else half

namespace Sorting

/-- Inserts a value behind all that are not greater, found by halving the range. -/
def place (less : Value → Value → Run Bool) (x : Value) (sorted : List Value) :
    Nat → Nat → Nat → Run Nat
  | 0, lo, _ => return lo
  | n + 1, lo, hi => do
    if lo < hi then
      let mid := (lo + hi) / 2
      if ← less x (sorted[mid]?.getD .none) then place less x sorted n lo mid
      else place less x sorted n (mid + 1) hi
    else return lo

/-- The values at the start of which each is less than the one before, or none is. -/
def run (less : Value → Value → Run Bool) (descending : Bool) (previous : Value) :
    List Value → Run (List Value × List Value)
  | [] => return ([], [])
  | x :: xs => do
    if (← less x previous) = descending then
      let (front, back) ← run less descending x xs
      return (x :: front, back)
    else return ([], x :: xs)

/-- Sorts values: keeps or turns round the part at the start that is in order, and inserts the
others one after the other. -/
def sort (less : Value → Value → Run Bool) (vs : List Value) : Run (List Value) := do
  match vs with
  | x :: y :: rest =>
    let descending ← less y x
    let (front, back) ← run less descending y rest
    let start := x :: y :: front
    back.foldlM (fun sorted v => do
      let i ← place less v sorted (sorted.length + 1) 0 sorted.length
      return sorted.take i ++ v :: sorted.drop i) (if descending then start.reverse else start)
  | vs => return vs

end Sorting

namespace Builtin

variable (d : Dispatch)

/-- The number that a value is. -/
def quantity (v : Value) : Run Quantity := do
  match v with
  | .atom a => Run.require .wrongType (Quantity.ofAtom? a)
  | _ => throw .wrongType

/-- The first of some values that stands in a relation to all before. -/
def extreme (r : Rel) (vs : List Value) : Run Value := do
  match vs with
  | [] => throw .wrongValue
  | v :: vs => vs.foldlM (fun best v => do if ← Run.holds r v best then return v else return best) v

/-- The greatest or least of the items of one value, or of several values. -/
def extremeOf (r : Rel) (args : List Value) : Run Value := do
  match args with
  | [] => throw .wrongType
  | [v] => extreme r (← d.items v)
  | vs => extreme r vs

/-- The sum of items and a start; texts and bytes are not summed. -/
def total (items start : Value) : Run Value := do
  match start with
  | .atom a => if a.text?.isSome || a.bytes?.isSome then throw .wrongType
  | _ => pure ()
  (← d.items items).foldlM Run.add start

/-- A walk through a sequence from its end. -/
def reversal (v : Value) : Run Value := do
  let w ← get
  if w.isTupleObject v then
    if (w.member? (w.classOf v) "__getitem__").isSome then
      return ← Run.alloc (.iterator (.core "reversed") (← d.items v).reverse)
    else throw .wrongType
  let back (c : String) (vs : List Value) : Run Value := Run.alloc (.iterator (.core c) vs.reverse)
  match v with
  | .tuple vs => back "reversed" vs
  | .atom _ => back "reversed" (← d.items v)
  | .ref r =>
    match w.cell? r with
    | some (.list vs) => back "list_reverseiterator" vs
    | some (.dict es) => back "dict_reversekeyiterator" (es.map (·.1))
    | some (.keys vs) => back "dict_reversekeyiterator" vs
    | some (.bytearray bs) => back "reversed" (byteValues bs)
    | _ => throw .wrongType
  | _ => throw .wrongType

/-- The number of a character, given as a text or as bytes. -/
def codeOf (v : Value) : Run Value := do
  match v with
  | .atom a =>
    match a.text?.map String.toList, a.bytes? with
    | some [c], _ => return .int c.toNat
    | _, some [b] => return .int b
    | _, _ => throw .wrongType
  | .ref r =>
    match ← Run.cell? r with
    | some (.bytearray [b]) => return .int b
    | _ => throw .wrongType
  | _ => throw .wrongType

/-- The character of a number. -/
def characterOf (v : Value) : Run Value := do
  let n ← Run.require .wrongType (← Run.atom v).index?
  if !Scalar.fits true 32 n then throw .overflow
  if n < 0 ∨ n ≥ 0x110000 then throw .wrongValue
  return .str (String.singleton (Char.ofNat n.toNat))

/-- A number rounded to some places. -/
def roundTo (v : Value) (places : Int) : Run Value := do
  let scale : Nat := Nat.pow 10 places.natAbs
  match ← quantity v with
  | .int n =>
    if places ≥ 0 then return .int n
    else return .int (Quantity.nearest n scale * scale)
  | .float x =>
    match x.ratio? with
    | none => return .float x
    | some (n, m) =>
      if places > 330 then return .float x
      let r := if places ≥ 0 then Floating.ofRatio .double (Quantity.nearest (n * scale) m).natAbs scale
        else Floating.ofRatio .double ((Quantity.nearest n (m * scale)).natAbs * scale) 1
      return .float (if x.isNegative then r.neg else r)
  | _ => throw .wrongType

/-- Goes through the items until one counts as the outcome that settles the question. -/
def settle (outcome : Bool) (v : Value) : Run Value := do
  let found ← (← d.cursor v).search fun x => do
    return if (← d.truth x) == outcome then some () else none
  return .bool (if found.isSome then outcome else !outcome)

/-- A power, or its remainder. -/
def powerOf (x y : Value) : Run Value := do
  return .atom (← Run.lift ((← quantity x).power (← quantity y))).toAtom

def powerMod (x y z : Value) : Run Value := do
  match ← quantity x, ← quantity y, ← quantity z with
  | .int a, .int e, .int m =>
    if m = 0 ∨ e < 0 then throw .wrongValue
    let r := powerModulo m.natAbs (Nat.log2 e.toNat + 1) (Int.fmod a m.natAbs).toNat e.toNat
    return .int (Int.fmod r m)
  | _, _, _ => throw .wrongType

/-- Calls a function of the core. -/
def run (b : Builtin) (args : List Value) : Run Value := do
  match b, args with
  | .len, [v] => return .int (← d.length v)
  | .abs, [v] => return .atom (← Run.lift (← quantity v).abs).toAtom
  | .max, args => extremeOf d .gt args
  | .min, args => extremeOf d .lt args
  | .sum, [v] => total d v (.int 0)
  | .sum, [v, start] => total d v start
  | .sorted, [v] => do Run.newList (← Sorting.sort (Run.holds .lt) (← d.items v))
  | .divmod, [x, y] => do
    let (q, r) ← Run.divMod x y
    return .tuple [q, r]
  | .pow, [x, y] => powerOf x y
  | .pow, [x, y, z] => if z.isNone then powerOf x y else powerMod x y z
  | .repr, [v] => return .str (← Run.shown v)
  | .isinstance, [v, t] => do
    let w ← get
    return .bool (← Run.require .wrongType (Membership.isInstance w (w.classOf v) t))
  | .any, [v] => settle d true v
  | .all, [v] => settle d false v
  | .reversed, [v] => reversal d v
  | .ord, [v] => codeOf v
  | .chr, [v] => characterOf v
  | .round, [v] => return .int (← Run.lift (← quantity v).rounded)
  | .round, [v, n] =>
    if n.isNone then return .int (← Run.lift (← quantity v).rounded)
    else roundTo v (← Run.require .wrongType (← Run.atom n).index?)
  | _, _ => throw .wrongType

end Builtin

end FunctionObjects
