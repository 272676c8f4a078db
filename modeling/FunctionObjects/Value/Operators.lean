import FunctionObjects.Value.Arithmetic
import FunctionObjects.Value.Cursor
import FunctionObjects.Value.Frozen
/-!
# Operators on values

Sums, products, comparisons and look-ups of values of any kind.  Texts and sequences are joined by
sums and repeated by products.  A comparison in which a sized number takes part gives a sized truth
value, all others a plain one.
-/

namespace FunctionObjects

open FunctionObjects.Numeral

/-- The size from which on a repetition is refused. -/
def repetitionLimit : Nat := 0x1000000000

/-- Repeats a list; a count below one gives nothing. -/
def repeated {α : Type} (n : Int) (xs : List α) : Except Fault (List α) :=
  if !Scalar.fits true 64 n then throw .overflow
  else if xs.isEmpty then return []
  else if n.toNat * xs.length ≥ repetitionLimit then throw .overflow
  else return (List.replicate n.toNat xs).flatten

namespace Atom

/-- A whole number that can count repetitions or positions. -/
def index? : Atom → Option Int
  | .bool b => some (if b then 1 else 0)
  | .int n => some n
  | .scalar (.int _ _ n) => some n
  | _ => Option.none

/-- Whether a comparison with this atom gives a sized truth value. -/
def isSized : Atom → Bool
  | .scalar (.str _) => false
  | .scalar (.bytes _) => false
  | .scalar _ => true
  | _ => false

/-- Whether this atom compares itself with sized numbers. -/
def isExact : Atom → Bool
  | .decimal _ => true
  | .fraction .. => true
  | _ => false

/-- A text, sized if one of those that it comes from is. -/
def textLike (a b : Atom) (s : String) : Atom :=
  match a, b with
  | .scalar _, _ => .scalar (.str s)
  | _, .scalar _ => .scalar (.str s)
  | _, _ => .str s

def add (a b : Atom) : Except Fault Atom :=
  match Quantity.ofAtom? a, Quantity.ofAtom? b with
  | some x, some y => return (← Quantity.combine .add x y).toAtom
  | _, _ =>
    match a.text?, b.text?, a.bytes?, b.bytes? with
    | some s, some t, _, _ => return textLike a b (s ++ t)
    | _, _, some s, some t => return .bytes (s ++ t)
    | _, _, _, _ => throw .wrongType

/-- A text or bytes, repeated. -/
def repetition (a : Atom) (n : Int) : Except Fault Atom :=
  match a.text?, a.bytes? with
  | some s, _ => return .str (String.ofList (← repeated n s.toList))
  | _, some bs => return .bytes (← repeated n bs)
  | _, _ => throw .wrongType

def mul (a b : Atom) : Except Fault Atom :=
  match Quantity.ofAtom? a, Quantity.ofAtom? b with
  | some x, some y => return (← Quantity.combine .mul x y).toAtom
  | some _, Option.none => a.index?.elim (throw .wrongType) b.repetition
  | Option.none, some _ => b.index?.elim (throw .wrongType) a.repetition
  | _, _ => throw .wrongType

def sub (a b : Atom) : Except Fault Atom :=
  match Quantity.ofAtom? a, Quantity.ofAtom? b with
  | some x, some y => return (← Quantity.combine .sub x y).toAtom
  | _, _ => throw .wrongType

end Atom

namespace Value

/-- Whether a comparison of two values gives a sized truth value. -/
def comparesSized (x y : Value) : Bool :=
  match x, y with
  | .atom a, .atom b => (a.isSized && !b.isNothing) || (b.isSized && !a.isNothing && !a.isExact)
  | .atom a, _ => a.isSized
  | _, .atom b => b.isSized
  | _, _ => false

/-- A truth value, sized or plain. -/
def truthValue (sized b : Bool) : Value := if sized then .atom (.scalar (.bool b)) else .bool b

end Value

namespace Run

/-- An operation that does not touch the state. -/
def lift {α : Type} : Except Fault α → Run α
  | .ok x => return x
  | .error f => throw f

/-- The atom that a value is. -/
def atom (v : Value) : Run Atom :=
  match v with
  | .atom a => return a
  | _ => throw .wrongType

/-- The plain text of a value. -/
def plain (v : Value) : Run String := return (← datum v).plain

/-- The text that shows a value. -/
def shown (v : Value) : Run String := return (← datum v).shown

/-- Whether two values are equal. -/
def same (x y : Value) : Run Bool := return (← datum x).same (← datum y)

/-- The outcome of asking whether two values are equal. -/
def equal (x y : Value) : Run Value := return .truthValue (x.comparesSized y) (← same x y)

/-- The outcome of asking whether two values differ. -/
def unequal (x y : Value) : Run Value := return .truthValue (x.comparesSized y) (!(← same x y))

/-- Whether a relation holds. -/
def holds (r : Rel) (x y : Value) : Run Bool := do
  let w ← get
  lift (Datum.rel w.isSubclass r (w.read x) (w.read y))

/-- The outcome of asking for a relation. -/
def relation (r : Rel) (x y : Value) : Run Value :=
  return .truthValue (x.comparesSized y) (← holds r x y)

/-- The sum of two values. -/
def add (x y : Value) : Run Value := do
  match x, y with
  | .atom a, .atom b => return .atom (← lift (a.add b))
  | .tuple xs, .tuple ys => return .tuple (xs ++ ys)
  | .ref r, .ref s =>
    match ← cell? r, ← cell? s with
    | some (.list xs), some (.list ys) => newList (xs ++ ys)
    | some (.bytearray xs), some (.bytearray ys) => alloc (.bytearray (xs ++ ys))
    | _, _ => throw .wrongType
  | .ref r, .atom b =>
    match ← cell? r, b.bytes? with
    | some (.bytearray xs), some ys => alloc (.bytearray (xs ++ ys))
    | _, _ => throw .wrongType
  | .atom a, .ref s =>
    match a.bytes?, ← cell? s with
    | some xs, some (.bytearray ys) => return .atom (.bytes (xs ++ ys))
    | _, _ => throw .wrongType
  | _, _ => throw .wrongType

/-- A sequence that is no atom, repeated. -/
def repetition (x : Value) (n : Int) : Run Value := do
  match x with
  | .tuple xs => return .tuple (← lift (repeated n xs))
  | .ref r =>
    match ← cell? r with
    | some (.list xs) => newList (← lift (repeated n xs))
    | some (.bytearray xs) => alloc (.bytearray (← lift (repeated n xs)))
    | _ => throw .wrongType
  | _ => throw .wrongType

/-- The product of two values. -/
def mul (x y : Value) : Run Value := do
  match x, y with
  | .atom a, .atom b => return .atom (← lift (a.mul b))
  | .atom a, y => repetition y (← require .wrongType a.index?)
  | x, .atom b => repetition x (← require .wrongType b.index?)
  | _, _ => throw .wrongType

def sub (x y : Value) : Run Value := do
  match x, y with
  | .atom a, .atom b => return .atom (← lift (a.sub b))
  | _, _ => throw .wrongType

/-- Quotient and remainder. -/
def divMod (x y : Value) : Run (Value × Value) := do
  match x, y with
  | .atom a, .atom b =>
    match Quantity.ofAtom? a, Quantity.ofAtom? b with
    | some p, some q =>
      let (m, n) ← lift (p.divMod q)
      return (.atom m.toAtom, .atom n.toAtom)
    | _, _ => throw .wrongType
  | _, _ => throw .wrongType

/-- Reads a value that is to be looked up, which must be hashable. -/
def key (v : Value) : Run Datum := do
  let k ← datum v
  if k.hashable then return k else throw .wrongType

/-- Looks up a key among entries. -/
def lookup? (entries : List (Value × Value)) (k : Value) : Run (Option Value) := do
  let w ← get
  let k ← key k
  return (entries.find? fun e => (w.read e.1).sameItem k).map (·.2)

/-- Puts a value under a key: in the place of the value that is there, or at the end. -/
def insert (entries : List (Value × Value)) (k v : Value) : Run (List (Value × Value)) := do
  let w ← get
  let x ← key k
  if entries.any fun e => (w.read e.1).sameItem x then
    return entries.map fun e => if (w.read e.1).sameItem x then (e.1, v) else e
  else return entries ++ [(k, v)]

/-- Puts entries in, one after the other. -/
def insertAll (entries : List (Value × Value)) (more : List (Value × Value)) :
    Run (List (Value × Value)) :=
  more.foldlM (fun es e => insert es e.1 e.2) entries

/-- Puts a member into a set. -/
def addMember (members : List Value) (v : Value) : Run (List Value) := do
  let w ← get
  let x ← key v
  if members.any fun m => (w.read m).sameItem x then return members else return members ++ [v]

/-- The members of a set with more members put in. -/
def addMembers (members : List Value) (more : List Value) : Run (List Value) := do
  return memberOrder (← more.foldlM addMember members)

/-- Whether a list holds a value, or one that is equal to it. -/
def contains (items : List Value) (v : Value) : Run Bool := do
  let w ← get
  let x := w.read v
  return items.any fun i => (w.read i).sameItem x

end Run

end FunctionObjects
