import FunctionObjects.Fault
import FunctionObjects.Value.Text
/-!
# The order of values

Numbers, texts, dates and sequences are ordered; sets are ordered by inclusion.  Positional tuples
derive the other relations from equality and "less than", whichever of the two is asked: a value of
a subclass is asked first.
-/

namespace FunctionObjects

inductive Rel where
  | lt | le | gt | ge
deriving DecidableEq, Repr

namespace Rel

/-- Whether the relation holds between values ordered so. -/
def accepts (r : Rel) (o : Ordering) : Bool :=
  match r with
  | lt => o == .lt
  | le => o != .gt
  | gt => o == .gt
  | ge => o != .lt

/-- The relation asked the other way round. -/
def swap : Rel → Rel
  | lt => gt
  | le => ge
  | gt => lt
  | ge => le

end Rel

/-- Orders two lists by their first difference. -/
def compareLists {α : Type} (cmp : α → α → Ordering) : List α → List α → Ordering
  | [], [] => .eq
  | [], _ => .lt
  | _, [] => .gt
  | x :: xs, y :: ys => match cmp x y with
    | .eq => compareLists cmp xs ys
    | o => o

/-- The order of texts by code points. -/
def compareText (s t : String) : Ordering :=
  compareLists (fun a b => compare a.toNat b.toNat) s.toList t.toList

namespace Atom

/-- Whether an atom is a decimal, which refuses to be ordered against what is not a number. -/
def isDecimal : Atom → Bool
  | .decimal _ => true
  | _ => false

/-- Whether a relation holds.  Atoms of different kinds are not ordered. -/
def rel (r : Rel) (a b : Atom) : Except Fault Bool :=
  match a.real?, b.real? with
  | some x, some y =>
    match x.compare? y with
    | some o => return r.accepts o
    | Option.none => if a.isDecimal || b.isDecimal then throw .decimalOperation else return false
  | _, _ =>
    match a.text?, b.text? with
    | some s, some t => return r.accepts (compareText s t)
    | _, _ =>
      match a.bytes?, b.bytes? with
      | some s, some t => return r.accepts (compareLists compare s t)
      | _, _ =>
        match a, b with
        | .moment t, .moment u =>
          let (p, x) := standing t
          let (q, y) := standing u
          if p == q then return r.accepts (compare x y) else throw .wrongType
        | .date d, .date e => return r.accepts (compare d.ordinal e.ordinal)
        | _, _ => throw .wrongType

end Atom

namespace Datum

/-- Whether the members of one set are in another. -/
def inclusion (r : Rel) (xs ys : List Datum) : Bool :=
  match r with
  | .lt => allIn xs ys && xs.length < ys.length
  | .le => allIn xs ys
  | .gt => allIn ys xs && ys.length < xs.length
  | .ge => allIn ys xs

/-- Derives a relation of positional tuples from "less than" and equality. -/
def derive (r : Rel) (less same : Bool) : Bool :=
  match r with
  | .lt => less
  | .le => less || same
  | .gt => !less && !same
  | .ge => !less

/-- The members of a datum that is ordered by inclusion. -/
def members? : Datum → Option (List Datum)
  | .set xs => some xs
  | .frozenset xs => some xs
  | .keys xs => some xs
  | _ => none

/-- The bytes of a datum, fixed or changeable. -/
def bytes? : Datum → Option (List Nat)
  | .atom a => a.bytes?
  | .bytearray bs => some bs
  | _ => none

mutual

/-- Whether a relation holds between two data.  What is not ordered is of the wrong type. -/
def rel (sub : ClassName → ClassName → Bool) (r : Rel) : Datum → Datum → Except Fault Bool
  | .atom a, .atom b => a.rel r b
  | .list xs, .list ys => relAll sub r xs ys
  | .tuple xs, .tuple ys => relAll sub r xs ys
  | .slots c xs, .slots d ys =>
    if c != d && sub d c then
      (relAll sub .lt ys xs).map fun less => derive r.swap less (sameAll ys xs)
    else (relAll sub .lt xs ys).map fun less => derive r less (sameAll xs ys)
  | x, y =>
    match x.members?, y.members?, x.bytes?, y.bytes? with
    | some xs, some ys, _, _ => return inclusion r xs ys
    | _, _, some xs, some ys => return r.accepts (compareLists compare xs ys)
    | _, _, _, _ => throw .wrongType
termination_by x y => sizeOf x + sizeOf y

/-- Orders two sequences by their first difference. -/
def relAll (sub : ClassName → ClassName → Bool) (r : Rel) :
    List Datum → List Datum → Except Fault Bool
  | [], [] => return r.accepts .eq
  | [], _ :: _ => return r.accepts .lt
  | _ :: _, [] => return r.accepts .gt
  | x :: xs, y :: ys => if x.sameItem y then relAll sub r xs ys else rel sub r x y
termination_by xs ys => sizeOf xs + sizeOf ys

end

end Datum

end FunctionObjects
