import FunctionObjects.Value.World
/-!
# Reaching other values

An operation of the library calls other values and asks objects for their methods; how this is done
is a parameter of the operation.  A cursor walks through what can be iterated: the items of a
container as they are at the start, or an iterator that keeps what is left for whoever comes next.
-/

namespace FunctionObjects

/-- How the operations of a program reach each other. -/
structure Dispatch where
  /-- Calls a value. -/
  call : Value → List Value → Run Value
  /-- Calls a method of an object. -/
  method : Value → String → List Value → Run Value

/-- A place in a walk through items. -/
inductive Cursor where
  | held (items : List Value)
  /-- An iterator that others can advance too. -/
  | shared (r : Ref)
deriving Repr, Inhabited

namespace Cursor

/-- The items that are left. -/
def rest (w : World) : Cursor → List Value
  | held vs => vs
  | shared r => match w.cell? r with
    | some (.iterator _ vs) => vs
    | _ => []

/-- The next item, and the place after it. -/
def next : Cursor → Run (Option (Value × Cursor))
  | held [] => return none
  | held (v :: vs) => return some (v, held vs)
  | shared r => do
    match ← Run.cell? r with
    | some (.iterator c (v :: vs)) =>
      Run.write r (.iterator c vs)
      return some (v, shared r)
    | _ => return none

/-- Takes all items that are left. -/
def drain : Cursor → Run (List Value)
  | held vs => return vs
  | shared r => do
    match ← Run.cell? r with
    | some (.iterator c vs) =>
      Run.write r (.iterator c [])
      return vs
    | _ => return []

/-- Drops items; at most so many. -/
def skip : Nat → Cursor → Run Cursor
  | 0, c => return c
  | n + 1, c => do
    match ← c.next with
    | some (_, c) => skip n c
    | none => return c

/-- Goes through at most so many items until a step has a result. -/
def findSome {α : Type} (step : Value → Run (Option α)) : Nat → Cursor → Run (Option α)
  | 0, _ => return none
  | n + 1, c => do
    match ← c.next with
    | none => return none
    | some (v, c) =>
      match ← step v with
      | some a => return some a
      | none => findSome step n c

/-- Goes through the items until a step has a result. -/
def search {α : Type} (step : Value → Run (Option α)) (c : Cursor) : Run (Option α) := do
  findSome step (c.rest (← get)).length c

/-- Collects the items that a test accepts, at most so many of them tested. -/
def filterFrom (test : Value → Run Bool) : Nat → Cursor → Run (List Value)
  | 0, _ => return []
  | n + 1, c => do
    match ← c.next with
    | none => return []
    | some (v, c) =>
      if ← test v then return v :: (← filterFrom test n c)
      else filterFrom test n c

/-- Collects the items that a test accepts. -/
def filter (test : Value → Run Bool) (c : Cursor) : Run (List Value) := do
  filterFrom test (c.rest (← get)).length c

/-- Joins the lists that a step gives for each item, at most so many of them taken. -/
def flatMapFrom (step : Value → Run (List Value)) : Nat → Cursor → Run (List Value)
  | 0, _ => return []
  | n + 1, c => do
    match ← c.next with
    | none => return []
    | some (v, c) =>
      let vs ← step v
      return vs ++ (← flatMapFrom step n c)

/-- Joins the lists that a step gives for each item. -/
def flatMap (step : Value → Run (List Value)) (c : Cursor) : Run (List Value) := do
  flatMapFrom step (c.rest (← get)).length c

end Cursor

/-- The value of a whole number among the members of a set. -/
def Value.whole? : Value → Option Int
  | .atom (.int n) => some n
  | _ => Option.none

/-- The order in which a set shows its members: whole numbers ascend, others stay. -/
def memberOrder (vs : List Value) : List Value :=
  if vs.all (·.whole?.isSome) then
    vs.mergeSort fun a b => a.whole?.getD 0 ≤ b.whole?.getD 0
  else vs

/-- The characters of a text, each a text. -/
def characters (s : String) : List Value := s.toList.map fun c => .str (String.singleton c)

def byteValues (bs : List Nat) : List Value := bs.map fun b => .int (b : Nat)

/-- What a value that is no tuple object iterates over. -/
def World.plainCursor? (w : World) : Value → Option Cursor
  | .atom a =>
    match a.text?, a.bytes? with
    | some s, _ => some (.held (characters s))
    | none, some bs => some (.held (byteValues bs))
    | none, none => none
  | .tuple vs => some (.held vs)
  | .frozenset vs => some (.held vs)
  | .ref r =>
    match w.cell? r with
    | some (.list vs) => some (.held vs)
    | some (.dict es) => some (.held (es.map (·.1)))
    | some (.set vs) => some (.held vs)
    | some (.bytearray bs) => some (.held (byteValues bs))
    | some (.keys vs) => some (.held vs)
    | some (.iterator ..) => some (.shared r)
    | _ => none

/-- Whether a value is a tuple object. -/
def World.isTupleObject (w : World) : Value → Bool
  | .ref r =>
    match w.cell? r with
    | some (.slots ..) => true
    | some (.fields ..) => true
    | some (.object c ..) => w.isSubclass c LibraryClass.tuple.className
    | _ => false
  | _ => false

/-- The number of items of a value that is no tuple object. -/
def World.plainLength? (w : World) (v : Value) : Option Nat :=
  match w.plainCursor? v with
  | some (.held vs) => some vs.length
  | _ => none

/-- Whether an atom counts as true: numbers that are zero, empty texts and nothing do not. -/
def Atom.truth (a : Atom) : Bool :=
  match a with
  | .none => false
  | .result r => r.isValid
  | a =>
    match a.number?, a.text?, a.bytes? with
    | some (x, y), _, _ => !(x.isZero && y.isZero)
    | _, some s, _ => !s.isEmpty
    | _, _, some bs => !bs.isEmpty
    | _, _, _ => true

namespace Dispatch

variable (d : Dispatch)

/-- Starts a walk; tuple objects give their values. -/
def cursor (v : Value) : Run Cursor := do
  let v ← if (← get).isTupleObject v then d.method v "values" [] else pure v
  Run.require .wrongType ((← get).plainCursor? v)

/-- All items of a value. -/
def items (v : Value) : Run (List Value) := do (← d.cursor v).drain

/-- The number of items of a value. -/
def length (v : Value) : Run Nat := do
  let v ← if (← get).isTupleObject v then d.method v "values" [] else pure v
  Run.require .wrongType ((← get).plainLength? v)

/-- Whether a value counts as true: an atom by itself, a container if it is not empty. -/
def truth (v : Value) : Run Bool := do
  let w ← get
  if w.isTupleObject v then return (← d.length v) != 0
  match v with
  | .atom a => return a.truth
  | v => return (w.plainLength? v).all (· != 0)

end Dispatch

end FunctionObjects
