import FunctionObjects.Value.Magnitude
/-!
# Values read out of the heap

A datum is a value with the contents of its cells in place of their numbers.  Only what is told
apart by identity keeps its number.  Equality, texts and order are functions on data.
-/

namespace FunctionObjects

inductive Datum where
  | atom (a : Atom)
  | tuple (items : List Datum)
  | frozenset (items : List Datum)
  | list (items : List Datum)
  | dict (entries : List (Datum × Datum))
  | set (items : List Datum)
  | bytearray (bs : List Nat)
  | slots (cls : ClassName) (items : List Datum)
  | fields (cls : ClassName) (entries : List (Datum × Datum))
  | object (cls : ClassName) (attributes : List (String × Datum))
  | keys (items : List Datum)
  /-- An object that is equal to itself only, with the text that shows it. -/
  | handle (r : Ref) (cls : ClassName) (shown : String)
deriving Repr, Inhabited

mutual

/-- Reads a value, given what the cells hold. -/
def Value.datum (cell : Ref → Datum) : Value → Datum
  | .atom a => .atom a
  | .tuple vs => .tuple (Value.data cell vs)
  | .frozenset vs => .frozenset (Value.data cell vs)
  | .ref r => cell r

def Value.data (cell : Ref → Datum) : List Value → List Datum
  | [] => []
  | v :: vs => Value.datum cell v :: Value.data cell vs

end

namespace Heap

/-- What a cell holds, following the numbers of cells at most so many times; `structural` says of
which classes the objects are compared by their contents. -/
def cellDatum (structural : ClassName → Bool) (h : Heap) : Nat → Ref → Datum
  | 0, _ => .atom .none
  | n + 1, r =>
    let go := Value.datum (cellDatum structural h n)
    match h[r]? with
    | some (.list vs) => .list (vs.map go)
    | some (.dict es) => .dict (es.map fun (k, v) => (go k, go v))
    | some (.set vs) => .set (vs.map go)
    | some (.bytearray bs) => .bytearray bs
    | some (.slots c _ vs) => .slots c (vs.map go)
    | some (.fields c _ es) => .fields c (es.map fun (k, v) => (go k, go v))
    | some (.object c _ as) =>
      if structural c then
        .object c ((as.filter fun (k, _) => !k.startsWith "__").map fun (k, v) => (k, go v))
      else .handle r c ("<" ++ c.qualified ++ " object>")
    | some (.keys vs) => .keys (vs.map go)
    | some (.routine f) => .handle r (.core "function") ("<function " ++ f.name ++ ">")
    | some (.iterator c _) => .handle r c ("<" ++ c.qualified ++ " object>")
    | none => .atom .none

/-- Reads a value.  Cells that do not hold each other in turn are never followed more often than
there are cells. -/
def read (structural : ClassName → Bool) (h : Heap) (v : Value) : Datum :=
  v.datum (cellDatum structural h (h.size + 1))

end Heap

namespace Datum

/-- Whether two data are one and the same object although they may not be equal to themselves. -/
def identical : Datum → Datum → Bool
  | .atom a, .atom b => a.identical b
  | _, _ => false

mutual

/-- Whether two data are equal. -/
def same : Datum → Datum → Bool
  | .atom a, .atom b => a.same b
  | .atom a, .bytearray bs => a.bytes? == some bs
  | .bytearray bs, .atom a => a.bytes? == some bs
  | .bytearray as, .bytearray bs => as == bs
  | .tuple xs, .tuple ys => sameAll xs ys
  | .list xs, .list ys => sameAll xs ys
  | .frozenset xs, .frozenset ys => allIn xs ys && xs.length == ys.length
  | .frozenset xs, .set ys => allIn xs ys && xs.length == ys.length
  | .set xs, .frozenset ys => allIn xs ys && xs.length == ys.length
  | .set xs, .set ys => allIn xs ys && xs.length == ys.length
  | .keys xs, .keys ys => allIn xs ys && xs.length == ys.length
  | .keys xs, .set ys => allIn xs ys && xs.length == ys.length
  | .keys xs, .frozenset ys => allIn xs ys && xs.length == ys.length
  | .set xs, .keys ys => allIn xs ys && xs.length == ys.length
  | .frozenset xs, .keys ys => allIn xs ys && xs.length == ys.length
  | .dict xs, .dict ys => entriesIn xs ys && xs.length == ys.length
  | .slots _ xs, .slots _ ys => sameAll xs ys
  | .fields _ xs, .fields _ ys => entriesIn xs ys && xs.length == ys.length
  | .object c xs, .object d ys => c == d && attributesIn xs ys && xs.length == ys.length
  | .handle r _ _, .handle s _ _ => r == s
  | _, _ => false
termination_by structural x => x

/-- Members of collections also count as equal when they are one object. -/
def sameAll : List Datum → List Datum → Bool
  | [], [] => true
  | x :: xs, y :: ys => (x.identical y || same x y) && sameAll xs ys
  | _, _ => false
termination_by structural x => x

def allIn : List Datum → List Datum → Bool
  | [], _ => true
  | x :: xs, ys => ys.any (fun y => x.identical y || same x y) && allIn xs ys
termination_by structural x => x

def entriesIn : List (Datum × Datum) → List (Datum × Datum) → Bool
  | [], _ => true
  | (k, v) :: xs, ys => ys.any (fun e => (k.identical e.1 || same k e.1) && (v.identical e.2 || same v e.2)) && entriesIn xs ys
termination_by structural x => x

def attributesIn : List (String × Datum) → List (String × Datum) → Bool
  | [], _ => true
  | (k, v) :: xs, ys => ys.any (fun e => k == e.1 && (v.identical e.2 || same v e.2)) && attributesIn xs ys
termination_by structural x => x

end

/-- Whether two members of collections count as equal. -/
def sameItem (x y : Datum) : Bool := x.identical y || x.same y

end Datum

end FunctionObjects
