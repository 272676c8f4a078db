import FunctionObjects.Value.Order
/-!
# Frozen values

A frozen value is hashable and keeps the equality of the value it was made from, as far as that is
possible: dictionaries become sorted pairs, lists become tuples, and what cannot be hashed becomes
the text that shows it.
-/

namespace FunctionObjects.Datum

/-- Puts a member into a list without equal members. -/
def addDistinct (xs : List Datum) (x : Datum) : List Datum :=
  if xs.any (x.sameItem ·) then xs else xs ++ [x]

def distinct (xs : List Datum) : List Datum := xs.foldl addDistinct []

/-- Sorts pairs by their texts. -/
def sortPairs (ps : List (String × Datum)) : List (String × Datum) :=
  ps.mergeSort fun a b => compareText a.1 b.1 != .gt

def pair (p : String × Datum) : Datum := .tuple [.atom (.str p.1), p.2]

mutual

/-- Whether a datum can be hashed. -/
def hashable : Datum → Bool
  | .atom (.result _) => false
  | .atom _ => true
  | .tuple xs => hashableAll xs
  | .frozenset xs => hashableAll xs
  | .object .. => true
  | .handle .. => true
  | _ => false

def hashableAll : List Datum → Bool
  | [] => true
  | x :: xs => hashable x && hashableAll xs

end

mutual

/-- The frozen form of a datum. -/
def freeze : Datum → Datum
  | .dict es => .tuple ((sortPairs (freezeEntries es)).map pair)
  | .list xs => .tuple (freezeAll xs)
  | .tuple xs => .tuple (freezeAll xs)
  | .set xs => .frozenset (distinct (freezeAll xs))
  | .frozenset xs => .frozenset (distinct (freezeAll xs))
  | .atom (.pattern p) => .tuple [.atom (.str p.source), .atom (.int p.flags)]
  | d => if d.hashable then d else .atom (.str d.shown)

def freezeAll : List Datum → List Datum
  | [] => []
  | x :: xs => freeze x :: freezeAll xs

def freezeEntries : List (Datum × Datum) → List (String × Datum)
  | [] => []
  | (k, v) :: es => (k.shown, freeze v) :: freezeEntries es

end

mutual

/-- What the hash of a frozen datum depends on: as `freeze`, with the class and the frozen state of
function objects in their place. -/
def digest : Datum → Datum
  | .dict es => .tuple ((sortPairs (digestEntries es)).map pair)
  | .list xs => .tuple (digestAll xs)
  | .tuple xs => .tuple (digestAll xs)
  | .set xs => .frozenset (distinct (digestAll xs))
  | .frozenset xs => .frozenset (distinct (digestAll xs))
  | .atom (.pattern p) => .tuple [.atom (.str p.source), .atom (.int p.flags)]
  | .object c as =>
    .tuple [.atom (.type (.cls c)), .tuple ((sortPairs (digestAttributes as)).map pair)]
  | d => if d.hashable then d else .atom (.str d.shown)

def digestAll : List Datum → List Datum
  | [] => []
  | x :: xs => digest x :: digestAll xs

def digestEntries : List (Datum × Datum) → List (String × Datum)
  | [] => []
  | (k, v) :: es => (k.shown, digest v) :: digestEntries es

def digestAttributes : List (String × Datum) → List (String × Datum)
  | [] => []
  | (k, v) :: as => (Text.quoted k, digest v) :: digestAttributes as

end

/-- What the hash of a datum depends on; `none` if it cannot be hashed. -/
def hashKey? (d : Datum) : Option Datum :=
  if !d.hashable then none
  else
    match d with
    | .atom a => some (.atom a)
    | .frozenset xs => some (.frozenset (xs.map digest))
    | d => some d.digest

end FunctionObjects.Datum
