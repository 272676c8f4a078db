import FunctionObjects.Descriptor.Assignable
import FunctionObjects.Descriptor.Text
import FunctionObjects.Descriptor.Union
import FunctionObjects.ValidationResult
/-!
# Signatures

The types on one side of a function: a single type, or the elements of a tuple type, each with a
signature of its own.  Candidate types are checked position by position, and every position that
does not fit adds its own message; nothing fails.
-/

namespace FunctionObjects

/-- The two sides of a function. -/
inductive Side where
  | input | output
deriving DecidableEq, Repr

namespace Side

def name : Side → String
  | input => "input"
  | output => "output"

end Side

/-- Whether a parameterized form gives the elements of a tuple type. -/
def Classes.isTupleForm (k : Classes) (h : Head) (ts : List Ty) : Bool :=
  let ofTuple := !ts.isEmpty && !ts.any fun t => t.same .ellipsis
  match h with
  | .cls c => if (k.arity? c).isSome then !ts.isEmpty else c == .tuple && ofTuple
  | .named .tuple => ofTuple
  | _ => false

/-- The element types of a tuple type with a fixed number of positions. -/
def Classes.elements? (k : Classes) (t : Ty) : Option (List Ty) :=
  match t with
  | .cls c => (k.arity? c).map fun n => List.replicate n .any
  | .app h ts =>
    if k.isTupleForm h ts then some ts
    else
      match h with
      | .cls c => (k.arity? c).map fun n => List.replicate n .any
      | _ => none
  | _ => none

/-- The types of one side. -/
inductive Signature where
  | single (t : Ty)
  | tuple (t : Ty) (parts : List Signature)
deriving Repr, Inhabited

namespace Signature

/-- The type of the whole side. -/
def type : Signature → Ty
  | single t => t
  | tuple t _ => t

/-- The type of each position. -/
def classes : Signature → List Ty
  | single t => [t]
  | tuple _ parts => parts.map type

/-- The types that the side stands for, a tuple type kept whole. -/
def declared (s : Signature) : List Ty := [s.type]

/-- A signature with positions for anything. -/
def open' (t : Ty) (n : Nat) : Signature := .tuple t (List.replicate n (.single .any))

mutual

/-- The signature of a type that has been finalized. -/
def ofFinal (k : Classes) : Ty → Signature
  | .cls c =>
    match k.arity? c with
    | some n => open' (.cls c) n
    | none => .single (.cls c)
  | .app h ts =>
    if k.isTupleForm h ts then .tuple (.app h ts) (ofTypes k ts)
    else
      match h with
      | .cls c =>
        match k.arity? c with
        | some n => open' (.app h ts) n
        | none => .single (.app h ts)
      | _ => .single (.app h ts)
  | t => .single t

/-- The signature of a type: tuple types are opened, everything else is a single position. -/
def ofTy (k : Classes) : Ty → Signature
  | .var _ (some b) => ofFinal k b
  | .var _ none => .single .any
  | .cls c =>
    match k.arity? c with
    | some n => open' (.cls c) n
    | none => .single (.cls c)
  | .app h ts =>
    if k.isTupleForm h ts then .tuple (.app h ts) (ofTypes k ts)
    else
      match h with
      | .cls c =>
        match k.arity? c with
        | some n => open' (.app h ts) n
        | none => .single (.app h ts)
      | _ => .single (.app h ts)
  | t => .single t

def ofTypes (k : Classes) : List Ty → List Signature
  | [] => []
  | t :: ts => ofTy k t :: ofTypes k ts

end

/-- The tuple type into which types are joined.  Types that have been joined before, in some spelling, give
the same tuple type again. -/
def joined (known : List (List Ty)) (ts : List Ty) : Ty :=
  .app (.named .tuple) ((Ty.spelling known ts).map Ty.asArgument)

/-- The signature of a side with several types: those of a tuple.  What has been joined before shows in the
type of the whole side, but not in its positions. -/
def ofList (k : Classes) (known : List (List Ty)) (ts : List Ty) : Signature :=
  match ts with
  | [t] => ofTy k t
  | ts => .tuple (joined known ts) (ofTypes k ts)

/-- Types separated by commas. -/
def listed (ts : List Ty) : String := String.intercalate ", " (ts.map Ty.name)

/-- A position inside nested tuples, counted from the outermost one. -/
def position (path : List Nat) : String :=
  if path.isEmpty then "0" else String.intercalate "." (path.map toString)

def countMessage (expected got : List Ty) : String :=
  "Incompatible number of types. Expected " ++ toString expected.length ++ " [" ++ listed expected ++
    "], got " ++ toString got.length ++ " [" ++ listed got ++ "]"

def typeMessage (side : Side) (path : List Nat) (own candidate : Ty) : String :=
  match side with
  | .input =>
    "Incompatible input type at position " ++ position path ++ ": expected " ++ own.name ++
      ", got " ++ candidate.name
  | .output =>
    "Incompatible output type at position " ++ position path ++ ": function returns " ++ own.name ++
      ", but " ++ candidate.name ++ " is required"

/-- Whether a candidate fits a single type: what goes in must be accepted, what comes out must be
acceptable. -/
def fits (k : Classes) (side : Side) (own candidate : Ty) : Bool :=
  match side with
  | .input => k.assignable candidate own
  | .output => k.assignable own candidate

/-- The candidates for the positions of a tuple: a single tuple type stands for its elements. -/
def expand (k : Classes) (count : Nat) (candidates : List Ty) : List Ty :=
  match candidates with
  | [t] => if count = 1 then [t] else (k.elements? t).getD [t]
  | ts => ts

mutual

/-- Adds a message for every position where the candidates do not fit. -/
def collect (k : Classes) (side : Side) :
    Signature → List Nat → List Ty → ValidationResult → ValidationResult
  | single t, path, candidates, r =>
    match candidates with
    | [c] => if fits k side t c then r else r.addError (typeMessage side path t c)
    | cs => r.addError (countMessage [t] cs)
  | tuple _ parts, path, candidates, r =>
    let cs := expand k parts.length candidates
    if cs.length = parts.length then collectAll k side parts path 0 cs r
    else r.addError (countMessage (parts.map type) cs)

/-- Checks the positions of a tuple one after the other. -/
def collectAll (k : Classes) (side : Side) :
    List Signature → List Nat → Nat → List Ty → ValidationResult → ValidationResult
  | s :: ss, path, i, c :: cs, r =>
    collectAll k side ss path (i + 1) cs (collect k side s (path ++ [i]) [c] r)
  | _, _, _, _, r => r

end

/-- Checks candidate types against a signature. -/
def assignable (k : Classes) (side : Side) (s : Signature) (candidates : List Ty) :
    ValidationResult :=
  collect k side s [] candidates .valid

/-- What kind of signature it is. -/
def kindName : Signature → String
  | single _ => "SingletonSignature"
  | tuple .. => "TupleSignature"

/-- The text that shows a signature. -/
def shown (side : Side) (s : Signature) : String :=
  s.kindName ++ "(" ++ side.name ++ ": " ++ listed s.classes ++ ")"

end Signature

end FunctionObjects
