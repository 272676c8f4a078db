import FunctionObjects.Class.Form
import FunctionObjects.Class.Member
import FunctionObjects.Signature.Basic
import FunctionObjects.Signature.Resolution
/-!
# Recovering signatures

Where the types of a function come from.  What an object states itself comes first, then the
arguments that its class binds at a declaration site, then the annotations of whatever can be called.
Reading a signature changes nothing, apart from the types that it joins to a tuple type.
-/

namespace FunctionObjects

/-- The attribute in which an object states the types of a side. -/
def Side.attribute (s : Side) : String := s.name ++ "_types"

namespace Ty

/-- The core classes that a name in an annotation can stand for. -/
def named? (text : String) : Option Ty :=
  if text == "None" then some noneType
  else if ["int", "float", "complex", "bool", "str", "bytes", "bytearray", "list", "tuple", "dict",
      "set", "frozenset", "object", "type"].contains text then some (.cls (.core text))
  else Option.none

mutual

/-- An annotation with the names in it looked up; `none` if one of them is unknown. -/
def evaluated? : Ty → Option Ty
  | .forward text => named? text
  | .lit (.str text) => named? text
  | .app .literal ts => some (.app .literal ts)
  | .app h ts => (evaluatedAll? ts).map (.app h)
  | .union bars ts => (evaluatedAll? ts).map (unionOf bars)
  | .params ts => (evaluatedAll? ts).map .params
  | t => some t

def evaluatedAll? : List Ty → Option (List Ty)
  | [] => some []
  | t :: ts => do return (← evaluated? t) :: (← evaluatedAll? ts)

end

/-- The type that an annotation gives. -/
def hint? (t : Ty) : Option Ty := (evaluated? t).map asArgument

end Ty

/-- A parameter that has to be given by position. -/
def Param.isRequired (p : Param) : Bool :=
  (p.kind == .positional || p.kind == .standard) && p.default.isNone

namespace Routine

/-- The annotations of a function; none at all if one of them cannot be looked up. -/
def hints (r : Routine) : List (String × Ty) × Option Ty :=
  let params := r.params.mapM fun p =>
    match p.type with
    | some t => t.hint?.map fun t => [(p.name, t)]
    | none => some []
  let returns := match r.returns with
    | some t => t.hint?.map some
    | none => some none
  match params, returns with
  | some ps, some t => (ps.flatten, t)
  | _, _ => ([], none)

/-- The types on a side of a function, from its annotations. -/
def types (r : Routine) (s : Side) : List Ty :=
  match s with
  | .output => [r.hints.2.getD .any]
  | .input =>
    match r.params.filter Param.isRequired with
    | [] => [.any]
    | ps => ps.map fun p => (r.hints.1.lookup p.name).getD .any

end Routine

/-- How many positions the functions of the language core have; `none` if they do not tell. -/
def Builtin.positions? : Builtin → Option Nat
  | .max => none
  | .min => none
  | .divmod => some 2
  | .pow => some 2
  | .isinstance => some 2
  | _ => some 1

namespace World

variable (w : World)

def classes : Classes := w.hierarchy.classes

/-- The type that a value stands for. -/
def tyOf (v : Value) : Ty :=
  match v with
  | .atom .none => .none
  | .atom (.type t) => t
  | .atom (.bool b) => .lit (.bool b)
  | .atom (.int n) => .lit (.int n)
  | .atom (.str s) => .lit (.str s)
  | v => .lit (.object (w.read v).shown)

/-- The constructor that a class declares itself or inherits from a declared class. -/
def constructor? (c : ClassName) : Option (List Param) :=
  (w.hierarchy.mro c).findSome? fun c => (w.declaration? c).bind (·.init)

/-- The types on a side of a class that is called. -/
def constructorTypes (c : ClassName) (s : Side) : List Ty :=
  match s with
  | .output => [.any]
  | .input =>
    match ((w.constructor? c).getD []).filter Param.isRequired with
    | [] => [.any]
    | ps => ps.map fun _ => .any

/-- What the writer of tuple fields takes and gives. -/
def outputAdapterTypes (s : Side) : List Ty :=
  let state : Ty := .union false [.cls LibraryClass.tuple.className, .noneType]
  match s with
  | .input => [state, .any]
  | .output => [state]

/-- The types on a side of a value that can be called, from its annotations. -/
def callableTypes? (s : Side) (v : Value) : Option (List Ty) :=
  match v with
  | .atom (.builtin b) =>
    match s, b.positions? with
    | .input, some n => some (List.replicate n .any)
    | _, _ => some [.any]
  | .atom (.type t) =>
    match t with
    | .cls c => some (w.constructorTypes c s)
    | .any => some [.any]
    | .named _ => some [.any]
    | .form _ => some [.any]
    | .app .. => some [.any]
    | .union false _ => some [.any]
    | _ => none
  | .ref r =>
    match w.cell? r with
    | some (.routine f) => some (f.types s)
    | _ =>
      match w.member? (w.classOf v) "__call__" with
      | some (.routine f) => some (f.types s)
      | some (.library .tupleOutputAdapter _) => some (outputAdapterTypes s)
      | some _ => some [.any]
      | none => none
  | _ => none

/-- The types that an object computes for a side, given how types are read of other values. -/
def propertyTypes? (inner : Side → Value → Except Fault (List Ty)) (p : Property) (v : Value) :
    Except Fault (Option (List Ty)) :=
  let field (name : String) : Value := ((w.attributes v).lookup name).getD .none
  let functions := (w.sequence? (field "functions")).getD []
  match p with
  | .compositeInput =>
    match functions.head? with
    | some f => some <$> inner .input f
    | none => return none
  | .compositeOutput =>
    match functions.getLast? with
    | some f => some <$> inner .output f
    | none => return none
  | .negatedInput =>
    let predicate := field "predicate"
    if predicate.isNone then return none else some <$> inner .input predicate
  | .controlInput =>
    let value := field "value"
    return if value.isNone then none else some [.cls (w.classOf value)]
  | .castOutput =>
    let value := field "output_class"
    return if value.isNone then none else some [w.tyOf value]
  | _ => return none

/-- The types that a value states for a side itself. -/
def statedTypes? (inner : Side → Value → Except Fault (List Ty)) (s : Side) (v : Value) :
    Except Fault (Option (List Ty)) :=
  let ofClass (c : ClassName) : Option (List Ty) :=
    match w.member? c s.attribute with
    | some (.stated st) => some st.types
    | _ => none
  match v with
  | .atom (.type t) => return t.originClass?.bind ofClass
  | .ref _ =>
    let c := w.classOf v
    match w.member? c s.attribute with
    | some (.library _ (.property p)) => w.propertyTypes? inner p v
    | _ =>
      match (w.attributes v).lookup s.attribute with
      | some x => return (w.sequence? x).map fun vs => vs.map w.tyOf
      | none => return ofClass c
  | _ => return none

/-- The argument at a position; a negative one counts from the end. -/
def argumentAt (ts : List Ty) (i : Int) : Except Fault Ty :=
  let j := if i < 0 then i + ts.length else i
  if j < 0 then throw .noIndex
  else ts[j.toNat]?.elim (throw .noIndex) pure

/-- The arguments that a value binds to the parameters of a class. -/
def typeArguments? (v : Value) (target : ClassName) : Option (List Ty) :=
  match v with
  | .atom (.type (.cls c)) => w.hierarchy.resolveClass target c
  | v =>
    match w.originAlias? v with
    | some t => w.hierarchy.resolveAlias target t
    | none => w.hierarchy.resolveClass target (w.classOf v)

/-- The class by which a value is found at a declaration site. -/
def siteClass (v : Value) : ClassName :=
  match v with
  | .atom (.type (.cls c)) => c
  | v => w.classOf v

/-- The arguments that a value binds to the parameters of a target; only classes that answer subclass
questions can be targets. -/
def resolve (v : Value) (target : Ty) : Except Fault (Option (List Ty)) :=
  let own := w.siteClass v
  let refusal : Except Fault (Option (List Ty)) :=
    if own == .object then return none else throw .wrongType
  match target with
  | .cls c =>
    if w.hierarchy.answers c then return w.typeArguments? v c
    else if own == c then return some [] else refusal
  | .any => return none
  | .named _ => return none
  | _ => refusal

/-- The types that a value binds at the first declaration site that it derives from. -/
def siteTypes? (s : Side) (v : Value) : Except Fault (Option (List Ty)) := do
  let found := w.sites.findSome? fun site =>
    if w.hierarchy.sub (w.siteClass v) site.cls then
      (w.typeArguments? v site.cls).map fun args => (site, args.map Ty.finalize)
    else none
  match found with
  | none => return none
  | some (site, args) =>
    match s, site.output with
    | .input, _ => return some [← argumentAt args site.input]
    | .output, .fixed t => return some [t]
    | .output, .position i => return some [← argumentAt args i]

/-- The types on a side of a value, given how types are read of other values. -/
def recoveredTypes (inner : Side → Value → Except Fault (List Ty)) (s : Side) (v : Value) :
    Except Fault (List Ty) := do
  if v.isNone then throw .nullFunction
  if let some ts ← w.statedTypes? inner s v then return ts
  if let some ts ← w.siteTypes? s v then return ts
  (w.callableTypes? s v).elim (throw (.notFunctionLike (w.classOf v).name)) pure

/-- The signature of a list of types; bare forms cannot be put into a tuple type. -/
def signatureOf (ts : List Ty) : Except Fault Signature :=
  if ts.length ≠ 1 ∧ ts.any Ty.isBareForm then throw .wrongType
  else return .ofList w.classes w.surroundings.joined ts

/-- The types on a side of a value, looking through at most so many wrappers. -/
def typesWithin : Nat → Side → Value → Except Fault (List Ty)
  | 0, _, _ => throw .tooDeep
  | n + 1, s, v =>
    w.recoveredTypes (fun s v => do return (← w.signatureOf (← typesWithin n s v)).declared) s v

/-- The types on a side of a value.  Wrappers that do not hold each other in turn are never more
than there are cells. -/
def declaredTypes (s : Side) (v : Value) : Except Fault (List Ty) :=
  w.typesWithin (w.heap.size + 1) s v

/-- The signature of a side of a value. -/
def signature (s : Side) (v : Value) : Except Fault Signature := do
  w.signatureOf (← w.declaredTypes s v)

/-- What is set under a name, or the value that stands for nothing. -/
def fieldOf (v : Value) (name : String) : Value := ((w.attributes v).lookup name).getD .none

/-- The functions that a chain holds. -/
def functionsOf (v : Value) : List Value := (w.sequence? (w.fieldOf v "functions")).getD []

/-- The function from which a value takes a side. -/
def takenFrom? (s : Side) (v : Value) : Option Value :=
  match v with
  | .ref _ =>
    match w.member? (w.classOf v) s.attribute with
    | some (.library _ (.property .compositeInput)) => (w.functionsOf v).head?
    | some (.library _ (.property .compositeOutput)) => (w.functionsOf v).getLast?
    | some (.library _ (.property .negatedInput)) =>
      if (w.fieldOf v "predicate").isNone then none else some (w.fieldOf v "predicate")
    | _ => none
  | _ => none

/-- The function whose own types a side has, looking through at most so many wrappers. -/
def sourceWithin (s : Side) : Nat → Value → Value
  | 0, v => v
  | n + 1, v =>
    match w.takenFrom? s v with
    | some f => sourceWithin s n f
    | none => v

/-- The state with some lists of types joined to tuple types before. -/
def recalling (known : List (List Ty)) : World :=
  { w with surroundings := { w.surroundings with joined := known } }

/-- The types that are joined to a tuple type when the signature of a side is read. -/
def joins? (s : Side) (v : Value) : Option (List Ty) :=
  match w.declaredTypes s (w.sourceWithin s w.heap.size v) with
  | .ok ts => if ts.length = 1 then none else some ts
  | .error _ => none

/-- The state in which the signature of a side has been read. -/
def after (s : Side) (v : Value) : World :=
  match w.joins? s v with
  | some ts => w.recalling (w.surroundings.joined ++ [ts])
  | none => w

/-- What messages call a function. -/
def describe (v : Value) : String :=
  let named := match v with
    | .atom (.type t) =>
      match t with
      | .cls c => c.name
      | .any => "Any"
      | .named a => a.name
      | .form n => n
      | .app (.named a) _ => a.name
      | .app (.cls c) _ => c.name
      | .app .literal _ => "Literal"
      | .union false ts => if ts.length = 2 && ts.any (·.same .noneType) then "Optional" else "Union"
      | _ => ""
    | .atom (.builtin b) => b.name
    | .ref r =>
      match w.cell? r with
      | some (.routine f) => f.name
      | _ => ""
    | _ => ""
  if named.isEmpty then (w.classOf v).name else named

/-- Whether the output of one function can be fed to another one.  A tuple goes along whole, and the
input opens it.  The output is read first. -/
def composable (first second : Value) : Except Fault ValidationResult := do
  let output ← w.signature .output first
  let input ← (w.after .output first).signature .input second
  let summary := "Output of " ++ w.describe first ++ " is not compatible with the input of " ++
    w.describe second
  return .merge .valid (input.assignable w.classes .input output.declared) (some summary)

/-- Checks every two consecutive functions of a chain. -/
def validateChain : List Value → Except Fault ValidationResult
  | f :: g :: rest => go .valid f (g :: rest)
  | _ => return .valid
where
  go (r : ValidationResult) (f : Value) : List Value → Except Fault ValidationResult
    | [] => return r
    | g :: rest => do go (.merge r (← w.composable f g) none) g rest

end World

end FunctionObjects
