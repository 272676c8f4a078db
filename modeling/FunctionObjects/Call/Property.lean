import FunctionObjects.Call.Method
/-!
# Reading and setting attributes

A property of the class is computed; otherwise what is set on the object comes first, and then what
the first class in the order of search defines.  A property can be set only if it says how.
-/

namespace FunctionObjects

namespace Value

/-- The value that a type is. -/
def ofTy : Ty → Value
  | .none => .none
  | .lit (.bool b) => .bool b
  | .lit (.int n) => .int n
  | .lit (.str s) => .str s
  | t => .type t

/-- A method, of which only that it is one counts. -/
def boundMethod : Value := .atom (.other (.core "method"))

end Value

namespace Stated

/-- The value that some stated types are. -/
def value (s : Stated) : Run Value :=
  let vs := s.types.map Value.ofTy
  if s.asList then Run.newList vs else return .tuple vs

end Stated

namespace Attribute

variable (d : Dispatch)

/-- The types of a side that an object takes over from another one. -/
def inheritedTypes (p : Property) (self : Value) : Run Value := do
  let w ← get
  let inner (s : Side) (v : Value) : Except Fault (List Ty) := return (← w.signature s v).declared
  match ← Run.lift (w.propertyTypes? inner p self) with
  | some ts => return .tuple (ts.map Value.ofTy)
  | none => return .none

/-- What is set under a name on the adapter that an object holds. -/
def ofAdapter (self : Value) (slot name : String) : Run Value := do
  Run.field (← Run.field self slot) name

/-- The value of a property. -/
def property (p : Property) (self : Value) : Run Value := do
  match p with
  | .inputKind => return .atom (.kind (← Adapted.inputKind self))
  | .outputKind => return .atom (.kind (← Adapted.outputKind self))
  | .selection => ofAdapter self "input_adapter" "selection"
  | .foldProjection => ofAdapter self "output_fold" "projection"
  | .ageDays => Age.inUnits self Age.day
  | .ageHours => Age.inUnits self Age.hour
  | .typeName => Membership.typeName self
  | .size => return .int (← Unpacked.arity self)
  | .castOutput =>
    match ← Run.optional self "output_class" with
    | some c => return .tuple [c]
    | none => return .none
  | p => inheritedTypes p self

/-- What a member of a class is for an object. -/
def ofMember (self : Value) : Member → Run Value
  | .library _ (.property p) => property p self
  | .library _ .unstated => return .none
  | .library _ _ => return .boundMethod
  | .routine _ => return .boundMethod
  | .stated s => s.value
  | .arity n => return .int n

/-- What a member of a class is for the class itself. -/
def ofClassMember : Member → Run Value
  | .library _ (.property _) => return .atom (.other (.core "property"))
  | .library _ .unstated => return .none
  | .library _ _ => return .atom (.other (.core "function"))
  | .routine r => Run.alloc (.routine r)
  | .stated s => s.value
  | .arity n => return .int n

/-- The value of an attribute; `none` if there is none. -/
def read? (self : Value) (name : String) : Run (Option Value) := do
  let w ← get
  match self with
  | .atom (.type t) =>
    match (t.originClass?).bind fun c => w.member? c name with
    | some m => some <$> ofClassMember m
    | none => return none
  | .ref _ =>
    let set := (w.attributes self).lookup name
    match w.member? (w.classOf self) name with
    | some (.library k (.property p)) => some <$> ofMember self (.library k (.property p))
    | some m =>
      match set with
      | some v => return some v
      | none => some <$> ofMember self m
    | none => return set
  | _ => return none

/-- The value of an attribute. -/
def read (self : Value) (name : String) : Run Value := do
  Run.require .noAttribute (← read? self name)

/-- Sets an attribute. -/
def write (self : Value) (name : String) (v : Value) : Run Unit := do
  let w ← get
  match w.member? (w.classOf self) name with
  | some (.library _ (.property .ageDays)) => Age.setInUnits self v Age.day
  | some (.library _ (.property .ageHours)) => Age.setInUnits self v Age.hour
  | some (.library _ (.property _)) => throw .noAttribute
  | _ => Run.setField self name v

end Attribute

end FunctionObjects
