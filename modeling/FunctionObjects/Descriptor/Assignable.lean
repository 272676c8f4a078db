import FunctionObjects.Descriptor.Basic
/-!
# Assignability

Whether a value of one type may be used where another is required.  The subclass relation is a
parameter.  Sized scalar classes count as the core class that they box, whole numbers are accepted
as fractional ones and both as complex ones.  Parameters are compared one by one where both sides
give equally many, and not at all otherwise.
-/

namespace FunctionObjects

/-- What descriptors need to know of classes. -/
structure Classes where
  /-- The subclass relation. -/
  sub : ClassName → ClassName → Bool
  /-- The number of positions of a class of tuples that fixes it. -/
  arity? : ClassName → Option Nat

/-- The classes of sized scalars, each with the core class that it boxes. -/
def boxes : List (ClassName × ClassName) := [
  (⟨"numpy", "bool"⟩, .core "bool"),
  (⟨"numpy", "integer"⟩, .core "int"),
  (⟨"numpy", "floating"⟩, .core "float"),
  (⟨"numpy", "complexfloating"⟩, .core "complex"),
  (⟨"numpy", "str_"⟩, .core "str"),
  (⟨"numpy", "bytes_"⟩, .core "bytes")]

/-- The core classes whose values widen to another one. -/
def widens (source target : ClassName) : Bool :=
  (target == .core "float" && source == .core "int") ||
    (target == .core "complex" && (source == .core "int" || source == .core "float"))

/-- The class that a class boxes, or the class itself. -/
def Classes.unboxed (k : Classes) (c : ClassName) : ClassName :=
  if k.sub c ⟨"numpy", "generic"⟩ then
    ((boxes.find? fun (scalar, _) => k.sub c scalar).map (·.2)).getD c
  else c

/-- The form in which a type that is no union is compared. -/
def Classes.canonical (k : Classes) : Ty → Ty
  | .none => .noneType
  | .cls c => .cls (k.unboxed c)
  | t => t

/-- Whether the classes behind two types fit. -/
def Classes.originsFit (k : Classes) (c e : Ty) : Bool :=
  match c.originClass?, e.originClass? with
  | some a, some b => k.sub a b || widens a b
  | _, _ => false

def Ty.isAny : Ty → Bool
  | .any => true
  | _ => false

def Ty.isObject : Ty → Bool
  | .cls c => c == .object
  | _ => false

/-- Whether a value of type `c` may be used where `e` is required. -/
def Classes.assignable (k : Classes) (c e : Ty) : Bool :=
  if c.finalize.isAny || e.finalize.isAny || e.finalize.isObject then true
  else if c.finalize.isUnion then
    c.finalize.args.attach.all fun ⟨m, _⟩ => k.assignable m e.finalize
  else if e.finalize.isUnion then
    e.finalize.args.attach.any fun ⟨m, _⟩ => k.assignable c.finalize m
  else if (k.canonical c.finalize).same (k.canonical e.finalize) then true
  else if !k.originsFit (k.canonical c.finalize) (k.canonical e.finalize) then false
  else if c.finalize.args.length == e.finalize.args.length then
    (c.finalize.args.attach.zip e.finalize.args.attach).all fun (⟨a, _⟩, ⟨b, _⟩) => k.assignable a b
  else true
termination_by sizeOf c + sizeOf e
decreasing_by
  all_goals
    have hc := Ty.sizeOf_finalize_le c
    have he := Ty.sizeOf_finalize_le e
    try have hm := Ty.sizeOf_lt_of_mem_args (by assumption : _ ∈ c.finalize.args)
    try have hn := Ty.sizeOf_lt_of_mem_args (by assumption : _ ∈ e.finalize.args)
    omega

end FunctionObjects
