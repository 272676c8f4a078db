import FunctionObjects.Descriptor.Basic
/-!
# Building unions

A union has no unions among its members and no member twice; a union of one member is that member.
-/

namespace FunctionObjects.Ty

/-- The members of a union, or the type itself. -/
def members : Ty → List Ty
  | .union _ ts => ts
  | t => [t]

/-- Drops every type that an earlier one is the same as. -/
def distinct : List Ty → List Ty → List Ty
  | done, [] => done.reverse
  | done, t :: ts => if within done t then distinct done ts else distinct (t :: done) ts

/-- The union of some types. -/
def unionOf (bars : Bool) (ts : List Ty) : Ty :=
  match distinct [] (ts.flatMap members) with
  | [t] => t
  | ms => .union bars ms

/-- Inside parameterized forms the value that stands for the class of nothing is that class. -/
def asArgument : Ty → Ty
  | .none => noneType
  | .lit (.str s) => .forward s
  | t => t

end FunctionObjects.Ty
