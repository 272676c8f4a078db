import FunctionObjects.Class.Table
import FunctionObjects.Fault
/-!
# Forms with arguments

Which descriptors can be given arguments, how many they take, and how unions are joined by bars.
Forms of the language core take anything; interfaces and classes of functions count their arguments.
-/

namespace FunctionObjects

namespace Ty

/-- Whether a descriptor has to be given arguments before it can be used. -/
def isBareForm : Ty → Bool
  | .form _ => true
  | .cls c => c == ClassTable.generic || c == ⟨"typing", "Protocol"⟩
  | _ => false

/-- A type as an argument of an interface; forms that need arguments themselves are refused. -/
def checkedArgument (t : Ty) : Except Fault Ty :=
  match t with
  | .app (.cls c) _ => if c == ClassTable.generic then throw .wrongType else return t
  | t => if t.isBareForm then throw .wrongType else return t.asArgument

/-- The union of types that are written as its arguments. -/
def namedUnion (ts : List Ty) : Except Fault Ty := do
  if ts.isEmpty then throw .wrongType
  return unionOf false (← ts.mapM checkedArgument)

/-- The constants of a form without those that come twice. -/
def literal (ts : List Ty) : Ty := .app .literal (distinct [] ts)

/-- What the parameters of a callable are: a list, one type, or anything. -/
def callableParameters (t : Ty) : Ty :=
  match t with
  | .params [.ellipsis] => .ellipsis
  | .params ts => .params (ts.map asArgument)
  | .ellipsis => .ellipsis
  | t => .params [t.asArgument]

/-- An interface with arguments. -/
def aliasForm (a : Alias) (ts : List Ty) : Except Fault Ty := do
  match a, ts with
  | .callable, [ps, r] => return .app (.named a) [callableParameters ps, ← checkedArgument r]
  | .callable, _ => throw .wrongType
  | .tuple, ts => return .app (.named a) (← ts.mapM checkedArgument)
  | a, ts =>
    if a.arity? = some ts.length ∧ !ts.isEmpty then return .app (.named a) (← ts.mapM checkedArgument)
    else throw .wrongType

/-- A form with new arguments for its type variables. -/
def rebound (t : Ty) (ts : List Ty) : Except Fault Ty := do
  let vars := t.parameters
  if vars.isEmpty || vars.length != ts.length then throw .wrongType
  let ts ← ts.mapM checkedArgument
  let env := (vars.zip ts).filterMap fun (v, t) => match v with
    | .var v _ => some (v, t)
    | _ => Option.none
  return t.substitute env

/-- Whether a descriptor joins others by bars as plain types do. -/
def joinsPlainly : Ty → Bool
  | .cls _ => true
  | .any => true
  | .none => true
  | .app (.cls c) _ => c.isPlainGeneric
  | .union bars _ => bars
  | _ => false

/-- Whether a descriptor makes a named union of itself and another one. -/
def joinsByName : Ty → Bool
  | .named _ => true
  | .form _ => true
  | .var .. => true
  | .app (.cls c) _ => !c.isPlainGeneric
  | .app _ _ => true
  | .union bars _ => !bars
  | _ => false

/-- Two descriptors joined by a bar. -/
def joined (t u : Ty) : Except Fault Ty :=
  if t.joinsByName || u.joinsByName then namedUnion [t, u]
  else if t.joinsPlainly && u.joinsPlainly then
    match t, u with
    | .none, .none => throw .wrongType
    | t, u => return unionOf true [t.asArgument, u.asArgument]
  else throw .wrongType

end Ty

/-- Classes of the core that can be given any arguments. -/
def plainGenerics : List ClassName := [
  .core "list", .core "tuple", .core "dict", .core "set", .core "frozenset", .core "type",
  ⟨"collections", "OrderedDict"⟩]

/-- Classes of sized numbers that take one argument. -/
def sizedGenerics : List ClassName := [
  ⟨"numpy", "number"⟩, ⟨"numpy", "integer"⟩, ⟨"numpy", "signedinteger"⟩,
  ⟨"numpy", "unsignedinteger"⟩, ⟨"numpy", "inexact"⟩, ⟨"numpy", "floating"⟩]

namespace Hierarchy

variable (h : Hierarchy)

/-- A class with arguments for its parameters. -/
def classForm (c : ClassName) (ts : List Ty) : Except Fault Ty :=
  let form (ts : List Ty) : Ty := .app (.cls c) ts
  if c == ClassTable.generic then
    let vars := ts.filter fun t => match t with
      | .var .. => true
      | _ => false
    if ts.isEmpty || vars.length != ts.length || (Ty.distinct [] ts).length != ts.length then
      throw .wrongType
    else return form ts
  else if plainGenerics.contains c then return form ts
  else if sizedGenerics.contains c then
    if ts.length = 1 then return form ts else throw .wrongType
  else if c == ⟨"numpy", "complexfloating"⟩ then
    if ts.length = 1 ∨ ts.length = 2 then return form ts else throw .wrongType
  else
    let params := (h.info c).params
    if !params.isEmpty && params.length = ts.length then return form (ts.map Ty.asArgument)
    else throw .wrongType

/-- A descriptor with arguments. -/
def applied (t : Ty) (ts : List Ty) : Except Fault Ty :=
  match t with
  | .cls c => h.classForm c ts
  | .named a => Ty.aliasForm a ts
  | .form "Optional" =>
    match ts with
    | [t] => Ty.namedUnion [t, .none]
    | _ => throw .wrongType
  | .form "Union" => Ty.namedUnion ts
  | .form "Literal" => return Ty.literal ts
  | .app .literal _ => throw .wrongType
  | .app _ _ => t.rebound ts
  | .union _ _ => t.rebound ts
  | _ => throw .wrongType

end Hierarchy

end FunctionObjects
