import FunctionObjects.Function.Base
import FunctionObjects.Class.Loading
/-!
# Types and members

Whether a value belongs to a class, and whether the items of a collection are all among given ones.
-/

namespace FunctionObjects.Membership

variable (d : Dispatch)

/-- Stores a class, loaded if it is given by its name. -/
def setType (self t : Value) : Run Unit := do
  let loaded ← match t with
    | .atom a =>
      match a.text? with
      | some name => do
        match (← get).loadType t with
        | .ok c => pure (.type c)
        | .error _ => throw (.unloadableClass name)
      | none => pure t
    | v => pure v
  Run.setField self "type_" loaded

/-- Whether a class belongs to a type; parameterized forms cannot be asked. -/
def belongs (w : World) (c : ClassName) : Ty → Option Bool
  | .cls k => w.hierarchy.sub? c k
  | .named a => w.hierarchy.sub? c a.origin
  | .none => none
  | .union _ ts => members ts
  | _ => none
where
  members : List Ty → Option Bool
    | [] => some false
    | t :: ts => do
      match t with
      | .cls k => if ← w.hierarchy.sub? c k then return true else members ts
      | .named a => if ← w.hierarchy.sub? c a.origin then return true else members ts
      | _ => none

mutual

/-- Whether a class belongs to what a value stands for: a type, or one of several. -/
def isInstance (w : World) (c : ClassName) : Value → Option Bool
  | .atom (.type t) => belongs w c t
  | .tuple ts => isInstanceOfAny w c ts
  | _ => none

def isInstanceOfAny (w : World) (c : ClassName) : List Value → Option Bool
  | [] => some false
  | t :: ts => do if ← isInstance w c t then return true else isInstanceOfAny w c ts

end

/-- Whether the input belongs to the class that is set. -/
def isA (self x : Value) : Run Value := do
  if x.isNone then return .bool true
  match ← Run.optional self "type_" with
  | none => return .bool true
  | some t =>
    let w ← get
    return .bool (← Run.require .wrongType (isInstance w (w.classOf x) t))

/-- The name of the class that is set, with its module. -/
def typeName (self : Value) : Run Value := do
  match ← Run.optional self "type_" with
  | none => return .none
  | some (.atom (.type t)) =>
    match t with
    | .cls c => return .str c.qualified
    | .any => return .str "typing.Any"
    | .named a => return .str ("typing." ++ a.name)
    | .app (.named a) _ => return .str ("typing." ++ a.name)
    | .app (.cls c) _ => return .str c.qualified
    | _ => throw .noAttribute
  | some _ => throw .noAttribute

/-- Whether all items of the input are among the values that are set. -/
def areIn (self x : Value) : Run Value := do
  if !(← d.truth x) then return .bool true
  let values ← Run.field self "values"
  if !(← d.truth values) then return .bool true
  let values ← d.items values
  let stranger ← (← d.cursor x).search fun v => do
    return if ← Run.contains values v then none else some ()
  return .bool stranger.isNone

end FunctionObjects.Membership
