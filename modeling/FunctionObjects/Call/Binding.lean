import FunctionObjects.Value.World
/-!
# Binding arguments to parameters

Arguments given by position fill the parameters in order, those given by name fill the others; what
is left goes to the parameters that collect, and is refused if there are none.
-/

namespace FunctionObjects

/-- What a callable is given. -/
structure Arguments where
  positional : List Value
  named : List (String × Value)
deriving Repr, Inhabited

namespace Arguments

def ofList (vs : List Value) : Arguments := ⟨vs, []⟩

end Arguments

namespace Param

/-- A parameter that can be filled by position. -/
def isPositional (p : Param) : Bool := p.kind == .positional || p.kind == .standard

/-- A parameter that can be filled by name. -/
def isNamed (p : Param) : Bool := p.kind == .keyword || p.kind == .standard

end Param

/-- What the parameters of a callable stand for in a call. -/
structure Binding where
  /-- The parameters that stand for one value, with their values. -/
  values : List (Param × Value)
  /-- The arguments by position that are left over. -/
  rest : List Value
  /-- The arguments by name that are left over. -/
  extra : List (String × Value)
deriving Repr, Inhabited

namespace Binding

/-- The value of a parameter that stands for one value: the argument that is given for it, or its
default. -/
def valueOf (given : List (String × Value)) (named : List (String × Value)) (p : Param) :
    Option (Param × Value) :=
  let byName := if p.isNamed then named.lookup p.name else none
  match given.lookup p.name, byName with
  | some _, some _ => none
  | some v, none => some (p, v)
  | none, some v => some (p, v)
  | none, none => p.default.map fun v => (p, v)

/-- Binds arguments to parameters. -/
def of (params : List Param) (args : Arguments) : Except Fault Binding := do
  let positions := params.filter Param.isPositional
  let rest := args.positional.drop positions.length
  let extra := args.named.filter fun (name, _) =>
    !params.any fun p => p.isNamed && p.name == name
  if !rest.isEmpty && !params.any (·.kind == .rest) then throw .wrongType
  if !extra.isEmpty && !params.any (·.kind == .keywords) then throw .wrongType
  let given := (positions.map (·.name)).zip args.positional
  let single := params.filter fun p => p.kind != .rest && p.kind != .keywords
  let values ← (single.mapM (valueOf given args.named)).elim (throw .wrongType) pure
  return ⟨values, rest, extra⟩

/-- The value of the parameter of a name. -/
def value (b : Binding) (name : String) : Value :=
  ((b.values.find? fun (p, _) => p.name == name).map (·.2)).getD .none

/-- The values that were given by position, or could have been. -/
def positional (b : Binding) : List Value :=
  (b.values.filter fun (p, _) => p.isPositional).map (·.2) ++ b.rest

end Binding

end FunctionObjects
