import FunctionObjects.Descriptor.Union
/-!
# Type variables and substitution

An environment binds type variables to descriptors.  A substitution replaces the bound variables
of a descriptor all at once and builds unions anew, so members that become equal are joined.
-/

namespace FunctionObjects

abbrev TypeEnv := List (TypeVar × Ty)

namespace Ty

mutual

/-- The type variables of a descriptor, each as often as it occurs. -/
def occurrences : Ty → List Ty
  | .var v b => [.var v b]
  | .app .literal _ => []
  | .app _ ts => occurrencesAll ts
  | .union _ ts => occurrencesAll ts
  | .params ts => occurrencesAll ts
  | _ => []

def occurrencesAll : List Ty → List Ty
  | [] => []
  | t :: ts => occurrences t ++ occurrencesAll ts

end

/-- The type variables of a descriptor, in the order in which they first occur. -/
def parameters (t : Ty) : List Ty := distinct [] (occurrences t)

/-- The arguments of a callable: the members of its list of parameters are arguments too. -/
def callableArgument : Ty → Ty
  | .params ts => .params (ts.map asArgument)
  | t => t.asArgument

/-- Builds a parameterized form of a class of the core or of any other kind: only the others change
what stands for the class of nothing. -/
def applied (h : Head) (ts : List Ty) : Ty :=
  match h with
  | .cls c => .app h (if c.isPlainGeneric then ts else ts.map asArgument)
  | .named .callable => .app h (ts.map callableArgument)
  | _ => .app h (ts.map asArgument)

mutual

/-- Replaces the bound type variables. -/
def substitute (env : TypeEnv) : Ty → Ty
  | .var v b => (env.lookup v).getD (.var v b)
  | .app .literal ts => .app .literal ts
  | .app h ts => applied h (substituteAll env ts)
  | .union bars ts => unionOf bars ((substituteAll env ts).map asArgument)
  | .params ts => .params (substituteAll env ts)
  | t => t

def substituteAll (env : TypeEnv) : List Ty → List Ty
  | [] => []
  | t :: ts => substitute env t :: substituteAll env ts

end

/-- Binds parameters to arguments, as far as both go. -/
def bind (params args : List Ty) : TypeEnv :=
  (params.zip args).filterMap fun
    | (.var v _, t) => some (v, t)
    | _ => Option.none

end Ty

end FunctionObjects
