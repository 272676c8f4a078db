import FunctionObjects.Value.World
/-!
# Type resolution

The arguments that a class binds to the parameters of one of its generic ancestors.  Each class on
the way up binds the parameters of its bases to descriptors over its own parameters, so the bindings
are substituted level by level.
-/

namespace FunctionObjects

namespace Hierarchy

/-- The bases of a class as written, or the root. -/
def ownBases (h : Hierarchy) (c : ClassName) : List Ty :=
  let bases := (h.info c).bases
  if bases.isEmpty && c != .object then [Ty.object] else bases

/-- Follows the bases from a class up to a target; `env` binds the parameters of the class. -/
def walk (h : Hierarchy) (target : ClassName) : Nat → ClassName → TypeEnv → Option (List Ty)
  | 0, _, _ => none
  | n + 1, c, env =>
    if c == target then some ((h.info target).params.map (Ty.substitute env))
    else
      (h.ownBases c).findSome? fun base =>
        match base.originClass? with
        | some origin =>
          if h.sub origin target then
            walk h target n origin
              (Ty.bind (h.info origin).params (base.args.map (Ty.substitute env)))
          else none
        | none => none

/-- The arguments that a class binds to the parameters of a target. -/
def resolveClass (h : Hierarchy) (target c : ClassName) : Option (List Ty) :=
  walk h target (h.table.length + 1) c []

/-- The arguments that a parameterized class binds to the parameters of a target. -/
def resolveAlias (h : Hierarchy) (target : ClassName) (form : Ty) : Option (List Ty) :=
  form.originClass?.bind fun c =>
    walk h target (h.table.length + 1) c (Ty.bind (h.info c).params form.args)

end Hierarchy

end FunctionObjects
