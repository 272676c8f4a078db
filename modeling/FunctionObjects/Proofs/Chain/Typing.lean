import FunctionObjects.Proofs.Chain.Positions
import FunctionObjects.Proofs.Construction.Stock
import FunctionObjects.Proofs.State.Keeping
/-!
# Values of types

Which values belong to a type, as far as their classes tell, and how many values a callable has to be
given.  Both stay what they are as long as the classes are kept.
-/

namespace FunctionObjects

/-- How many arguments a function has to be given by position. -/
def Routine.required (r : Routine) : Nat := (r.params.filter Param.isRequired).length

/-- How many arguments an object has to be given that is called through such a member. -/
def Member.required : Member → Nat
  | .routine r => r.required
  | .library .binaryOperator _ => 2
  | .library .tupleOutputAdapter _ => 2
  | _ => 1

namespace World

variable (w : World)

/-- A positional tuple whose class says that it has so many values. -/
structure IsTuple (v : Value) (n : Nat) : Prop where
  positional : w.isSubclass (w.classOf v) LibraryClass.arrayTuple.className = true
  arity : w.member? (w.classOf v) "arity" = some (.arity n)

/-- An object of a class, or of one that widens to it.  Of a class that fixes its positions these are
the tuples of so many values. -/
def IsObject (c : ClassName) (v : Value) : Prop :=
  (w.hierarchy.sub (w.classOf v) c = true ∨ widens (w.classOf v) c = true) ∧
    ∀ n, w.classes.arity? c = some n → w.IsTuple v n

/-- A value of a type: of one of the members of a union, and an object of its class wherever the type
has one. -/
def IsOf (t : Ty) (v : Value) : Prop :=
  ∃ m ∈ t.finalize.members, ∀ c, m.originClass? = some c → w.IsObject c v

/-- How many arguments a callable has to be given by position. -/
def required (f : Value) : Nat :=
  match f with
  | .atom (.builtin b) => b.positions?.getD 1
  | .atom (.type t) =>
    (((t.originClass?.bind w.constructor?).getD []).filter Param.isRequired).length
  | .ref r =>
    match w.cell? r with
    | some (.routine f) => f.required
    | _ => ((w.member? (w.classOf f) "__call__").map Member.required).getD 0
  | _ => 0

/-- A plain callable that is there, and that says something about its input: the types that it
declares are those of its parameters. -/
structure IsPlain (f : Value) : Prop where
  types : ∃ ts, w.callableTypes? .input f = some ts ∧ w.declaredTypes .input f = .ok ts ∧ ts ≠ [.any]
  here : ∀ r, f = .ref r → r < w.heap.size

variable {w} {u : World}

/-- The types of a plain callable that says anything about its input are those of the arguments that
it requires. -/
theorem required_eq_length {f : Value} {ts : List Ty} (h : w.callableTypes? .input f = some ts)
    (hany : ts ≠ [.any]) : w.required f = ts.length := by
  -- without parameters a callable takes anything, and says nothing about its input
  have hroutine : ∀ r : Routine, r.types .input = ts → r.required = ts.length := by
    intro r hr
    unfold Routine.types at hr
    dsimp only at hr
    split at hr
    · exact absurd hr.symm hany
    · rw [← hr, List.length_map]
      rfl
  have hclass : ∀ c, w.constructorTypes c .input = ts →
      (((w.constructor? c).getD []).filter Param.isRequired).length = ts.length := by
    intro c hc
    unfold constructorTypes at hc
    dsimp only at hc
    split at hc
    · exact absurd hc.symm hany
    · rw [← hc, List.length_map]
  unfold callableTypes? at h
  split at h
  · rename_i b
    cases hb : b.positions? with
    | none => exact absurd (by simpa [hb] using h.symm) hany
    | some n =>
      obtain rfl : List.replicate n Ty.any = ts := by simpa [hb] using h
      simp [required, hb]
  · split at h
    · exact hclass _ (Option.some.inj h)
    all_goals first | exact absurd (Option.some.inj h).symm hany | cases h
  · rename_i r
    split at h
    · rename_i f hf
      simp only [required, hf]
      exact hroutine f (Option.some.inj h)
    · rename_i hf
      have hcall : w.required (.ref r) =
          ((w.member? (w.classOf (.ref r)) "__call__").map Member.required).getD 0 := by
        unfold required
        split <;> simp_all
      rw [hcall]
      split at h
      · rename_i f hm
        rw [hm]
        exact hroutine f (Option.some.inj h)
      · rename_i hm
        rw [hm, ← Option.some.inj h]
        rfl
      · exact absurd (Option.some.inj h).symm hany
      · cases h
  · cases h

/-- A value of a tuple type that fixes its positions has that many. -/
theorem IsOf.isTuple {t : Ty} {v : Value} {n : Nat} (h : w.IsOf t v)
    (hn : w.classes.positions? t = some n) : w.IsTuple v n := by
  obtain ⟨c, hc, harity⟩ : ∃ c, t.originClass? = some c ∧ w.classes.arity? c = some n := by
    unfold Classes.positions? at hn
    split at hn
    · cases hn
    · exact Option.bind_eq_some_iff.mp hn
  have hone : t.finalize.members = [t] := by
    cases t <;> first | rfl | cases hc
  obtain ⟨m, hm, hobject⟩ := h
  rw [hone, List.mem_singleton] at hm
  exact (hobject c (by rw [hm, hc])).2 n harity

namespace Keeps

theorem classes (h : w.Keeps u) : u.classes = w.classes := by
  rw [World.classes, World.classes, h.hierarchy]

theorem sameClasses (h : w.Keeps u) : w.SameClasses u := ⟨h.hierarchy, h.declarations⟩

/-- What is there stays of its class. -/
theorem classOf (h : w.Keeps u) {r : Ref} (hr : r < w.heap.size) :
    u.classOf (.ref r) = w.classOf (.ref r) := by
  obtain ⟨c, hc⟩ : ∃ c, w.heap[r]? = some c := ⟨_, Array.getElem?_eq_getElem hr⟩
  obtain ⟨c', hc', hkind⟩ := h.cell hc
  simp only [World.classOf, hc, hc']
  cases c <;> cases c' <;> simp_all [Cell.kind]

/-- What a callable requires stays the same. -/
theorem required (h : w.Keeps u) {f : Value} (hf : ∀ r, f = .ref r → r < w.heap.size) :
    u.required f = w.required f := by
  have hconstructor : u.constructor? = w.constructor? := by
    funext c
    rw [h.rest]
    rfl
  cases f with
  | ref r =>
    have hclass := h.classOf (hf r rfl)
    obtain ⟨c, hc⟩ : ∃ c, w.heap[r]? = some c := ⟨_, Array.getElem?_eq_getElem (hf r rfl)⟩
    obtain ⟨c', hc', hkind⟩ := h.cell hc
    simp only [World.required, World.cell?, hc, hc', hclass, h.sameClasses.member?]
    cases c <;> cases c' <;> simp_all [Cell.kind]
  | atom a => cases a <;> simp [World.required, hconstructor]
  | _ => rfl

end Keeps

end World

end FunctionObjects
