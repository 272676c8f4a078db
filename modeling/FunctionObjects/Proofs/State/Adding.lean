import FunctionObjects.Proofs.Chain.Unpacking
import FunctionObjects.Proofs.Frame.Calls
import FunctionObjects.Proofs.State.Around
/-!
# Operations that only add cells

What is there before such an operation is there after it, whether it succeeds or fails.  Numbers are
computed, texts are joined and values are compared in this way, and so are calls of objects whose
methods do no more.
-/

namespace FunctionObjects

open Run World

variable {α β : Type} {w : World}

/-- From a state on, an operation leaves all cells as they are and adds some at most. -/
def Adds (w : World) (m : Run α) : Prop := ∀ u, w.Grows u → u.Grows (m.result u).2

namespace Adds

variable {m : Run α} {f : α → Run β}

theorem later {u : World} (h : Adds w m) (hg : w.Grows u) : Adds u m := fun v hv => h v (hg.trans hv)

@[grind ←] theorem pure (a : α) : Adds w (Pure.pure a) := fun u _ => .refl u

@[grind ←] theorem throw (e : Fault) : Adds w (throw e : Run α) := fun u _ => .refl u

@[grind ←] theorem get : Adds w (MonadState.get : Run World) := fun u _ => .refl u

@[grind ←] theorem cell? (r : Ref) : Adds w (Run.cell? r) := fun u _ => .refl u

@[grind ←] theorem datum (v : Value) : Adds w (Run.datum v) := fun u _ => .refl u

@[grind ←] theorem lift (x : Except Fault α) : Adds w (Run.lift x) := by
  cases x <;> exact fun u _ => .refl u

@[grind ←] theorem require (e : Fault) (x : Option α) : Adds w (Run.require e x) := by
  cases x <;> exact fun u _ => .refl u

@[grind ←] theorem alloc (c : Cell) : Adds w (Run.alloc c) := fun u _ => .push u c

@[grind ←] theorem newList (vs : List Value) : Adds w (Run.newList vs) := alloc _

/-- What follows has only to be known for what an operation gives. -/
theorem bind_of (hm : Adds w m)
    (hf : ∀ u a, w.Grows u → (m.result u).1 = .ok a → Adds w (f a)) : Adds w (m >>= f) := by
  intro u hu
  have hfirst := hm u hu
  have hrest := hf u
  rw [result_bind]
  generalize m.result u = out at hfirst hrest ⊢
  obtain ⟨r, v⟩ := out
  cases r with
  | error e => exact hfirst
  | ok a => exact hfirst.trans (hrest a hu rfl v (hu.trans hfirst))

@[grind ←] theorem bind (hm : Adds w m) (hf : ∀ a, Adds w (f a)) : Adds w (m >>= f) :=
  hm.bind_of fun _ a _ _ => hf a

end Adds

namespace Run

@[grind ←] theorem adds_classOf (v : Value) : Adds w (classOf v) := by unfold classOf; grind

@[grind ←] theorem adds_typeName (v : Value) : Adds w (typeName v) := by unfold typeName; grind

@[grind ←] theorem adds_plain (v : Value) : Adds w (plain v) := by unfold plain; grind

@[grind ←] theorem adds_holds (r : Rel) (x y : Value) : Adds w (holds r x y) := by
  unfold holds; grind

@[grind ←] theorem adds_add (x y : Value) : Adds w (add x y) := by unfold add; grind

@[grind ←] theorem adds_repetition (x : Value) (n : Int) : Adds w (repetition x n) := by
  unfold repetition; grind

@[grind ←] theorem adds_mul (x y : Value) : Adds w (mul x y) := by unfold mul; grind

@[grind ←] theorem adds_field? (self : Value) (name : String) : Adds w (field? self name) := by
  unfold field?; grind

@[grind ←] theorem adds_field (self : Value) (name : String) : Adds w (field self name) := by
  unfold field; grind

@[grind ←] theorem adds_optional (self : Value) (name : String) :
    Adds w (optional self name) := by unfold optional; grind

end Run

/-- An object whose methods under some names are those of classes of the library. -/
structure World.Delegates (w : World) (f : Value) (methods : List (String × LibraryClass)) : Prop where
  object : ∃ l c o as, f = .ref l ∧ w.heap[l]? = some (.object c o as) ∧
    ∀ m ∈ methods, as.lookup m.1 = none ∧ w.member? c m.1 = some (.library m.2 .method)

namespace World.Delegates

variable {f : Value} {methods : List (String × LibraryClass)} {name : String} {k : LibraryClass}
  {args : List Value}

theorem later {u : World} (h : w.Delegates f methods) (hg : w.Grows u) : u.Delegates f methods := by
  obtain ⟨l, c, o, as, hf, hcell, hmethods⟩ := h.object
  refine ⟨l, c, o, as, hf, hg.heap hcell, ?_⟩
  simpa only [hg.sameClasses.member?] using hmethods

/-- A method adds at most what the method of the library adds; beyond the last level none is called. -/
theorem adds_method (h : w.Delegates f methods) (hk : (name, k) ∈ methods)
    (hadds : ∀ n, Adds w (Method.ofLibrary (.ofDepth n) k name f args)) (n : Nat) :
    Adds w ((Dispatch.ofDepth n).method f name args) := by
  cases n with
  | zero => exact .throw _
  | succ n =>
    intro u hu
    obtain ⟨l, c, o, as, rfl, hcell, hmethods⟩ := (h.later hu).object
    obtain ⟨has, hmember⟩ := hmethods _ hk
    rw [Dispatch.result_method_object n hcell hmember has]
    exact hadds n u hu

theorem adds_call (h : w.Delegates f methods) (hk : ("__call__", k) ∈ methods)
    (hadds : ∀ n, Adds w (Method.ofLibrary (.ofDepth n) k "__call__" f args)) (n : Nat) :
    Adds w ((Dispatch.ofDepth n).call f args) := by
  cases n with
  | zero => exact .throw _
  | succ n =>
    intro u hu
    obtain ⟨l, c, o, as, rfl, hcell, hmethods⟩ := (h.later hu).object
    rw [Dispatch.result_call_object n hcell (hmethods _ hk).2]
    exact hadds n u hu

theorem attributes {u : World} (h : w.Delegates f methods) (hg : w.Grows u) :
    u.attributes f = w.attributes f := by
  obtain ⟨l, c, o, as, rfl, hcell, -⟩ := h.object
  simp [World.attributes, World.cell?, hcell, hg.heap hcell]

/-- What is read under a name was set under it. -/
theorem lookup_of_field {u : World} {y : Value} (h : w.Delegates f methods) (hg : w.Grows u)
    (hy : ((field f name).result u).1 = .ok y) : (w.attributes f).lookup name = some y := by
  rw [← h.attributes hg]
  simp only [field, field?, result_bind, result_get, result_pure] at hy
  cases hl : (u.attributes f).lookup name with
  | none => simp [hl] at hy
  | some z => simpa [hl] using hy

theorem lookup_of_optional {u : World} {y : Value} (h : w.Delegates f methods) (hg : w.Grows u)
    (hy : ((Run.optional f name).result u).1 = .ok (some y)) :
    (w.attributes f).lookup name = some y := by
  rw [Run.optional, result_bind] at hy
  split at hy
  · rename_i z v hz
    have hlookup := h.lookup_of_field hg (congrArg Prod.fst hz)
    simp only [result_pure, Except.ok.injEq] at hy
    split at hy
    · cases hy
    · rwa [← Option.some.inj hy]
  · cases hy

end World.Delegates

end FunctionObjects
