import FunctionObjects.Proofs.Fields.Stepping
import FunctionObjects.Proofs.State.Initial
/-!
# Calling combined predicates

A call of a negation, a conjunction or a disjunction asks the predicates that the object keeps, two levels
further down.
-/

namespace FunctionObjects

open Run World

variable {w : World} {F p x : Value} {ps : List Value} {n : Nat}

namespace Logical

/-- Asks predicates in turn as long as they answer `b`; the answer is `b` if all of them do. -/
def askAll (d : Dispatch) (x : Value) (b : Bool) : List Value → Run Bool
  | [] => return b
  | f :: fs => do if (← d.accepts f x) = b then askAll d x b fs else return !b

theorem askAll_true (d : Dispatch) (x : Value) (ps : List Value) :
    askAll d x true ps = all d x ps := by
  induction ps with
  | nil => rfl
  | cons p ps ih => simp [askAll, all, ih]

theorem askAll_false (d : Dispatch) (x : Value) (ps : List Value) :
    askAll d x false ps = any d x ps := by
  induction ps with
  | nil => rfl
  | cons p ps ih =>
    rw [askAll, any, ih]
    refine bind_congr fun a => ?_
    cases a <;> rfl

end Logical

namespace World

/-- An object of a class that leaves it to the library to hand on what it is called with to a method, and
to run that method, and what is set on the object under a name. -/
def HandsOn (w : World) (F : Value) (base : LibraryClass) (method : String) (k : LibraryClass)
    (name : String) (v : Value) : Prop :=
  ∃ c as, w.IsObjectWith F c as ∧ as.lookup name = some v ∧ as.lookup method = none ∧
    w.member? c "__call__" = some (.library base .method) ∧
    w.member? c method = some (.library k .method)

/-- An object that negates a predicate. -/
def Negates (w : World) (F p : Value) : Prop :=
  p.isNone = false ∧ w.HandsOn F .predicate "test" .negation "predicate" p

/-- An object that combines predicates: it asks for all of them for `true`, and for one of them for
`false`. -/
def Combines (w : World) (b : Bool) (F : Value) (ps : List Value) : Prop :=
  ∃ l, w.heap[l]? = some (.list ps) ∧
    w.HandsOn F .predicate "test" (if b then .conjunction else .disjunction) "predicates" (.ref l)

end World

namespace Dispatch

theorem result_call_handed {base k : LibraryClass} {method name : String} {v : Value}
    (h : w.HandsOn F base method k name v)
    (hbase : Method.ofLibrary (ofDepth (n + 1)) base "__call__" F [x] =
      (ofDepth (n + 1)).method F method [x]) :
    ((ofDepth (n + 2)).call F [x]).result w =
      (Method.ofLibrary (ofDepth n) k method F [x]).result w := by
  obtain ⟨c, as, ⟨l, o, rfl, hcell⟩, -, hmethod, hcall, hmember⟩ := h
  rw [result_call_object (n + 1) hcell hcall, hbase]
  exact result_method_object n hcell hmember hmethod

theorem result_call_negation (h : w.Negates F p) (x : Value) :
    ((ofDepth (n + 2)).call F [x]).result w =
      (do return .bool (!(← (ofDepth n).accepts p x)) : Run Value).result w := by
  obtain ⟨hp, hF⟩ := h
  rw [result_call_handed hF rfl]
  obtain ⟨c, as, ⟨l, o, rfl, hcell⟩, hname, -⟩ := hF
  exact result_bind_ok _ (result_optional_set hcell hname hp)

theorem result_call_combined {b : Bool} (h : w.Combines b F ps) (x : Value) :
    ((ofDepth (n + 2)).call F [x]).result w =
      (do return .bool (← Logical.askAll (ofDepth n) x b ps) : Run Value).result w := by
  obtain ⟨l, hlist, hF⟩ := h
  rw [result_call_handed hF rfl]
  obtain ⟨c, as, hobject, hname, -⟩ := hF
  have hitems := Fields.result_itemsOf (d := ofDepth n) hobject hname hlist
  cases b with
  | true =>
    simp only [Logical.askAll_true]
    exact (result_bind_ok _ hitems).trans rfl
  | false =>
    simp only [Logical.askAll_false]
    exact (result_bind_ok _ hitems).trans rfl

/-- A value that is called to a truth value accepts what it says. -/
theorem result_accepts {d : Dispatch} {r : Except Fault Bool} {u : World}
    (h : (d.call F [x]).result w = (r.map .bool, u)) : (d.accepts F x).result w = (r, u) := by
  cases r with
  | error e => exact result_bind_error _ h
  | ok a =>
    rw [accepts, result_bind_ok _ h]
    cases a <;> rfl

theorem result_accepts_bool {d : Dispatch} {ask : Run Bool}
    (h : (d.call F [x]).result w = (do return .bool (← ask) : Run Value).result w) :
    (d.accepts F x).result w = ask.result w := by
  rw [result_bind] at h
  generalize ask.result w = out at h ⊢
  obtain ⟨r, u⟩ := out
  refine result_accepts (h.trans ?_)
  cases r <;> rfl

end Dispatch

end FunctionObjects
