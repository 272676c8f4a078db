import FunctionObjects.Call.Evaluate
import FunctionObjects.Proofs.Chain.Typing
/-!
# Unpacking

A function of several values checks the number of values in its input before anything else.  The check
passes on a tuple of as many values, whatever the function then does with them.
-/

namespace FunctionObjects

open Run

variable {w : World}

namespace Unpacked

theorem result_arity {v : Value} {n : Nat} (hv : w.member? (w.classOf v) "arity" = some (.arity n)) :
    (arity v).result w = (.ok (n : Int), w) := by
  rw [arity, result_bind_ok _ (result_get w), hv]
  rfl

theorem result_isPositional (v : Value) : (isPositional v).result w =
    (.ok (w.hierarchy.sub (w.classOf v) LibraryClass.arrayTuple.className), w) := rfl

/-- A tuple of as many values as are to be unpacked passes the check: what is left is to read them. -/
theorem result_unpack {f x : Value} {n : Nat} (d : Dispatch)
    (hf : w.member? (w.classOf f) "arity" = some (.arity n)) (hx : w.IsTuple x n) :
    (unpack d f x).result w = (do d.items (← d.method x "values" [])).result w := by
  have hsub : w.hierarchy.sub (w.classOf x) LibraryClass.arrayTuple.className = true := by
    have hmem : (w.hierarchy.mro (w.classOf x)).contains LibraryClass.arrayTuple.className = true :=
      hx.positional
    simp only [Hierarchy.sub, hmem, Bool.or_true, Bool.true_or]
  rw [unpack, result_bind_ok _ (result_arity hf), result_bind_ok _ (result_isPositional x), hsub, if_pos rfl,
    result_bind_ok _ (result_arity hx.arity), if_pos rfl]

end Unpacked

/-- A method that a library class defines is the first one found in the order of search. -/
theorem Method.result_inClasses {d : Dispatch} {k : LibraryClass} {self : Value} {name : String}
    {args : List Value} {cs rest : List ClassName}
    (h : w.memberIn? name cs = some (.library k .method, rest)) :
    (inClasses d self name args cs).result w = (ofLibrary d k name self args).result w := by
  induction cs with
  | nil => cases h
  | cons c cs ih =>
    rw [inClasses, result_bind_ok _ (result_get w)]
    rw [World.memberIn?] at h
    cases hown : w.ownMember? c name with
    | none => exact ih (by simpa [hown] using h)
    | some m =>
      obtain ⟨rfl, -⟩ : m = .library k .method ∧ cs = rest := by simpa [hown] using h
      rfl

section

variable {r : Ref} {c : ClassName} {o : Option Ty} {as : List (String × Value)} {k : LibraryClass}
  {name : String} {args : List Value} (n : Nat) (hcell : w.heap[r]? = some (.object c o as))

include hcell

theorem Dispatch.result_call_object (hcall : w.member? c "__call__" = some (.library k .method)) :
    ((ofDepth (n + 1)).call (.ref r) args).result w =
      (Method.ofLibrary (ofDepth n) k "__call__" (.ref r) args).result w := by
  obtain ⟨⟨m, rest⟩, hm, rfl⟩ := Option.map_eq_some_iff.mp hcall
  have hfound : (w.member? c "__call__").isSome = true := by rw [hcall]; rfl
  change (callValue (ofDepth n) (.ref r) args).result w = _
  simp only [callValue, result_bind, result_cell?, result_get, hcell, hfound, if_true]
  exact Method.result_inClasses hm

theorem Dispatch.result_method_object (hname : w.member? c name = some (.library k .method))
    (has : as.lookup name = none) :
    ((ofDepth (n + 1)).method (.ref r) name args).result w =
      (Method.ofLibrary (ofDepth n) k name (.ref r) args).result w := by
  obtain ⟨⟨m, rest⟩, hm, rfl⟩ := Option.map_eq_some_iff.mp hname
  have hclass : w.classOf (.ref r) = c := by simp [World.classOf, hcell]
  have hobject : Method.isObject w (.ref r) = true := by simp [Method.isObject, World.cell?, hcell]
  have hattributes : w.attributes (.ref r) = as := by simp [World.attributes, World.cell?, hcell]
  change (Method.call (ofDepth n) (.ref r) name args).result w = _
  rw [Method.call, result_bind_ok _ (result_get w)]
  simp only [hobject, hclass, hattributes, hname, has]
  exact Method.result_inClasses hm

/-- A call of a function of several values that its class leaves to the library unpacks the input in
the state of the call. -/
theorem Unpacked.result_call_function {x : Value}
    (hcall : w.member? c "__call__" = some (.library .functionN .method))
    (hdelegate : w.member? c "delegate_apply" = some (.library .functionN .method))
    (has : as.lookup "delegate_apply" = none) :
    ((Dispatch.ofDepth (n + 2)).call (.ref r) [x]).result w =
      (delegateApply (.ofDepth n) (.ref r) x).result w := by
  rw [Dispatch.result_call_object (n + 1) hcell hcall]
  exact Dispatch.result_method_object n hcell hdelegate has

theorem Unpacked.result_call_predicate {x : Value}
    (hcall : w.member? c "__call__" = some (.library .predicateN .method))
    (hdelegate : w.member? c "delegate_test" = some (.library .predicateN .method))
    (has : as.lookup "delegate_test" = none) :
    ((Dispatch.ofDepth (n + 2)).call (.ref r) [x]).result w =
      (delegateTest (.ofDepth n) (.ref r) x).result w := by
  rw [Dispatch.result_call_object (n + 1) hcell hcall]
  exact Dispatch.result_method_object n hcell hdelegate has

end

end FunctionObjects
