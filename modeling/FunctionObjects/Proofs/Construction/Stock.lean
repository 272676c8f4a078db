import Mathlib.Data.List.Nodup
import FunctionObjects.Class.Declare
import FunctionObjects.Proofs.Construction.Attributes
import FunctionObjects.Proofs.State.Holding
import FunctionObjects.Proofs.State.Running
/-!
# The classes on offer

A state offers a library class if the class can be made, has the constructor and the properties that
the library gives it, is compared by its contents and stands in the registry under a name.  Classes
stay on offer when cells are added and when classes are registered.
-/

namespace FunctionObjects

namespace LibraryClass

theorem mem_all (k : LibraryClass) : k ∈ all := by cases k <;> decide

/-- The characters of a name as one number, by which names are compared quickly. -/
def nameNumber (c : ClassName) : Nat := c.name.toList.foldl (fun n x => n * 256 + x.toNat) 0

theorem nameNumber_nodup : (all.map fun k => nameNumber k.className).Nodup := by decide +kernel

theorem className_injective {j k : LibraryClass} (h : j.className = k.className) : j = k :=
  List.inj_on_of_nodup_map nameNumber_nodup (mem_all j) (mem_all k) (congrArg nameNumber h)

theorem ofClassName?_className (k : LibraryClass) : ofClassName? k.className = some k := by
  cases hfind : ofClassName? k.className with
  | none =>
    rw [ofClassName?, List.find?_eq_none] at hfind
    exact absurd (beq_self_eq_true k.className) (hfind k (mem_all k))
  | some j =>
    have hj : (j.className == k.className) = true :=
      List.find?_some (p := fun k' : LibraryClass => k'.className == k.className) hfind
    rw [className_injective (beq_iff_eq.mp hj)]

end LibraryClass

namespace Registry

theorem lookup_assign {α β : Type} [DecidableEq α] (j k : α) (v : β) (es : List (α × β)) :
    (assign k v es).lookup j = if j = k then some v else es.lookup j := by
  induction es with
  | nil =>
    by_cases hj : j = k
    · simp [assign, hj]
    · simp only [assign, List.lookup_cons, beq_eq_false_iff_ne.mpr hj, List.lookup_nil, hj, if_false]
  | cons e es ih =>
    obtain ⟨l, x⟩ := e
    by_cases hl : l = k
    · subst hl
      by_cases hj : j = l
      · simp [assign, hj]
      · simp [assign, hj, beq_eq_false_iff_ne.mpr hj, List.lookup_cons]
    · by_cases hj : j = l
      · subst hj
        simp [assign, hl]
      · simp only [assign, beq_eq_false_iff_ne.mpr hl, Bool.false_eq_true, if_false,
          List.lookup_cons, beq_eq_false_iff_ne.mpr hj, ih]

/-- A registry has a name for a class under which the class is found. -/
def Names (r : Registry) (c : ClassName) : Prop :=
  ∃ name, name ≠ "" ∧ r.names.lookup c = some name ∧ r.classes.lookup name = some c

/-- A class keeps a name when some class is registered: no name is taken away from its class. -/
theorem Names.register {r r' : Registry} {c d : ClassName} {name : Option String} (h : r.Names c)
    (hc : c.name ≠ "") (hr : r.register d name = .ok r') : r'.Names c := by
  obtain ⟨old, hold, hnames, hclasses⟩ := h
  unfold Registry.register at hr
  simp only at hr
  split at hr
  · simp [throw, throwThe, MonadExceptOf.throw] at hr
  · rename_i htaken
    obtain rfl := Except.ok.inj hr
    by_cases hcd : c = d
    · subst hcd
      refine ⟨nameFor c name, ?_, by simp [lookup_assign], by simp [lookup_assign]⟩
      unfold nameFor
      split <;> simp_all
    · have hfree : old ≠ nameFor d name := by
        rintro rfl
        simp [hclasses, hcd] at htaken
      exact ⟨old, hold, by simp [lookup_assign, hcd, hnames], by simp [lookup_assign, hfree, hclasses]⟩

end Registry

namespace World

open LibraryClass

variable {w : World}

/-- A state offers a class as the library has it. -/
structure Offers (w : World) (k : LibraryClass) : Prop where
  concrete : w.isAbstract k.className = false
  constructor : w.findConstructor? k.className = k.owner?.map fun o => .library o k.params
  members : ∀ p ∈ k.params, w.member? k.className p.name =
    (k.properties.lookup p.name).map fun q => .library k (.property q)
  structural : w.isStructural k.className = true
  registered : w.registry.Names k.className

/-- All registered classes of the library are on offer. -/
def Stocked (w : World) : Prop := ∀ k ∈ Registry.shipped, w.Offers k

theorem className_named : ∀ k ∈ Registry.shipped, k.className.name ≠ "" := by decide

theorem result_register {c : ClassName} {name : Option String} {v : World}
    (h : (Run.register c name).result w = (.ok (), v)) :
    ∃ r, w.registry.register c name = .ok r ∧ v = { w with registry := r } := by
  simp only [Run.register, Run.result_bind, Run.result_get] at h
  cases hr : w.registry.register c name with
  | error e => simp [hr] at h
  | ok r =>
    simp only [hr, Run.result_set, Prod.mk.injEq] at h
    exact ⟨r, rfl, h.2.symm⟩

/-- States with the same classes. -/
structure SameClasses (w v : World) : Prop where
  hierarchy : v.hierarchy = w.hierarchy
  declarations : v.declarations = w.declarations

namespace SameClasses

variable {v : World}

theorem member? (h : w.SameClasses v) (c : ClassName) (name : String) :
    v.member? c name = w.member? c name := by
  have hown : v.ownMember? = w.ownMember? := by
    funext c name
    simp only [World.ownMember?, ownMember?.arity?, World.declaration?, h.hierarchy, h.declarations]
  have hin : ∀ cs, v.memberIn? name cs = w.memberIn? name cs := by
    intro cs
    induction cs with
    | nil => rfl
    | cons d ds ih => simp only [memberIn?, hown, ih]
  simp only [World.member?, h.hierarchy, hin]

theorem findConstructor? (h : w.SameClasses v) (c : ClassName) :
    v.findConstructor? c = w.findConstructor? c := by
  have hown : v.ownConstructor? = w.ownConstructor? := by
    funext c
    simp only [World.ownConstructor?, World.declaration?, h.declarations]
  simp only [World.findConstructor?, h.hierarchy, hown]

theorem isAbstract (h : w.SameClasses v) (c : ClassName) : v.isAbstract c = w.isAbstract c := by
  simp only [World.isAbstract, h.hierarchy, h.member?]

theorem isStructural (h : w.SameClasses v) (c : ClassName) : v.isStructural c = w.isStructural c := by
  simp only [World.isStructural, World.isSubclass, h.hierarchy]

theorem offers (h : w.SameClasses v) {k : LibraryClass} (hk : w.Offers k)
    (hr : v.registry.Names k.className) : v.Offers k where
  concrete := by rw [h.isAbstract]; exact hk.concrete
  constructor := by rw [h.findConstructor?]; exact hk.constructor
  members p hp := by rw [h.member?]; exact hk.members p hp
  structural := by rw [h.isStructural]; exact hk.structural
  registered := hr

end SameClasses

theorem Grows.sameClasses {v : World} (h : w.Grows v) : w.SameClasses v :=
  ⟨h.hierarchy, h.declarations⟩

/-- Classes stay on offer when cells are added. -/
theorem Grows.stocked {v : World} (h : w.Grows v) (hw : w.Stocked) : v.Stocked := fun k hk =>
  h.sameClasses.offers (hw k hk) (by rw [h.registry]; exact (hw k hk).registered)

/-- Classes stay on offer when a class is registered, also under further names. -/
theorem Stocked.register {v : World} {c : ClassName} {name : Option String} (hw : w.Stocked)
    (h : (Run.register c name).result w = (.ok (), v)) : v.Stocked := by
  intro k hk
  obtain ⟨r, hr, rfl⟩ := result_register h
  have hclasses : w.SameClasses { w with registry := r } := ⟨rfl, rfl⟩
  exact hclasses.offers (hw k hk) ((hw k hk).registered.register (className_named k hk) hr)

end World

end FunctionObjects
