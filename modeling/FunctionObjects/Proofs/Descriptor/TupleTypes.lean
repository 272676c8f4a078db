import FunctionObjects.Proofs.Descriptor.Loosening
import FunctionObjects.Proofs.Hierarchy.Library
/-!
# Tuple types of the core

Types of the core's tuples are compared like all parameterized types: argument by argument where there are
equally many, and not at all otherwise.  The mark for any number of positions is an argument like the
others, so it counts as a second position.  What holds of two tuple types holds at any depth inside other
parameterized types.
-/

namespace FunctionObjects

namespace Head

/-- What tuples of the core are written with: the class itself, or its other name. -/
def IsTuple (h : Head) : Prop := h = .cls .tuple ∨ h = .named .tuple

instance (h : Head) : Decidable h.IsTuple :=
  inferInstanceAs (Decidable (h = .cls .tuple ∨ h = .named .tuple))

end Head

namespace Classes

open Ty

variable {k : Classes} {β : TypeVar → Option Ty} {h h' : Head} {c e C E : Ty} {cs es : List Ty}

/-- Whether what is written in front of the arguments of one type fits what is written in front of those of
another one. -/
def headsFit (k : Classes) (h h' : Head) : Bool := k.originsFit (.app h []) (.app h' [])

/-- Two parameterized types that differ in one place only, at any depth: wherever else they have arguments,
these fit. -/
inductive ComesDownTo (k : Classes) (c e : Ty) : Ty → Ty → Prop
  | here : ComesDownTo k c e c e
  | inside {h h' : Head} {before before' after after' : List Ty} {C E : Ty} :
      k.headsFit h h' = true →
      List.Forall₂ (fun a b => k.assignable a b = true) before before' →
      List.Forall₂ (fun a b => k.assignable a b = true) after after' →
      ComesDownTo k c e C E →
      ComesDownTo k c e (.app h (before ++ C :: after)) (.app h' (before' ++ E :: after'))

theorem originsFit_app (k : Classes) (h h' : Head) (cs es : List Ty) :
    k.originsFit (.app h cs) (.app h' es) = k.headsFit h h' := by
  cases h <;> cases h' <;> rfl

/-- What fits is in front of arguments has a class. -/
theorem ne_literal_of_headsFit (hfit : k.headsFit h h' = true) : h ≠ .literal := by
  rintro rfl
  cases hfit

/-- Equal arguments fit one by one. -/
theorem assignable_of_allSame (hcs : UsesAll β cs) (hes : UsesAll β es) (hall : allSame cs es = true) :
    List.Forall₂ (fun c e => k.assignable c e = true) cs es := by
  induction cs generalizing es with
  | nil =>
    cases es with
    | nil => exact .nil
    | cons e es => cases hall
  | cons c cs ih =>
    cases es with
    | nil => cases hall
    | cons e es =>
      simp only [allSame, Bool.and_eq_true] at hall
      exact .cons (assignable_of_same k hcs.1 hes.1 hall.1) (ih hcs.2 hes.2 hall.2)

/-- Parameterized types of which the heads fit are compared argument by argument, if they have equally
many. -/
theorem assignable_app_iff (hfit : k.headsFit h h' = true) (hc : (Ty.app h cs).Uses β)
    (he : (Ty.app h' es).Uses β) : k.assignable (.app h cs) (.app h' es) = true ↔
      (cs.length = es.length → List.Forall₂ (fun c e => k.assignable c e = true) cs es) := by
  rw [assignable_plain rfl rfl rfl rfl rfl]
  change (Ty.app h cs).same (.app h' es) = true ∨ k.originsFit (.app h cs) (.app h' es) = true ∧ _ ↔ _
  rw [originsFit_app, and_iff_right hfit]
  refine or_iff_right_of_imp fun hsame _ => ?_
  have hall : allSame cs es = true := by
    have hliteral := ne_literal_of_headsFit hfit
    cases h <;> cases h' <;> simp_all [same]
  exact assignable_of_allSame hc he hall

/-- Types that differ in one place fit exactly if what stands there does. -/
theorem ComesDownTo.assignable_iff (hdown : ComesDownTo k c e C E) (hC : C.Uses β) (hE : E.Uses β) :
    k.assignable C E = true ↔ k.assignable c e = true := by
  induction hdown with
  | here => rfl
  | @inside h h' before before' after after' C E hfit hbefore hafter _ ih =>
    have hmem : C ∈ (Ty.app h (before ++ C :: after)).args := by simp [args]
    have hmem' : E ∈ (Ty.app h' (before' ++ E :: after')).args := by simp [args]
    rw [assignable_app_iff hfit hC hE, ← ih (hC.of_mem_args hmem) (hE.of_mem_args hmem')]
    constructor
    · intro hargs
      have hlen : (before ++ C :: after).length = (before' ++ E :: after').length := by
        simp [hbefore.length_eq, hafter.length_eq]
      have hrest := List.forall₂_drop before.length (hargs hlen)
      rw [List.drop_left, hbefore.length_eq, List.drop_left] at hrest
      exact (List.forall₂_cons.mp hrest).1
    · exact fun hfits _ => List.rel_append hbefore (.cons hfits hafter)

/-- What stands in a place of a type has its variables. -/
theorem ComesDownTo.uses (hdown : ComesDownTo k c e C E) (hC : C.Uses β) (hE : E.Uses β) :
    c.Uses β ∧ e.Uses β := by
  induction hdown with
  | here => exact ⟨hC, hE⟩
  | inside _ _ _ _ ih => exact ih (hC.of_mem_args (by simp [args])) (hE.of_mem_args (by simp [args]))

variable (hk : k.sub .tuple .tuple = true) (hh : h.IsTuple) (hh' : h'.IsTuple)

include hk hh hh'

theorem headsFit_tuple : k.headsFit h h' = true := by
  have hfit : (k.sub .tuple .tuple || widens .tuple .tuple) = true := by rw [hk, Bool.true_or]
  obtain rfl | rfl := hh <;> obtain rfl | rfl := hh' <;> exact hfit

/-- Tuple types fit if their elements do, as far as these are compared. -/
theorem assignable_tuple_iff (hc : (Ty.app h cs).Uses β) (he : (Ty.app h' es).Uses β) :
    k.assignable (.app h cs) (.app h' es) = true ↔
      (cs.length = es.length → List.Forall₂ (fun c e => k.assignable c e = true) cs es) :=
  assignable_app_iff (headsFit_tuple hk hh hh') hc he

omit hk hh hh' in
theorem assignable_cls_self (k : Classes) (c : ClassName) : k.assignable (.cls c) (.cls c) = true := by
  have huses : (Ty.cls c).Uses fun _ => Option.none := trivial
  exact assignable_of_same k huses huses (same_refl _)

omit hk hh hh' in
/-- No class fits the mark for any number of positions. -/
theorem not_assignable_ellipsis (k : Classes) (c : ClassName) :
    k.assignable (.cls c) .ellipsis = false := by
  rw [Bool.eq_false_iff, ne_eq, assignable_plain rfl rfl rfl rfl rfl]
  simp [canonical, same, originsFit, originClass?]

end Classes

namespace World

open Ty Classes

/-- Whatever callers have declared, the class of tuples of the core is a subclass of itself. -/
theorem IsExtended.sub_tuple {w : World} (hw : w.IsExtended) : w.classes.sub .tuple .tuple = true := by
  obtain ⟨-, -, -, -, -, -, -, -, -, hmro, hconcrete, -⟩ := initial_entries
  rw [hw.sub_of_initial hmro hconcrete (by decide)]
  decide

/-- Two tuple types, compared by themselves or at any depth inside other types: with equally many
arguments they fit exactly if these fit one by one, and with different numbers always.  The type of tuples
of any number of positions has two arguments, so it accepts all tuples but pairs, and of pairs those of
which the second element fits the mark. -/
theorem IsExtended.tuples_fit_iff {w : World} {β : TypeVar → Option Ty} {h h' : Head} {C E : Ty}
    {cs es : List Ty} (hw : w.IsExtended) (hh : h.IsTuple) (hh' : h'.IsTuple) (hC : C.Uses β)
    (hE : E.Uses β)
    (hdown : ComesDownTo w.classes (.app h cs) (.app h' es) C E) :
    (w.classes.assignable C E = true ↔
      (cs.length = es.length → List.Forall₂ (fun c e => w.classes.assignable c e = true) cs es)) ∧
    ∀ e, es = [e, .ellipsis] → (w.classes.assignable C E = true ↔
      ∀ c d, cs = [c, d] →
        w.classes.assignable c e = true ∧ w.classes.assignable d .ellipsis = true) := by
  obtain ⟨hcs, hes⟩ := hdown.uses hC hE
  have hiff := (hdown.assignable_iff hC hE).trans (assignable_tuple_iff hw.sub_tuple hh hh' hcs hes)
  refine ⟨hiff, fun e he => ?_⟩
  subst he
  rw [hiff]
  constructor
  · rintro hargs c d rfl
    simpa using hargs rfl
  · intro hpair hlen
    obtain ⟨c, d, rfl⟩ := List.length_eq_two.mp hlen
    simpa using hpair c d rfl

/-- Dictionaries of pairs, with both spellings of the type of pairs. -/
theorem dict_of_pairs_fits :
    let core (name : String) := Ty.cls (.core name)
    let dict (value : Ty) := Ty.app (.cls (.core "dict")) [core "str", value]
    let pair (h : Head) := Ty.app h [core "int", core "str"]
    initial.classes.assignable (dict (pair (.cls .tuple))) (dict (pair (.named .tuple))) = true := by
  intro core dict pair
  obtain ⟨-, -, -, -, -, -, -, hdict, -⟩ := initial_entries
  have hself (name : String) : initial.classes.assignable (core name) (core name) = true :=
    assignable_cls_self _ _
  have hfit : initial.classes.headsFit (.cls (.core "dict")) (.cls (.core "dict")) = true := by
    simpa [headsFit, originsFit, originClass?] using .inl hdict
  have hdown : ComesDownTo initial.classes (pair (.cls .tuple)) (pair (.named .tuple))
      (dict (pair (.cls .tuple))) (dict (pair (.named .tuple))) :=
    .inside hfit (.cons (hself "str") .nil) .nil .here
  have huses (h : Head) : (dict (pair h)).Uses fun _ => Option.none := by
    simp [dict, pair, core, Uses, UsesAll]
  exact ((isExtended_initial.tuples_fit_iff (.inl rfl) (.inr rfl) (huses _) (huses _) hdown).1).mpr
    fun _ => .cons (hself "int") (.cons (hself "str") .nil)

/-- A tuple of one number fits a tuple of a number and a text; a pair of numbers does not fit tuples of any
number of numbers. -/
theorem not_tuples_fit :
    let fits := initial.classes.assignable
    let tuple (ts : List Ty) := Ty.app (.cls .tuple) ts
    (¬ ∀ cs es, cs ≠ [] → es ≠ [] → (fits (tuple cs) (tuple es) = true ↔
      cs.length = es.length ∧ List.Forall₂ (fun c e => fits c e = true) cs es)) ∧
    ¬ ∀ cs e, cs ≠ [] → (fits (tuple cs) (tuple [e, .ellipsis]) = true ↔
      ∀ c ∈ cs, fits c e = true) := by
  intro fits tuple
  have hiff (cs es : List Ty) (hcs : UsesAll (fun _ => Option.none) cs)
      (hes : UsesAll (fun _ => Option.none) es) :
      fits (tuple cs) (tuple es) = true ↔
        (cs.length = es.length → List.Forall₂ (fun c e => fits c e = true) cs es) :=
    assignable_tuple_iff isExtended_initial.sub_tuple (.inl rfl) (.inl rfl) hcs hes
  let int : Ty := .cls (.core "int")
  let str : Ty := .cls (.core "str")
  constructor
  · intro hlaw
    have hfits : fits (tuple [int]) (tuple [int, str]) = true :=
      (hiff _ _ (by simp [UsesAll, Uses, int]) (by simp [UsesAll, Uses, int, str])).mpr nofun
    have hlength := ((hlaw _ _ (by simp) (by simp)).mp hfits).1
    cases hlength
  · intro hlaw
    have hself : fits int int = true := assignable_cls_self _ _
    have hfits : fits (tuple [int, int]) (tuple [int, .ellipsis]) = true :=
      (hlaw _ _ (by simp)).mpr (by simp [hself])
    have hargs := (hiff _ _ (by simp [UsesAll, Uses, int]) (by simp [UsesAll, Uses, int])).mp hfits rfl
    simp only [List.forall₂_cons] at hargs
    have hmark : fits int .ellipsis = false := not_assignable_ellipsis _ _
    rw [hargs.2.1] at hmark
    cases hmark

end World

end FunctionObjects
