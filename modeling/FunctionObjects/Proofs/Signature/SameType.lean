import FunctionObjects.Descriptor.Assignable
/-!
# Equal types are assignable

Two descriptors that are the same type fit each other, whatever the subclass relation is: unions are
compared by containment, and a type variable stands for its bound on both sides.  The one promise
is about variables: each has one bound, and that is no variable again.
-/

namespace FunctionObjects

namespace Ty

@[simp] theorem allWithin_iff {ts us : List Ty} :
    allWithin ts us = true ↔ ∀ t ∈ ts, ∃ u ∈ us, t.same u = true := by
  induction ts with
  | nil => simp [allWithin]
  | cons t ts ih => simp [allWithin, ih]

theorem allSame_length {ts us : List Ty} (h : allSame ts us = true) : ts.length = us.length := by
  induction ts generalizing us with
  | nil => cases us <;> simp_all [allSame]
  | cons t ts ih =>
    cases us with
    | nil => simp [allSame] at h
    | cons u us =>
      simp only [allSame, Bool.and_eq_true] at h
      simp [ih h.2]

mutual

theorem same_refl : ∀ t : Ty, t.same t = true
  | .any | .none | .ellipsis => rfl
  | .cls _ | .named _ | .form _ | .lit _ | .forward _ | .var _ _ => by simp [same]
  | .app .literal ts => by
    simp only [same, Bool.and_eq_true, beq_self_eq_true, and_true]
    exact allWithin_of_subset ts ts fun _ h => h
  | .app (.cls _) ts | .app (.named _) ts => by simp [same, allSame_refl ts]
  | .union _ ts => by
    simp only [same, Bool.and_eq_true, beq_self_eq_true, and_true]
    exact allWithin_of_subset ts ts fun _ h => h
  | .params ts => by simp [same, allSame_refl ts]

theorem allSame_refl : ∀ ts : List Ty, allSame ts ts = true
  | [] => rfl
  | t :: ts => by simp [allSame, same_refl t, allSame_refl ts]

theorem allWithin_of_subset : ∀ ts us : List Ty, (∀ t ∈ ts, t ∈ us) → allWithin ts us = true
  | [], _, _ => rfl
  | t :: ts, us, h => by
    simp only [allWithin, Bool.and_eq_true, List.any_eq_true]
    refine ⟨⟨t, h t (by simp), same_refl t⟩, ?_⟩
    exact allWithin_of_subset ts us fun u hu => h u (by simp [hu])

end

@[simp] theorem same_ellipsis_iff {t : Ty} : t.same .ellipsis = true ↔ t = .ellipsis := by
  cases t with
  | app h ts => cases h <;> simp [same]
  | _ => simp [same]

@[simp] theorem same_cls_iff {t : Ty} {c : ClassName} : t.same (.cls c) = true ↔ t = .cls c := by
  cases t with
  | app h ts => cases h <;> simp [same]
  | _ => simp [same]

theorem same_forward_iff {t : Ty} {s : String} :
    t.same (.forward s) = true ↔ t = .forward s := by
  cases t with
  | app h ts => cases h <;> simp [same]
  | _ => simp [same]

theorem same_var {t : Ty} {v : TypeVar} {b : Option Ty} (h : t.same (.var v b) = true) :
    ∃ b', t = .var v b' := by
  cases t with
  | app hd ts => cases hd <;> simp [same] at h
  | var w b' => exact ⟨b', by simp_all [same]⟩
  | _ => simp [same] at h

@[simp] theorem ellipsis_same_iff {t : Ty} : Ty.ellipsis.same t = true ↔ t = .ellipsis := by
  cases t <;> simp [same]

/-- The mark for any number of positions is the same type as itself only. -/
theorem same_ellipsis_congr {t u : Ty} (h : t.same u = true) :
    t.same .ellipsis = u.same .ellipsis := by
  rw [Bool.eq_iff_iff, same_ellipsis_iff, same_ellipsis_iff]
  constructor
  · rintro rfl
    exact ellipsis_same_iff.mp h
  · rintro rfl
    exact same_ellipsis_iff.mp h

theorem any_ellipsis_congr {ts us : List Ty} (h : allSame ts us = true) :
    ts.any (·.same .ellipsis) = us.any (·.same .ellipsis) := by
  induction ts generalizing us with
  | nil => cases us <;> simp_all [allSame]
  | cons t ts ih =>
    cases us with
    | nil => simp [allSame] at h
    | cons u us =>
      simp only [allSame, Bool.and_eq_true] at h
      simp only [List.any_cons, same_ellipsis_congr h.1, ih h.2]

def isVar : Ty → Bool
  | .var .. => true
  | _ => false

mutual

/-- Every type variable in a descriptor has the bound that `β` gives it, and no bound is a variable
itself. -/
def Uses (β : TypeVar → Option Ty) : Ty → Prop
  | .var v (some b) => β v = some b ∧ b.isVar = false ∧ Uses β b
  | .var v Option.none => β v = Option.none
  | .app _ ts => UsesAll β ts
  | .union _ ts => UsesAll β ts
  | .params ts => UsesAll β ts
  | _ => True

def UsesAll (β : TypeVar → Option Ty) : List Ty → Prop
  | [] => True
  | t :: ts => Uses β t ∧ UsesAll β ts

end

variable {β : TypeVar → Option Ty}

theorem usesAll_iff {ts : List Ty} : UsesAll β ts ↔ ∀ t ∈ ts, t.Uses β := by
  induction ts with
  | nil => simp [UsesAll]
  | cons t ts ih => simp [UsesAll, ih]

theorem Uses.finalize {t : Ty} (h : t.Uses β) : t.finalize.Uses β := by
  cases t with
  | var v b =>
    cases b with
    | none => simp [Ty.finalize, Uses]
    | some b => exact h.2.2
  | _ => exact h

theorem Uses.of_mem_args {t u : Ty} (h : t.Uses β) (hu : u ∈ t.args) : u.Uses β := by
  cases t <;> simp only [args, List.not_mem_nil] at hu <;> simp only [Uses] at h
  all_goals exact usesAll_iff.mp h u hu

theorem finalize_of_not_isVar {t : Ty} (h : t.isVar = false) : t.finalize = t := by
  cases t <;> simp_all [isVar, Ty.finalize]

theorem Uses.isVar_finalize {t : Ty} (h : t.Uses β) : t.finalize.isVar = false := by
  cases t with
  | var v b =>
    cases b with
    | none => rfl
    | some b => exact h.2.1
  | _ => rfl

/-- A variable is opened once. -/
theorem Uses.finalize_finalize {t : Ty} (h : t.Uses β) : t.finalize.finalize = t.finalize :=
  finalize_of_not_isVar h.isVar_finalize

/-- Variables of one name have one bound. -/
theorem Uses.eq_of_same_var {v : TypeVar} {b : Option Ty} {e : Ty} (hc : (Ty.var v b).Uses β)
    (he : e.Uses β) (h : (Ty.var v b).same e = true) : e = .var v b := by
  cases e <;> simp only [same, beq_iff_eq, Bool.false_eq_true] at h
  subst h
  rename_i b'
  cases b <;> cases b' <;> simp_all [Uses]

end Ty

namespace Classes

open Ty

variable {β : TypeVar → Option Ty} (k : Classes)

theorem all_zip_attach {α δ : Type} (f : α → δ → Bool) (as : List α) (bs : List δ) :
    ((as.attach.zip bs.attach).all fun (⟨a, _⟩, ⟨b, _⟩) => f a b) =
      (as.zip bs).all fun (a, b) => f a b := by
  conv => rhs; rw [← as.attach_map_subtype_val, ← bs.attach_map_subtype_val, List.zip_map]
  rw [List.all_map]
  rfl

/-- Assignability, one level opened. -/
theorem assignable_eq (c e : Ty) :
    k.assignable c e =
      if c.finalize.isAny || e.finalize.isAny || e.finalize.isObject then true
      else if c.finalize.isUnion then c.finalize.args.all (k.assignable · e.finalize)
      else if e.finalize.isUnion then e.finalize.args.any (k.assignable c.finalize ·)
      else if (k.canonical c.finalize).same (k.canonical e.finalize) then true
      else if !k.originsFit (k.canonical c.finalize) (k.canonical e.finalize) then false
      else if c.finalize.args.length == e.finalize.args.length then
        (c.finalize.args.zip e.finalize.args).all fun (a, b) => k.assignable a b
      else true := by
  rw [assignable]
  congr 2
  · simp
  · congr 1
    · simp
    · congr 3
      rw [← all_zip_attach]

@[simp] theorem assignable_any (c : Ty) : k.assignable c .any = true := by
  rw [assignable_eq]
  simp [Ty.finalize, isAny]

theorem assignable_finalize_right (c : Ty) {e : Ty} (he : e.Uses β) :
    k.assignable c e.finalize = k.assignable c e := by
  rw [assignable_eq, assignable_eq k c e, he.finalize_finalize]

theorem assignable_finalize_left {c : Ty} (hc : c.Uses β) (e : Ty) :
    k.assignable c.finalize e = k.assignable c e := by
  rw [assignable_eq, assignable_eq k c e, hc.finalize_finalize]

/-- Every member of a union that fits a type fits it. -/
theorem assignable_of_mem_union {c e m : Ty} (he : e.Uses β) (hc : c.finalize.isUnion = true)
    (hm : m ∈ c.finalize.args) (h : k.assignable c e = true) : k.assignable m e = true := by
  have hany : c.finalize.isAny = false := by cases hf : c.finalize <;> simp_all [isUnion, isAny]
  rw [assignable_eq, hany, hc, Bool.false_or] at h
  split at h
  · rename_i htop
    rw [assignable_eq, Bool.or_assoc, htop, Bool.or_true, if_pos rfl]
  · rw [if_pos rfl, List.all_eq_true] at h
    rw [← assignable_finalize_right k m he]
    exact h m hm

/-- What fits a member of a union fits the union. -/
theorem assignable_union_of_mem {c u : Ty} {bars : Bool} {us : List Ty} (hc : c.Uses β)
    (hu : u.Uses β) (hmem : u ∈ us) (h : k.assignable c u = true) :
    k.assignable c (.union bars us) = true := by
  have hfin : (Ty.union bars us).finalize = .union bars us := rfl
  rw [assignable_eq, hfin]
  split
  · rfl
  split
  · rename_i hunion
    rw [List.all_eq_true]
    intro m hm
    exact assignable_union_of_mem (hc.finalize.of_mem_args hm) hu hmem
      (assignable_of_mem_union k hu hunion hm h)
  · rw [if_pos (by rfl), List.any_eq_true]
    exact ⟨u, hmem, by rwa [assignable_finalize_left k hc]⟩
termination_by sizeOf c
decreasing_by
  have hf := Ty.sizeOf_finalize_le c
  have hs := Ty.sizeOf_lt_of_mem_args hm
  omega

theorem canonical_same {c e : Ty} (h : c.same e = true) :
    (k.canonical c).same (k.canonical e) = true := by
  cases c with
  | none => cases e <;> simp_all [same, canonical, Ty.noneType]
  | cls c => cases e <;> simp_all [same, canonical]
  | app hd ts =>
    have he : k.canonical e = e := by cases hd <;> cases e <;> first | rfl | simp [same] at h
    rw [he]
    exact h
  | _ =>
    have he : k.canonical e = e := by cases e <;> first | rfl | simp [same] at h
    rw [he]
    exact h

/-- Types that stand for themselves and are no unions fit as soon as they are the same type. -/
theorem assignable_of_canonical_same {c e : Ty} (hc : c.finalize = c) (he : e.finalize = e)
    (hcu : c.isUnion = false) (heu : e.isUnion = false) (h : c.same e = true) :
    k.assignable c e = true := by
  rw [assignable_eq, hc, he, hcu, heu, canonical_same k h]
  simp

/-- The same type fits itself, in whatever order its unions are written. -/
theorem assignable_of_same {c e : Ty} (hc : c.Uses β) (he : e.Uses β) (h : c.same e = true) :
    k.assignable c e = true := by
  induction hn : sizeOf c using Nat.strongRecOn generalizing c e with
  | _ n ih =>
    subst hn
    cases c with
    | var v b =>
      -- both sides are one variable, which stands for its bound
      obtain rfl := hc.eq_of_same_var he h
      cases b with
      | none => rw [assignable_eq]; simp [Ty.finalize, isAny]
      | some b =>
        have hb : k.assignable b b = true := ih _ (by simp; omega) hc.2.2 hc.2.2 (same_refl b) rfl
        rw [← assignable_finalize_right k _ he, ← assignable_finalize_left k hc]
        exact hb
    | union bars ts =>
      obtain ⟨bars', us, rfl⟩ : ∃ bars' us, e = .union bars' us := by cases e <;> simp_all [same]
      simp only [same, Bool.and_eq_true, allWithin_iff] at h
      have hmem : ∀ m ∈ ts, k.assignable m (.union bars' us) = true := by
        intro m hm
        obtain ⟨u, hu, hsame⟩ := h.1 m hm
        have hmUses : m.Uses β := hc.of_mem_args hm
        have huUses : u.Uses β := he.of_mem_args hu
        have hlt : sizeOf m < sizeOf (Ty.union bars ts) := sizeOf_lt_of_mem_args hm
        exact assignable_union_of_mem k hmUses huUses hu (ih _ hlt hmUses huUses hsame rfl)
      rw [assignable_eq]
      simpa [Ty.finalize, isAny, isObject, isUnion, args] using hmem
    | app hd ts =>
      refine assignable_of_canonical_same k rfl ?_ rfl ?_ h <;>
        cases hd <;> cases e <;> first | rfl | simp [same] at h
    | _ =>
      refine assignable_of_canonical_same k rfl ?_ rfl ?_ h <;>
        cases e <;> first | rfl | simp [same] at h

end Classes

end FunctionObjects
