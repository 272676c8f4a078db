import Mathlib.Data.List.Forall2
import FunctionObjects.Descriptor.Union
import FunctionObjects.Proofs.Signature.SameType
/-!
# Members of unions

A union accepts what one of its members accepts, and it is accepted where all of them are.  Building a
union drops a member only where an earlier one is the same type, so no member is lost.
-/

namespace FunctionObjects

namespace Ty

variable {t : Ty} {done ts us : List Ty}

/-- Members that have been kept stay. -/
theorem mem_distinct_of_mem (h : t ∈ done) : t ∈ distinct done ts := by
  induction ts generalizing done with
  | nil => simpa [distinct] using h
  | cons u ts ih =>
    rw [distinct]
    split
    · exact ih h
    · exact ih (List.mem_cons_of_mem _ h)

theorem mem_of_mem_distinct (h : t ∈ distinct done ts) : t ∈ done ∨ t ∈ ts := by
  induction ts generalizing done with
  | nil => exact .inl (by simpa [distinct] using h)
  | cons u ts ih =>
    rw [distinct] at h
    split at h
    · exact (ih h).imp_right (List.mem_cons_of_mem _)
    · rcases ih h with hdone | hts
      · rcases List.mem_cons.mp hdone with rfl | hdone
        · exact .inr List.mem_cons_self
        · exact .inl hdone
      · exact .inr (List.mem_cons_of_mem _ hts)

/-- Whatever is dropped is the same type as something that is kept. -/
theorem exists_mem_distinct (h : t ∈ ts) : ∃ u ∈ distinct done ts, t.same u = true := by
  induction ts generalizing done with
  | nil => simp at h
  | cons v ts ih =>
    rw [distinct]
    rcases List.mem_cons.mp h with rfl | hts
    · split
      · rename_i hwithin
        obtain ⟨u, hu, hsame⟩ := List.any_eq_true.mp hwithin
        exact ⟨u, mem_distinct_of_mem hu, hsame⟩
      · exact ⟨t, mem_distinct_of_mem List.mem_cons_self, same_refl t⟩
    · split <;> exact ih hts

/-- The members of a union that is built are members of what it is built from. -/
theorem mem_flatMap_of_mem_distinct (h : t ∈ distinct [] (us.flatMap members)) :
    ∃ u ∈ us, t ∈ u.members := by
  rcases mem_of_mem_distinct h with h | h
  · cases h
  · exact List.mem_flatMap.mp h

theorem unionOf_cases (bars : Bool) (us : List Ty) :
    (∃ t, distinct [] (us.flatMap members) = [t] ∧ unionOf bars us = t) ∨
      (distinct [] (us.flatMap members)).length ≠ 1 ∧
        unionOf bars us = .union bars (distinct [] (us.flatMap members)) := by
  unfold unionOf
  split
  · rename_i t h
    exact .inl ⟨t, h, rfl⟩
  · rename_i hmany
    refine .inr ⟨fun hone => ?_, rfl⟩
    obtain ⟨t, ht⟩ := List.length_eq_one_iff.mp hone
    exact hmany t ht

theorem members_of_not_isUnion (h : t.isUnion = false) : t.members = [t] := by
  cases t <;> simp_all [isUnion, members]

theorem members_of_isUnion (h : t.isUnion = true) : t.members = t.args := by
  cases t <;> simp_all [isUnion, members, args]

end Ty

namespace Classes

open Ty

variable {k : Classes} {c e : Ty}

theorem assignable_of_isTop (h : (e.isAny || e.isObject) = true) : k.assignable c e = true := by
  rw [assignable_eq]
  cases e <;> simp_all [Ty.finalize, isAny, isObject]

theorem any_assignable (e : Ty) : k.assignable .any e = true := by
  rw [assignable_eq]
  simp [Ty.finalize, isAny]

/-- A union fits where all its members do. -/
theorem assignable_members_left (hc : c.isVar = false) (he : e.isVar = false) :
    k.assignable c e = true ↔ ∀ m ∈ c.members, k.assignable m e = true := by
  cases c with
  | union bars ts =>
    cases htop : e.isAny || e.isObject with
    | true => simp [assignable_of_isTop htop]
    | false =>
      rw [assignable_eq, finalize_of_not_isVar he]
      simp_all [Ty.finalize, isAny, isUnion, args, members]
  | _ => simp [members]

/-- A type that is no union fits a union where it fits one of the members. -/
theorem assignable_members_right (hc : c.isVar = false) (hany : c.isAny = false)
    (hunion : c.isUnion = false) :
    k.assignable c e = true ↔ ∃ m ∈ e.members, k.assignable c m = true := by
  cases e with
  | union bars ts =>
    have hshape : (Ty.union bars ts).finalize = .union bars ts ∧ (Ty.union bars ts).isAny = false ∧
        (Ty.union bars ts).isObject = false ∧ (Ty.union bars ts).isUnion = true :=
      ⟨rfl, rfl, rfl, rfl⟩
    rw [assignable_eq, finalize_of_not_isVar hc]
    simp [hshape, hany, hunion, args, members]
  | _ => simp [members]

theorem all_zip_iff_forall₂ {α δ : Type} {f : α → δ → Bool} {as : List α} {bs : List δ}
    (hlen : as.length = bs.length) :
    ((as.zip bs).all fun (a, b) => f a b) = true ↔ List.Forall₂ (fun a b => f a b = true) as bs := by
  rw [List.forall₂_iff_zip, and_iff_right hlen, List.all_eq_true, Prod.forall]

/-- Types that are no unions fit if they are the same, or if the classes behind them do and so does
every argument, where both sides have equally many. -/
theorem assignable_plain (hc : c.isVar = false) (he : e.isVar = false)
    (htop : (c.isAny || e.isAny || e.isObject) = false) (hcu : c.isUnion = false)
    (heu : e.isUnion = false) :
    k.assignable c e = true ↔ (k.canonical c).same (k.canonical e) = true ∨
      k.originsFit (k.canonical c) (k.canonical e) = true ∧
        (c.args.length = e.args.length →
          List.Forall₂ (fun a b => k.assignable a b = true) c.args e.args) := by
  rw [assignable_eq, finalize_of_not_isVar hc, finalize_of_not_isVar he, htop, hcu, heu]
  by_cases hlen : c.args.length = e.args.length
  · simp [hlen, ← all_zip_iff_forall₂ hlen]
  · simp [hlen]

end Classes

end FunctionObjects
