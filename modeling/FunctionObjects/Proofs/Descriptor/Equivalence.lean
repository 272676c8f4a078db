import Mathlib.Data.List.Forall2
import FunctionObjects.Proofs.Descriptor.Members
/-!
# Being the same type is an equivalence

Same types can stand for each other: the relation is transitive, and what fits a type fits every type
that is the same.
-/

namespace FunctionObjects

namespace Ty

/-- The shape of a type that a parameterized one is the same as. -/
theorem app_same {h : Head} {ts : List Ty} {u : Ty} (hs : (Ty.app h ts).same u = true) :
    ∃ us, u = .app h us ∧
      if h = .literal then allWithin ts us = true ∧ us.length = ts.length else allSame ts us = true := by
  cases u with
  | app h' us => cases h <;> cases h' <;> simp_all [same]
  | _ => cases h <;> simp [same] at hs

/-- The shape of a type that a union is the same as. -/
theorem union_same {bars : Bool} {ts : List Ty} {u : Ty} (hs : (Ty.union bars ts).same u = true) :
    ∃ bars' us, u = .union bars' us ∧ allWithin ts us = true ∧ us.length = ts.length := by
  cases u with
  | union bars' us =>
    simp only [same, Bool.and_eq_true, beq_iff_eq] at hs
    exact ⟨bars', us, rfl, hs⟩
  | _ => simp [same] at hs

/-- Bounds do not count. -/
theorem var_same {v : TypeVar} {b : Option Ty} {u : Ty} (hs : (Ty.var v b).same u = true) :
    ∃ b', u = .var v b' := by
  cases u <;> simp only [same, beq_iff_eq, Bool.false_eq_true] at hs
  subst hs
  exact ⟨_, rfl⟩

mutual

theorem same_trans : ∀ {t u v : Ty}, t.same u = true → u.same v = true → t.same v = true
  | .app h ts, u, v, htu, huv => by
    obtain ⟨us, rfl, hus⟩ := app_same htu
    obtain ⟨vs, rfl, hvs⟩ := app_same huv
    cases h with
    | literal =>
      simp only [if_true] at hus hvs
      simp only [same, Bool.and_eq_true, beq_iff_eq]
      exact ⟨allWithin_trans hus.1 hvs.1, hvs.2.trans hus.2⟩
    | _ =>
      simp only [reduceCtorEq, if_false] at hus hvs
      simp [same, allSame_trans hus hvs]
  | .union _ ts, u, v, htu, huv => by
    obtain ⟨_, us, rfl, hus, hlen⟩ := union_same htu
    obtain ⟨_, vs, rfl, hvs, hlen'⟩ := union_same huv
    simp only [same, Bool.and_eq_true, beq_iff_eq]
    exact ⟨allWithin_trans hus hvs, hlen'.trans hlen⟩
  | .params ts, u, v, htu, huv => by
    cases u <;> simp only [same, Bool.false_eq_true] at htu
    cases v <;> simp only [same, Bool.false_eq_true] at huv
    exact allSame_trans htu huv
  | .any, u, v, htu, huv | .none, u, v, htu, huv | .ellipsis, u, v, htu, huv => by
    cases u <;> simp only [same, Bool.false_eq_true] at htu
    exact huv
  | .cls _, u, v, htu, huv | .named _, u, v, htu, huv | .form _, u, v, htu, huv
  | .lit _, u, v, htu, huv | .forward _, u, v, htu, huv => by
    cases u <;> simp only [same, beq_iff_eq, Bool.false_eq_true] at htu
    subst htu
    exact huv
  | .var _ _, u, v, htu, huv => by
    obtain ⟨b, rfl⟩ := var_same htu
    cases v <;> simp only [same, beq_iff_eq, Bool.false_eq_true] at huv ⊢
    exact huv

theorem allSame_trans : ∀ {ts us vs : List Ty}, allSame ts us = true → allSame us vs = true →
    allSame ts vs = true
  | [], [], _, _, huv => huv
  | t :: ts, u :: us, v :: vs, htu, huv => by
    simp only [allSame, Bool.and_eq_true] at htu huv ⊢
    exact ⟨same_trans htu.1 huv.1, allSame_trans htu.2 huv.2⟩
  | [], _ :: _, _, htu, _ | _ :: _, [], _, htu, _ => by simp [allSame] at htu
  | _ :: _, _ :: _, [], _, huv => by simp [allSame] at huv

theorem allWithin_trans : ∀ {ts us vs : List Ty}, allWithin ts us = true →
    allWithin us vs = true → allWithin ts vs = true
  | [], _, _, _, _ => rfl
  | t :: ts, us, vs, htu, huv => by
    simp only [allWithin, Bool.and_eq_true, List.any_eq_true] at htu ⊢
    obtain ⟨⟨u, hu, hsame⟩, hrest⟩ := htu
    obtain ⟨v, hv, hsame'⟩ := allWithin_iff.mp huv u hu
    exact ⟨⟨v, hv, same_trans hsame hsame'⟩, allWithin_trans hrest huv⟩

end

end Ty

namespace Classes

open Ty

variable {k : Classes} {β : TypeVar → Option Ty}

/-- What same types have in common besides the class behind them. -/
theorem shape_of_same {e e' : Ty} (h : e.same e' = true) :
    e.isAny = e'.isAny ∧ e.isObject = e'.isObject ∧ e.isUnion = e'.isUnion ∧ e.isVar = e'.isVar := by
  cases e with
  | app hd ts =>
    obtain ⟨us, rfl, -⟩ := app_same h
    exact ⟨rfl, rfl, rfl, rfl⟩
  | union bars ts =>
    obtain ⟨bars', us, rfl, -⟩ := union_same h
    exact ⟨rfl, rfl, rfl, rfl⟩
  | var v b =>
    obtain ⟨b', rfl⟩ := var_same h
    exact ⟨rfl, rfl, rfl, rfl⟩
  | _ => cases e' <;> simp_all [same, isAny, isObject, isUnion, isVar]

theorem originClass?_of_same {e e' : Ty} (h : e.same e' = true) :
    e.originClass? = e'.originClass? := by
  cases e with
  | app hd ts =>
    obtain ⟨us, rfl, -⟩ := app_same h
    cases hd <;> rfl
  | _ => cases e' <;> simp_all [same, originClass?]

theorem same_finalize {e e' : Ty} (he : e.Uses β) (he' : e'.Uses β) (h : e.same e' = true) :
    e.finalize.same e'.finalize = true := by
  cases hv : e.isVar with
  | true =>
    cases e <;> simp only [isVar, Bool.false_eq_true] at hv
    obtain rfl := he.eq_of_same_var he' h
    exact same_refl _
  | false =>
    obtain ⟨-, -, -, hvar⟩ := shape_of_same h
    rwa [finalize_of_not_isVar hv, finalize_of_not_isVar (hvar ▸ hv)]

theorem args_canonical (t : Ty) : (k.canonical t).args = t.args := by cases t <;> rfl

/-- Same types with a class behind them have the same arguments, one by one. -/
theorem args_of_same {e e' : Ty} (h : e.same e' = true) (ho : e.originClass?.isSome = true) :
    allSame e.args e'.args = true := by
  cases e with
  | app hd ts =>
    obtain ⟨us, rfl, hus⟩ := app_same h
    cases hd with
    | literal => simp [originClass?] at ho
    | _ => simpa [args] using hus
  | union => simp [originClass?] at ho
  | _ => cases e' <;> simp_all [same, args, allSame]

theorem exists_same_of_mem_members {e e' u : Ty} (h : e.same e' = true) (he : e.isUnion = true)
    (hu : u ∈ e.members) : ∃ u' ∈ e'.members, u.same u' = true := by
  cases e <;> simp only [isUnion, Bool.false_eq_true] at he
  obtain ⟨bars, us, rfl, hus, -⟩ := union_same h
  exact allWithin_iff.mp hus u hu

theorem allSame_iff_forall₂ {ts us : List Ty} :
    allSame ts us = true ↔ List.Forall₂ (fun t u => t.same u = true) ts us := by
  induction ts generalizing us with
  | nil => cases us <;> simp [allSame]
  | cons t ts ih => cases us <;> simp [allSame, ih]

theorem forall₂_comp {α : Type} {R S T : α → α → Prop} {as bs cs : List α}
    (hR : List.Forall₂ R as bs) (hS : List.Forall₂ S bs cs)
    (h : ∀ a ∈ as, ∀ b ∈ bs, ∀ c ∈ cs, R a b → S b c → T a c) : List.Forall₂ T as cs := by
  induction hR generalizing cs with
  | nil => cases hS; exact .nil
  | cons hab _ ih =>
    obtain - | ⟨hbc, hrest⟩ := hS
    refine .cons (h _ (by simp) _ (by simp) _ (by simp) hab hbc) (ih hrest ?_)
    exact fun a ha b hb c hc => h a (by simp [ha]) b (by simp [hb]) c (by simp [hc])

theorem origins_of_originsFit {c e : Ty} (h : k.originsFit c e = true) :
    c.originClass?.isSome = true ∧ e.originClass?.isSome = true := by
  unfold originsFit at h
  cases hc : c.originClass? <;> cases he : e.originClass? <;> simp_all

/-- One step without unions, given the step for the arguments. -/
theorem plain_of_same_right {c e e' : Ty} (hcv : c.isVar = false) (hev : e.isVar = false)
    (hev' : e'.isVar = false) (htop : (c.isAny || e.isAny || e.isObject) = false)
    (hcu : c.isUnion = false) (heu : e.isUnion = false) (hs : e.same e' = true)
    (hstep : ∀ a ∈ c.args, ∀ b ∈ e.args, ∀ b' ∈ e'.args, k.assignable a b = true →
      b.same b' = true → k.assignable a b' = true)
    (h : k.assignable c e = true) : k.assignable c e' = true := by
  obtain ⟨hany, hobject, hunion, -⟩ := shape_of_same hs
  have horigin := originClass?_of_same (canonical_same k hs)
  rw [assignable_plain hcv hev htop hcu heu] at h
  rw [assignable_plain hcv hev' (by rwa [← hany, ← hobject]) hcu (by rwa [← hunion])]
  rcases h with hsame | ⟨hfit, hargs⟩
  · exact .inl (same_trans hsame (canonical_same k hs))
  · have hsameArgs := args_of_same (canonical_same k hs) (origins_of_originsFit hfit).2
    rw [args_canonical, args_canonical] at hsameArgs
    refine .inr ⟨by rwa [originsFit, ← horigin], fun hlen => ?_⟩
    have hargs := hargs (hlen.trans (allSame_length hsameArgs).symm)
    exact forall₂_comp hargs (allSame_iff_forall₂.mp hsameArgs) hstep

/-- What fits a type fits every type that is the same. -/
theorem assignable_of_same_right {c e e' : Ty} (hc : c.Uses β) (he : e.Uses β) (he' : e'.Uses β)
    (hs : e.same e' = true) (h : k.assignable c e = true) : k.assignable c e' = true := by
  induction hn : sizeOf c + sizeOf e using Nat.strongRecOn generalizing c e e' with
  | _ n ih =>
    subst hn
    rw [← assignable_finalize_left k hc, ← assignable_finalize_right k _ he] at h
    rw [← assignable_finalize_left k hc, ← assignable_finalize_right k _ he']
    have hcsize := sizeOf_finalize_le c
    have hesize := sizeOf_finalize_le e
    replace hs := same_finalize he he' hs
    have hcv := hc.isVar_finalize
    have hev := he.isVar_finalize
    have hev' := he'.isVar_finalize
    replace hc := hc.finalize
    replace he := he.finalize
    replace he' := he'.finalize
    -- from here on nothing is a variable
    generalize c.finalize = c₁ at *
    generalize e.finalize = e₁ at *
    generalize e'.finalize = e₁' at *
    obtain ⟨hany, hobject, hunion, -⟩ := shape_of_same hs
    cases htop : c₁.isAny || e₁.isAny || e₁.isObject with
    | true =>
      rw [Bool.or_assoc, Bool.or_eq_true] at htop
      rcases htop with hcany | htop
      · obtain rfl : c₁ = .any := by cases c₁ <;> simp_all [isAny]
        exact any_assignable _
      · exact assignable_of_isTop (by rwa [← hany, ← hobject])
    | false =>
      have hcany : c₁.isAny = false := by simp_all
      cases hcu : c₁.isUnion with
      | true =>
        rw [assignable_members_left hcv hev] at h
        rw [assignable_members_left hcv hev', members_of_isUnion hcu]
        intro m hm
        have hmsize := sizeOf_lt_of_mem_args hm
        exact ih _ (by omega) (hc.of_mem_args hm) he he' hs (h m (by rwa [members_of_isUnion hcu])) rfl
      | false =>
        cases heu : e₁.isUnion with
        | true =>
          rw [assignable_members_right hcv hcany hcu] at h ⊢
          obtain ⟨u, hu, hfits⟩ := h
          obtain ⟨u', hu', hsame⟩ := exists_same_of_mem_members hs heu hu
          rw [members_of_isUnion heu] at hu
          rw [members_of_isUnion (hunion ▸ heu)] at hu'
          have husize := sizeOf_lt_of_mem_args hu
          refine ⟨u', by rwa [members_of_isUnion (hunion ▸ heu)], ?_⟩
          exact ih _ (by omega) hc (he.of_mem_args hu) (he'.of_mem_args hu') hsame hfits rfl
        | false =>
          refine plain_of_same_right hcv hev hev' htop hcu heu hs ?_ h
          intro a ha b hb b' hb' hab hsame
          have hasize := sizeOf_lt_of_mem_args ha
          have hbsize := sizeOf_lt_of_mem_args hb
          exact ih _ (by omega) (hc.of_mem_args ha) (he.of_mem_args hb) (he'.of_mem_args hb') hsame hab rfl

end Classes

end FunctionObjects
