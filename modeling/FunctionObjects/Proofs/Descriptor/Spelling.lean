import Mathlib.Data.List.Perm.Basic
import FunctionObjects.Proofs.Descriptor.Boxing
/-!
# The spelling of unions

A union is written with bars or by name, and with its members in some order.  Neither is looked at:
unions are taken apart where something fits all members or one of them, and compared by containment
where two types have to be the same.  The same goes for the order of constants.  So descriptors can be
respelled at any depth, on both sides at once, and fit as before.
-/

namespace FunctionObjects

namespace Ty

/-- Whether the second descriptor is the first one with unions spelled differently, at any depth:
each with bars or by name, and with its members in any order.  Constants may come in any order, too. -/
inductive Respelled : Ty → Ty → Prop
  | refl (t : Ty) : Respelled t t
  | bound (v : TypeVar) {b b' : Ty} : Respelled b b' → Respelled (.var v (some b)) (.var v (some b'))
  | app (h : Head) {ts us : List Ty} : List.Forall₂ Respelled ts us → Respelled (.app h ts) (.app h us)
  | constants {ts us us' : List Ty} :
      List.Forall₂ Respelled ts us → us.Perm us' → Respelled (.app .literal ts) (.app .literal us')
  | params {ts us : List Ty} : List.Forall₂ Respelled ts us → Respelled (.params ts) (.params us)
  | union (bars bars' : Bool) {ts us us' : List Ty} :
      List.Forall₂ Respelled ts us → us.Perm us' → Respelled (.union bars ts) (.union bars' us')

/-- Whether some types are others, each respelled, in any order. -/
def Reordered (ts us : List Ty) : Prop := ∃ vs, List.Forall₂ Respelled ts vs ∧ vs.Perm us

variable {t t' u u' : Ty} {ts ts' us us' : List Ty}

theorem respelledAll_refl (ts : List Ty) : List.Forall₂ Respelled ts ts :=
  List.forall₂_same.mpr fun t _ => .refl t

theorem reordered_of_forall₂ (h : List.Forall₂ Respelled ts us) : Reordered ts us := ⟨us, h, .refl us⟩

namespace Reordered

theorem refl (ts : List Ty) : Reordered ts ts := reordered_of_forall₂ (respelledAll_refl ts)

theorem length_eq (h : Reordered ts us) : us.length = ts.length := by
  obtain ⟨vs, hvs, hperm⟩ := h
  rw [hvs.length_eq, hperm.length_eq]

theorem exists_right (h : Reordered ts us) (ht : t ∈ ts) : ∃ u ∈ us, Respelled t u := by
  obtain ⟨vs, hvs, hperm⟩ := h
  obtain ⟨u, hu, htu⟩ := exists_of_mem_left hvs ht
  exact ⟨u, hperm.mem_iff.mp hu, htu⟩

theorem exists_left (h : Reordered ts us) (hu : u ∈ us) : ∃ t ∈ ts, Respelled t u := by
  obtain ⟨vs, hvs, hperm⟩ := h
  exact exists_of_mem_right hvs (hperm.mem_iff.mpr hu)

/-- What respelling does not change holds of one of some types if it does of one of the others. -/
theorem any_eq {p q : Ty → Bool} (h : Reordered ts us)
    (hpq : ∀ t ∈ ts, ∀ u, Respelled t u → q u = p t) : us.any q = ts.any p := by
  rw [Bool.eq_iff_iff, List.any_eq_true, List.any_eq_true]
  constructor
  · rintro ⟨u, hu, hq⟩
    obtain ⟨t, ht, htu⟩ := h.exists_left hu
    exact ⟨t, ht, hpq t ht u htu ▸ hq⟩
  · rintro ⟨t, ht, hp⟩
    obtain ⟨u, hu, htu⟩ := h.exists_right ht
    exact ⟨u, hu, (hpq t ht u htu).trans hp⟩

theorem all_eq {p q : Ty → Bool} (h : Reordered ts us)
    (hpq : ∀ t ∈ ts, ∀ u, Respelled t u → q u = p t) : us.all q = ts.all p := by
  have hnot := h.any_eq (p := fun t => !p t) (q := fun u => !q u)
    fun t ht u htu => congrArg _ (hpq t ht u htu)
  rw [← Bool.not_inj_iff, List.not_all_eq_any_not, List.not_all_eq_any_not, hnot]

end Reordered

theorem allWithin_eq (ts us : List Ty) : allWithin ts us = ts.all fun t => us.any (t.same ·) := by
  rw [Bool.eq_iff_iff, allWithin_iff, List.all_eq_true]
  exact forall₂_congr fun t _ => List.any_eq_true.symm

namespace Respelled

/-! ### What a respelled descriptor looks like -/

/-- Parameters keep their places, constants need not. -/
theorem of_app {h : Head} (hr : Respelled (.app h ts) t') :
    ∃ ts', t' = .app h ts' ∧ Reordered ts ts' ∧ (h ≠ .literal → List.Forall₂ Respelled ts ts') := by
  cases hr with
  | refl => exact ⟨ts, rfl, .refl ts, fun _ => respelledAll_refl ts⟩
  | app _ hts => exact ⟨_, rfl, reordered_of_forall₂ hts, fun _ => hts⟩
  | constants hts hperm => exact ⟨_, rfl, ⟨_, hts, hperm⟩, fun h => absurd rfl h⟩

theorem of_params (hr : Respelled (.params ts) t') :
    ∃ ts', t' = .params ts' ∧ List.Forall₂ Respelled ts ts' := by
  cases hr with
  | refl => exact ⟨ts, rfl, respelledAll_refl ts⟩
  | params hts => exact ⟨_, rfl, hts⟩

theorem of_union {bars : Bool} (hr : Respelled (.union bars ts) t') :
    ∃ bars' ts', t' = .union bars' ts' ∧ Reordered ts ts' := by
  cases hr with
  | refl => exact ⟨bars, ts, rfl, .refl ts⟩
  | union _ bars' hts hperm => exact ⟨bars', _, rfl, _, hts, hperm⟩

theorem of_var {v : TypeVar} {b : Option Ty} (hr : Respelled (.var v b) t') :
    ∃ b', t' = .var v b' := by
  cases hr with
  | refl => exact ⟨b, rfl⟩
  | bound _ hb => exact ⟨_, rfl⟩

theorem finalize (h : Respelled t t') : Respelled t.finalize t'.finalize := by
  cases h with
  | refl => exact .refl _
  | bound _ hb => exact hb
  | app hd hts => exact .app hd hts
  | constants hts hperm => exact .constants hts hperm
  | params hts => exact .params hts
  | union bars bars' hts hperm => exact .union bars bars' hts hperm

theorem isAny (h : Respelled t t') : t'.isAny = t.isAny := by cases h <;> rfl

theorem isObject (h : Respelled t t') : t'.isObject = t.isObject := by cases h <;> rfl

theorem isVar (h : Respelled t t') : t'.isVar = t.isVar := by cases h <;> rfl

theorem isUnion (h : Respelled t t') : t'.isUnion = t.isUnion := by cases h <;> rfl

theorem canonical {k : Classes} (h : Respelled t t') : Respelled (k.canonical t) (k.canonical t') := by
  cases h with
  | refl => exact .refl _
  | bound v hb => exact .bound v hb
  | app hd hts => exact .app hd hts
  | constants hts hperm => exact .constants hts hperm
  | params hts => exact .params hts
  | union bars bars' hts hperm => exact .union bars bars' hts hperm

theorem originClass? (h : Respelled t t') : t'.originClass? = t.originClass? := by
  cases h with
  | app hd hts => cases hd <;> rfl
  | _ => rfl

/-- The parameters of a class keep their places. -/
theorem args (h : Respelled t t') (horigin : t.originClass?.isSome = true) :
    List.Forall₂ Respelled t.args t'.args := by
  cases h with
  | refl => exact respelledAll_refl _
  | app _ hts => exact hts
  | bound => exact .nil
  | constants | params | union => simp [Ty.originClass?] at horigin

theorem members (h : Respelled t t') : Reordered t.args t'.args := by
  cases h with
  | union _ _ hts hperm | constants hts hperm => exact ⟨_, hts, hperm⟩
  | app _ hts => exact reordered_of_forall₂ hts
  | refl | bound | params => exact .refl _

end Respelled

/-! ### Spellings of one descriptor -/

/-- What holds of the members of two lists that are related one by one holds of the lists. -/
theorem forall₂_of_mem {R S : Ty → Ty → Prop} (h : List.Forall₂ R ts us)
    (hRS : ∀ t ∈ ts, ∀ u, R t u → S t u) : List.Forall₂ S ts us :=
  Classes.forall₂_comp h (List.forall₂_same.mpr fun _ _ => rfl) fun t ht _ _ _ _ hR hu =>
    hu ▸ hRS t ht _ hR

namespace Respelled

theorem symm (h : Respelled t t') : Respelled t' t := by
  induction hn : sizeOf t using Nat.strongRecOn generalizing t t' with
  | _ n ih =>
    subst hn
    have hback : ∀ {us : List Ty}, List.Forall₂ Respelled t.args us → List.Forall₂ Respelled us t.args :=
      fun hus => (forall₂_of_mem hus fun m hm u hmu => ih _ (sizeOf_lt_of_mem_args hm) hmu rfl).flip
    cases h with
    | refl => exact .refl _
    | bound v hb => exact .bound v (ih _ (by simp; omega) hb rfl)
    | app hd hts => exact .app hd (hback hts)
    | constants hts hperm =>
      obtain ⟨vs, hvs, hperm⟩ := List.perm_comp_forall₂ hperm.symm (hback hts)
      exact .constants hvs hperm
    | params hts =>
      refine .params (forall₂_of_mem hts fun m hm u hmu => ih _ ?_ hmu rfl).flip
      exact Nat.lt_trans (List.sizeOf_lt_of_mem hm) (by simp)
    | union bars bars' hts hperm =>
      obtain ⟨vs, hvs, hperm⟩ := List.perm_comp_forall₂ hperm.symm (hback hts)
      exact .union bars' bars hvs hperm

theorem trans (h : Respelled t u) (h' : Respelled u u') : Respelled t u' := by
  induction hn : sizeOf t using Nat.strongRecOn generalizing t u u' with
  | _ n ih =>
    subst hn
    have hcomp : ∀ {ts us vs : List Ty}, sizeOf ts < sizeOf t → List.Forall₂ Respelled ts us →
        List.Forall₂ Respelled us vs → List.Forall₂ Respelled ts vs := fun hlt hus hvs =>
      Classes.forall₂_comp hus hvs fun m hm _ _ _ _ hmu huv =>
        ih _ (Nat.lt_trans (List.sizeOf_lt_of_mem hm) hlt) hmu huv rfl
    cases h with
    | refl => exact h'
    | bound v hb =>
      cases h' with
      | refl => exact .bound v hb
      | bound _ hb' => exact .bound v (ih _ (by simp; omega) hb hb' rfl)
    | @app hd ts _ hts =>
      obtain ⟨vs, rfl, ⟨ws, hws, hperm⟩, hplaces⟩ := h'.of_app
      by_cases hhd : hd = .literal
      · subst hhd
        exact .constants (hcomp (by simp) hts hws) hperm
      · exact .app hd (hcomp (by rw [app.sizeOf_spec]; omega) hts (hplaces hhd))
    | constants hts hperm =>
      obtain ⟨vs, rfl, ⟨ws, hws, hperm'⟩, -⟩ := h'.of_app
      obtain ⟨xs, hxs, hperm''⟩ := List.perm_comp_forall₂ hperm hws
      exact .constants (hcomp (by simp) hts hxs) (hperm''.trans hperm')
    | params hts =>
      obtain ⟨vs, rfl, hvs⟩ := h'.of_params
      exact .params (hcomp (by simp) hts hvs)
    | union bars _ hts hperm =>
      obtain ⟨bars', vs, rfl, ws, hws, hperm'⟩ := h'.of_union
      obtain ⟨xs, hxs, hperm''⟩ := List.perm_comp_forall₂ hperm hws
      exact .union bars bars' (hcomp (by simp) hts hxs) (hperm''.trans hperm')

end Respelled

theorem respelledAll_symm (h : List.Forall₂ Respelled ts us) : List.Forall₂ Respelled us ts :=
  (h.imp fun _ _ => Respelled.symm).flip

theorem respelledAll_trans (h : List.Forall₂ Respelled ts us) (h' : List.Forall₂ Respelled us us') :
    List.Forall₂ Respelled ts us' :=
  Classes.forall₂_comp h h' fun _ _ _ _ _ _ => Respelled.trans

mutual

/-- What is found to be another spelling is one. -/
theorem respelled_of_respells : ∀ {t u : Ty}, respells t u = true → Respelled t u
  | .var v (some b), u, hr => by
    cases u with
    | var w c =>
      cases c with
      | none => simp [respells] at hr
      | some c =>
        simp only [respells, Bool.and_eq_true, beq_iff_eq] at hr
        exact hr.1 ▸ .bound v (respelled_of_respells hr.2)
    | _ => simp [respells] at hr
  | .app h ts, u, hr => by
    cases u with
    | app g us =>
      by_cases hboth : h = .literal ∧ g = .literal
      · obtain ⟨rfl, rfl⟩ := hboth
        obtain ⟨vs, hvs, hperm⟩ := reordered_of_respells (by simpa [respells] using hr)
        exact .constants hvs hperm
      · have hparts : h = g ∧ respellsEach ts us = true := by
          cases h <;> cases g <;> simp_all [respells]
        exact hparts.1 ▸ .app h (respelledAll_of_respells hparts.2)
    | _ => cases h <;> simp [respells] at hr
  | .union bars ts, u, hr => by
    cases u with
    | union bars' us =>
      obtain ⟨vs, hvs, hperm⟩ := reordered_of_respells (by simpa [respells] using hr)
      exact .union bars bars' hvs hperm
    | _ => simp [respells] at hr
  | .params ts, u, hr => by
    cases u with
    | params us => exact .params (respelledAll_of_respells (by simpa [respells] using hr))
    | _ => simp [respells] at hr
  | .var v Option.none, u, hr => by
    cases u with
    | var w c =>
      cases c with
      | none =>
        obtain rfl : v = w := by simpa [respells] using hr
        exact .refl _
      | some c => simp [respells] at hr
    | _ => simp [respells] at hr
  | .any, u, hr | .none, u, hr | .ellipsis, u, hr => by
    cases u <;> simp [respells] at hr
    exact .refl _
  | .cls _, u, hr | .named _, u, hr | .form _, u, hr | .lit _, u, hr | .forward _, u, hr => by
    cases u <;> simp [respells] at hr
    exact hr ▸ .refl _

theorem respelledAll_of_respells : ∀ {ts us : List Ty}, respellsEach ts us = true →
    List.Forall₂ Respelled ts us
  | [], us, h => by cases us <;> simp_all [respellsEach]
  | t :: ts, us, h => by
    match us, h with
    | u :: us, h =>
      simp only [respellsEach, Bool.and_eq_true] at h
      exact .cons (respelled_of_respells h.1) (respelledAll_of_respells h.2)

theorem reordered_of_respells : ∀ {ts us : List Ty}, respellsInSomeOrder ts us = true →
    Reordered ts us
  | [], us, h => by
    obtain rfl : us = [] := by simpa [respellsInSomeOrder] using h
    exact .refl []
  | t :: ts, us, h => by
    rw [respellsInSomeOrder] at h
    cases hfind : us.findIdx? (respells t ·) with
    | none => simp [hfind] at h
    | some i =>
      rw [hfind] at h
      obtain ⟨hi, htu, -⟩ := List.findIdx?_eq_some_iff_getElem.mp hfind
      obtain ⟨vs, hvs, hperm⟩ := reordered_of_respells h
      exact ⟨us[i] :: vs, .cons (respelled_of_respells htu) hvs,
        (hperm.cons _).trans (List.getElem_cons_eraseIdx_perm hi)⟩

end

/-- Types are respelled by what is known of them. -/
theorem respelled_spelling (known : List (List Ty)) (ts : List Ty) :
    List.Forall₂ Respelled (spelling known ts) ts := by
  unfold spelling
  cases hfind : known.find? (respellsEach · ts) with
  | none => exact respelledAll_refl ts
  | some us =>
    exact respelledAll_of_respells (List.find?_some (p := fun us => respellsEach us ts) hfind)

/-! ### Spelling and sameness -/

/-- Types that are compared place by place are the same if those in each place are. -/
theorem allSame_of_respelled (hts : List.Forall₂ Respelled ts ts') (hus : List.Forall₂ Respelled us us')
    (h : ∀ t ∈ ts, ∀ u ∈ us, ∀ t' u', Respelled t t' → Respelled u u' → t'.same u' = t.same u) :
    allSame ts' us' = allSame ts us := by
  rw [Bool.eq_iff_iff, Classes.allSame_iff_forall₂, Classes.allSame_iff_forall₂]
  refine Classes.forall₂_iff_of_members hts hus fun t ht u hu t' u' htt huu => ?_
  rw [h t ht u hu t' u' htt huu]

/-- Types that are compared by containment are contained in each other in any order. -/
theorem allWithin_of_reordered (hts : Reordered ts ts') (hus : Reordered us us')
    (h : ∀ t ∈ ts, ∀ u ∈ us, ∀ t' u', Respelled t t' → Respelled u u' → t'.same u' = t.same u) :
    allWithin ts' us' = allWithin ts us := by
  rw [allWithin_eq, allWithin_eq]
  exact hts.all_eq fun t ht t' htt => hus.any_eq fun u hu u' huu => h t ht u hu t' u' htt huu

/-- Types are the same in one spelling if they are in another. -/
theorem same_respelled (ht : Respelled t t') (hu : Respelled u u') : t'.same u' = t.same u := by
  induction hn : sizeOf t using Nat.strongRecOn generalizing t t' u u' with
  | _ n ih =>
    subst hn
    have hmem : ∀ ts us : List Ty, sizeOf ts < sizeOf t → ∀ m ∈ ts, ∀ l ∈ us, ∀ m' l',
        Respelled m m' → Respelled l l' → m'.same l' = m.same l :=
      fun _ _ hlt m hm _ _ _ _ hmm hll => ih _ (Nat.lt_trans (List.sizeOf_lt_of_mem hm) hlt) hmm hll rfl
    cases t with
    | app h ts =>
      obtain ⟨ts', rfl, hts, hplaces⟩ := ht.of_app
      cases u with
      | app g us =>
        obtain ⟨us', rfl, hus, hplaces'⟩ := hu.of_app
        have hlt : sizeOf ts < sizeOf (app h ts) := by rw [app.sizeOf_spec]; omega
        have hwithin := allWithin_of_reordered hts hus (hmem ts us hlt)
        have hsame : h ≠ .literal → g ≠ .literal → allSame ts' us' = allSame ts us := fun hh hg =>
          allSame_of_respelled (hplaces hh) (hplaces' hg) (hmem ts us hlt)
        cases h <;> cases g <;> simp [same, hwithin, hsame, hts.length_eq, hus.length_eq] <;> rfl
      | _ => cases h <;> cases hu <;> rfl
    | union bars ts =>
      obtain ⟨_, ts', rfl, hts⟩ := ht.of_union
      cases u with
      | union _ us =>
        obtain ⟨_, us', rfl, hus⟩ := hu.of_union
        rw [same, same, allWithin_of_reordered hts hus (hmem ts us (by simp)), hts.length_eq,
          hus.length_eq]
      | _ => cases hu <;> rfl
    | params ts =>
      obtain ⟨ts', rfl, hts⟩ := ht.of_params
      cases u with
      | params us =>
        obtain ⟨us', rfl, hus⟩ := hu.of_params
        rw [same, same, allSame_of_respelled hts hus (hmem ts us (by simp))]
      | _ => cases hu <;> rfl
    | var v b =>
      obtain ⟨b', rfl⟩ := ht.of_var
      cases u with
      | var w b =>
        obtain ⟨b', rfl⟩ := hu.of_var
        rfl
      | _ => cases hu <;> rfl
    | _ =>
      cases ht
      cases hu <;> rfl

end Ty

namespace Classes

open Ty

variable (k : Classes) {c c' e e' : Ty}

theorem originsFit_respelled (hc : Respelled c c') (he : Respelled e e') :
    k.originsFit c' e' = k.originsFit c e := by
  rw [originsFit, originsFit, hc.originClass?, he.originClass?]

theorem all_zip_respelled {f : Ty → Ty → Bool} {cs cs' es es' : List Ty}
    (hcs : List.Forall₂ Respelled cs cs') (hes : List.Forall₂ Respelled es es')
    (h : ∀ a ∈ cs, ∀ b ∈ es, ∀ a' b', Respelled a a' → Respelled b b' → f a' b' = f a b) :
    ((cs'.zip es').all fun (a, b) => f a b) = (cs.zip es).all fun (a, b) => f a b := by
  induction hcs generalizing es es' with
  | nil => rfl
  | cons hc _ ih =>
    cases hes with
    | nil => rfl
    | cons he hes =>
      simp only [List.zip_cons_cons, List.all_cons]
      rw [h _ (by simp) _ (by simp) _ _ hc he,
        ih hes fun a ha b hb => h a (List.mem_cons_of_mem _ ha) b (List.mem_cons_of_mem _ hb)]

/-- A type fits another one in one spelling of the unions in both if it does in another. -/
theorem assignable_respelled (hc : Respelled c c') (he : Respelled e e') :
    k.assignable c' e' = k.assignable c e := by
  induction hn : sizeOf c + sizeOf e using Nat.strongRecOn generalizing c c' e e' with
  | _ n ih =>
    subst hn
    have hcf := sizeOf_finalize_le c
    have hef := sizeOf_finalize_le e
    have hmembers : c'.finalize.args.all (k.assignable · e'.finalize) =
        c.finalize.args.all (k.assignable · e.finalize) :=
      hc.finalize.members.all_eq fun m hm m' hmm => by
        have := sizeOf_lt_of_mem_args hm
        exact ih _ (by omega) hmm he.finalize rfl
    have halternatives : e'.finalize.args.any (k.assignable c'.finalize ·) =
        e.finalize.args.any (k.assignable c.finalize ·) :=
      he.finalize.members.any_eq fun m hm m' hmm => by
        have := sizeOf_lt_of_mem_args hm
        exact ih _ (by omega) hc.finalize hmm rfl
    have hsame : (k.canonical c'.finalize).same (k.canonical e'.finalize) =
        (k.canonical c.finalize).same (k.canonical e.finalize) :=
      same_respelled hc.finalize.canonical he.finalize.canonical
    have horigins : k.originsFit (k.canonical c'.finalize) (k.canonical e'.finalize) =
        k.originsFit (k.canonical c.finalize) (k.canonical e.finalize) :=
      k.originsFit_respelled hc.finalize.canonical he.finalize.canonical
    rw [assignable_eq, assignable_eq k c e, hc.finalize.isAny, he.finalize.isAny,
      he.finalize.isObject, hc.finalize.isUnion, he.finalize.isUnion, hmembers, halternatives,
      hsame, horigins, hc.finalize.members.length_eq, he.finalize.members.length_eq]
    cases hfit : k.originsFit (k.canonical c.finalize) (k.canonical e.finalize) with
    | false => rfl
    | true =>
      have hargs : (c'.finalize.args.zip e'.finalize.args).all (fun (a, b) => k.assignable a b) =
          (c.finalize.args.zip e.finalize.args).all fun (a, b) => k.assignable a b := by
        obtain ⟨hco, heo⟩ := origins_of_originsFit hfit
        have hcs := hc.finalize.canonical.args hco
        have hes := he.finalize.canonical.args heo
        rw [args_canonical, args_canonical] at hcs hes
        refine all_zip_respelled hcs hes ?_
        intro a ha b hb a' b' haa hbb
        have hca := sizeOf_lt_of_mem_args ha
        have heb := sizeOf_lt_of_mem_args hb
        exact ih _ (by omega) haa hbb rfl
      rw [hargs]

end Classes

end FunctionObjects
