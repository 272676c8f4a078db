import FunctionObjects.Proofs.Descriptor.Loosening
import FunctionObjects.Proofs.Hierarchy.Library
/-!
# Sized scalars and what they box

A class of sized scalars counts as the core class that it boxes, at any depth and on either side.  The
comparison itself replaces a class only where two types without unions meet, so a union can lose members
when they are replaced one by one: what is dropped is the same type as what is kept, and same types fit
alike.
-/

namespace FunctionObjects

namespace Ty

/-- Whether the second descriptor is the first one with some classes of sized scalars replaced by the
core classes that they box, at any depth.  A union is built anew, since members can become the same. -/
inductive Unboxes (k : Classes) : Ty → Ty → Prop
  | refl (t : Ty) : Unboxes k t t
  | box (c : ClassName) : Unboxes k (.cls c) (.cls (k.unboxed c))
  | app (h : Head) {ts us : List Ty} :
      List.Forall₂ (Unboxes k) ts us → Unboxes k (.app h ts) (.app h us)
  | union (bars bars' : Bool) {ts us : List Ty} :
      List.Forall₂ (Unboxes k) ts us → Unboxes k (.union bars ts) (unionOf bars' us)

variable {k : Classes} {t t' : Ty}

/-- A descriptor stays in the form for which fitting is decided part by part. -/
theorem Unboxes.isGradual (hu : Unboxes k t t') (h : t.IsGradual k) : t'.IsGradual k := by
  induction hn : sizeOf t using Nat.strongRecOn generalizing t t' with
  | _ n ih =>
    subst hn
    have hparts : ∀ {us : List Ty}, List.Forall₂ (Unboxes k) t.args us → ∀ u ∈ us, u.IsGradual k := by
      intro us hus u hu
      obtain ⟨s, hs, hsu⟩ := exists_of_mem_right hus hu
      exact ih _ (sizeOf_lt_of_mem_args hs) hsu (h.of_mem_args hs) rfl
    cases hu with
    | refl => exact h
    | box => trivial
    | app hd hus => exact ⟨h.1, areGradual_iff.mpr (hparts hus)⟩
    | union bars bars' hus => exact isGradual_unionOf (hparts hus)

/-- What the members of a union become. -/
theorem Unboxes.isGradual_of_members {bars : Bool} {ts us : List Ty}
    (h : (Ty.union bars ts).IsGradual k) (hus : List.Forall₂ (Unboxes k) ts us) :
    ∀ u ∈ us, u.IsGradual k := by
  intro u hu
  obtain ⟨t, ht, htu⟩ := exists_of_mem_right hus hu
  exact htu.isGradual (h.of_mem_args ht)

end Ty

namespace Classes

open Ty

variable {k : Classes} {c c' e e' : Ty}

/-- What is promised about the classes that sized scalars box: they are no sized scalars themselves, and
neither is the root. -/
def BoxesCore (k : Classes) : Prop :=
  ∀ b ∈ ClassName.object :: boxes.map (·.2), k.sub b ⟨"numpy", "generic"⟩ = false

theorem unboxed_eq_or_mem (k : Classes) (c : ClassName) :
    k.unboxed c = c ∨ k.unboxed c ∈ boxes.map (·.2) := by
  unfold unboxed
  split
  · cases hfind : boxes.find? fun row => k.sub c row.1 with
    | none => exact .inl rfl
    | some row => exact .inr (List.mem_map_of_mem (List.mem_of_find?_eq_some hfind))
  · exact .inl rfl

/-- What a class boxes boxes nothing any more. -/
theorem BoxesCore.unboxed_unboxed (hk : k.BoxesCore) (c : ClassName) :
    k.unboxed (k.unboxed c) = k.unboxed c := by
  rcases unboxed_eq_or_mem k c with h | h
  · rw [h, h]
  · have hplain := hk _ (List.mem_cons_of_mem _ h)
    rw [unboxed, hplain, if_neg Bool.false_ne_true]

theorem BoxesCore.unboxed_eq_object_iff (hk : k.BoxesCore) (c : ClassName) :
    k.unboxed c = .object ↔ c = .object := by
  constructor
  · intro h
    rcases unboxed_eq_or_mem k c with heq | hmem
    · rw [← heq, h]
    · have hno : ClassName.object ∉ boxes.map (·.2) := by decide
      exact absurd (h ▸ hmem) hno
  · rintro rfl
    rw [unboxed, hk _ List.mem_cons_self, if_neg Bool.false_ne_true]

/-! ### Same types fit alike -/

/-- One step without unions, given the step for the arguments. -/
theorem plain_of_same_left (hcv : c.isVar = false) (hcv' : c'.isVar = false) (hev : e.isVar = false)
    (htop : (c.isAny || e.isAny || e.isObject) = false) (hcu : c.isUnion = false)
    (heu : e.isUnion = false) (hs : c.same c' = true)
    (hstep : ∀ a ∈ c.args, ∀ a' ∈ c'.args, ∀ b ∈ e.args, a.same a' = true →
      k.assignable a' b = true → k.assignable a b = true)
    (h : k.assignable c' e = true) : k.assignable c e = true := by
  obtain ⟨hany, -, hunion, -⟩ := shape_of_same hs
  have horigin := originClass?_of_same (canonical_same k hs)
  rw [assignable_plain hcv' hev (by rwa [← hany]) (by rwa [← hunion]) heu] at h
  rw [assignable_plain hcv hev htop hcu heu]
  rcases h with hsame | ⟨hfit, hargs⟩
  · exact .inl (same_trans (canonical_same k hs) hsame)
  · have hsome := (origins_of_originsFit hfit).1
    have hsameArgs := args_of_same (canonical_same k hs) (horigin ▸ hsome)
    rw [args_canonical, args_canonical] at hsameArgs
    refine .inr ⟨by rwa [originsFit, horigin], fun hlen => ?_⟩
    have hargs := hargs ((allSame_length hsameArgs).symm.trans hlen)
    exact forall₂_comp (allSame_iff_forall₂.mp hsameArgs) hargs hstep

/-- A type fits wherever one that is the same fits. -/
theorem assignable_of_same_left (hc : c.IsGradual k) (hc' : c'.IsGradual k) (he : e.IsGradual k)
    (hs : c.same c' = true) (h : k.assignable c' e = true) : k.assignable c e = true := by
  induction hn : sizeOf c + sizeOf e using Nat.strongRecOn generalizing c c' e with
  | _ n ih =>
    subst hn
    obtain ⟨hany, -, hunion, -⟩ := shape_of_same hs
    cases hcu : c.isUnion with
    | true =>
      rw [assignable_members_left hc'.isVar he.isVar] at h
      rw [assignable_members_left hc.isVar he.isVar]
      intro m hm
      obtain ⟨m', hm', hsame⟩ := exists_same_of_mem_members hs hcu hm
      have hargs : m ∈ c.args := members_of_isUnion hcu ▸ hm
      have hsize := sizeOf_lt_of_mem_args hargs
      exact ih _ (by omega) (hc.of_mem_args hargs) (hc'.of_mem_members hm') he hsame (h m' hm') rfl
    | false =>
      cases htop : c.isAny || e.isAny || e.isObject with
      | true =>
        rw [Bool.or_assoc, Bool.or_eq_true] at htop
        rcases htop with hcany | htop
        · obtain rfl : c = .any := by cases c <;> simp_all [isAny]
          exact any_assignable e
        · exact assignable_of_isTop htop
      | false =>
        have hcany : c.isAny = false := by simp_all
        cases heu : e.isUnion with
        | true =>
          rw [assignable_members_right hc'.isVar (hany ▸ hcany) (hunion ▸ hcu)] at h
          rw [assignable_members_right hc.isVar hcany hcu]
          obtain ⟨m, hm, hfits⟩ := h
          have hargs : m ∈ e.args := members_of_isUnion heu ▸ hm
          have hsize := sizeOf_lt_of_mem_args hargs
          exact ⟨m, hm, ih _ (by omega) hc hc' (he.of_mem_args hargs) hs hfits rfl⟩
        | false =>
          refine plain_of_same_left hc.isVar hc'.isVar he.isVar htop hcu heu hs ?_ h
          intro a ha a' ha' b hb hsame hfits
          have hasize := sizeOf_lt_of_mem_args ha
          have hbsize := sizeOf_lt_of_mem_args hb
          exact ih _ (by omega) (hc.of_mem_args ha) (hc'.of_mem_args ha') (he.of_mem_args hb) hsame
            hfits rfl

variable {us : List Ty} {bars : Bool}

/-- A union that is built fits where all that it is built from does. -/
theorem assignable_unionOf_left_iff (hus : ∀ u ∈ us, u.IsGradual k) (he : e.IsGradual k) :
    k.assignable (unionOf bars us) e = true ↔ ∀ u ∈ us, k.assignable u e = true := by
  refine ⟨fun h u hu => ?_, assignable_unionOf_left hus he.isVar⟩
  have hkept : ∀ m ∈ distinct [] (us.flatMap members), k.assignable m e = true := by
    rcases unionOf_cases bars us with ⟨t, ht, heq⟩ | ⟨-, heq⟩
    · rw [heq] at h
      simpa [ht] using h
    · rw [heq] at h
      exact (assignable_members_left rfl he.isVar).mp h
  refine (assignable_members_left (hus u hu).isVar he.isVar).mpr fun m hm => ?_
  obtain ⟨m', hm', hsame⟩ : ∃ m' ∈ distinct [] (us.flatMap members), m.same m' = true :=
    exists_mem_distinct (List.mem_flatMap.mpr ⟨u, hu, hm⟩)
  obtain ⟨u', hu', hmu'⟩ := mem_flatMap_of_mem_distinct hm'
  exact assignable_of_same_left ((hus u hu).of_mem_members hm) ((hus u' hu').of_mem_members hmu') he
    hsame (hkept m' hm')

/-- A type that is no union fits a union that is built where it fits something that it is built from. -/
theorem assignable_unionOf_right_iff (hc : c.IsGradual k) (hany : c.isAny = false)
    (hunion : c.isUnion = false) (hus : ∀ u ∈ us, u.IsGradual k) :
    k.assignable c (unionOf bars us) = true ↔ ∃ u ∈ us, k.assignable c u = true := by
  constructor
  · intro h
    obtain ⟨m, hm, hfits⟩ : ∃ m ∈ distinct [] (us.flatMap members), k.assignable c m = true := by
      rcases unionOf_cases bars us with ⟨t, ht, heq⟩ | ⟨-, heq⟩
      · rw [heq] at h
        exact ⟨t, by simp [ht], h⟩
      · rw [heq] at h
        exact (assignable_members_right hc.isVar hany hunion).mp h
    obtain ⟨u, hu, hmu⟩ := mem_flatMap_of_mem_distinct hm
    exact ⟨u, hu, (assignable_members_right hc.isVar hany hunion).mpr ⟨m, hmu, hfits⟩⟩
  · rintro ⟨u, hu, hfits⟩
    exact assignable_unionOf_right hc hany hunion hus hu hfits

/-! ### Replacing scalars -/

/-- What is left of a type that is no union where scalars are replaced in it: it counts as the same
class, and it is either no parameterized class or keeps its head, which answers about itself. -/
structure StillCounts (k : Classes) (t t' : Ty) : Prop where
  isAny : t'.isAny = t.isAny
  isUnion : t'.isUnion = false
  isObject : t'.isObject = t.isObject
  origin : (k.canonical t').originClass? = (k.canonical t).originClass?
  args : List.Forall₂ (Unboxes k) t.args t'.args
  answers : k.canonical t' = k.canonical t ∧ t.args = [] ∨
    ∃ a, (k.canonical t).originClass? = some a ∧ k.sub a a = true

theorem stillCounts (hk : k.BoxesCore) (h : c.IsGradual k) (hu : Unboxes k c c')
    (hunion : c.isUnion = false) : StillCounts k c c' := by
  cases hu with
  | refl =>
    refine ⟨rfl, hunion, rfl, rfl, List.forall₂_same.mpr fun t _ => .refl t, ?_⟩
    cases c with
    | app hd ts =>
      obtain ⟨a, ha, hself, -⟩ := Head.exists_of_answers h.1
      exact .inr ⟨a, by cases hd <;> exact ha, hself⟩
    | union => simp [Ty.isUnion] at hunion
    | _ => exact .inl ⟨rfl, rfl⟩
  | box d =>
    have hcanon : k.canonical (.cls (k.unboxed d)) = k.canonical (.cls d) := by
      simp only [canonical, hk.unboxed_unboxed]
    refine ⟨rfl, rfl, ?_, congrArg _ hcanon, .nil, .inl ⟨hcanon, rfl⟩⟩
    rw [Bool.eq_iff_iff]
    simpa only [Ty.isObject, beq_iff_eq] using hk.unboxed_eq_object_iff d
  | app hd hus =>
    obtain ⟨a, ha, hself, -⟩ := Head.exists_of_answers h.1
    exact ⟨rfl, rfl, rfl, by cases hd <;> rfl, hus, .inr ⟨a, by cases hd <;> exact ha, hself⟩⟩
  | union => simp [Ty.isUnion] at hunion

/-- Where one of the classes answers about itself, types without unions fit part by part. -/
theorem assignable_plain_of_answers (hc : c.IsGradual k) (he : e.IsGradual k)
    (htop : (c.isAny || e.isAny || e.isObject) = false) (hcu : c.isUnion = false)
    (heu : e.isUnion = false) {a : ClassName} (hself : k.sub a a = true)
    (ha : (k.canonical c).originClass? = some a ∨ (k.canonical e).originClass? = some a) :
    k.assignable c e = true ↔ k.originsFit (k.canonical c) (k.canonical e) = true ∧
      (c.args.length = e.args.length →
        List.Forall₂ (fun a b => k.assignable a b = true) c.args e.args) := by
  refine ⟨fun h => ?_, fun h => (assignable_plain hc.isVar he.isVar htop hcu heu).mpr (.inr h)⟩
  have hfit : k.originsFit (k.canonical c) (k.canonical e) = true := by
    rcases (assignable_plain hc.isVar he.isVar htop hcu heu).mp h with hsame | ⟨hfit, -⟩
    · have horigin := originClass?_of_same hsame
      have hac : (k.canonical c).originClass? = some a := ha.elim id (horigin ▸ ·)
      simp [originsFit, ← horigin, hac, hself]
    · exact hfit
  exact ⟨hfit, args_of_assignable hc he htop hcu heu (origins_of_originsFit hfit).1 h⟩

theorem forall₂_iff_of_members {α : Type} {R P : α → α → Prop} {as as' bs bs' : List α}
    (ha : List.Forall₂ R as as') (hb : List.Forall₂ R bs bs')
    (h : ∀ a ∈ as, ∀ b ∈ bs, ∀ a' b', R a a' → R b b' → (P a' b' ↔ P a b)) :
    List.Forall₂ P as' bs' ↔ List.Forall₂ P as bs := by
  induction ha generalizing bs bs' with
  | nil => cases hb <;> simp
  | cons haa _ ih =>
    cases hb with
    | nil => simp
    | cons hbb hbs =>
      rw [List.forall₂_cons, List.forall₂_cons, h _ (by simp) _ (by simp) _ _ haa hbb, ih hbs]
      exact fun a ha b hb => h a (by simp [ha]) b (by simp [hb])

/-- One step without unions, given the step for the arguments. -/
theorem plain_of_unboxes (hc : c.IsGradual k) (he : e.IsGradual k) (hc' : c'.IsGradual k)
    (he' : e'.IsGradual k) (hcu : c.isUnion = false) (heu : e.isUnion = false)
    (hcs : StillCounts k c c') (hes : StillCounts k e e')
    (hstep : ∀ a ∈ c.args, ∀ b ∈ e.args, ∀ a' b', Unboxes k a a' → Unboxes k b b' →
      (k.assignable a' b' = true ↔ k.assignable a b = true)) :
    k.assignable c' e' = true ↔ k.assignable c e = true := by
  have htop' : (c'.isAny || e'.isAny || e'.isObject) = (c.isAny || e.isAny || e.isObject) := by
    rw [hcs.isAny, hes.isAny, hes.isObject]
  cases htop : c.isAny || e.isAny || e.isObject with
  | true =>
    rw [assignable_eq, assignable_eq, finalize_of_not_isVar hc.isVar, finalize_of_not_isVar he.isVar,
      finalize_of_not_isVar hc'.isVar, finalize_of_not_isVar he'.isVar, htop', htop]
    simp
  | false =>
    rw [htop] at htop'
    have hparts : ∀ {a : ClassName}, k.sub a a = true →
        ((k.canonical c).originClass? = some a ∨ (k.canonical e).originClass? = some a) →
        (k.assignable c' e' = true ↔ k.assignable c e = true) := by
      intro a hself ha
      rw [assignable_plain_of_answers hc he htop hcu heu hself ha,
        assignable_plain_of_answers hc' he' htop' hcs.isUnion hes.isUnion hself
          (by rwa [hcs.origin, hes.origin]),
        originsFit, originsFit, hcs.origin, hes.origin, hcs.args.length_eq, hes.args.length_eq,
        forall₂_iff_of_members hcs.args hes.args hstep]
    rcases hcs.answers with ⟨hcanon, hnil⟩ | ⟨a, ha, hself⟩
    · rcases hes.answers with ⟨hcanon', hnil'⟩ | ⟨a, ha, hself⟩
      · -- neither side is parameterized, and both count as what they counted as
        have hargs : c'.args = [] ∧ e'.args = [] :=
          ⟨by simpa [hnil] using hcs.args, by simpa [hnil'] using hes.args⟩
        rw [assignable_plain hc.isVar he.isVar htop hcu heu,
          assignable_plain hc'.isVar he'.isVar htop' hcs.isUnion hes.isUnion, hcanon, hcanon', hnil,
          hnil', hargs.1, hargs.2]
      · exact hparts hself (.inr ha)
    · exact hparts hself (.inl ha)

/-- One step with a union on the left, given the step for its members. -/
theorem union_left_of_unboxes (hc : c.IsGradual k) (he : e.IsGradual k) (he' : e'.IsGradual k)
    (hunion : c.isUnion = true) (hcu : Unboxes k c c')
    (hstep : ∀ m ∈ c.members, ∀ m', Unboxes k m m' →
      (k.assignable m' e' = true ↔ k.assignable m e = true)) :
    k.assignable c' e' = true ↔ k.assignable c e = true := by
  rw [assignable_members_left hc.isVar he.isVar]
  cases hcu with
  | refl =>
    rw [assignable_members_left hc.isVar he'.isVar]
    exact forall_congr' fun m => imp_congr_right fun hm => hstep m hm m (.refl m)
  | union bars bars' hus =>
    rw [assignable_unionOf_left_iff (Unboxes.isGradual_of_members hc hus) he']
    constructor
    · intro h m hm
      obtain ⟨u, hu, hmu⟩ := exists_of_mem_left hus hm
      exact (hstep m hm u hmu).mp (h u hu)
    · intro h u hu
      obtain ⟨m, hm, hmu⟩ := exists_of_mem_right hus hu
      exact (hstep m hm u hmu).mpr (h m hm)
  | box | app => simp [Ty.isUnion] at hunion

/-- One step with a union on the right, given the step for its members. -/
theorem union_right_of_unboxes (hc : c.IsGradual k) (hc' : c'.IsGradual k) (he : e.IsGradual k)
    (hany : c.isAny = false) (hcs : StillCounts k c c') (hcu : c.isUnion = false)
    (hunion : e.isUnion = true) (heu : Unboxes k e e')
    (hstep : ∀ m ∈ e.members, ∀ m', Unboxes k m m' →
      (k.assignable c' m' = true ↔ k.assignable c m = true)) :
    k.assignable c' e' = true ↔ k.assignable c e = true := by
  have hany' : c'.isAny = false := hcs.isAny.trans hany
  rw [assignable_members_right hc.isVar hany hcu]
  cases heu with
  | refl =>
    rw [assignable_members_right hc'.isVar hany' hcs.isUnion]
    exact exists_congr fun m => and_congr_right fun hm => hstep m hm m (.refl m)
  | union bars bars' hus =>
    rw [assignable_unionOf_right_iff hc' hany' hcs.isUnion (Unboxes.isGradual_of_members he hus)]
    constructor
    · rintro ⟨u, hu, hfits⟩
      obtain ⟨m, hm, hmu⟩ := exists_of_mem_right hus hu
      exact ⟨m, hm, (hstep m hm u hmu).mp hfits⟩
    · rintro ⟨m, hm, hfits⟩
      obtain ⟨u, hu, hmu⟩ := exists_of_mem_left hus hm
      exact ⟨u, hu, (hstep m hm u hmu).mpr hfits⟩
  | box | app => simp [Ty.isUnion] at hunion

/-- Replacing sized scalars by what they box, anywhere on both sides, changes nothing about whether the
one type fits the other. -/
theorem assignable_iff_of_unboxes (hk : k.BoxesCore) (hc : c.IsGradual k) (he : e.IsGradual k)
    (hcu : Unboxes k c c') (heu : Unboxes k e e') :
    k.assignable c' e' = true ↔ k.assignable c e = true := by
  induction hn : sizeOf c + sizeOf e using Nat.strongRecOn generalizing c e c' e' with
  | _ n ih =>
    subst hn
    have hc' := hcu.isGradual hc
    have he' := heu.isGradual he
    cases hunion : c.isUnion with
    | true =>
      have hmembers : ∀ m ∈ c.members, ∀ m', Unboxes k m m' →
          (k.assignable m' e' = true ↔ k.assignable m e = true) := by
        intro m hm m' hmm
        have hargs : m ∈ c.args := members_of_isUnion hunion ▸ hm
        have hsize := sizeOf_lt_of_mem_args hargs
        exact ih _ (by omega) (hc.of_mem_args hargs) he hmm heu rfl
      exact union_left_of_unboxes hc he he' hunion hcu hmembers
    | false =>
      have hcs := stillCounts hk hc hcu hunion
      cases hany : c.isAny with
      | true =>
        obtain rfl : c = .any := by cases c <;> simp_all [isAny]
        obtain rfl : c' = .any := by cases hcu; rfl
        simp [any_assignable]
      | false =>
        cases hunion' : e.isUnion with
        | true =>
          have hmembers : ∀ m ∈ e.members, ∀ m', Unboxes k m m' →
              (k.assignable c' m' = true ↔ k.assignable c m = true) := by
            intro m hm m' hmm
            have hargs : m ∈ e.args := members_of_isUnion hunion' ▸ hm
            have hsize := sizeOf_lt_of_mem_args hargs
            exact ih _ (by omega) hc (he.of_mem_args hargs) hcu hmm rfl
          exact union_right_of_unboxes hc hc' he hany hcs hunion hunion' heu hmembers
        | false =>
          refine plain_of_unboxes hc he hc' he' hunion hunion' hcs (stillCounts hk he heu hunion') ?_
          intro a ha b hb a' b' haa hbb
          have hasize := sizeOf_lt_of_mem_args ha
          have hbsize := sizeOf_lt_of_mem_args hb
          exact ih _ (by omega) (hc.of_mem_args ha) (he.of_mem_args hb) haa hbb rfl

end Classes

namespace World

open Ty

/-- Whatever callers have declared, what sized scalars box is no sized scalar. -/
theorem IsExtended.boxesCore {w : World} (hw : w.IsExtended) : w.classes.BoxesCore := by
  obtain ⟨-, -, -, hgeneric, hcore, -⟩ := initial_entries
  intro b hb
  obtain ⟨i, hfind, hplain⟩ := Option.map_eq_some_iff.mp (hcore b hb)
  have hmro : (Hierarchy.initial.table.find? b).map (·.mro) = some i.mro := by rw [hfind]; rfl
  exact (hw.sub_of_initial hmro hgeneric (by decide)).trans hplain

/-- Sized scalars and the core classes that they box are interchangeable: whatever callers have declared,
replacing the ones by the others, at any depth on either side, does not change whether a type fits. -/
theorem IsExtended.assignable_unboxes {w : World} (hw : w.IsExtended) {c c' e e' : Ty}
    (hc : c.IsGradual w.classes) (he : e.IsGradual w.classes) (hcu : Unboxes w.classes c c')
    (heu : Unboxes w.classes e e') : w.classes.assignable c' e' = w.classes.assignable c e := by
  rw [Bool.eq_iff_iff]
  exact Classes.assignable_iff_of_unboxes hw.boxesCore hc he hcu heu

/-- Dictionaries from sized texts to sized numbers stay acceptable where all of them are replaced on the
left, so that two members of a union become one, and some of them on the right. -/
theorem sized_dict_fits :
    let sized (name : String) := Ty.cls ⟨"numpy", name⟩
    let core (name : String) := Ty.cls (.core name)
    let dict (key value : Ty) := Ty.app (.cls (.core "dict")) [key, value]
    let c := dict (sized "str_") (.union true [sized "int8", sized "uint64"])
    let c' := dict (core "str") (unionOf true [core "int", core "int"])
    let e' := dict (sized "str_") (unionOf false [core "int", sized "uint64"])
    initial.classes.assignable c c = true ∧ initial.classes.assignable c' e' = true := by
  intro sized core dict c c' e'
  obtain ⟨-, -, -, -, -, -, hboxed, hself, hplain, -⟩ := initial_entries
  have hstr : initial.classes.unboxed ⟨"numpy", "str_"⟩ = .core "str" :=
    hboxed ("str_", "str") (by simp)
  have hint8 : initial.classes.unboxed ⟨"numpy", "int8"⟩ = .core "int" :=
    hboxed ("int8", "int") (by simp)
  have huint64 : initial.classes.unboxed ⟨"numpy", "uint64"⟩ = .core "int" :=
    hboxed ("uint64", "int") (by simp)
  have hdict : Head.answers initial.classes (.cls (.core "dict")) = true := by
    change (initial.classes.sub (.core "dict") (.core "dict") &&
      !initial.classes.sub (.core "dict") ⟨"numpy", "generic"⟩) = true
    rw [hself, hplain]
    rfl
  have hc : c.IsGradual initial.classes := by
    simp [c, sized, dict, IsGradual, AreGradual, hdict]
  have hcc : initial.classes.assignable c c = true :=
    (Classes.assignable_plain rfl rfl rfl rfl rfl).mpr (.inl (same_refl _))
  have hleft : Unboxes initial.classes c c' := by
    have hbuilt := Unboxes.app (k := initial.classes) (.cls (.core "dict"))
      (.cons (.box ⟨"numpy", "str_"⟩)
        (.cons (.union true true (.cons (.box ⟨"numpy", "int8"⟩) (.cons (.box ⟨"numpy", "uint64"⟩) .nil)))
          .nil))
    rw [hstr, hint8, huint64] at hbuilt
    exact hbuilt
  have hright : Unboxes initial.classes c e' := by
    have hbuilt := Unboxes.app (k := initial.classes) (.cls (.core "dict"))
      (.cons (.refl (sized "str_"))
        (.cons (.union true false (.cons (.box ⟨"numpy", "int8"⟩) (.cons (.refl (sized "uint64")) .nil)))
          .nil))
    rw [hint8] at hbuilt
    exact hbuilt
  exact ⟨hcc, (isExtended_initial.assignable_unboxes hc hc hleft hright).trans hcc⟩

end World

end FunctionObjects
