import FunctionObjects.Descriptor.Substitution
import FunctionObjects.Proofs.Descriptor.Equivalence
/-!
# Descriptors as they are built

The members of a union that is built are apart from each other, and none of them is a union.  On such
descriptors being the same type is symmetric, and two of them are the same exactly if their members
are, whatever the order: so a union can be compared by what went into it.
-/

namespace FunctionObjects

/-- What becomes of an argument of a parameterized form. -/
def Head.argument : Head → Ty → Ty
  | .cls c, t => if c.isPlainGeneric then t else t.asArgument
  | .named .callable, t => t.callableArgument
  | _, t => t.asArgument

namespace Ty

variable {t u : Ty} {ts us vs : List Ty}

theorem applied_eq (h : Head) (ts : List Ty) : applied h ts = .app h (ts.map h.argument) := by
  cases h with
  | cls c =>
    have hargument : (Head.cls c).argument = if c.isPlainGeneric then id else asArgument := by
      funext t
      by_cases hc : c.isPlainGeneric = true <;> simp [Head.argument, hc]
    by_cases hc : c.isPlainGeneric = true <;> simp [applied, hargument, hc]
  | named a => cases a <;> rfl
  | literal => rfl

/-- Types of which none is the same as an earlier one. -/
def Apart (ts : List Ty) : Prop := ts.Pairwise fun t u => u.same t = false

mutual

/-- A descriptor as it is built: its unions have no unions as members, no member twice and not just one
member, and what stands among arguments is an argument. -/
def Proper : Ty → Prop
  | .app .literal ts => Apart ts ∧ ProperAll ts
  | .app h ts => ts.map h.argument = ts ∧ ProperAll ts
  | .union _ ts =>
    (∀ t ∈ ts, t.isUnion = false ∧ t.asArgument = t) ∧ Apart ts ∧ ts.length ≠ 1 ∧ ProperAll ts
  | .params ts => ProperAll ts
  | _ => True

def ProperAll : List Ty → Prop
  | [] => True
  | t :: ts => Proper t ∧ ProperAll ts

end

theorem properAll_iff : ProperAll ts ↔ ∀ t ∈ ts, t.Proper := by
  induction ts with
  | nil => simp [ProperAll]
  | cons t ts ih => simp [ProperAll, ih]

theorem proper_app {h : Head} (hh : h ≠ .literal) :
    (Ty.app h ts).Proper ↔ ts.map h.argument = ts ∧ ∀ t ∈ ts, t.Proper := by
  cases h with
  | literal => exact absurd rfl hh
  | _ => simp [Proper, properAll_iff]

/-- A relation that keeps the entries of a list apart reaches every entry of a list of equal length. -/
theorem onto_of_apart {α β : Type} {R : α → β → Prop} : ∀ {as : List α} {bs : List β},
    (as.Pairwise fun a a' => ∀ b, R a b → ¬ R a' b) → (∀ a ∈ as, ∃ b ∈ bs, R a b) →
      as.length ≤ bs.length ∧ (bs.length = as.length → ∀ b ∈ bs, ∃ a ∈ as, R a b)
  | [], bs, _, _ => by
    refine ⟨Nat.zero_le _, fun hlen b hb => ?_⟩
    rw [List.eq_nil_of_length_eq_zero hlen] at hb
    cases hb
  | a :: as, bs, hapart, hall => by
    obtain ⟨b, hb, hab⟩ := hall a List.mem_cons_self
    obtain ⟨front, back, rfl⟩ := List.append_of_mem hb
    rw [List.pairwise_cons] at hapart
    have hrest : ∀ a' ∈ as, ∃ b' ∈ front ++ back, R a' b' := by
      intro a' ha'
      obtain ⟨b', hb', hab'⟩ := hall a' (List.mem_cons_of_mem _ ha')
      refine ⟨b', ?_, hab'⟩
      rcases List.mem_append.mp hb' with hfront | hback
      · exact List.mem_append_left _ hfront
      · rcases List.mem_cons.mp hback with rfl | hback
        · exact absurd hab' (hapart.1 a' ha' b' hab)
        · exact List.mem_append_right _ hback
    obtain ⟨hle, honto⟩ := onto_of_apart hapart.2 hrest
    simp only [List.length_append, List.length_cons] at hle honto ⊢
    refine ⟨by omega, fun hlen b' hb' => ?_⟩
    by_cases hmem : b' ∈ front ++ back
    · obtain ⟨a', ha', hab'⟩ := honto (by omega) b' hmem
      exact ⟨a', List.mem_cons_of_mem _ ha', hab'⟩
    · obtain rfl : b' = b := by
        simp only [List.mem_append, List.mem_cons, not_or] at hb' hmem
        tauto
      exact ⟨a, List.mem_cons_self, hab⟩

/-- Types that are apart and in another list are all that is there, if there are equally many. -/
theorem Apart.onto (hts : Apart ts) (hsymm : ∀ t ∈ ts, ∀ u ∈ us, t.same u = true → u.same t = true)
    (hall : ∀ t ∈ ts, ∃ u ∈ us, t.same u = true) :
    ts.length ≤ us.length ∧ (us.length = ts.length → ∀ u ∈ us, ∃ t ∈ ts, u.same t = true) := by
  let Meets (t u : Ty) : Prop := u ∈ us ∧ t.same u = true
  have hapart : ts.Pairwise fun t t' => ∀ u, Meets t u → ¬ Meets t' u := by
    refine List.Pairwise.imp_of_mem (fun {t t'} ht _ happart u htu ht'u => ?_) hts
    rw [same_trans ht'u.2 (hsymm t ht u htu.1 htu.2)] at happart
    cases happart
  obtain ⟨hle, honto⟩ := onto_of_apart (R := Meets) hapart fun t ht => by
    obtain ⟨u, hu, hsame⟩ := hall t ht
    exact ⟨u, hu, hu, hsame⟩
  refine ⟨hle, fun hlen u hu => ?_⟩
  obtain ⟨t, ht, -, hsame⟩ := honto hlen u hu
  exact ⟨t, ht, hsymm t ht u hu hsame⟩

mutual

theorem same_symm : ∀ {t u : Ty}, t.Proper → u.Proper → t.same u = true → u.same t = true
  | .app .literal ts, u, ht, hu, hs => by
    obtain ⟨us, rfl, hus⟩ := app_same hs
    simp only [if_true] at hus
    simp only [same, Bool.and_eq_true, beq_iff_eq]
    exact ⟨allWithin_symm ht.1 ht.2 hu.2 hus.1 hus.2, hus.2.symm⟩
  | .app (.cls c) ts, u, ht, hu, hs | .app (.named a) ts, u, ht, hu, hs => by
    obtain ⟨us, rfl, hus⟩ := app_same hs
    simp only [reduceCtorEq, if_false] at hus
    simp [same, allSame_symm ht.2 hu.2 hus]
  | .union _ ts, u, ht, hu, hs => by
    obtain ⟨_, us, rfl, hus, hlen⟩ := union_same hs
    simp only [same, Bool.and_eq_true, beq_iff_eq]
    exact ⟨allWithin_symm ht.2.1 ht.2.2.2 hu.2.2.2 hus hlen, hlen.symm⟩
  | .params ts, u, ht, hu, hs => by
    cases u <;> simp only [same, Bool.false_eq_true] at hs
    exact allSame_symm ht hu hs
  | .any, u, _, _, hs | .none, u, _, _, hs | .ellipsis, u, _, _, hs | .cls _, u, _, _, hs
  | .named _, u, _, _, hs | .form _, u, _, _, hs | .lit _, u, _, _, hs | .forward _, u, _, _, hs
  | .var .., u, _, _, hs => by
    cases u <;> simp_all [same]

theorem allSame_symm : ∀ {ts us : List Ty}, ProperAll ts → ProperAll us → allSame ts us = true →
    allSame us ts = true
  | [], [], _, _, _ => rfl
  | t :: ts, u :: us, ht, hu, hs => by
    simp only [allSame, Bool.and_eq_true] at hs ⊢
    exact ⟨same_symm ht.1 hu.1 hs.1, allSame_symm ht.2 hu.2 hs.2⟩
  | [], _ :: _, _, _, hs | _ :: _, [], _, _, hs => by simp [allSame] at hs

theorem allWithin_symm : ∀ {ts us : List Ty}, Apart ts → ProperAll ts → ProperAll us →
    allWithin ts us = true → us.length = ts.length → allWithin us ts = true := by
  intro ts us hapart hts hus hwithin hlen
  refine allWithin_iff.mpr ((hapart.onto ?_ (allWithin_iff.mp hwithin)).2 hlen)
  exact fun t ht u hu hs => same_symm (properAll_iff.mp hts t ht) (properAll_iff.mp hus u hu) hs

end

/-- Two lists that hold the same types, in whatever order and however often. -/
def Alike (ts us : List Ty) : Prop :=
  (∀ t ∈ ts, ∃ u ∈ us, t.same u = true) ∧ ∀ u ∈ us, ∃ t ∈ ts, u.same t = true

theorem Alike.refl (ts : List Ty) : Alike ts ts :=
  ⟨fun t ht => ⟨t, ht, same_refl t⟩, fun t ht => ⟨t, ht, same_refl t⟩⟩

theorem Alike.symm (h : Alike ts us) : Alike us ts := ⟨h.2, h.1⟩

theorem Alike.trans (h : Alike ts us) (h' : Alike us vs) : Alike ts vs := by
  constructor
  · intro t ht
    obtain ⟨u, hu, htu⟩ := h.1 t ht
    obtain ⟨v, hv, huv⟩ := h'.1 u hu
    exact ⟨v, hv, same_trans htu huv⟩
  · intro v hv
    obtain ⟨u, hu, hvu⟩ := h'.2 v hv
    obtain ⟨t, ht, hut⟩ := h.2 u hu
    exact ⟨t, ht, same_trans hvu hut⟩

/-- Lists are alike if their parts are. -/
theorem Alike.flatMap {α β : Type} {as : List α} {bs : List β} {f : α → List Ty} {g : β → List Ty}
    (h : ∀ a ∈ as, ∃ b ∈ bs, Alike (f a) (g b)) (h' : ∀ b ∈ bs, ∃ a ∈ as, Alike (f a) (g b)) :
    Alike (as.flatMap f) (bs.flatMap g) := by
  constructor
  · intro t ht
    obtain ⟨a, ha, hta⟩ := List.mem_flatMap.mp ht
    obtain ⟨b, hb, hab⟩ := h a ha
    obtain ⟨u, hu, hsame⟩ := hab.1 t hta
    exact ⟨u, List.mem_flatMap.mpr ⟨b, hb, hu⟩, hsame⟩
  · intro u hu
    obtain ⟨b, hb, hub⟩ := List.mem_flatMap.mp hu
    obtain ⟨a, ha, hab⟩ := h' b hb
    obtain ⟨t, ht, hsame⟩ := hab.2 u hub
    exact ⟨t, List.mem_flatMap.mpr ⟨a, ha, ht⟩, hsame⟩

theorem Proper.of_mem_members (h : t.Proper) (hu : u ∈ t.members) : u.Proper := by
  cases t with
  | union => exact properAll_iff.mp h.2.2.2 u hu
  | _ =>
    obtain rfl := List.mem_singleton.mp hu
    exact h

theorem Proper.isUnion_of_mem_members (h : t.Proper) (hu : u ∈ t.members) : u.isUnion = false := by
  cases t with
  | union => exact (h.1 u hu).1
  | _ =>
    obtain rfl := List.mem_singleton.mp hu
    rfl

/-- Not the members of a union: there is never just one of them. -/
theorem Proper.not_alike_singleton (h : u.Proper) (hunion : u.isUnion = true) (ht : t.Proper) :
    ¬ Alike [t] u.members := by
  intro halike
  cases u <;> simp only [isUnion, Bool.false_eq_true] at hunion
  rename_i bars us
  have hall : ∀ u ∈ us, u.same t = true := fun u hu => by
    simpa using halike.2 u hu
  cases us with
  | nil => simpa [members] using halike.1 t (by simp)
  | cons u us =>
    cases us with
    | nil => exact h.2.2.1 rfl
    | cons u' us =>
      have happart : u'.same u = false := List.rel_of_pairwise_cons h.2.1 List.mem_cons_self
      have hu := properAll_iff.mp h.2.2.2 u (by simp)
      rw [same_trans (hall u' (by simp)) (same_symm hu ht (hall u (by simp)))] at happart
      cases happart

/-- Descriptors are the same exactly if their members are. -/
theorem same_iff_alike (ht : t.Proper) (hu : u.Proper) :
    t.same u = true ↔ Alike t.members u.members := by
  constructor
  · intro hs
    have hs' := same_symm ht hu hs
    obtain ⟨-, -, hunion, -⟩ := Classes.shape_of_same hs
    cases htu : t.isUnion with
    | true =>
      exact ⟨fun m hm => Classes.exists_same_of_mem_members hs htu hm,
        fun m hm => Classes.exists_same_of_mem_members hs' (hunion ▸ htu) hm⟩
    | false =>
      rw [members_of_not_isUnion htu, members_of_not_isUnion (hunion ▸ htu)]
      exact ⟨by simpa using hs, by simpa using hs'⟩
  · intro halike
    cases htu : t.isUnion with
    | true =>
      cases huu : u.isUnion with
      | true =>
        cases t <;> simp only [isUnion, Bool.false_eq_true] at htu
        cases u <;> simp only [isUnion, Bool.false_eq_true] at huu
        have hsymm : ∀ {a b : Ty}, a.Proper → b.Proper → a.same b = true → b.same a = true :=
          same_symm
        have hle := (ht.2.1.onto (fun a ha b hb => hsymm (ht.of_mem_members ha)
          (hu.of_mem_members hb)) halike.1).1
        have hle' := (hu.2.1.onto (fun a ha b hb => hsymm (hu.of_mem_members ha)
          (ht.of_mem_members hb)) halike.2).1
        simp only [same, Bool.and_eq_true, beq_iff_eq]
        exact ⟨allWithin_iff.mpr halike.1, Nat.le_antisymm hle' hle⟩
      | false =>
        rw [members_of_not_isUnion huu] at halike
        exact absurd halike.symm (ht.not_alike_singleton htu hu)
    | false =>
      rw [members_of_not_isUnion htu] at halike
      cases huu : u.isUnion with
      | true => exact absurd halike (hu.not_alike_singleton huu ht)
      | false => simpa [members_of_not_isUnion huu] using halike.1 t List.mem_cons_self

/-- What is kept is apart. -/
theorem apart_distinct {done : List Ty} (h : done.Pairwise fun t u => t.same u = false) :
    Apart (distinct done ts) := by
  induction ts generalizing done with
  | nil =>
    rw [distinct, Apart, List.pairwise_reverse]
    exact h
  | cons t ts ih =>
    rw [distinct]
    split
    · exact ih h
    · rename_i hnot
      refine ih (List.pairwise_cons.mpr ⟨fun u hu => ?_, h⟩)
      simp only [within, List.any_eq_true, not_exists, not_and] at hnot
      exact Bool.eq_false_iff.mpr (hnot u hu)

theorem alike_distinct : Alike (distinct [] ts) ts := by
  constructor
  · intro t ht
    exact ⟨t, (mem_of_mem_distinct ht).resolve_left (by simp), same_refl t⟩
  · exact fun t ht => exists_mem_distinct ht

/-- Building a union flattens its members and joins those that are the same. -/
theorem members_unionOf {bars : Bool} (h : ∀ t ∈ ts, t.Proper) :
    (unionOf bars ts).members = distinct [] (ts.flatMap members) := by
  rcases unionOf_cases bars ts with ⟨t, ht, heq⟩ | ⟨-, heq⟩
  · have hmem : t ∈ distinct [] (ts.flatMap members) := by simp [ht]
    obtain ⟨u, hu, htu⟩ := mem_flatMap_of_mem_distinct hmem
    rw [heq, ht, members_of_not_isUnion ((h u hu).isUnion_of_mem_members htu)]
  · rw [heq]
    rfl

theorem alike_unionOf {bars : Bool} (h : ∀ t ∈ ts, t.Proper) :
    Alike (unionOf bars ts).members (ts.flatMap members) := by
  rw [members_unionOf h]
  exact alike_distinct

/-- What stands among arguments, and is built as such. -/
def IsArgument (t : Ty) : Prop := t.Proper ∧ t.asArgument = t

theorem IsArgument.of_mem_members (h : t.IsArgument) (hu : u ∈ t.members) : u.IsArgument := by
  refine ⟨h.1.of_mem_members hu, ?_⟩
  cases t with
  | union => exact (h.1.1 u hu).2
  | _ =>
    obtain rfl := List.mem_singleton.mp hu
    exact h.2

theorem isArgument_unionOf {bars : Bool} (h : ∀ t ∈ ts, t.IsArgument) :
    (unionOf bars ts).IsArgument := by
  have hmem : ∀ t ∈ distinct [] (ts.flatMap members), t.IsArgument ∧ t.isUnion = false := by
    intro t ht
    obtain ⟨u, hu, htu⟩ := mem_flatMap_of_mem_distinct ht
    exact ⟨(h u hu).of_mem_members htu, (h u hu).1.isUnion_of_mem_members htu⟩
  rcases unionOf_cases bars ts with ⟨t, ht, heq⟩ | ⟨hone, heq⟩
  · rw [heq]
    exact (hmem t (by simp [ht])).1
  · rw [heq]
    exact ⟨⟨fun t ht => ⟨(hmem t ht).2, (hmem t ht).1.2⟩, apart_distinct .nil, hone,
      properAll_iff.mpr fun t ht => (hmem t ht).1.1⟩, rfl⟩

end Ty

end FunctionObjects
