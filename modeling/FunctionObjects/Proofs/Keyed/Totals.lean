import FunctionObjects.Proofs.Descriptor.Proper
import FunctionObjects.Proofs.Keyed.Entries
/-!
# Totals under keys

With an operation that is commutative and associative and has nothing as its neutral element, only the
keys and their totals count of entries, not the order.  Entries that agree on both are equal as
dictionaries if no key stands twice.
-/

namespace FunctionObjects.Keyed

open Datum

variable {α : Type} {K : Datum → Prop} {op : α → α → α} {nothing : α}
  {es fs gs : List (Datum × α)} {e : Datum × α} {k : Datum}

/-- Everything under a key taken together. -/
def total (op : α → α → α) (nothing : α) (es : List (Datum × α)) (k : Datum) : α :=
  (under k es).foldl op nothing

/-- Whether an entry has a key. -/
def mentions (es : List (Datum × α)) (k : Datum) : Bool := es.any fun e => k.sameItem e.1

/-- Entries with the same keys and totals. -/
def Agree (K : Datum → Prop) (op : α → α → α) (nothing : α) (es fs : List (Datum × α)) : Prop :=
  ∀ k, K k → mentions es k = mentions fs k ∧ total op nothing es k = total op nothing fs k

theorem Agree.trans (h : Agree K op nothing es fs) (g : Agree K op nothing fs gs) :
    Agree K op nothing es gs :=
  fun k hk => ⟨(h k hk).1.trans (g k hk).1, (h k hk).2.trans (g k hk).2⟩

theorem Agree.symm (h : Agree K op nothing es fs) : Agree K op nothing fs es :=
  fun k hk => ⟨(h k hk).1.symm, (h k hk).2.symm⟩

theorem under_append (k : Datum) (es fs : List (Datum × α)) :
    under k (es ++ fs) = under k es ++ under k fs := by
  rw [under, List.filter_append, List.map_append]
  rfl

theorem mentions_append (es fs : List (Datum × α)) (k : Datum) :
    mentions (es ++ fs) k = (mentions es k || mentions fs k) := List.any_append

section Monoid

variable [Std.Associative op] [Std.LawfulRightIdentity op nothing]

theorem total_append (es fs : List (Datum × α)) (k : Datum) :
    total op nothing (es ++ fs) k = op (total op nothing es k) (total op nothing fs k) := by
  have hidentity : ∀ a : α, op a nothing = a := Std.LawfulRightIdentity.right_id
  rw [total, under_append, List.foldl_append]
  calc (under k fs).foldl op (total op nothing es k)
      = (under k fs).foldl op (op (total op nothing es k) nothing) := by rw [hidentity]
    _ = op (total op nothing es k) (total op nothing fs k) := List.foldl_assoc

theorem Agree.append {es' fs' : List (Datum × α)} (h : Agree K op nothing es fs)
    (h' : Agree K op nothing es' fs') : Agree K op nothing (es ++ es') (fs ++ fs') := by
  intro k hk
  rw [mentions_append, mentions_append, total_append, total_append, (h k hk).1, (h k hk).2,
    (h' k hk).1, (h' k hk).2]
  exact ⟨rfl, rfl⟩

end Monoid

/-- The order of the entries does not count. -/
theorem Agree.of_perm [Std.Associative op] [Std.Commutative op] (h : es.Perm fs) :
    Agree K op nothing es fs := by
  intro k _
  exact ⟨h.any_eq, ((h.filter _).map _).foldl_op_eq⟩

theorem Agree.refl (es : List (Datum × α)) : Agree K op nothing es es := fun _ _ => ⟨rfl, rfl⟩

theorem entriesIn_iff {es fs : List (Datum × Datum)} : entriesIn es fs = true ↔
    ∀ e ∈ es, ∃ f ∈ fs, e.1.sameItem f.1 = true ∧ e.2.sameItem f.2 = true := by
  induction es with
  | nil => simp [entriesIn]
  | cons e es ih =>
    rw [entriesIn_cons, Bool.and_eq_true, ih, List.forall_mem_cons, List.any_eq_true]
    simp only [Bool.and_eq_true]

theorem forall_foldl_combine (hes : ∀ e ∈ es, K e.1) (hfs : ∀ f ∈ fs, K f.1) :
    ∀ e ∈ fs.foldl (combine op nothing) es, K e.1 := by
  induction fs generalizing es with
  | nil => exact hes
  | cons f fs ih =>
    exact ih (forall_combine hes (hfs f List.mem_cons_self))
      fun g hg => hfs g (List.mem_cons_of_mem f hg)

theorem Distinct.foldl_combine (h : Distinct es) :
    Distinct (fs.foldl (Keyed.combine op nothing) es) := by
  induction fs generalizing es with
  | nil => exact h
  | cons f fs ih => exact ih h.combine

theorem under_eq_nil (h : mentions es k = false) : under k es = [] := by
  rw [under, List.map_eq_nil_iff, List.filter_eq_nil_iff]
  exact fun e he => by simpa using List.any_eq_false.mp h e he

section Keys

variable (hK : AreKeys K) (hes : ∀ e ∈ es, K e.1)

include hK hes

/-- Where no key stands twice, the total is what is stored. -/
theorem total_of_distinct [Std.LawfulLeftIdentity op nothing] (h : Distinct es) (hk : K k) :
    total op nothing es k = (value? es k).getD nothing := by
  induction es with
  | nil => rfl
  | cons e es ih =>
    rw [Distinct, List.pairwise_cons] at h
    have he := hes e List.mem_cons_self
    have hrest : ∀ f ∈ es, K f.1 := fun f hf => hes f (List.mem_cons_of_mem e hf)
    rw [total, under_cons, value?, List.find?_cons, hK.comm hk he]
    cases hek : e.1.sameItem k with
    | false => exact ih hrest h.2
    | true =>
      have hnone : mentions es k = false := by
        refine List.any_eq_false.mpr fun f hf => ?_
        rw [← hK.congr he hk (hrest f hf) hek, h.1 f hf]
        simp
      simp [under_eq_nil hnone, Std.LawfulLeftIdentity.left_id]

/-- One entry that is combined counts like one entry more. -/
theorem agree_combine [Std.Associative op] [Std.LawfulIdentity op nothing] (h : Distinct es)
    (he : K e.1) : Agree K op nothing (combine op nothing es e) (es ++ [e]) := by
  intro k hk
  have hsingle : total op nothing [e] k = if e.1.sameItem k then e.2 else nothing := by
    rw [total, under_cons, hK.comm hk he]
    cases e.1.sameItem k
    · rfl
    · exact Std.LawfulLeftIdentity.left_id e.2
  constructor
  · have hkeys : ∀ fs : List (Datum × α), mentions fs k = (fs.map (·.1)).any (k.sameItem ·) :=
      fun fs => by rw [List.any_map]; rfl
    rw [hkeys, hkeys, combine, keys_put]
    split
    · rename_i hany
      obtain ⟨f, hf, hfe⟩ := List.any_eq_true.mp hany
      -- the key of the entry is there already
      rw [List.map_append, List.any_append, Bool.eq_iff_iff, Bool.or_eq_true]
      refine ⟨.inl, fun h => h.elim id fun hke => ?_⟩
      have hke' : k.sameItem e.1 = true := by simpa using hke
      refine List.any_eq_true.mpr ⟨f.1, List.mem_map_of_mem hf, ?_⟩
      exact hK.trans hk he (hes f hf) hke' (hK.symm (hes f hf) he hfe)
    · rw [List.map_append]
      rfl
  · rw [total_append, total_of_distinct hK hes h hk, hsingle,
      total_of_distinct hK (forall_combine hes he) h.combine hk, combine]
    cases hek : e.1.sameItem k with
    | true =>
      rw [value?_put_self hK hes he hk hek, value?_congr hK hes he hk hek]
      rfl
    | false =>
      rw [value?_put hK hes he hk hek]
      exact (Std.LawfulRightIdentity.right_id _).symm

/-- Entries that are combined count like the entries that were there and these. -/
theorem agree_foldl_combine [Std.Associative op] [Std.LawfulIdentity op nothing]
    (h : Distinct es) (hfs : ∀ f ∈ fs, K f.1) :
    Agree K op nothing (fs.foldl (combine op nothing) es) (es ++ fs) := by
  induction fs generalizing es with
  | nil => rw [List.append_nil]; exact .refl es
  | cons f fs ih =>
    have hf := hfs f List.mem_cons_self
    rw [List.foldl_cons, List.append_cons]
    refine (ih (forall_combine hes hf) h.combine fun g hg => hfs g (List.mem_cons_of_mem f hg)).trans ?_
    exact (agree_combine hK hes h hf).append (.refl fs)

/-- Entries without a key that stands twice, and with every key among those of other entries, are not
more than these. -/
theorem length_le_of_mentions (h : Distinct es) (hfs : ∀ f ∈ fs, K f.1)
    (hall : ∀ e ∈ es, mentions fs e.1 = true) : es.length ≤ fs.length := by
  let Meets (e f : Datum × α) : Prop := f ∈ fs ∧ e.1.sameItem f.1 = true
  have hapart : es.Pairwise fun e e' => ∀ f, Meets e f → ¬ Meets e' f := by
    refine List.Pairwise.imp_of_mem (fun {e e'} he he' hdistinct f hef he'f => ?_) h
    have hfK := hfs f hef.1
    rw [hK.trans (hes e he) hfK (hes e' he') hef.2 (hK.symm (hes e' he') hfK he'f.2)] at hdistinct
    cases hdistinct
  refine (Ty.onto_of_apart (R := Meets) hapart fun e he => ?_).1
  obtain ⟨f, hf, hef⟩ := List.any_eq_true.mp (hall e he)
  exact ⟨f, hf, hf, hef⟩

/-- Dictionaries with the same keys and totals are equal. -/
theorem same_of_agree [Std.LawfulLeftIdentity op nothing] {enc : α → Datum}
    (henc : ∀ a, (enc a).EqualsItself) (hfs : ∀ f ∈ fs, K f.1) (hdistinct : Distinct es)
    (hdistinct' : Distinct fs) (h : Agree K op nothing es fs) :
    (Datum.dict (es.map fun e => (e.1, enc e.2))).same (.dict (fs.map fun f => (f.1, enc f.2))) =
      true := by
  have hself : ∀ {gs : List (Datum × α)}, (∀ g ∈ gs, K g.1) → ∀ g ∈ gs, mentions gs g.1 = true :=
    fun hgs g hg => List.any_eq_true.mpr ⟨g, hg, hK.refl (hgs g hg)⟩
  have hforth : ∀ e ∈ es, mentions fs e.1 = true := fun e he =>
    (h e.1 (hes e he)).1 ▸ hself hes e he
  have hback : ∀ f ∈ fs, mentions es f.1 = true := fun f hf =>
    (h f.1 (hfs f hf)).1 ▸ hself hfs f hf
  rw [same_dict, Bool.and_eq_true, List.length_map, List.length_map, beq_iff_eq]
  refine ⟨entriesIn_iff.mpr fun e' he' => ?_, Nat.le_antisymm
    (length_le_of_mentions hK hes hdistinct hfs hforth)
    (length_le_of_mentions hK hfs hdistinct' hes hback)⟩
  obtain ⟨e, he, rfl⟩ := List.mem_map.mp he'
  obtain ⟨f, hf, hef⟩ := List.any_eq_true.mp (hforth e he)
  have heK := hes e he
  have hvalue : e.2 = f.2 := by
    have htotal := (h e.1 heK).2
    rw [total_of_distinct hK hes hdistinct heK, total_of_distinct hK hfs hdistinct' heK,
      value?_of_mem hK hes hdistinct he heK (hK.refl heK),
      value?_of_mem hK hfs hdistinct' hf heK (hK.symm heK (hfs f hf) hef)] at htotal
    exact htotal
  exact ⟨_, List.mem_map_of_mem hf, hef, hvalue ▸ henc e.2⟩

end Keys

end FunctionObjects.Keyed
