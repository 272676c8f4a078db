import FunctionObjects.Proofs.Equality.Equivalence
import FunctionObjects.Proofs.Equality.Quoting
import FunctionObjects.Value.Frozen
/-!
# Frozen data keep equality

Freezing and digesting put pairs in the order of their texts, drop members that have become equal, and
keep of some data only the text that shows them: of the keys of dictionaries and of what cannot be
hashed.  Where equal keys, and no others, are shown alike, and equal tuples are shown alike too, equal
data are frozen to equal data.
-/

namespace FunctionObjects

open Std

/-- Texts are ordered as the numbers of their characters are. -/
theorem compareText_eq (s t : String) :
    compareText s t = compare (s.toList.map Char.toNat) (t.toList.map Char.toNat) := by
  have hlists : ∀ cs ds : List Char, compareLists (fun a b => compare a.toNat b.toNat) cs ds =
      compare (cs.map Char.toNat) (ds.map Char.toNat) := by
    intro cs
    induction cs with
    | nil => intro ds; cases ds <;> rfl
    | cons c cs ih =>
      intro ds
      cases ds with
      | nil => rfl
      | cons d ds =>
        rw [List.map_cons, List.map_cons, List.compare_cons_cons, ← ih ds, compareLists]
        cases compare c.toNat d.toNat <;> rfl
  exact hlists _ _

/-- Whether a text does not come after another one. -/
def notAfter (s t : String) : Bool := compareText s t != .gt

theorem notAfter_eq (s t : String) :
    notAfter s t = (compare (s.toList.map Char.toNat) (t.toList.map Char.toNat)).isLE := by
  rw [notAfter, compareText_eq]
  cases compare (s.toList.map Char.toNat) (t.toList.map Char.toNat) <;> rfl

theorem notAfter_trans (r s t : String) (h : notAfter r s = true) (h' : notAfter s t = true) :
    notAfter r t = true := by
  rw [notAfter_eq] at *
  exact TransCmp.isLE_trans h h'

theorem notAfter_total (s t : String) : (notAfter s t || notAfter t s) = true := by
  have hswap : compare (s.toList.map Char.toNat) (t.toList.map Char.toNat) =
      (compare (t.toList.map Char.toNat) (s.toList.map Char.toNat)).swap := OrientedCmp.eq_swap
  rw [notAfter_eq, notAfter_eq, hswap]
  cases compare (t.toList.map Char.toNat) (s.toList.map Char.toNat) <;> rfl

theorem notAfter_antisymm (s t : String) (h : notAfter s t = true) (h' : notAfter t s = true) :
    s = t := by
  rw [notAfter_eq] at h h'
  have hcodes := LawfulEqCmp.eq_of_compare (OrientedCmp.isLE_antisymm h h')
  exact String.toList_inj.mp (List.map_injective_iff.mpr (fun _ _ => Char.toNat_inj.mp) hcodes)

/-- Texts are sorted in one way only. -/
theorem mergeSort_notAfter_congr {ss ts : List String} (h : ss.Perm ts) :
    ss.mergeSort notAfter = ts.mergeSort notAfter := by
  refine List.Perm.eq_of_pairwise (fun s t _ _ => notAfter_antisymm s t)
    (List.pairwise_mergeSort notAfter_trans notAfter_total ss)
    (List.pairwise_mergeSort notAfter_trans notAfter_total ts) ?_
  exact (List.mergeSort_perm ss _).trans (h.trans (List.mergeSort_perm ts _).symm)

/-- Lists with the same marks in the same order agree entry by entry if they agree mark by mark. -/
theorem forall₂_of_marks {α β γ : Type} {R : α → β → Prop} {f : α → γ} {g : β → γ}
    {as : List α} {bs : List β} (hmarks : as.map f = bs.map g) (hnodup : (bs.map g).Nodup)
    (h : ∀ a ∈ as, ∃ b ∈ bs, f a = g b ∧ R a b) :
    List.Forall₂ (fun a b => f a = g b ∧ R a b) as bs := by
  induction as generalizing bs with
  | nil =>
    cases bs with
    | nil => exact .nil
    | cons => cases hmarks
  | cons a as ih =>
    cases bs with
    | nil => cases hmarks
    | cons b bs =>
      rw [List.map_cons, List.map_cons, List.cons.injEq] at hmarks
      rw [List.map_cons, List.nodup_cons] at hnodup
      rw [List.forall_mem_cons] at h
      obtain ⟨⟨b', hb', hmark, hab'⟩, hrest⟩ := h
      obtain rfl : b' = b := by
        rcases List.mem_cons.mp hb' with rfl | hb'
        · rfl
        · exact absurd (List.mem_map.mpr ⟨b', hb', hmark.symm.trans hmarks.1⟩) hnodup.1
      refine .cons ⟨hmark, hab'⟩ (ih hmarks.2 hnodup.2 fun c hc => ?_)
      obtain ⟨d, hd, hcd, hR⟩ := hrest c hc
      rcases List.mem_cons.mp hd with rfl | hd
      · have hmem : f c ∈ bs.map g := hmarks.2 ▸ List.mem_map_of_mem hc
        exact absurd (hcd ▸ hmem) hnodup.1
      · exact ⟨d, hd, hcd, hR⟩

namespace Datum

variable {t u : Datum} {ts us : List Datum} {es fs : List (Datum × Datum)}
  {ps qs as bs : List (String × Datum)} {K T : Datum → Prop} {F : Datum → Datum} {deep : Bool}

theorem map_fst_sortPairs (ps : List (String × Datum)) :
    (sortPairs ps).map (·.1) = (ps.map (·.1)).mergeSort notAfter :=
  List.map_mergeSort fun _ _ _ _ => rfl

theorem mem_sortPairs {p : String × Datum} : p ∈ sortPairs ps ↔ p ∈ ps :=
  (List.mergeSort_perm ps _).mem_iff

/-- Pairs under different texts are sorted alike, whatever their order. -/
theorem forall₂_sortPairs (hps : (ps.map (·.1)).Nodup) (hqs : (qs.map (·.1)).Nodup)
    (hlen : ps.length = qs.length) (h : ∀ p ∈ ps, ∃ q ∈ qs, p.1 = q.1 ∧ p.2.sameItem q.2 = true) :
    List.Forall₂ (fun p q => p.1 = q.1 ∧ p.2.sameItem q.2 = true) (sortPairs ps) (sortPairs qs) := by
  have hsubset : ps.map (·.1) ⊆ qs.map (·.1) := by
    intro s hs
    obtain ⟨p, hp, rfl⟩ := List.mem_map.mp hs
    obtain ⟨q, hq, hpq, -⟩ := h p hp
    exact hpq ▸ List.mem_map_of_mem hq
  have hperm : (ps.map (·.1)).Perm (qs.map (·.1)) :=
    (List.subperm_of_subset hps hsubset).perm_of_length_le (by simp [hlen])
  refine forall₂_of_marks (R := fun p q : String × Datum => p.2.sameItem q.2 = true) ?_ ?_
    fun p hp => ?_
  · rw [map_fst_sortPairs, map_fst_sortPairs, mergeSort_notAfter_congr hperm]
  · exact ((List.mergeSort_perm qs _).map (·.1)).nodup_iff.mpr hqs
  · obtain ⟨q, hq, hpq⟩ := h p (mem_sortPairs.mp hp)
    exact ⟨q, mem_sortPairs.mpr hq, hpq⟩

theorem sameItem_int (n : Int) : (atom (.int n)).sameItem (.atom (.int n)) = true :=
  equalsItself_atom rfl

theorem sameItem_str (s : String) : (atom (.str s)).sameItem (.atom (.str s)) = true :=
  equalsItself_atom rfl

theorem same_tuple (ts us : List Datum) : (tuple ts).same (.tuple us) = sameAll ts us := rfl

theorem same_pairs (h : List.Forall₂ (fun p q => p.1 = q.1 ∧ p.2.sameItem q.2 = true) ps qs) :
    (tuple (ps.map pair)).same (.tuple (qs.map pair)) = true := by
  rw [same_tuple, sameAll_iff, List.forall₂_map_left_iff, List.forall₂_map_right_iff]
  refine h.imp fun p q hpq => sameItem_of_same ?_
  rw [pair, pair, same_tuple, sameAll_iff]
  exact .cons (hpq.1 ▸ sameItem_str p.1) (.cons hpq.2 .nil)

theorem sameItem_str_iff (s s' : String) :
    (atom (.str s)).sameItem (.atom (.str s')) = true ↔ s = s' := by
  constructor
  · intro h
    rcases eq_or_same_of_sameItem h with h | h
    · cases h
      rfl
    · exact beq_iff_eq.mp h
  · intro h
    exact h ▸ sameItem_str s

theorem sameItem_tuple (ts us : List Datum) : (tuple ts).sameItem (.tuple us) = sameAll ts us := rfl

theorem sameItem_pair_iff (p q : String × Datum) :
    (tuple ((sortPairs [p]).map pair)).sameItem (.tuple ((sortPairs [q]).map pair)) = true ↔
      p.1 = q.1 ∧ p.2.sameItem q.2 = true := by
  have hsort : ∀ p, sortPairs [p] = [p] := fun p => by simp [sortPairs]
  simp only [hsort, List.map_cons, List.map_nil, pair, sameItem_tuple, sameAll_iff,
    List.forall₂_cons, List.Forall₂.nil, and_true, sameItem_str_iff]

theorem distinct_append_singleton (ts : List Datum) (t : Datum) :
    distinct (ts ++ [t]) = addDistinct (distinct ts) t := by
  rw [distinct, List.foldl_append]
  rfl

theorem mem_of_mem_distinct (h : t ∈ distinct ts) : t ∈ ts := by
  induction ts using List.reverseRecOn with
  | nil => exact h
  | append_singleton ts u ih =>
    rw [distinct_append_singleton, addDistinct] at h
    split at h
    · exact List.mem_append_left _ (ih h)
    · rcases List.mem_append.mp h with h | h
      · exact List.mem_append_left _ (ih h)
      · exact List.mem_append_right _ h

/-- What is dropped is the same item as something that is kept. -/
theorem exists_mem_distinct (h : t ∈ ts) : ∃ u ∈ distinct ts, t = u ∨ t.sameItem u = true := by
  induction ts using List.reverseRecOn with
  | nil => cases h
  | append_singleton ts v ih =>
    rw [distinct_append_singleton, addDistinct]
    split
    case isTrue hany =>
      rcases List.mem_append.mp h with h | h
      · exact ih h
      · obtain rfl := List.mem_singleton.mp h
        obtain ⟨u, hu, hsame⟩ := List.any_eq_true.mp hany
        exact ⟨u, hu, .inr hsame⟩
    case isFalse =>
      rcases List.mem_append.mp h with h | h
      · obtain ⟨u, hu, hsame⟩ := ih h
        exact ⟨u, List.mem_append_left _ hu, hsame⟩
      · exact ⟨t, List.mem_append_right _ h, .inl rfl⟩

theorem apart_distinct (hts : ∀ t ∈ ts, t.Sound) : Apart (distinct ts) := by
  induction ts using List.reverseRecOn with
  | nil => exact .nil
  | append_singleton ts u ih =>
    have hu := hts u (by simp)
    have hts' : ∀ t ∈ ts, t.Sound := fun t ht => hts t (List.mem_append_left _ ht)
    rw [distinct_append_singleton, addDistinct]
    split
    case isTrue => exact ih hts'
    case isFalse hany =>
      refine List.pairwise_append.mpr ⟨ih hts', List.pairwise_singleton _ _, fun t ht u' hu' htu => ?_⟩
      obtain rfl := List.mem_singleton.mp hu'
      exact hany (List.any_eq_true.mpr
        ⟨t, ht, sameItem_symm (hts' t (mem_of_mem_distinct ht)) hu htu⟩)

/-- Every datum of one list is the same item as one of the other. -/
def Within (ts us : List Datum) : Prop := ∀ t ∈ ts, ∃ u ∈ us, t.sameItem u = true

theorem Within.distinct (hts : ∀ t ∈ ts, t.Sound) (hus : ∀ u ∈ us, u.Sound) (h : Within ts us) :
    Within (distinct ts) (Datum.distinct us) := by
  intro t ht
  have ht := mem_of_mem_distinct ht
  obtain ⟨u, hu, htu⟩ := h t ht
  obtain ⟨v, hv, rfl | huv⟩ := exists_mem_distinct hu
  · exact ⟨u, hv, htu⟩
  · exact ⟨v, hv, sameItem_trans (hts t ht) (hus u hu) htu huv⟩

theorem Within.length_le (hts : ∀ t ∈ ts, t.Sound) (hus : ∀ u ∈ us, u.Sound) (hapart : Apart ts)
    (h : Within ts us) : ts.length ≤ us.length :=
  (onto_of_unrelated (R := fun t u : Datum => t.sameItem u = true) hapart
    (fun t ht t' ht' u hu => Turns.cancel (hts t' ht').turns (hts t ht) (hus u hu)) h).1

/-- Lists with the same items have the same members. -/
theorem same_distinct (hts : ∀ t ∈ ts, t.Sound) (hus : ∀ u ∈ us, u.Sound) (h : Within ts us)
    (h' : Within us ts) : (frozenset (distinct ts)).same (.frozenset (distinct us)) = true := by
  have hts' : ∀ t ∈ distinct ts, t.Sound := fun t ht => hts t (mem_of_mem_distinct ht)
  have hus' : ∀ u ∈ distinct us, u.Sound := fun u hu => hus u (mem_of_mem_distinct hu)
  rw [same_of_members? rfl rfl, Bool.and_eq_true, allIn_iff, beq_iff_eq]
  refine ⟨h.distinct hts hus, Nat.le_antisymm ?_ ?_⟩
  · exact Within.length_le hts' hus' (apart_distinct hts) (h.distinct hts hus)
  · exact Within.length_le hus' hts' (apart_distinct hus) (h'.distinct hus hts)

/-- What is set on objects that have equal attributes is sorted alike. -/
theorem same_attributes {as bs : List (String × Datum)} (hnames : (as.map (·.1)).Nodup)
    (hnames' : (bs.map (·.1)).Nodup) (hlen : as.length = bs.length)
    (h : ∀ a ∈ as, ∃ b ∈ bs, a.1 = b.1 ∧ (F a.2).sameItem (F b.2) = true) :
    (tuple ((sortPairs (as.map fun a => (Text.quoted a.1, F a.2))).map pair)).same
      (.tuple ((sortPairs (bs.map fun b => (Text.quoted b.1, F b.2))).map pair)) = true := by
  have hquoted : ∀ {as : List (String × Datum)}, (as.map (·.1)).Nodup →
      ((as.map fun a => (Text.quoted a.1, F a.2)).map (·.1)).Nodup := by
    intro as h
    rw [List.map_map]
    exact (List.map_map .. ▸ h.map fun _ _ => Text.quoted_inj :)
  refine same_pairs (forall₂_sortPairs (hquoted hnames) (hquoted hnames') (by simpa using hlen) ?_)
  intro p hp
  obtain ⟨a, ha, rfl⟩ := List.mem_map.mp hp
  obtain ⟨b, hb, hname, hvalue⟩ := h a ha
  exact ⟨_, List.mem_map_of_mem hb, congrArg Text.quoted hname, hvalue⟩

/-- Data of which nothing but their text can be frozen. -/
def isText : Datum → Bool
  | .slots .. => true
  | .fields .. => true
  | .keys _ => true
  | .bytearray _ => true
  | _ => false

/-- A function that freezes data; a deep one also takes objects apart. -/
structure Freezes (deep : Bool) (F : Datum → Datum) : Prop where
  dict (es : List (Datum × Datum)) :
    F (.dict es) = .tuple ((sortPairs (es.map fun e => (e.1.shown, F e.2))).map pair)
  list (ts : List Datum) : F (.list ts) = .tuple (ts.map F)
  tuple (ts : List Datum) : F (.tuple ts) = .tuple (ts.map F)
  set (ts : List Datum) : F (.set ts) = .frozenset (distinct (ts.map F))
  frozenset (ts : List Datum) : F (.frozenset ts) = .frozenset (distinct (ts.map F))
  pattern (p : Pattern) :
    F (.atom (.pattern p)) = .tuple [.atom (.str p.source), .atom (.int p.flags)]
  object (c : ClassName) (as : List (String × Datum)) : F (.object c as) =
    if deep then .tuple [.atom (.type (.cls c)),
      .tuple ((sortPairs (as.map fun a => (Text.quoted a.1, F a.2))).map pair)]
    else .object c as
  handle (r : Ref) (c : ClassName) (s : String) : F (.handle r c s) = .handle r c s
  result (r : ValidationResult) : F (.atom (.result r)) = .atom (.str (Atom.result r).shown)
  atom (a : Atom) (hp : ∀ p, a ≠ .pattern p) (hr : ∀ r, a ≠ .result r) : F (.atom a) = .atom a
  text (t : Datum) (ht : t.isText = true) : F t = .atom (.str t.shown)

theorem freezeAll_eq (ts : List Datum) : freezeAll ts = ts.map freeze := by
  induction ts with
  | nil => rfl
  | cons t ts ih => rw [freezeAll, ih, List.map_cons]

theorem freezeEntries_eq (es : List (Datum × Datum)) :
    freezeEntries es = es.map fun e => (e.1.shown, freeze e.2) := by
  induction es with
  | nil => rfl
  | cons e es ih => rw [freezeEntries, ih, List.map_cons]

theorem digestAll_eq (ts : List Datum) : digestAll ts = ts.map digest := by
  induction ts with
  | nil => rfl
  | cons t ts ih => rw [digestAll, ih, List.map_cons]

theorem digestEntries_eq (es : List (Datum × Datum)) :
    digestEntries es = es.map fun e => (e.1.shown, digest e.2) := by
  induction es with
  | nil => rfl
  | cons e es ih => rw [digestEntries, ih, List.map_cons]

theorem digestAttributes_eq (as : List (String × Datum)) :
    digestAttributes as = as.map fun a => (Text.quoted a.1, digest a.2) := by
  induction as with
  | nil => rfl
  | cons a as ih => rw [digestAttributes, ih, List.map_cons]

theorem freezes_freeze : Freezes false freeze where
  dict es := by rw [freeze, freezeEntries_eq]
  list ts := by rw [freeze, freezeAll_eq]
  tuple ts := by rw [freeze, freezeAll_eq]
  set ts := by rw [freeze, freezeAll_eq]
  frozenset ts := by rw [freeze, freezeAll_eq]
  pattern _ := rfl
  object _ _ := rfl
  handle _ _ _ := rfl
  result _ := rfl
  atom a hp hr := by
    cases a with
    | pattern p => exact absurd rfl (hp p)
    | result r => exact absurd rfl (hr r)
    | _ => rfl
  text t ht := by cases t <;> first | rfl | cases ht

theorem freezes_digest : Freezes true digest where
  dict es := by rw [digest, digestEntries_eq]
  list ts := by rw [digest, digestAll_eq]
  tuple ts := by rw [digest, digestAll_eq]
  set ts := by rw [digest, digestAll_eq]
  frozenset ts := by rw [digest, digestAll_eq]
  pattern _ := rfl
  object c as := by rw [digest, digestAttributes_eq]; rfl
  handle _ _ _ := rfl
  result _ := rfl
  atom a hp hr := by
    cases a with
    | pattern p => exact absurd rfl (hp p)
    | result r => exact absurd rfl (hr r)
    | _ => rfl
  text t ht := by cases t <;> first | rfl | cases ht

theorem sound_pairs (h : ∀ p ∈ ps, p.2.Sound) : (tuple ((sortPairs ps).map pair)).Sound := by
  refine .tuple fun t ht => ?_
  obtain ⟨p, hp, rfl⟩ := List.mem_map.mp ht
  refine .tuple fun u hu => ?_
  rcases List.mem_cons.mp hu with rfl | hu
  · exact .atom trivial
  · obtain rfl := List.mem_singleton.mp hu
    exact h p (mem_sortPairs.mp hp)

/-- Frozen data are such as values can hold. -/
theorem Freezes.sound (hF : Freezes deep F) (ht : t.Sound) : (F t).Sound := by
  have hall : ∀ {ts : List Datum}, (∀ t ∈ ts, (F t).Sound) → ∀ u ∈ ts.map F, u.Sound := by
    intro ts h u hu
    obtain ⟨t, ht, rfl⟩ := List.mem_map.mp hu
    exact h t ht
  have hset : ∀ {ts : List Datum}, (∀ t ∈ ts, (F t).Sound) →
      (Datum.frozenset (distinct (ts.map F))).Sound := fun h =>
    .collection rfl (apart_distinct (hall h)) fun u hu => hall h u (mem_of_mem_distinct hu)
  induction ht with
  | @atom a ha =>
    by_cases hp : ∃ p, a = .pattern p
    · obtain ⟨p, rfl⟩ := hp
      rw [hF.pattern]
      refine .tuple fun u hu => ?_
      simp only [List.mem_cons, List.not_mem_nil, or_false] at hu
      rcases hu with rfl | rfl <;> exact .atom trivial
    by_cases hr : ∃ r, a = .result r
    · obtain ⟨r, rfl⟩ := hr
      rw [hF.result]
      exact .atom trivial
    · rw [hF.atom a (not_exists.mp hp) (not_exists.mp hr)]
      exact .atom ha
  | tuple _ ih =>
    rw [hF.tuple]
    exact .tuple (hall ih)
  | list _ ih =>
    rw [hF.list]
    exact .tuple (hall ih)
  | slots | fields | bytearray =>
    rw [hF.text _ rfl]
    exact .atom trivial
  | @collection t ts hts _ _ ih =>
    cases t with
    | set =>
      obtain rfl := Option.some.inj hts
      rw [hF.set]
      exact hset ih
    | frozenset =>
      obtain rfl := Option.some.inj hts
      rw [hF.frozenset]
      exact hset ih
    | keys =>
      rw [hF.text _ rfl]
      exact .atom trivial
    | _ => cases hts
  | dict _ _ _ _ ih =>
    rw [hF.dict]
    refine sound_pairs fun p hp => ?_
    obtain ⟨e, he, rfl⟩ := List.mem_map.mp hp
    exact ih e he
  | @object c as hnames h ih =>
    rw [hF.object]
    split
    · refine .tuple fun u hu => ?_
      rcases List.mem_cons.mp hu with rfl | hu
      · exact .atom trivial
      · obtain rfl := List.mem_singleton.mp hu
        refine sound_pairs fun p hp => ?_
        obtain ⟨a, ha, rfl⟩ := List.mem_map.mp hp
        exact ih a ha
    · exact .object hnames h
  | handle =>
    rw [hF.handle]
    exact .handle _ _ _

/-- A datum of whose parts only the text is frozen where they are in two sets: one of keys of
dictionaries, and one of tuples addressed by position or by name. -/
inductive TextsIn (K T : Datum → Prop) : Datum → Prop where
  | atom (a : Atom) : TextsIn K T (.atom a)
  | tuple {ts : List Datum} (h : ∀ t ∈ ts, TextsIn K T t) : TextsIn K T (.tuple ts)
  | list {ts : List Datum} (h : ∀ t ∈ ts, TextsIn K T t) : TextsIn K T (.list ts)
  | set {ts : List Datum} (h : ∀ t ∈ ts, TextsIn K T t) : TextsIn K T (.set ts)
  | frozenset {ts : List Datum} (h : ∀ t ∈ ts, TextsIn K T t) : TextsIn K T (.frozenset ts)
  | dict {es : List (Datum × Datum)} (hkeys : ∀ e ∈ es, K e.1) (h : ∀ e ∈ es, TextsIn K T e.2) :
    TextsIn K T (.dict es)
  | slots {c : ClassName} {ts : List Datum} (h : T (.slots c ts)) : TextsIn K T (.slots c ts)
  | fields {c : ClassName} {es : List (Datum × Datum)} (h : T (.fields c es)) :
    TextsIn K T (.fields c es)
  | object {c : ClassName} {as : List (String × Datum)} (h : ∀ a ∈ as, TextsIn K T a.2) :
    TextsIn K T (.object c as)
  | handle (r : Ref) (c : ClassName) (s : String) : TextsIn K T (.handle r c s)

/-- Keys of which two are shown alike exactly if they are the same item. -/
def TellApart (K : Datum → Prop) : Prop :=
  ∀ k l, K k → K l → (k.sameItem l = true ↔ k.shown = l.shown)

/-- Data that are shown alike if they are equal. -/
def ShowAlike (T : Datum → Prop) : Prop := ∀ t u, T t → T u → t.same u = true → t.shown = u.shown

/-- Keys that are texts. -/
def IsText (k : Datum) : Prop := ∃ s, k = .atom (.str s)

/-- Texts tell apart what they are the keys of. -/
theorem tellApart_texts : TellApart IsText := by
  rintro _ _ ⟨s, rfl⟩ ⟨s', rfl⟩
  rw [sameItem_str_iff]
  exact ⟨congrArg Text.quoted, Text.quoted_inj⟩

theorem sameAll_map (h : sameAll ts us = true)
    (hitem : ∀ t ∈ ts, ∀ u ∈ us, t.sameItem u = true → (F t).sameItem (F u) = true) :
    sameAll (ts.map F) (us.map F) = true := by
  rw [sameAll_iff] at *
  induction h with
  | nil => exact .nil
  | cons htu _ ih =>
    refine .cons (hitem _ (by simp) _ (by simp) htu) (ih fun t ht u hu => ?_)
    exact hitem t (List.mem_cons_of_mem _ ht) u (List.mem_cons_of_mem _ hu)

section Congruence

variable (hF : Freezes deep F)

include hF

/-- Atoms are frozen to themselves, unless they are patterns or cannot be hashed. -/
theorem Freezes.sameItem_atom {a b : Atom} (h : (Datum.atom a).sameItem (.atom b) = true) :
    (F (.atom a)).sameItem (F (.atom b)) = true := by
  have hkeeps : (∀ p, a ≠ .pattern p) → (∀ r, a ≠ .result r) → (∀ p, b ≠ .pattern p) →
      (∀ r, b ≠ .result r) → (F (.atom a)).sameItem (F (.atom b)) = true := by
    intro hap har hbp hbr
    rwa [hF.atom a hap har, hF.atom b hbp hbr]
  rcases Bool.or_eq_true _ _ ▸ h with hidentical | hsame
  · have hneither : ∀ {c d : Atom}, c.identical d = true →
        ((∀ p, c ≠ .pattern p) ∧ ∀ r, c ≠ .result r) ∧ (∀ p, d ≠ .pattern p) ∧ ∀ r, d ≠ .result r := by
      intro c d h
      cases c <;> cases d <;> first | cases h | simp
    obtain ⟨⟨hap, har⟩, hbp, hbr⟩ := hneither hidentical
    exact hkeeps hap har hbp hbr
  · cases Atom.Same.of_same hsame with
    | pattern p =>
      rw [hF.pattern]
      refine sameItem_of_same ?_
      rw [same_tuple, sameAll_iff]
      exact .cons (sameItem_str _) (.cons (sameItem_int _) .nil)
    | result r =>
      rw [hF.result]
      exact sameItem_str _
    | number ha hb | text ha hb | bytes ha hb =>
      refine hkeeps ?_ ?_ ?_ ?_ <;> rintro x rfl <;> first | cases ha | cases hb
    | _ => refine hkeeps ?_ ?_ ?_ ?_ <;> rintro x ⟨⟩

theorem Freezes.sameItem_text_iff (ht : t.isText = true) (hu : u.isText = true) :
    (F t).sameItem (F u) = true ↔ t.shown = u.shown := by
  rw [hF.text t ht, hF.text u hu, sameItem_str_iff]

/-- Two dictionaries of one entry are frozen alike only if their keys are shown alike. -/
theorem Freezes.sameItem_one_iff (k l v v' : Datum) :
    (F (.dict [(k, v)])).sameItem (F (.dict [(l, v')])) = true ↔
      k.shown = l.shown ∧ (F v).sameItem (F v') = true := by
  rw [hF.dict, hF.dict]
  exact sameItem_pair_iff _ _

/-- Equal dictionaries are sorted alike, if their keys are told apart by how they are shown. -/
theorem Freezes.same_dict (hK : TellApart K) (hes : ∀ e ∈ es, K e.1) (hfs : ∀ f ∈ fs, K f.1)
    (hapart : Apart (es.map (·.1))) (hapart' : Apart (fs.map (·.1))) (hlen : es.length = fs.length)
    (h : ∀ e ∈ es, ∃ f ∈ fs, e.1.sameItem f.1 = true ∧ (F e.2).sameItem (F f.2) = true) :
    (F (.dict es)).same (F (.dict fs)) = true := by
  have hshown : ∀ {es : List (Datum × Datum)}, (∀ e ∈ es, K e.1) → Apart (es.map (·.1)) →
      ((es.map fun e => (e.1.shown, F e.2)).map (·.1)).Nodup := by
    intro es hes hapart
    rw [List.map_map]
    refine List.pairwise_map.mpr ((List.pairwise_map.mp hapart).imp_of_mem ?_)
    intro e e' he he' hne hshown
    exact hne ((hK _ _ (hes e he) (hes e' he')).mpr hshown)
  rw [hF.dict, hF.dict]
  refine same_pairs
    (forall₂_sortPairs (hshown hes hapart) (hshown hfs hapart') (by simpa using hlen) ?_)
  intro p hp
  obtain ⟨e, he, rfl⟩ := List.mem_map.mp hp
  obtain ⟨f, hf, hkey, hvalue⟩ := h e he
  exact ⟨_, List.mem_map_of_mem hf, (hK _ _ (hes e he) (hfs f hf)).mp hkey, hvalue⟩

theorem Freezes.members (hu : u.TextsIn K T) (hus : u.members? = some us) :
    (∀ v ∈ us, v.TextsIn K T) ∧ F u = .frozenset (distinct (us.map F)) := by
  cases hu with
  | set h => exact Option.some.inj hus ▸ ⟨h, hF.set _⟩
  | frozenset h => exact Option.some.inj hus ▸ ⟨h, hF.frozenset _⟩
  | _ => cases hus

/-- Sets with the same members are frozen to sets with the same members. -/
theorem Freezes.same_members (hts : ∀ t ∈ ts, t.Sound) (hus : ∀ u ∈ us, u.Sound) (hapart : Apart ts)
    (hlen : ts.length = us.length) (h : allIn ts us = true)
    (hitem : ∀ t ∈ ts, ∀ u ∈ us, t.sameItem u = true → (F t).sameItem (F u) = true) :
    (Datum.frozenset (distinct (ts.map F))).same (.frozenset (distinct (us.map F))) = true := by
  have hsound : ∀ {ts : List Datum}, (∀ t ∈ ts, t.Sound) → ∀ u ∈ ts.map F, u.Sound := by
    intro ts h u hu
    obtain ⟨t, ht, rfl⟩ := List.mem_map.mp hu
    exact hF.sound (h t ht)
  have hback := Turns.allIn (fun t ht => (hts t ht).turns) hts hus hapart h hlen
  refine same_distinct (hsound hts) (hsound hus) ?_ ?_
  · intro v hv
    obtain ⟨t, ht, rfl⟩ := List.mem_map.mp hv
    obtain ⟨u, hu, htu⟩ := allIn_iff.mp h t ht
    exact ⟨F u, List.mem_map_of_mem hu, hitem t ht u hu htu⟩
  · intro v hv
    obtain ⟨u, hu, rfl⟩ := List.mem_map.mp hv
    obtain ⟨t, ht, hut⟩ := allIn_iff.mp hback u hu
    refine ⟨F t, List.mem_map_of_mem ht, ?_⟩
    have htu := hitem t ht u hu (sameItem_symm (hus u hu) (hts t ht) hut)
    exact sameItem_symm (hF.sound (hts t ht)) (hF.sound (hus u hu)) htu

theorem Freezes.sameItem_members (hts : t.members? = some ts)
    (hfrozen : F t = .frozenset (distinct (ts.map F))) (hu : u.TextsIn K T) (ht : t.Sound)
    (husound : u.Sound) (h : t.same u = true)
    (hitem : ∀ t ∈ ts, ∀ u, u.TextsIn K T → t.Sound → u.Sound → t.sameItem u = true →
      (F t).sameItem (F u) = true) : (F t).sameItem (F u) = true := by
  obtain ⟨us, hus, hin, hlen⟩ := members?_of_same hts h
  obtain ⟨hapart, hsound⟩ := ht.members hts
  obtain ⟨htexts, hfrozen'⟩ := hF.members hu hus
  have hsound' := (husound.members hus).2
  rw [hfrozen, hfrozen']
  exact sameItem_of_same (hF.same_members hsound hsound' hapart hlen hin fun t ht u hu =>
    hitem t ht u (htexts u hu) (hsound t ht) (hsound' u hu))

/-- Equal data are frozen to equal data, whatever they hold, if keys are shown alike exactly when they
are equal, and tuples whenever they are. -/
theorem Freezes.sameItem (hK : TellApart K) (hT : ShowAlike T) (htexts : t.TextsIn K T) :
    ∀ u, u.TextsIn K T → t.Sound → u.Sound → t.sameItem u = true →
      (F t).sameItem (F u) = true := by
  induction htexts with
  | atom a =>
    intro u hu _ _ h
    rcases eq_or_same_of_sameItem h with rfl | hsame
    · exact hF.sameItem_atom h
    · rcases atom_same hsame with ⟨b, rfl, -⟩ | ⟨bs, rfl, -⟩
      · exact hF.sameItem_atom h
      · cases hu
  | @tuple ts _ ih =>
    intro u hu ht husound h
    obtain ⟨us, rfl, h⟩ := tuple_same h
    cases hu with | tuple hus => ?_
    rw [hF.tuple, hF.tuple]
    exact sameItem_of_same (sameAll_map h fun t ht' u hu =>
      ih t ht' u (hus u hu) (ht.of_tuple t ht') (husound.of_tuple u hu))
  | @list ts _ ih =>
    intro u hu ht husound h
    obtain ⟨us, rfl, h⟩ := list_same h
    cases hu with | list hus => ?_
    rw [hF.list, hF.list]
    exact sameItem_of_same (sameAll_map h fun t ht' u hu =>
      ih t ht' u (hus u hu) (ht.of_list t ht') (husound.of_list u hu))
  | @set ts _ ih =>
    intro u hu ht husound h
    exact hF.sameItem_members rfl (hF.set ts) hu ht husound h ih
  | @frozenset ts _ ih =>
    intro u hu ht husound h
    exact hF.sameItem_members rfl (hF.frozenset ts) hu ht husound h ih
  | @dict es hkeys _ ih =>
    intro u hu ht husound h
    obtain ⟨fs, rfl, h, hlen⟩ := dict_same h
    cases hu with | dict hkeys' hvalues => ?_
    refine sameItem_of_same (hF.same_dict hK hkeys hkeys' ht.of_dict.1 husound.of_dict.1 hlen ?_)
    intro e he
    obtain ⟨f, hf, hkey, hvalue⟩ := Keyed.entriesIn_iff.mp h e he
    exact ⟨f, hf, hkey,
      ih e he _ (hvalues f hf) (ht.of_dict.2 e he).2 (husound.of_dict.2 f hf).2 hvalue⟩
  | @slots c ts hts =>
    intro u hu _ _ h
    obtain ⟨d, us, rfl, -⟩ := slots_same h
    cases hu with | slots hus => ?_
    exact (hF.sameItem_text_iff rfl rfl).mpr (hT _ _ hts hus h)
  | @fields c es hes =>
    intro u hu _ _ h
    obtain ⟨d, fs, rfl, -⟩ := fields_same h
    cases hu with | fields hfs => ?_
    exact (hF.sameItem_text_iff rfl rfl).mpr (hT _ _ hes hfs h)
  | @object c as _ ih =>
    intro u hu ht husound h
    obtain ⟨bs, rfl, hattributes, hlen⟩ := object_same h
    cases hu with | object hbs => ?_
    rw [hF.object, hF.object]
    split
    · refine sameItem_of_same ?_
      rw [same_tuple, sameAll_iff]
      refine .cons (sameItem_of_same (Ty.same_refl (.cls c))) (.cons (sameItem_of_same ?_) .nil)
      refine same_attributes ht.of_object.1 husound.of_object.1 hlen fun a ha => ?_
      obtain ⟨b, hb, hname, hvalue⟩ := attributesIn_iff.mp hattributes a ha
      exact ⟨b, hb, hname, ih a ha _ (hbs b hb) (ht.of_object.2 a ha) (husound.of_object.2 b hb) hvalue⟩
    · exact h
  | handle r c s =>
    intro u _ _ _ h
    obtain ⟨d, s', rfl⟩ := handle_same h
    rw [hF.handle, hF.handle]
    exact h

end Congruence

end Datum

end FunctionObjects
