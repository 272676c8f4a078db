import FunctionObjects.Proofs.Document.Equality
import FunctionObjects.Proofs.State.Around
/-!
# Entries under keys

What dictionaries and tuples addressed by name do with their entries, on data: a key finds the first
entry of a key that counts as equal, and a value goes there or to the end.  Wherever equality among the
keys is an equivalence, different keys do not disturb each other.
-/

namespace FunctionObjects

open World

/-- Data that can be keys together: all of them are hashable, and equality among them is an
equivalence, as dictionaries ask of their keys. -/
structure Datum.AreKeys (K : Datum → Prop) : Prop where
  hashable : ∀ {a}, K a → a.hashable = true
  refl : ∀ {a}, K a → a.sameItem a = true
  symm : ∀ {a b}, K a → K b → a.sameItem b = true → b.sameItem a = true
  trans : ∀ {a b c}, K a → K b → K c → a.sameItem b = true → b.sameItem c = true →
    a.sameItem c = true

theorem Magnitude.same_ofInt_iff (m n : Int) :
    (Magnitude.ofInt m).same (.ofInt n) = true ↔ m = n := by
  simp [same, ofInt, compare?]

/-- What is compared of an atom that is a plain key: a whole number, a text or bytes. -/
def Atom.plainForm : Atom → Option (Option Int × Option String × Option (List Nat))
  | .none => some (Option.none, Option.none, Option.none)
  | .bool b => some (some (if b then 1 else 0), Option.none, Option.none)
  | .int n => some (some n, Option.none, Option.none)
  | .str s => some (Option.none, some s, Option.none)
  | .bytes bs => some (Option.none, Option.none, some bs)
  | _ => Option.none

/-- Plain keys: nothing, truth values, whole numbers, texts and bytes. -/
def Datum.IsPlainKey (t : Datum) : Prop := ∃ a, t = .atom a ∧ a.plainForm.isSome = true

theorem Atom.sameItem_iff_plainForm {a b : Atom} (ha : a.plainForm.isSome = true)
    (hb : b.plainForm.isSome = true) :
    (Datum.atom a).sameItem (.atom b) = true ↔ a.plainForm = b.plainForm := by
  rw [Datum.sameItem, Datum.identical, Datum.same_atom]
  cases a <;> cases b <;> simp_all [plainForm, identical, same, number?, real?, text?, bytes?,
    Magnitude.same_ofInt_iff]

theorem Datum.areKeys_plain : AreKeys IsPlainKey where
  hashable := by
    rintro _ ⟨a, rfl, ha⟩
    cases a <;> first | rfl | cases ha
  refl := by
    rintro _ ⟨a, rfl, ha⟩
    exact (Atom.sameItem_iff_plainForm ha ha).mpr rfl
  symm := by
    rintro _ _ ⟨a, rfl, ha⟩ ⟨b, rfl, hb⟩ h
    exact (Atom.sameItem_iff_plainForm hb ha).mpr ((Atom.sameItem_iff_plainForm ha hb).mp h).symm
  trans := by
    rintro _ _ _ ⟨a, rfl, ha⟩ ⟨b, rfl, hb⟩ ⟨c, rfl, hc⟩ hab hbc
    rw [Atom.sameItem_iff_plainForm ha hb] at hab
    rw [Atom.sameItem_iff_plainForm hb hc] at hbc
    exact (Atom.sameItem_iff_plainForm ha hc).mpr (hab.trans hbc)

namespace Datum.AreKeys

variable {K : Datum → Prop} {a b c : Datum}

theorem comm (hK : AreKeys K) (ha : K a) (hb : K b) : a.sameItem b = b.sameItem a :=
  Bool.eq_iff_iff.mpr ⟨hK.symm ha hb, hK.symm hb ha⟩

/-- Equal keys are equal to the same keys. -/
theorem congr (hK : AreKeys K) (ha : K a) (hb : K b) (hc : K c) (h : a.sameItem b = true) :
    a.sameItem c = b.sameItem c :=
  Bool.eq_iff_iff.mpr ⟨hK.trans hb ha hc (hK.symm ha hb h), hK.trans ha hb hc h⟩

end Datum.AreKeys

namespace Keyed

variable {α : Type} {K : Datum → Prop} {es : List (Datum × α)} {k l : Datum} {a b : α}

/-- What is stored under a key. -/
def value? (es : List (Datum × α)) (k : Datum) : Option α :=
  (es.find? fun e => e.1.sameItem k).map (·.2)

/-- Stores a value under a key: in the place of the value that is there, or at the end. -/
def put (es : List (Datum × α)) (k : Datum) (a : α) : List (Datum × α) :=
  if es.any fun e => e.1.sameItem k then
    es.map fun e => if e.1.sameItem k then (e.1, a) else e
  else es ++ [(k, a)]

/-- No key stands twice. -/
def Distinct (es : List (Datum × α)) : Prop := es.Pairwise fun e f => e.1.sameItem f.1 = false

theorem put_of_any (h : (es.any fun e => e.1.sameItem k) = true) (a : α) :
    put es k a = es.map fun e => (e.1, if e.1.sameItem k then a else e.2) := by
  rw [put, if_pos h]
  refine List.map_congr_left fun e _ => ?_
  cases e.1.sameItem k <;> rfl

theorem put_of_not_any (h : (es.any fun e => e.1.sameItem k) = false) (a : α) :
    put es k a = es ++ [(k, a)] := by
  rw [put, if_neg (by simp [h])]

/-- The keys that are there keep their places, and a new one comes last. -/
theorem keys_put (es : List (Datum × α)) (k : Datum) (a : α) :
    (put es k a).map (·.1) =
      if es.any fun e => e.1.sameItem k then es.map (·.1) else es.map (·.1) ++ [k] := by
  cases h : es.any fun e => e.1.sameItem k with
  | true => simp [put_of_any h]
  | false => simp [put_of_not_any h]

theorem forall_put (hes : ∀ e ∈ es, K e.1) (hk : K k) (a : α) : ∀ e ∈ put es k a, K e.1 := by
  have hkeys : ∀ l ∈ (put es k a).map (·.1), K l := by
    intro l hl
    rw [keys_put] at hl
    split at hl
    · obtain ⟨e, he, rfl⟩ := List.mem_map.mp hl
      exact hes e he
    · rcases List.mem_append.mp hl with hl | hl
      · obtain ⟨e, he, rfl⟩ := List.mem_map.mp hl
        exact hes e he
      · exact List.mem_singleton.mp hl ▸ hk
  exact fun e he => hkeys e.1 (List.mem_map_of_mem he)

theorem distinct_iff_keys :
    Distinct es ↔ (es.map (·.1)).Pairwise fun k l => k.sameItem l = false := by
  rw [Distinct, List.pairwise_map]

theorem Distinct.put (h : Distinct es) (k : Datum) (a : α) : Distinct (put es k a) := by
  rw [distinct_iff_keys, keys_put]
  split
  · exact distinct_iff_keys.mp h
  · rename_i hany
    rw [Bool.not_eq_true, List.any_eq_false] at hany
    refine List.pairwise_append.mpr ⟨distinct_iff_keys.mp h, List.pairwise_singleton _ _, ?_⟩
    intro l hl m hm
    obtain ⟨e, he, rfl⟩ := List.mem_map.mp hl
    rw [List.mem_singleton.mp hm]
    simpa using hany e he

variable (hK : Datum.AreKeys K) (hes : ∀ e ∈ es, K e.1)

include hK hes

/-- A key finds the entry of an equal key. -/
theorem value?_of_mem (hdistinct : Distinct es) {e : Datum × α} (he : e ∈ es) (hk : K k)
    (h : e.1.sameItem k = true) : value? es k = some e.2 := by
  induction es with
  | nil => cases he
  | cons f fs ih =>
    rw [Distinct, List.pairwise_cons] at hdistinct
    rw [value?, List.find?_cons]
    rcases List.mem_cons.mp he with rfl | he
    · simp [h]
    · have hf : f.1.sameItem k = false := by
        have hfe := hdistinct.1 e he
        have heK := hes e (List.mem_cons_of_mem f he)
        rw [hK.comm heK hk] at h
        rw [hK.comm (hes f List.mem_cons_self) hk, hK.congr hk heK (hes f List.mem_cons_self) h,
          hK.comm heK (hes f List.mem_cons_self)]
        exact hfe
      simp only [hf]
      exact ih (fun g hg => hes g (List.mem_cons_of_mem f hg)) hdistinct.2 he

/-- Equal keys find the same. -/
theorem value?_congr (hk : K k) (hl : K l) (h : k.sameItem l = true) :
    value? es k = value? es l := by
  have hpoint : ∀ e ∈ es, e.1.sameItem k = e.1.sameItem l := fun e he => by
    rw [hK.comm (hes e he) hk, hK.congr hk hl (hes e he) h, hK.comm hl (hes e he)]
  rw [value?, value?]
  congr 1
  induction es with
  | nil => rfl
  | cons e es ih =>
    rw [List.find?_cons, List.find?_cons, hpoint e List.mem_cons_self,
      ih (fun f hf => hes f (List.mem_cons_of_mem e hf))
        fun f hf => hpoint f (List.mem_cons_of_mem e hf)]

/-- A key finds what is stored under an equal one. -/
theorem value?_put_self (hk : K k) (hl : K l) (h : k.sameItem l = true) (a : α) :
    value? (put es k a) l = some a := by
  cases hany : es.any fun e => e.1.sameItem k with
  | false =>
    have hnone : ∀ e ∈ es, e.1.sameItem l = false := fun e he => by
      have hek := List.any_eq_false.mp hany e he
      rw [hK.comm (hes e he) hl, ← hK.congr hk hl (hes e he) h, hK.comm hk (hes e he)]
      simpa using hek
    have hfind : es.find? (fun e => e.1.sameItem l) = none :=
      List.find?_eq_none.mpr fun e he => by simp [hnone e he]
    simp [put_of_not_any hany, value?, List.find?_append, hfind, h]
  | true =>
    rw [put_of_any hany]
    induction es with
    | nil => cases hany
    | cons e es ih =>
      have heK := hes e List.mem_cons_self
      have hel : e.1.sameItem l = e.1.sameItem k := by
        rw [hK.comm heK hl, ← hK.congr hk hl heK h, hK.comm hk heK]
      rw [List.map_cons, value?, List.find?_cons, hel]
      cases hek : e.1.sameItem k with
      | true => simp
      | false =>
        rw [List.any_cons, hek, Bool.false_or] at hany
        exact ih (fun f hf => hes f (List.mem_cons_of_mem e hf)) hany

/-- What is stored under one key is not found under another one. -/
theorem value?_put (hk : K k) (hl : K l) (h : k.sameItem l = false) (a : α) :
    value? (put es k a) l = value? es l := by
  cases hany : es.any fun e => e.1.sameItem k with
  | false => simp [put_of_not_any hany, value?, List.find?_append, h]
  | true =>
    rw [put_of_any hany]
    clear hany
    induction es with
    | nil => rfl
    | cons e es ih =>
      have htail := ih fun f hf => hes f (List.mem_cons_of_mem e hf)
      rw [List.map_cons, value?, value?, List.find?_cons, List.find?_cons]
      cases hel : e.1.sameItem l with
      | false => exact htail
      | true =>
        have hek : e.1.sameItem k = false := by
          have heK := hes e List.mem_cons_self
          rwa [hK.congr heK hl hk hel, hK.comm hl hk]
        simp [hek]

/-- Values stored under different keys: the order only decides which of two new keys comes first. -/
theorem put_put_perm (hk : K k) (hl : K l) (h : k.sameItem l = false) (a b : α) :
    (put (put es k a) l b).Perm (put (put es l b) k a) := by
  have hapart : ∀ e ∈ es, e.1.sameItem k = true → e.1.sameItem l = false := fun e he hek => by
    rwa [hK.congr (hes e he) hk hl hek]
  have hlk : l.sameItem k = false := by rwa [hK.comm hl hk]
  have hcomm : (es.map fun e => (e.1, if e.1.sameItem k then a else e.2)).map
      (fun e => (e.1, if e.1.sameItem l then b else e.2)) =
      (es.map fun e => (e.1, if e.1.sameItem l then b else e.2)).map
        fun e => (e.1, if e.1.sameItem k then a else e.2) := by
    simp only [List.map_map]
    refine List.map_congr_left fun e he => ?_
    by_cases hek : e.1.sameItem k = true
    · simp [hek, hapart e he hek]
    · simp [hek]
  have hmap : ∀ (m : Datum) (c : α) (f : Datum → Bool),
      ((es.map fun e => (e.1, if e.1.sameItem m then c else e.2)).any fun e => f e.1) =
        es.any fun e => f e.1 := fun m c f => by simp [List.any_map, Function.comp_def]
  have hnew : ∀ (m : Datum) (c : α) (f : Datum → Bool), f m = false →
      ((es ++ [(m, c)]).any fun e => f e.1) = es.any fun e => f e.1 := fun m c f hm => by
    simp [hm]
  cases hks : es.any fun e => e.1.sameItem k <;> cases hls : es.any fun e => e.1.sameItem l
  case true.true =>
    rw [put_of_any hks, put_of_any hls, put_of_any ((hmap k a (·.sameItem l)).trans hls),
      put_of_any ((hmap l b (·.sameItem k)).trans hks), hcomm]
  case true.false =>
    rw [put_of_any hks, put_of_not_any hls, put_of_not_any ((hmap k a (·.sameItem l)).trans hls),
      put_of_any ((hnew l b (·.sameItem k) hlk).trans hks)]
    simp [hlk]
  case false.true =>
    rw [put_of_not_any hks, put_of_any hls, put_of_any ((hnew k a (·.sameItem l) h).trans hls),
      put_of_not_any ((hmap l b (·.sameItem k)).trans hks)]
    simp [h]
  case false.false =>
    rw [put_of_not_any hks, put_of_not_any hls,
      put_of_not_any ((hnew k a (·.sameItem l) h).trans hls),
      put_of_not_any ((hnew l b (·.sameItem k) hlk).trans hks), List.append_assoc,
      List.append_assoc]
    exact (List.Perm.swap (l, b) (k, a) []).append_left es

omit hK hes in
theorem put_perm {fs : List (Datum × α)} (h : es.Perm fs) (k : Datum) (a : α) :
    (put es k a).Perm (put fs k a) := by
  rw [put, put, h.any_eq]
  split
  · exact h.map _
  · exact h.append_right _

end Keyed

end FunctionObjects

/-!
## Combining entries key by key

Entries are combined one after the other into what is there.  What comes out can be told key by key:
under each key all values of that key have been folded, in order, and no other ones.
-/

namespace FunctionObjects.Keyed

variable {α : Type} {K : Datum → Prop} {op : α → α → α} {nothing : α} {start es : List (Datum × α)}
  {e : Datum × α}

/-- Combines the value of an entry with what is there under its key, or with nothing. -/
def combine (op : α → α → α) (nothing : α) (es : List (Datum × α)) (e : Datum × α) :
    List (Datum × α) :=
  put es e.1 (op ((value? es e.1).getD nothing) e.2)

/-- The values stored under a key, in order. -/
def under (k : Datum) (es : List (Datum × α)) : List α :=
  (es.filter fun e => k.sameItem e.1).map (·.2)

/-- The keys that are not among those seen so far, each where it occurs first. -/
def unseen (seen : List Datum) : List Datum → List Datum
  | [] => []
  | k :: ks =>
    if seen.any (·.sameItem k) then unseen seen ks else k :: unseen (seen ++ [k]) ks

/-- Entries combined key by key: the keys that are there, then the new ones, and under each of them the
fold of its values over what is there. -/
def merged (op : α → α → α) (nothing : α) (start es : List (Datum × α)) : List (Datum × α) :=
  (start.map (·.1) ++ unseen (start.map (·.1)) (es.map (·.1))).map fun k =>
    (k, (under k es).foldl op ((value? start k).getD nothing))

theorem under_cons (k : Datum) (e : Datum × α) (es : List (Datum × α)) :
    under k (e :: es) = if k.sameItem e.1 then e.2 :: under k es else under k es := by
  rw [under, List.filter_cons]
  split <;> rfl

theorem mem_of_mem_unseen {k : Datum} : ∀ {ks seen : List Datum}, k ∈ unseen seen ks → k ∈ ks
  | _ :: ks, seen, h => by
    rw [unseen] at h
    split at h
    · exact List.mem_cons_of_mem _ (mem_of_mem_unseen h)
    · rcases List.mem_cons.mp h with rfl | h
      · exact List.mem_cons_self
      · exact List.mem_cons_of_mem _ (mem_of_mem_unseen h)

theorem forall_combine (hstart : ∀ f ∈ start, K f.1) (he : K e.1) :
    ∀ f ∈ combine op nothing start e, K f.1 := forall_put hstart he _

theorem Distinct.combine (h : Distinct start) : Distinct (combine op nothing start e) := h.put _ _

/-- The keys of one more entry: it is a new key or none. -/
theorem keys_combine : (combine op nothing start e).map (·.1) ++
      unseen ((combine op nothing start e).map (·.1)) (es.map (·.1)) =
    start.map (·.1) ++ unseen (start.map (·.1)) ((e :: es).map (·.1)) := by
  have hany : ((start.map (·.1)).any (·.sameItem e.1)) = start.any fun f => f.1.sameItem e.1 := by
    rw [List.any_map]
    rfl
  rw [combine, keys_put, List.map_cons, unseen, hany]
  split <;> simp

variable (hK : Datum.AreKeys K) (hstart : ∀ f ∈ start, K f.1)

include hK hstart

theorem merged_nil (hdistinct : Distinct start) : merged op nothing start [] = start := by
  rw [merged]
  simp only [List.map_nil, unseen, List.append_nil, List.map_map]
  refine (List.map_congr_left fun e he => ?_).trans (List.map_id start)
  have hvalue := value?_of_mem hK hstart hdistinct he (hstart e he) (hK.refl (hstart e he))
  simp [under, hvalue]

/-- One more entry only adds to the fold of its own key. -/
theorem merged_cons (he : K e.1) (hes : ∀ f ∈ es, K f.1) :
    merged op nothing (combine op nothing start e) es = merged op nothing start (e :: es) := by
  rw [merged, merged, keys_combine]
  refine List.map_congr_left fun k hk => ?_
  have hkK : K k := by
    rcases List.mem_append.mp hk with hk | hk
    · obtain ⟨f, hf, rfl⟩ := List.mem_map.mp hk
      exact hstart f hf
    · obtain ⟨f, hf, rfl⟩ := List.mem_map.mp (mem_of_mem_unseen hk)
      rcases List.mem_cons.mp hf with rfl | hf
      · exact he
      · exact hes f hf
  rw [under_cons, hK.comm hkK he]
  cases hek : e.1.sameItem k with
  | true =>
    rw [combine, value?_put_self hK hstart he hkK hek, value?_congr hK hstart he hkK hek]
    rfl
  | false =>
    rw [combine, value?_put hK hstart he hkK hek]
    rfl

/-- Combining entries one after the other folds the values of each key. -/
theorem foldl_combine (hdistinct : Distinct start) (hes : ∀ f ∈ es, K f.1) :
    es.foldl (combine op nothing) start = merged op nothing start es := by
  induction es generalizing start with
  | nil => rw [merged_nil hK hstart hdistinct]; rfl
  | cons e es ih =>
    have he := hes e List.mem_cons_self
    have hrest : ∀ f ∈ es, K f.1 := fun f hf => hes f (List.mem_cons_of_mem e hf)
    rw [List.foldl_cons, ih (forall_combine hstart he) hdistinct.combine hrest,
      merged_cons hK hstart he hrest]

end FunctionObjects.Keyed
