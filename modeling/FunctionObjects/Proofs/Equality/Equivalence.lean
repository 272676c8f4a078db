import FunctionObjects.Proofs.Keyed.Totals
import FunctionObjects.Value.Order
import Mathlib.Tactic.Ring
/-!
# Being the same item

Equality compares numbers of all kinds by their values and leaves the order of entries and members
aside.  Among data that values can hold it is symmetric and transitive: no two members of a set are the
same item, no two keys of a dictionary, and a fraction has a denominator.
-/

namespace FunctionObjects

open FunctionObjects.Numeral

namespace Magnitude

variable {a b c : Magnitude}

/-- A ratio has a denominator. -/
def Sound : Magnitude → Prop
  | .ratio _ d => 0 < d
  | _ => True

theorem same_ratio_iff {m n : Int} {d e : Nat} :
    (ratio m d).same (ratio n e) = true ↔ m * e = n * d := by
  simp [same, compare?]

theorem same_infinite_iff {s t : Bool} : (infinite s).same (infinite t) = true ↔ s = t := by
  cases s <;> cases t <;> decide

theorem same_symm (h : a.same b = true) : b.same a = true := by
  cases a <;> cases b <;> try exact h
  case ratio.ratio => exact same_ratio_iff.mpr (same_ratio_iff.mp h).symm
  case ratio.infinite s => cases s <;> cases h
  case infinite.ratio s _ _ => cases s <;> cases h
  case infinite.infinite => exact same_infinite_iff.mpr (same_infinite_iff.mp h).symm

theorem same_trans (hb : b.Sound) (h : a.same b = true) (h' : b.same c = true) :
    a.same c = true := by
  cases b with
  | nan => cases a <;> cases h
  | infinite s =>
    cases a with
    | nan => cases h
    | ratio => cases s <;> cases h
    | infinite r => rwa [same_infinite_iff.mp h]
  | ratio n e =>
    cases a with
    | nan => cases h
    | infinite r => cases r <;> cases h
    | ratio m d =>
      cases c with
      | nan => cases h'
      | infinite t => cases t <;> cases h'
      | ratio k f =>
        rw [same_ratio_iff] at h h' ⊢
        have he : (e : Int) ≠ 0 := Int.natCast_ne_zero.mpr (Nat.ne_of_gt hb)
        refine mul_right_cancel₀ he ?_
        calc m * f * e = m * e * f := by ring
          _ = n * f * d := by rw [h]; ring
          _ = k * d * e := by rw [h']; ring

theorem sound_ofFloating (x : Floating) : (ofFloating x).Sound := by
  cases x with
  | finite => exact Nat.pow_pos (Nat.succ_pos 1)
  | _ => trivial

theorem sound_ofDecimal (x : Decimal) : (ofDecimal x).Sound := by
  cases x with
  | finite => exact Nat.pow_pos (Nat.succ_pos 9)
  | _ => trivial

end Magnitude

namespace Atom

variable {a b c : Atom} {s : String} {bs : List Nat} {m n : Magnitude × Magnitude}

/-- A fraction has a denominator, and a descriptor is one that can be built. -/
def Sound : Atom → Prop
  | .fraction _ d => 0 < d
  | .type t => t.Proper
  | _ => True

theorem Sound.number (ha : a.Sound) (h : a.number? = some m) : m.1.Sound ∧ m.2.Sound := by
  have hint : ∀ n, (Magnitude.ofInt n).Sound := fun _ => Nat.one_pos
  cases a with
  | scalar x =>
    cases x with
    | str | bytes => cases h
    | _ =>
      cases h
      first
      | exact ⟨Magnitude.sound_ofFloating _, Magnitude.sound_ofFloating _⟩
      | exact ⟨Magnitude.sound_ofFloating _, hint 0⟩
      | exact ⟨hint _, hint 0⟩
  | bool | int => cases h; exact ⟨hint _, hint 0⟩
  | float => cases h; exact ⟨Magnitude.sound_ofFloating _, hint 0⟩
  | complex => cases h; exact ⟨Magnitude.sound_ofFloating _, Magnitude.sound_ofFloating _⟩
  | decimal => cases h; exact ⟨Magnitude.sound_ofDecimal _, hint 0⟩
  | fraction => cases h; exact ⟨ha, hint 0⟩
  | _ => cases h

theorem number?_of_text? (h : a.text? = some s) : a.number? = Option.none := by
  cases a with
  | scalar x => cases x <;> first | rfl | cases h
  | _ => first | rfl | cases h

theorem number?_of_bytes? (h : a.bytes? = some bs) : a.number? = Option.none := by
  cases a with
  | scalar x => cases x <;> first | rfl | cases h
  | _ => first | rfl | cases h

theorem text?_of_bytes? (h : a.bytes? = some bs) : a.text? = Option.none := by
  cases a with
  | scalar x => cases x <;> first | rfl | cases h
  | _ => first | rfl | cases h

theorem bytes?_of_number? (h : a.number? = some m) : a.bytes? = Option.none := by
  by_contra hne
  obtain ⟨bs, hbs⟩ := Option.ne_none_iff_exists'.mp hne
  cases h.symm.trans (number?_of_bytes? hbs)

theorem bytes?_of_text? (h : a.text? = some s) : a.bytes? = Option.none := by
  by_contra hne
  obtain ⟨bs, hbs⟩ := Option.ne_none_iff_exists'.mp hne
  cases h.symm.trans (text?_of_bytes? hbs)

/-- The ways in which atoms are equal: as numbers, as texts, as bytes, or as two of one kind. -/
inductive Same : Atom → Atom → Prop where
  | number {a b : Atom} {m n : Magnitude × Magnitude} (ha : a.number? = some m)
    (hb : b.number? = some n) (hre : m.1.same n.1 = true) (him : m.2.same n.2 = true) : Same a b
  | text {a b : Atom} {s : String} (ha : a.text? = some s) (hb : b.text? = some s) : Same a b
  | bytes {a b : Atom} {bs : List Nat} (ha : a.bytes? = some bs) (hb : b.bytes? = some bs) : Same a b
  | none : Same .none .none
  | moment {t u : Time.Moment} (h : standing t = standing u) : Same (.moment t) (.moment u)
  | date (d : Time.Date) : Same (.date d) (.date d)
  | pattern (p : Pattern) : Same (.pattern p) (.pattern p)
  | type {t u : Ty} (h : t.same u = true) : Same (.type t) (.type u)
  | builtin (f : Builtin) : Same (.builtin f) (.builtin f)
  | kind (k : AdapterKind) : Same (.kind k) (.kind k)
  | result (r : ValidationResult) : Same (.result r) (.result r)

theorem same_of_number (ha : a.number? = some m) (hb : b.number? = some n) :
    a.same b = (m.1.same n.1 && m.2.same n.2) := by
  rw [same.eq_def, ha, hb]

theorem Same.of_same (h : a.same b = true) : Same a b := by
  rw [same.eq_def] at h
  split at h
  case h_1 ha hb =>
    rw [Bool.and_eq_true] at h
    exact .number ha hb h.1 h.2
  split at h
  case h_1 ha hb =>
    obtain rfl := beq_iff_eq.mp h
    exact .text ha hb
  split at h
  case h_1 ha hb =>
    obtain rfl := beq_iff_eq.mp h
    exact .bytes ha hb
  split at h
  · exact .none
  · exact .moment (beq_iff_eq.mp h)
  · exact beq_iff_eq.mp h ▸ .date _
  · exact beq_iff_eq.mp h ▸ .pattern _
  · exact .type h
  · exact beq_iff_eq.mp h ▸ .builtin _
  · exact beq_iff_eq.mp h ▸ .kind _
  · exact beq_iff_eq.mp h ▸ .result _
  · cases h

theorem Same.same (h : Same a b) : a.same b = true := by
  cases h with
  | number ha hb hre him => rw [same_of_number ha hb, hre, him]; rfl
  | text ha hb =>
    rw [Atom.same.eq_def, number?_of_text? ha, number?_of_text? hb, ha, hb]
    exact beq_self_eq_true _
  | bytes ha hb =>
    rw [Atom.same.eq_def, number?_of_bytes? ha, number?_of_bytes? hb, text?_of_bytes? ha,
      text?_of_bytes? hb, ha, hb]
    exact beq_self_eq_true _
  | none => rfl
  | moment h => exact beq_iff_eq.mpr h
  | type h => exact h
  | date | pattern | builtin | kind | result => exact beq_self_eq_true _

theorem same_iff : a.same b = true ↔ Same a b := ⟨.of_same, Same.same⟩

theorem Same.symm (ha : a.Sound) (hb : b.Sound) (h : Same a b) : Same b a := by
  cases h with
  | number hm hn hre him => exact .number hn hm (Magnitude.same_symm hre) (Magnitude.same_symm him)
  | text hs ht => exact .text ht hs
  | bytes hs ht => exact .bytes ht hs
  | moment h => exact .moment h.symm
  | type h => exact .type (Ty.same_symm ha hb h)
  | none => exact .none
  | date d => exact .date d
  | pattern p => exact .pattern p
  | builtin f => exact .builtin f
  | kind k => exact .kind k
  | result r => exact .result r

theorem Same.trans (hb : b.Sound) (h : Same a b) (h' : Same b c) : Same a c := by
  cases h with
  | number hm hn hre him =>
    cases h' with
    | number hn' hk hre' him' =>
      obtain rfl := Option.some.inj (hn.symm.trans hn')
      obtain ⟨hsound, hsound'⟩ := hb.number hn
      exact .number hm hk (Magnitude.same_trans hsound hre hre') (Magnitude.same_trans hsound' him him')
    | text hs _ => cases hn.symm.trans (number?_of_text? hs)
    | bytes hs _ => cases hn.symm.trans (number?_of_bytes? hs)
    | _ => cases hn
  | text hs ht =>
    cases h' with
    | number hn _ _ _ => cases hn.symm.trans (number?_of_text? ht)
    | text ht' hu => exact .text hs (ht.symm.trans ht' ▸ hu)
    | bytes ht' _ => cases ht.symm.trans (text?_of_bytes? ht')
    | _ => cases ht
  | bytes hs ht =>
    cases h' with
    | number hn _ _ _ => cases hn.symm.trans (number?_of_bytes? ht)
    | text ht' _ => cases ht'.symm.trans (text?_of_bytes? ht)
    | bytes ht' hu => exact .bytes hs (ht.symm.trans ht' ▸ hu)
    | _ => cases ht
  | moment h =>
    cases h' with
    | moment h' => exact .moment (h.trans h')
    | number hn | text hn | bytes hn => cases hn
  | type h =>
    cases h' with
    | type h' => exact .type (Ty.same_trans h h')
    | number hn | text hn | bytes hn => cases hn
  | none | date | pattern | builtin | kind | result => exact h'

theorem Same.bytes?_eq (h : Same a b) : a.bytes? = b.bytes? := by
  cases h with
  | number hm hn => rw [bytes?_of_number? hm, bytes?_of_number? hn]
  | text hs ht => rw [bytes?_of_text? hs, bytes?_of_text? ht]
  | bytes hs ht => exact hs.trans ht.symm
  | _ => rfl

theorem eq_of_identical (h : a.identical b = true) : a = b := by
  cases a with
  | float | scalar | decimal =>
    cases b with
    | float | scalar | decimal => first | exact beq_iff_eq.mp h ▸ rfl | cases h
    | _ => cases h
  | complex =>
    cases b with
    | complex =>
      obtain ⟨hre, him⟩ := Bool.and_eq_true _ _ ▸ h
      rw [beq_iff_eq.mp hre, beq_iff_eq.mp him]
    | _ => cases h
  | _ => cases h

end Atom

/-- A relation reaches every entry of a list from a list of equal length, if what reaches one entry is
related and the list that it starts from holds no two related entries. -/
theorem onto_of_unrelated {α β : Type} {R : α → β → Prop} {S : α → α → Prop} {as : List α}
    {bs : List β} (hapart : as.Pairwise fun a a' => ¬ S a a')
    (hcancel : ∀ a ∈ as, ∀ a' ∈ as, ∀ b ∈ bs, R a b → R a' b → S a a')
    (hall : ∀ a ∈ as, ∃ b ∈ bs, R a b) :
    as.length ≤ bs.length ∧ (bs.length = as.length → ∀ b ∈ bs, ∃ a ∈ as, R a b) := by
  let Meets (a : α) (b : β) : Prop := b ∈ bs ∧ R a b
  have hpairwise : as.Pairwise fun a a' => ∀ b, Meets a b → ¬ Meets a' b := by
    refine List.Pairwise.imp_of_mem (fun {a a'} ha ha' hne b hb hb' => ?_) hapart
    exact hne (hcancel a ha a' ha' b hb.1 hb.2 hb'.2)
  obtain ⟨hle, honto⟩ := Ty.onto_of_apart (R := Meets) hpairwise fun a ha => by
    obtain ⟨b, hb, hab⟩ := hall a ha
    exact ⟨b, hb, hb, hab⟩
  refine ⟨hle, fun hlen b hb => ?_⟩
  obtain ⟨a, ha, -, hab⟩ := honto hlen b hb
  exact ⟨a, ha, hab⟩

namespace Datum

open Keyed

variable {t u v : Datum} {ts us vs : List Datum} {es fs gs : List (Datum × Datum)}
  {as bs : List (String × Datum)} {a b : Atom} {c : ClassName}

theorem eq_of_identical (h : t.identical u = true) : t = u := by
  cases t with
  | atom a =>
    cases u with
    | atom b => rw [Atom.eq_of_identical h]
    | _ => cases h
  | _ => cases h

theorem sameItem_of_same (h : t.same u = true) : t.sameItem u = true := by
  rw [sameItem, h, Bool.or_true]

theorem eq_or_same_of_sameItem (h : t.sameItem u = true) : t = u ∨ t.same u = true := by
  rw [sameItem, Bool.or_eq_true] at h
  exact h.imp_left eq_of_identical

theorem sameAll_iff : sameAll ts us = true ↔ List.Forall₂ (fun t u => t.sameItem u = true) ts us := by
  induction ts generalizing us with
  | nil => cases us <;> simp [sameAll]
  | cons t ts ih => cases us <;> simp [sameAll, sameItem, ih]

theorem allIn_iff : allIn ts us = true ↔ ∀ t ∈ ts, ∃ u ∈ us, t.sameItem u = true := by
  induction ts with
  | nil => simp [allIn]
  | cons t ts ih =>
    rw [allIn, Bool.and_eq_true, ih, List.forall_mem_cons, List.any_eq_true]
    rfl

theorem attributesIn_iff : attributesIn as bs = true ↔
    ∀ a ∈ as, ∃ b ∈ bs, a.1 = b.1 ∧ a.2.sameItem b.2 = true := by
  induction as with
  | nil => simp [attributesIn]
  | cons a as ih =>
    rw [attributesIn_cons, Bool.and_eq_true, ih, List.forall_mem_cons, List.any_eq_true]
    simp only [Bool.and_eq_true, beq_iff_eq]

theorem atom_same (h : (atom a).same u = true) :
    (∃ b, u = .atom b ∧ a.same b = true) ∨ ∃ bs, u = .bytearray bs ∧ a.bytes? = some bs := by
  cases u with
  | atom b => exact .inl ⟨b, rfl, h⟩
  | bytearray bs => exact .inr ⟨bs, rfl, beq_iff_eq.mp h⟩
  | _ => cases h

theorem bytearray_same {bs : List Nat} (h : (bytearray bs).same u = true) :
    (∃ a, u = .atom a ∧ a.bytes? = some bs) ∨ u = .bytearray bs := by
  cases u with
  | atom a => exact .inl ⟨a, rfl, beq_iff_eq.mp h⟩
  | bytearray bs' => exact .inr (beq_iff_eq.mp h ▸ rfl)
  | _ => cases h

theorem tuple_same (h : (tuple ts).same u = true) : ∃ us, u = .tuple us ∧ sameAll ts us = true := by
  cases u with
  | tuple us => exact ⟨us, rfl, h⟩
  | _ => cases h

theorem list_same (h : (list ts).same u = true) : ∃ us, u = .list us ∧ sameAll ts us = true := by
  cases u with
  | list us => exact ⟨us, rfl, h⟩
  | _ => cases h

theorem slots_same (h : (slots c ts).same u = true) :
    ∃ d us, u = .slots d us ∧ sameAll ts us = true := by
  cases u with
  | slots d us => exact ⟨d, us, rfl, h⟩
  | _ => cases h

theorem dict_same (h : (dict es).same u = true) :
    ∃ fs, u = .dict fs ∧ entriesIn es fs = true ∧ es.length = fs.length := by
  cases u with
  | dict fs =>
    obtain ⟨hin, hlen⟩ := Bool.and_eq_true _ _ ▸ h
    exact ⟨fs, rfl, hin, beq_iff_eq.mp hlen⟩
  | _ => cases h

theorem fields_same (h : (fields c es).same u = true) :
    ∃ d fs, u = .fields d fs ∧ entriesIn es fs = true ∧ es.length = fs.length := by
  cases u with
  | fields d fs =>
    obtain ⟨hin, hlen⟩ := Bool.and_eq_true _ _ ▸ h
    exact ⟨d, fs, rfl, hin, beq_iff_eq.mp hlen⟩
  | _ => cases h

theorem object_same (h : (object c as).same u = true) :
    ∃ bs, u = .object c bs ∧ attributesIn as bs = true ∧ as.length = bs.length := by
  cases u with
  | object d bs =>
    rw [same_object_object, Bool.and_eq_true, Bool.and_eq_true, beq_iff_eq, beq_iff_eq] at h
    obtain ⟨⟨rfl, hin⟩, hlen⟩ := h
    exact ⟨bs, rfl, hin, hlen⟩
  | _ => cases h

theorem handle_same {r : Ref} {s : String} (h : (handle r c s).same u = true) :
    ∃ d s', u = .handle r d s' := by
  cases u with
  | handle r' d s' => exact ⟨d, s', beq_iff_eq.mp h ▸ rfl⟩
  | _ => cases h

/-- Sets, whether they can change or not, and views of keys are compared by their members. -/
theorem same_of_members? (ht : t.members? = some ts) (hu : u.members? = some us) :
    t.same u = (allIn ts us && ts.length == us.length) := by
  cases t <;> cases ht <;> cases u <;> cases hu <;> rfl

theorem members?_of_same (ht : t.members? = some ts) (h : t.same u = true) :
    ∃ us, u.members? = some us ∧ allIn ts us = true ∧ ts.length = us.length := by
  have hboth : ∀ us, u.members? = some us → allIn ts us = true ∧ ts.length = us.length := by
    intro us hus
    rw [same_of_members? ht hus, Bool.and_eq_true, beq_iff_eq] at h
    exact h
  cases hu : u.members? with
  | some us => exact ⟨us, rfl, hboth us hu⟩
  | none =>
    -- sets are equal to nothing but sets
    cases t <;> cases ht <;> cases u <;> first | cases h | cases hu

/-- No two of the data are the same item. -/
def Apart (ts : List Datum) : Prop := ts.Pairwise fun t u => ¬ t.sameItem u = true

/-- What values can hold: no set has a member twice, no dictionary a key, and no object an attribute. -/
inductive Sound : Datum → Prop where
  | atom {a : Atom} (h : a.Sound) : Sound (.atom a)
  | tuple {ts : List Datum} (h : ∀ t ∈ ts, Sound t) : Sound (.tuple ts)
  | list {ts : List Datum} (h : ∀ t ∈ ts, Sound t) : Sound (.list ts)
  | slots {c : ClassName} {ts : List Datum} (h : ∀ t ∈ ts, Sound t) : Sound (.slots c ts)
  | collection {t : Datum} {ts : List Datum} (hts : t.members? = some ts) (hapart : Apart ts)
    (h : ∀ t ∈ ts, Sound t) : Sound t
  | dict {es : List (Datum × Datum)} (hapart : Apart (es.map (·.1))) (hkeys : ∀ e ∈ es, Sound e.1)
    (hvalues : ∀ e ∈ es, Sound e.2) : Sound (.dict es)
  | fields {c : ClassName} {es : List (Datum × Datum)} (hapart : Apart (es.map (·.1)))
    (hkeys : ∀ e ∈ es, Sound e.1) (hvalues : ∀ e ∈ es, Sound e.2) : Sound (.fields c es)
  | object {c : ClassName} {as : List (String × Datum)} (hnames : (as.map (·.1)).Nodup)
    (h : ∀ a ∈ as, Sound a.2) : Sound (.object c as)
  | bytearray (bs : List Nat) : Sound (.bytearray bs)
  | handle (r : Ref) (c : ClassName) (s : String) : Sound (.handle r c s)

theorem Sound.members (hu : u.Sound) (hus : u.members? = some us) :
    Apart us ∧ ∀ u ∈ us, u.Sound := by
  cases hu with
  | collection hus' hapart h =>
    obtain rfl := Option.some.inj (hus.symm.trans hus')
    exact ⟨hapart, h⟩
  | _ => cases hus

theorem Sound.of_list (h : (Datum.list ts).Sound) : ∀ t ∈ ts, t.Sound := by
  cases h with
  | collection hts => cases hts
  | list h => exact h

theorem Sound.of_tuple (h : (Datum.tuple ts).Sound) : ∀ t ∈ ts, t.Sound := by
  cases h with
  | collection hts => cases hts
  | tuple h => exact h

theorem Sound.of_slots (h : (Datum.slots c ts).Sound) : ∀ t ∈ ts, t.Sound := by
  cases h with
  | collection hts => cases hts
  | slots h => exact h

theorem Sound.of_atom (h : (Datum.atom a).Sound) : a.Sound := by
  cases h with
  | collection hts => cases hts
  | atom h => exact h

theorem Sound.of_dict (h : (Datum.dict es).Sound) :
    Apart (es.map (·.1)) ∧ ∀ e ∈ es, e.1.Sound ∧ e.2.Sound := by
  cases h with
  | collection hts => cases hts
  | dict hapart hkeys hvalues => exact ⟨hapart, fun e he => ⟨hkeys e he, hvalues e he⟩⟩

theorem Sound.of_fields (h : (Datum.fields c es).Sound) :
    Apart (es.map (·.1)) ∧ ∀ e ∈ es, e.1.Sound ∧ e.2.Sound := by
  cases h with
  | collection hts => cases hts
  | fields hapart hkeys hvalues => exact ⟨hapart, fun e he => ⟨hkeys e he, hvalues e he⟩⟩

theorem Sound.of_object (h : (Datum.object c as).Sound) :
    (as.map (·.1)).Nodup ∧ ∀ a ∈ as, a.2.Sound := by
  cases h with
  | collection hts => cases hts
  | object hnames h => exact ⟨hnames, h⟩

/-- Whether being the same item can be handed on from a datum. -/
def EqualsThrough (t : Datum) : Prop := ∀ u v, u.Sound → t.sameItem u = true → u.sameItem v = true →
  t.sameItem v = true

theorem EqualsThrough.of_same (h : ∀ u v, u.Sound → t.same u = true → u.same v = true → t.same v = true) :
    t.EqualsThrough := by
  intro u v hu htu huv
  rcases eq_or_same_of_sameItem htu with rfl | htu
  · exact huv
  rcases eq_or_same_of_sameItem huv with rfl | huv
  · exact sameItem_of_same htu
  · exact sameItem_of_same (h u v hu htu huv)

theorem EqualsThrough.sameAll (hts : ∀ t ∈ ts, t.EqualsThrough) (hus : ∀ u ∈ us, u.Sound)
    (h : sameAll ts us = true) (h' : sameAll us vs = true) : sameAll ts vs = true := by
  rw [sameAll_iff] at *
  refine Classes.forall₂_comp h h' ?_
  exact fun t ht u hu v _ htu huv => hts t ht u v (hus u hu) htu huv

theorem EqualsThrough.entriesIn (hkeys : ∀ e ∈ es, e.1.EqualsThrough) (hvalues : ∀ e ∈ es, e.2.EqualsThrough)
    (hfs : ∀ f ∈ fs, f.1.Sound ∧ f.2.Sound) (h : entriesIn es fs = true)
    (h' : entriesIn fs gs = true) : entriesIn es gs = true := by
  rw [entriesIn_iff] at *
  intro e he
  obtain ⟨f, hf, hkey, hvalue⟩ := h e he
  obtain ⟨g, hg, hkey', hvalue'⟩ := h' f hf
  exact ⟨g, hg, hkeys e he _ _ (hfs f hf).1 hkey hkey', hvalues e he _ _ (hfs f hf).2 hvalue hvalue'⟩

theorem Sound.equalsThrough (ht : t.Sound) : t.EqualsThrough := by
  induction ht with
  | @atom a ha =>
    refine .of_same fun u v hu htu huv => ?_
    rcases atom_same htu with ⟨b, rfl, hab⟩ | ⟨bs, rfl, ha⟩
    · rw [Atom.same_iff] at hab
      rcases atom_same huv with ⟨d, rfl, hbd⟩ | ⟨bs, rfl, hb⟩
      · exact (hab.trans hu.of_atom (Atom.same_iff.mp hbd)).same
      · exact beq_iff_eq.mpr (hab.bytes?_eq.trans hb)
    · rcases bytearray_same huv with ⟨d, rfl, hd⟩ | rfl
      · exact (Atom.Same.bytes ha hd).same
      · exact beq_iff_eq.mpr ha
  | bytearray bs =>
    refine .of_same fun u v hu htu huv => ?_
    rcases bytearray_same htu with ⟨b, rfl, hb⟩ | rfl
    · rcases atom_same huv with ⟨d, rfl, hbd⟩ | ⟨bs', rfl, hb'⟩
      · exact beq_iff_eq.mpr ((Atom.same_iff.mp hbd).bytes?_eq.symm.trans hb)
      · obtain rfl := Option.some.inj (hb.symm.trans hb')
        exact beq_self_eq_true _
    · exact huv
  | tuple _ ih =>
    refine .of_same fun u v hu htu huv => ?_
    obtain ⟨us, rfl, htu⟩ := tuple_same htu
    obtain ⟨vs, rfl, huv⟩ := tuple_same huv
    exact EqualsThrough.sameAll ih hu.of_tuple htu huv
  | list _ ih =>
    refine .of_same fun u v hu htu huv => ?_
    obtain ⟨us, rfl, htu⟩ := list_same htu
    obtain ⟨vs, rfl, huv⟩ := list_same huv
    exact EqualsThrough.sameAll ih hu.of_list htu huv
  | slots _ ih =>
    refine .of_same fun u v hu htu huv => ?_
    obtain ⟨_, us, rfl, htu⟩ := slots_same htu
    obtain ⟨_, vs, rfl, huv⟩ := slots_same huv
    exact EqualsThrough.sameAll ih hu.of_slots htu huv
  | collection hts _ _ ih =>
    refine .of_same fun u v hu htu huv => ?_
    obtain ⟨us, hus, htu, hlen⟩ := members?_of_same hts htu
    obtain ⟨vs, hvs, huv, hlen'⟩ := members?_of_same hus huv
    rw [same_of_members? hts hvs, Bool.and_eq_true, allIn_iff]
    refine ⟨fun t ht => ?_, beq_iff_eq.mpr (hlen.trans hlen')⟩
    obtain ⟨u', hu', htu'⟩ := allIn_iff.mp htu t ht
    obtain ⟨v', hv', huv'⟩ := allIn_iff.mp huv u' hu'
    exact ⟨v', hv', ih t ht u' v' ((hu.members hus).2 u' hu') htu' huv'⟩
  | dict _ _ _ ihkeys ihvalues =>
    refine .of_same fun u v hu htu huv => ?_
    obtain ⟨fs, rfl, htu, hlen⟩ := dict_same htu
    obtain ⟨gs, rfl, huv, hlen'⟩ := dict_same huv
    rw [same_dict, EqualsThrough.entriesIn ihkeys ihvalues hu.of_dict.2 htu huv]
    exact beq_iff_eq.mpr (hlen.trans hlen')
  | fields _ _ _ ihkeys ihvalues =>
    refine .of_same fun u v hu htu huv => ?_
    obtain ⟨_, fs, rfl, htu, hlen⟩ := fields_same htu
    obtain ⟨_, gs, rfl, huv, hlen'⟩ := fields_same huv
    change (_ && _) = true
    rw [EqualsThrough.entriesIn ihkeys ihvalues hu.of_fields.2 htu huv]
    exact beq_iff_eq.mpr (hlen.trans hlen')
  | object _ _ ih =>
    refine .of_same fun u v hu htu huv => ?_
    obtain ⟨bs, rfl, htu, hlen⟩ := object_same htu
    obtain ⟨cs, rfl, huv, hlen'⟩ := object_same huv
    rw [attributesIn_iff] at htu huv
    rw [same_object_object, beq_self_eq_true, Bool.true_and, Bool.and_eq_true, attributesIn_iff]
    refine ⟨fun a ha => ?_, beq_iff_eq.mpr (hlen.trans hlen')⟩
    obtain ⟨b, hb, hname, hvalue⟩ := htu a ha
    obtain ⟨d, hd, hname', hvalue'⟩ := huv b hb
    exact ⟨d, hd, hname.trans hname', ih a ha _ _ (hu.of_object.2 b hb) hvalue hvalue'⟩
  | handle r c s =>
    refine .of_same fun u v hu htu huv => ?_
    obtain ⟨d, s', rfl⟩ := handle_same htu
    obtain ⟨d', s'', rfl⟩ := handle_same huv
    exact beq_self_eq_true r

/-- Being the same item is transitive. -/
theorem sameItem_trans (ht : t.Sound) (hu : u.Sound) (h : t.sameItem u = true)
    (h' : u.sameItem v = true) : t.sameItem v = true := ht.equalsThrough u v hu h h'

/-- Whether being the same item as a datum can be turned round. -/
def Turns (t : Datum) : Prop := ∀ u, u.Sound → t.sameItem u = true → u.sameItem t = true

theorem Turns.of_same (h : ∀ u, u.Sound → t.same u = true → u.same t = true) : t.Turns := by
  intro u hu htu
  rcases eq_or_same_of_sameItem htu with rfl | htu
  · exact htu
  · exact sameItem_of_same (h u hu htu)

theorem Turns.sameAll (hts : ∀ t ∈ ts, t.Turns) (hus : ∀ u ∈ us, u.Sound)
    (h : sameAll ts us = true) : sameAll us ts = true := by
  rw [sameAll_iff] at *
  induction h with
  | nil => exact .nil
  | cons htu _ ih =>
    rw [List.forall_mem_cons] at hts hus
    exact .cons (hts.1 _ hus.1 htu) (ih hts.2 hus.2)

/-- What is the same item as one datum is the same item. -/
theorem Turns.cancel (hu : u.Turns) (ht : t.Sound) (hv : v.Sound) (h : t.sameItem v = true)
    (h' : u.sameItem v = true) : t.sameItem u = true := sameItem_trans ht hv h (hu v hv h')

theorem Turns.allIn (hts : ∀ t ∈ ts, t.Turns) (hsound : ∀ t ∈ ts, t.Sound) (hus : ∀ u ∈ us, u.Sound)
    (hapart : Apart ts) (h : allIn ts us = true) (hlen : ts.length = us.length) :
    allIn us ts = true := by
  rw [allIn_iff] at *
  intro u hu
  obtain ⟨t, ht, htu⟩ := (onto_of_unrelated (R := fun t u => t.sameItem u = true) hapart
    (fun t ht t' ht' u hu => Turns.cancel (hts t' ht') (hsound t ht) (hus u hu)) h).2 hlen.symm u hu
  exact ⟨t, ht, hts t ht u (hus u hu) htu⟩

theorem Turns.entriesIn (hkeys : ∀ e ∈ es, e.1.Turns) (hvalues : ∀ e ∈ es, e.2.Turns)
    (hes : ∀ e ∈ es, e.1.Sound) (hfs : ∀ f ∈ fs, f.1.Sound ∧ f.2.Sound)
    (hapart : Apart (es.map (·.1))) (h : entriesIn es fs = true) (hlen : es.length = fs.length) :
    entriesIn fs es = true := by
  rw [entriesIn_iff] at *
  intro f hf
  obtain ⟨e, he, hkey, hvalue⟩ := (onto_of_unrelated (List.pairwise_map.mp hapart)
    (fun e he e' he' f hf hef he'f => Turns.cancel (hkeys e' he') (hes e he) (hfs f hf).1 hef.1 he'f.1)
    h).2 hlen.symm f hf
  exact ⟨e, he, hkeys e he _ (hfs f hf).1 hkey, hvalues e he _ (hfs f hf).2 hvalue⟩

theorem Turns.attributesIn (has : ∀ a ∈ as, a.2.Turns) (hbs : ∀ b ∈ bs, b.2.Sound)
    (hnames : (as.map (·.1)).Nodup) (h : attributesIn as bs = true) (hlen : as.length = bs.length) :
    attributesIn bs as = true := by
  rw [attributesIn_iff] at *
  intro b hb
  obtain ⟨a, ha, hname, hvalue⟩ := (onto_of_unrelated (List.pairwise_map.mp hnames)
    (fun a _ a' _ b _ hab ha'b => hab.1.trans ha'b.1.symm) h).2 hlen.symm b hb
  exact ⟨a, ha, hname.symm, has a ha _ (hbs b hb) hvalue⟩

theorem Sound.turns (ht : t.Sound) : t.Turns := by
  induction ht with
  | @atom a ha =>
    refine .of_same fun u hu htu => ?_
    rcases atom_same htu with ⟨b, rfl, hab⟩ | ⟨bs, rfl, ha⟩
    · exact ((Atom.same_iff.mp hab).symm ha hu.of_atom).same
    · exact beq_iff_eq.mpr ha
  | bytearray bs =>
    refine .of_same fun u hu htu => ?_
    rcases bytearray_same htu with ⟨b, rfl, hb⟩ | rfl
    · exact beq_iff_eq.mpr hb
    · exact htu
  | tuple _ ih =>
    refine .of_same fun u hu htu => ?_
    obtain ⟨us, rfl, htu⟩ := tuple_same htu
    exact Turns.sameAll ih hu.of_tuple htu
  | list _ ih =>
    refine .of_same fun u hu htu => ?_
    obtain ⟨us, rfl, htu⟩ := list_same htu
    exact Turns.sameAll ih hu.of_list htu
  | slots _ ih =>
    refine .of_same fun u hu htu => ?_
    obtain ⟨_, us, rfl, htu⟩ := slots_same htu
    exact Turns.sameAll ih hu.of_slots htu
  | collection hts hapart hsound ih =>
    refine .of_same fun u hu htu => ?_
    obtain ⟨us, hus, htu, hlen⟩ := members?_of_same hts htu
    rw [same_of_members? hus hts, Turns.allIn ih hsound (hu.members hus).2 hapart htu hlen]
    exact beq_iff_eq.mpr hlen.symm
  | dict hapart hkeys _ ihkeys ihvalues =>
    refine .of_same fun u hu htu => ?_
    obtain ⟨fs, rfl, htu, hlen⟩ := dict_same htu
    rw [same_dict, Turns.entriesIn ihkeys ihvalues hkeys hu.of_dict.2 hapart htu hlen]
    exact beq_iff_eq.mpr hlen.symm
  | fields hapart hkeys _ ihkeys ihvalues =>
    refine .of_same fun u hu htu => ?_
    obtain ⟨_, fs, rfl, htu, hlen⟩ := fields_same htu
    change (_ && _) = true
    rw [Turns.entriesIn ihkeys ihvalues hkeys hu.of_fields.2 hapart htu hlen]
    exact beq_iff_eq.mpr hlen.symm
  | object hnames _ ih =>
    refine .of_same fun u hu htu => ?_
    obtain ⟨bs, rfl, htu, hlen⟩ := object_same htu
    rw [same_object_object, beq_self_eq_true, Turns.attributesIn ih hu.of_object.2 hnames htu hlen]
    exact beq_iff_eq.mpr hlen.symm
  | handle r c s =>
    refine .of_same fun u hu htu => ?_
    obtain ⟨d, s', rfl⟩ := handle_same htu
    exact beq_self_eq_true r

/-- Being the same item is symmetric. -/
theorem sameItem_symm (ht : t.Sound) (hu : u.Sound) (h : t.sameItem u = true) :
    u.sameItem t = true := ht.turns u hu h

end Datum

end FunctionObjects
