import FunctionObjects.Proofs.Document.Carrying
import FunctionObjects.Proofs.Document.Kept
/-!
# Properties that are written

The attribute for a parameter is what the property of its name holds.  It is left out only if it is the
default of the parameter, or a collection without items where that default is nothing.
-/

namespace FunctionObjects

open Run World LibraryClass

variable {w : World}

/-! ## Defaults -/

theorem Magnitude.eq_of_same_ofInt {m n : Int} (h : (Magnitude.ofInt m).same (.ofInt n) = true) :
    m = n := by
  simpa [Magnitude.same, Magnitude.ofInt, Magnitude.compare?] using h

/-- An atom of the class of a plain one that is equal to it is the same. -/
theorem Atom.eq_of_same_plain {a b : Atom} (hb : b.isPlain = true)
    (hclass : w.classOfAtom a = w.classOfAtom b) (h : a.same b = true) : a = b := by
  cases b with
  | none =>
    cases a with
    | none => rfl
    | type t => simp [same, number?, real?, text?, bytes?] at h
    | other c => simp [same, number?, real?, text?, bytes?] at h
    | _ => simp [World.classOfAtom, ClassName.core, ClassName.noneType, LibraryClass.className] at hclass
  | int n =>
    cases a with
    | int m =>
      have hsame : (Magnitude.ofInt m).same (.ofInt n) = true := by
        simp only [same, number?, real?, Option.map_some, Bool.and_eq_true] at h
        exact h.1
      rw [Magnitude.eq_of_same_ofInt hsame]
    | type t => simp [same, number?, real?, text?, bytes?] at h
    | other c => simp [same, number?, real?, text?, bytes?] at h
    | _ => simp [World.classOfAtom, ClassName.core, ClassName.noneType, LibraryClass.className] at hclass
  | bool c =>
    cases a with
    | bool d =>
      cases c <;> cases d <;> first | rfl | exact absurd h (by decide)
    | type t => simp [same, number?, real?, text?, bytes?] at h
    | other c => simp [same, number?, real?, text?, bytes?] at h
    | _ => simp [World.classOfAtom, ClassName.core, ClassName.noneType, LibraryClass.className] at hclass
  | str s =>
    cases a with
    | str t =>
      have hsame : t = s := by simpa [same, number?, real?, text?] using h
      rw [hsame]
    | type t => simp [same, number?, real?, text?, bytes?] at h
    | other c => simp [same, number?, real?, text?, bytes?] at h
    | _ => simp [World.classOfAtom, ClassName.core, ClassName.noneType, LibraryClass.className] at hclass
  | _ => simp [isPlain] at hb

namespace Writing

/-- The core collections without items. -/
def IsEmpty (t : Datum) : Prop :=
  t = .tuple [] ∨ t = .frozenset [] ∨ t = .list [] ∨ t = .dict [] ∨ t = .set []

theorem isEmptyCollection_iff {t : Datum} {x : Value} (h : w.Holds t x) :
    isEmptyCollection w x = true ↔ IsEmpty t := by
  cases t with
  | atom a => obtain rfl : x = .atom a := h; simp [isEmptyCollection, IsEmpty]
  | tuple ts =>
    obtain ⟨vs, rfl, hs⟩ := h
    have hlen := hs.length_eq
    cases ts <;> cases vs <;> simp_all [isEmptyCollection, IsEmpty]
  | frozenset ts =>
    obtain ⟨vs, rfl, hs⟩ := h
    have hlen := hs.length_eq
    cases ts <;> cases vs <;> simp_all [isEmptyCollection, IsEmpty]
  | list ts =>
    obtain ⟨r, vs, rfl, hr, hs⟩ := h
    have hlen := hs.length_eq
    cases ts <;> cases vs <;> simp_all [isEmptyCollection, IsEmpty, World.cell?]
  | set ts =>
    obtain ⟨r, vs, rfl, hr, hs⟩ := h
    have hlen := hs.length_eq
    cases ts <;> cases vs <;> simp_all [isEmptyCollection, IsEmpty, World.cell?]
  | dict es =>
    obtain ⟨r, vs, rfl, hr, hs⟩ := h
    have hlen := (holdsAll_keys hs).length_eq
    cases es <;> cases vs <;> simp_all [isEmptyCollection, IsEmpty, World.cell?]
  | bytearray bs =>
    obtain ⟨r, rfl, hr⟩ := h
    simp [isEmptyCollection, IsEmpty, World.cell?, hr]
  | slots c ts =>
    obtain ⟨r, o, vs, rfl, hr, -⟩ := h
    simp [isEmptyCollection, IsEmpty, World.cell?, hr]
  | fields c es =>
    obtain ⟨r, o, vs, rfl, hr, -⟩ := h
    simp [isEmptyCollection, IsEmpty, World.cell?, hr]
  | object c as =>
    obtain ⟨r, o, vs, rfl, hr, -⟩ := h
    simp [isEmptyCollection, IsEmpty, World.cell?, hr]
  | keys ts =>
    obtain ⟨r, vs, rfl, hr, -⟩ := h
    simp [isEmptyCollection, IsEmpty, World.cell?, hr]
  | handle r c s =>
    obtain ⟨rfl, cell, hr, hc⟩ := h
    cases cell <;> simp_all [isEmptyCollection, IsEmpty, World.cell?, Cell.handle?]

/-- What is left out for a plain default is the default, or is without items and the default is
nothing. -/
theorem eq_of_isDefault {t : Datum} {x : Value} {a : Atom} (h : w.Holds t x) (ha : a.isPlain = true)
    (hd : isDefault w x (.atom a) = true) : t = .atom a ∨ a = .none ∧ IsEmpty t := by
  have hread : w.read x = t := read_of_holds h
  have hreadDefault : w.read (.atom a) = .atom a := rfl
  have hbytes : a.bytes? = none := by cases a <;> simp_all [Atom.isPlain, Atom.bytes?]
  unfold isDefault at hd
  cases hempty : isEmptyCollection w x with
  | true =>
    have ht := (isEmptyCollection_iff h).mp hempty
    have hdiffers : (Datum.atom a).same t = false := by
      rcases ht with rfl | rfl | rfl | rfl | rfl <;> rfl
    rw [hempty, hread, hreadDefault, hdiffers] at hd
    refine .inr ⟨?_, ht⟩
    cases a <;> first | rfl | simp [Value.isNone] at hd
  | false =>
    rw [hempty, hread, hreadDefault] at hd
    simp only [Bool.false_eq_true, if_false, Bool.and_eq_true, beq_iff_eq] at hd
    obtain ⟨b, rfl, rfl⟩ | ⟨ht, -⟩ := h.atom_or
    · exact .inl (congrArg Datum.atom (Atom.eq_of_same_plain ha hd.1 hd.2))
    · have hdiffers : t.same (.atom a) = false := by
        cases t with
        | atom b => exact absurd rfl (ht b)
        | bytearray bs =>
          change (a.bytes? == some bs) = false
          rw [hbytes]
          rfl
        | _ => rfl
      rw [hdiffers] at hd
      simp at hd

/-! ## Properties -/

theorem lookup_visible {fields : List (String × Value)} {name : String}
    (hname : name.startsWith "__" = false) : (visible fields).lookup name = fields.lookup name := by
  induction fields with
  | nil => rfl
  | cons f fields ih =>
    obtain ⟨n, x⟩ := f
    by_cases hn : name = n
    · subst hn
      simp [visible, hname]
    · rw [List.lookup_cons, beq_eq_false_iff_ne.mpr hn, ← ih]
      cases hv : n.startsWith "__" with
      | true => simp [visible, hv]
      | false =>
        simp only [visible, List.filter_cons, hv, Bool.not_false, if_true, List.lookup_cons,
          beq_eq_false_iff_ne.mpr hn]

/-- What is set on an object under a name holds what the object does. -/
theorem lookup_attributes {c : ClassName} {as : List (String × Datum)} {x : Value}
    (hx : w.Holds (.object c as) x) {name : String} (hname : name.startsWith "__" = false) {t : Datum}
    (ht : as.lookup name = some t) :
    ∃ y, (w.attributes x).lookup name = some y ∧ w.Holds t y := by
  obtain ⟨r, o, fields, rfl, hr, -, hfields⟩ := hx
  obtain ⟨u, y, hu, hy, hholds⟩ | ⟨hnone, -⟩ := lookup_holdsFields hfields name
  · rw [ht] at hu
    obtain rfl := Option.some.inj hu
    rw [lookup_visible hname] at hy
    exact ⟨y, by simpa [World.attributes, World.cell?, hr] using hy, hholds⟩
  · rw [ht] at hnone
    simp at hnone

theorem result_field {x y : Value} {name : String} (h : (w.attributes x).lookup name = some y) :
    (Run.field x name).result w = (.ok y, w) := by
  simp [Run.field, Run.field?, result_bind, h]

/-- What is set on an adapter of an object. -/
theorem result_ofAdapter {c : ClassName} {as : List (String × Datum)} {x : Value}
    (hx : w.Holds (.object c as) x) {slot name : String} (hslot : slot.startsWith "__" = false)
    (hname : name.startsWith "__" = false) {t : Datum} (ht : onAdapter? as slot name = some t) :
    ∃ y, (Attribute.ofAdapter x slot name).result w = (.ok y, w) ∧ w.Holds t y := by
  unfold onAdapter? at ht
  split at ht
  · rename_i d inner hinner
    obtain ⟨y, hy, hadapter⟩ := lookup_attributes hx hslot hinner
    obtain ⟨z, hz, hholds⟩ := lookup_attributes hadapter hname ht
    refine ⟨z, ?_, hholds⟩
    rw [Attribute.ofAdapter, result_bind_ok _ (result_field hy), result_field hz]
  · simp at ht

theorem params_visible : ∀ k ∈ Registry.shipped, ∀ p ∈ k.params, p.name.startsWith "__" = false := by
  intro k hk p hp
  obtain ⟨-, -, ⟨-, hname⟩ | ⟨-, hname | hname⟩ | ⟨-, hname⟩⟩ := params_properties k hk p hp
  · exact Construction.attributeNames_visible k (mem_all k) _ hname
  all_goals
    rw [hname]
    simp

/-- The attribute for a parameter is what the property of its name holds. -/
theorem result_attribute? {k : LibraryClass} (hk : k ∈ Registry.shipped) (ho : w.Offers k)
    {as : List (String × Datum)} {x : Value} (hx : w.Holds (.object k.className as) x) {p : Param}
    (hp : p ∈ k.params) {t : Datum} (ht : k.property? as p.name = some t) :
    ∃ y, (attribute? x p.name).result w = (.ok (some y), w) ∧ w.Holds t y := by
  have hmember := ho.members p hp
  have hname := params_visible k hk p hp
  obtain ⟨r, hr, hclass⟩ : ∃ r, x = .ref r ∧ w.classOf x = k.className := by
    obtain ⟨r, o, fields, rfl, hr, -, -⟩ := hx
    exact ⟨r, rfl, by simp [World.classOf, hr]⟩
  have hcomputed : ∀ {q : Property} {slot name : String}, slot.startsWith "__" = false →
      name.startsWith "__" = false → k.properties.lookup p.name = some q →
      Attribute.property q x = Attribute.ofAdapter x slot name →
      onAdapter? as slot name = some t →
      ∃ y, (Attribute.read? x p.name).result w = (.ok (some y), w) ∧ w.Holds t y := by
    intro q slot name hslot hname hq hproperty hadapter
    obtain ⟨y, hy, hholds⟩ := result_ofAdapter hx hslot hname hadapter
    rw [hq] at hmember
    refine ⟨y, ?_, hholds⟩
    subst hr
    simp only [Attribute.read?, result_bind, result_get, hclass, hmember, Option.map_some,
      Attribute.ofMember, hproperty, result_map, hy]
  have hread : ∃ y, (Attribute.read? x p.name).result w = (.ok (some y), w) ∧ w.Holds t y := by
    unfold property? at ht
    split at ht
    · rename_i hq
      exact hcomputed (by simp) (by simp) hq rfl ht
    · rename_i hq
      exact hcomputed (by simp) (by simp) hq rfl ht
    · obtain ⟨-, -, ⟨hplain, -⟩ | hcase⟩ := params_properties k hk p hp
      · obtain ⟨y, hy, hholds⟩ := lookup_attributes hx hname ht
        rw [hplain] at hmember
        refine ⟨y, ?_, hholds⟩
        subst hr
        simp only [Attribute.read?, result_bind, result_get, hclass, hmember, Option.map_none,
          result_pure, hy]
      · rename_i hselection hprojection
        rcases hcase with ⟨rfl, hn | hn⟩ | ⟨rfl, hn⟩ <;> rw [hn] at hselection hprojection
        · exact absurd rfl hselection
        · exact absurd rfl hprojection
        · exact absurd rfl hselection
  obtain ⟨y, hres, hy⟩ := hread
  exact ⟨y, by rw [attribute?, result_tryCatch, hres], hy⟩

end Writing

end FunctionObjects
