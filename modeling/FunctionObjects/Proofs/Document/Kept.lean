import FunctionObjects.Document.Reading
import FunctionObjects.Proofs.Construction.Built
/-!
# Data that documents keep

A document keeps lists, dictionaries with texts for keys and the atoms that are written as they are.
It keeps classes that are found again under their names, and expressions where a constructor compiles
them again.  It does not keep what is left out for a default that is something else.
-/

namespace FunctionObjects

open LibraryClass

namespace Atom

/-- Atoms for which a document has a form. -/
def isWritten : Atom → Bool
  | .pattern _ => true
  | .type (.cls _) => true
  | .type .any => true
  | a => (Document.atomJson? a).isSome

/-- Atoms that are read as they are written: expressions are not, and classes only if they are found
again. -/
def ReadsBack : Atom → Prop
  | .pattern _ => False
  | .type (.cls c) => typeNamed c.qualified = .ok (.cls c)
  | a => a.isWritten = true

end Atom

/-- Data for which documents have no form: the writer refuses them wherever they occur. -/
def Datum.IsForeign : Datum → Prop
  | .atom a => a.isWritten = false
  | .slots .. => True
  | .fields .. => True
  | .bytearray _ => True
  | .keys _ => True
  | .handle .. => True
  | .object c _ => ∀ k ∈ Registry.shipped, k.className ≠ c
  | _ => False

/-- Data that documents keep, apart from `odd` ones.  Of a function object the properties count: one is
nothing only if that is its default, and a collection without items whose default is nothing only
if the constructor makes a list of no items of nothing. -/
inductive Kept (odd : Datum → Prop) : Datum → Prop
  | odd {t : Datum} (h : odd t) : Kept odd t
  | atom {a : Atom} (h : a.ReadsBack) : Kept odd (.atom a)
  | list {ts : List Datum} (h : ∀ t ∈ ts, Kept odd t) : Kept odd (.list ts)
  | dict {ts : List (String × Datum)} (hnodup : (ts.map (·.1)).Nodup)
    (hclass : classKey ∉ ts.map (·.1)) (htype : ts.map (·.1) ≠ [typeKey])
    (h : ∀ t ∈ ts, Kept odd t.2) : Kept odd (.dict (ts.map fun t => (.atom (.str t.1), t.2)))
  | function {k : LibraryClass} {as : List (String × Datum)} (hk : k ∈ Registry.shipped)
    (hnone : ∀ p ∈ k.params, k.property? as p.name = some .none → p.default = some .none)
    (hlist : ∀ p ∈ k.params, k.property? as p.name = some (.list []) → p.default = some .none →
      p.name ∈ k.source.listed)
    (hdict : ∀ p ∈ k.params, k.property? as p.name = some (.dict []) → p.default ≠ some .none)
    (h : ∀ p ∈ k.params, ∀ t, k.property? as p.name = some t →
      (¬ ∃ u, Recompiled k.source p.name t u) → Kept odd t) : Kept odd (.object k.className as)

/-- What is asked of the properties of a function object that is kept. -/
structure KeptProperties (odd : Datum → Prop) (k : LibraryClass) (as : List (String × Datum)) :
    Prop where
  none : ∀ p ∈ k.params, k.property? as p.name = some .none → p.default = some .none
  list : ∀ p ∈ k.params, k.property? as p.name = some (.list []) → p.default = some .none →
    p.name ∈ k.source.listed
  dict : ∀ p ∈ k.params, k.property? as p.name = some (.dict []) → p.default ≠ some .none
  kept : ∀ p ∈ k.params, ∀ t, k.property? as p.name = some t →
    (¬ ∃ u, Recompiled k.source p.name t u) → Kept odd t

theorem Kept.properties {odd : Datum → Prop} (hodd : ∀ t, odd t → t.IsForeign) {k : LibraryClass}
    (hk : k ∈ Registry.shipped) {as : List (String × Datum)}
    (h : Kept odd (.object k.className as)) : KeptProperties odd k as := by
  generalize ht : Datum.object k.className as = t at h
  cases h with
  | odd h =>
    subst ht
    exact absurd rfl (hodd _ h k hk)
  | function _ hnone hlist hdict h =>
    obtain ⟨hclass, rfl⟩ := Datum.object.inj ht
    obtain rfl := className_injective hclass
    exact ⟨hnone, hlist, hdict, h⟩
  | _ => simp at ht

namespace LibraryClass

variable {zones : Time.Zones} {k : LibraryClass} {arg : String → Datum} {as : List (String × Datum)}

theorem lookup_of_mem_names {n : String} (h : n ∈ as.map (·.1)) : ∃ t, as.lookup n = some t := by
  cases hl : as.lookup n with
  | some t => exact ⟨t, rfl⟩
  | none =>
    rw [List.lookup_eq_none_iff] at hl
    obtain ⟨e, he, rfl⟩ := List.mem_map.mp h
    exact absurd (hl e he) (by simp)

/-- The properties that parameters have. -/
theorem params_properties : ∀ k ∈ Registry.shipped, ∀ p ∈ k.params,
    k.properties.lookup p.name = k.source.properties.lookup p.name ∧ p.name ≠ classKey ∧
    (k.properties.lookup p.name = none ∧ p.name ∈ k.source.attributeNames ∨
      k = .tupleAdaptedFunction ∧ (p.name = "selection" ∨ p.name = "projection") ∨
      k = .tupleAdaptedPredicate ∧ p.name = "selection") := by
  decide

/-- Every parameter has a property. -/
theorem exists_property? (hk : k ∈ Registry.shipped) (has : attributes? zones k arg = some as) {p : Param}
    (hp : p ∈ k.params) : ∃ t, k.property? as p.name = some t := by
  obtain ⟨-, -, ⟨hplain, hname⟩ | ⟨rfl, hname⟩ | ⟨rfl, hname⟩⟩ := params_properties k hk p hp
  · rw [property?, hplain]
    exact lookup_of_mem_names (named_attributesOf _ _ _ has ▸ hname)
  · obtain ⟨s, -, h⟩ := Option.bind_eq_some_iff.mp has
    obtain ⟨p, -, h⟩ := Option.bind_eq_some_iff.mp h
    obtain rfl := Option.some.inj h
    rcases hname with hname | hname <;> rw [hname]
    · exact ⟨s, rfl⟩
    · exact ⟨p, rfl⟩
  · obtain ⟨s, -, h⟩ := Option.bind_eq_some_iff.mp has
    obtain rfl := Option.some.inj h
    rw [hname]
    exact ⟨s, rfl⟩

theorem depth_of_mem_fields {n : String} {t : Datum} (h : (n, t) ∈ as) :
    t.depth ≤ Datum.depthFields as := by
  induction as with
  | nil => simp at h
  | cons e as ih =>
    rw [Datum.depthFields]
    rcases List.mem_cons.mp h with rfl | h
    · exact Nat.le_max_left _ _
    · exact Nat.le_trans (ih h) (Nat.le_max_right _ _)

end LibraryClass

/-- An object of a made datum is of a class that is not registered, or is as its constructor leaves
it. -/
theorem Made.of_object {w : World} {c : ClassName} {as : List (String × Datum)}
    (h : Made w (.object c as)) : w.registry.isRegistered c = false ∨
      ∃ k ∈ Registry.shipped, k.className = c ∧
        (∃ arg, attributes? w.zones k arg = some as) ∧ ∀ e ∈ as, Made w e.2 := by
  generalize ht : Datum.object c as = t at h
  cases h with
  | object hc =>
    obtain ⟨rfl, rfl⟩ := Datum.object.inj ht
    exact .inl hc
  | function hk has h =>
    obtain ⟨rfl, rfl⟩ := Datum.object.inj ht
    exact .inr ⟨_, hk, rfl, ⟨_, has⟩, h⟩
  | _ => simp at ht

theorem World.Offers.isRegistered {w : World} {k : LibraryClass} (h : w.Offers k) :
    w.registry.isRegistered k.className = true := by
  obtain ⟨name, -, hname, -⟩ := h.registered
  simp [Registry.isRegistered, hname]

/-- A function object that is on offer is as its constructor leaves it. -/
theorem Made.of_function {w : World} {k : LibraryClass} {as : List (String × Datum)}
    (hw : w.Stocked) (hk : k ∈ Registry.shipped) (h : Made w (.object k.className as)) :
    (∃ arg, attributes? w.zones k arg = some as) ∧ ∀ e ∈ as, Made w e.2 := by
  obtain hc | ⟨j, -, hj, harg, hmade⟩ := h.of_object
  · rw [(hw k hk).isRegistered] at hc
    simp at hc
  · obtain rfl := className_injective hj
    exact ⟨harg, hmade⟩

namespace LibraryClass

variable {zones : Time.Zones} {k : LibraryClass} {arg : String → Datum} {as : List (String × Datum)}

/-- The adapters that hold properties are adapters of the library. -/
theorem adapter_of_property? (hk : k ∈ Registry.shipped) (has : attributes? zones k arg = some as)
    {p : Param} (hp : p ∈ k.params) {t : Datum} (h : k.property? as p.name = some t) :
    (∃ n, (n, t) ∈ as) ∨ ∃ slot n inner, ∃ j ∈ Registry.shipped,
      (slot, .object j.className inner) ∈ as ∧ (n, t) ∈ inner := by
  obtain ⟨-, -, ⟨hplain, -⟩ | ⟨rfl, hname⟩ | ⟨rfl, hname⟩⟩ := params_properties k hk p hp
  · rw [property?, hplain] at h
    exact .inl ⟨_, Binding.mem_of_lookup h⟩
  · obtain ⟨s, -, h'⟩ := Option.bind_eq_some_iff.mp has
    obtain ⟨p, -, h'⟩ := Option.bind_eq_some_iff.mp h'
    obtain rfl := Option.some.inj h'
    rcases hname with hname | hname <;> rw [hname] at h
    · obtain rfl := Option.some.inj h
      exact .inr ⟨_, "selection", _, .tupleInputAdapter, by decide, List.mem_cons_self, by simp⟩
    · obtain rfl := Option.some.inj h
      exact .inr ⟨"output_fold", "projection", _, .tupleOutputAdapter, by decide, by simp [adapter]; rfl, by simp⟩
  · obtain ⟨s, -, h'⟩ := Option.bind_eq_some_iff.mp has
    obtain rfl := Option.some.inj h'
    rw [hname] at h
    obtain rfl := Option.some.inj h
    exact .inr ⟨_, "selection", _, .tupleInputAdapter, by decide, List.mem_cons_self, by simp⟩

theorem depth_of_property? (hk : k ∈ Registry.shipped) (has : attributes? zones k arg = some as)
    {p : Param} (hp : p ∈ k.params) {t : Datum} (h : k.property? as p.name = some t) :
    t.depth ≤ Datum.depthFields as := by
  obtain ⟨n, hn⟩ | ⟨slot, n, inner, j, -, hslot, hn⟩ := adapter_of_property? hk has hp h
  · exact depth_of_mem_fields hn
  · have hinner := depth_of_mem_fields hn
    have houter := depth_of_mem_fields hslot
    rw [Datum.depth] at houter
    omega

/-- Properties of a made object are made. -/
theorem made_property? {w : World} (hw : w.Stocked) (hk : k ∈ Registry.shipped)
    (has : attributes? w.zones k arg = some as) (hmade : ∀ e ∈ as, Made w e.2) {p : Param}
    (hp : p ∈ k.params) {t : Datum} (h : k.property? as p.name = some t) : Made w t := by
  obtain ⟨n, hn⟩ | ⟨slot, n, inner, j, hj, hslot, hn⟩ := adapter_of_property? hk has hp h
  · exact hmade _ hn
  · exact ((hmade _ hslot).of_function hw hj).2 _ hn

theorem items_of_list {t l : Datum} (h : t.listed? = some l) : l.items? ≠ none := by
  obtain ⟨ts, rfl⟩ := Datum.eq_list_of_listed h
  simp [Datum.items?]

theorem items_of_isSingle {t : Datum} (h : t.isSingle = true) : t.items? ≠ none := by
  intro hnone
  simp [Datum.isSingle, hnone] at h

/-- What a constructor has gone through can be gone through again. -/
theorem items_of_walked {owner : LibraryClass} (h : attributesOf? zones owner arg = some as) {n : String}
    (hn : n ∈ owner.walked) {t : Datum} (ht : owner.property? as n = some t) : t.items? ≠ none := by
  have hlisted : ∀ {name : String} {u : Datum},
      (do return [(name, ← u.listed?)]) = some as → as.lookup name = some t → t.items? ≠ none := by
    intro name u h ht
    obtain ⟨l, hl, h⟩ := Option.bind_eq_some_iff.mp h
    obtain rfl := Option.some.inj h
    obtain rfl : l = t := by simpa using ht
    exact items_of_list hl
  cases owner with
  | functionComposite => obtain rfl := List.mem_singleton.mp hn; exact hlisted h ht
  | predicateComposite => obtain rfl := List.mem_singleton.mp hn; exact hlisted h ht
  | tupleInputAdapter => obtain rfl := List.mem_singleton.mp hn; exact hlisted h ht
  | tupleOutputAdapter => obtain rfl := List.mem_singleton.mp hn; exact hlisted h ht
  | areIn => obtain rfl := List.mem_singleton.mp hn; exact hlisted h ht
  | tupleAdaptedFunction =>
    obtain ⟨s, hs, h⟩ := Option.bind_eq_some_iff.mp h
    obtain ⟨p, hp, h⟩ := Option.bind_eq_some_iff.mp h
    obtain rfl := Option.some.inj h
    rcases List.mem_cons.mp hn with rfl | hn
    · obtain rfl : s = t := Option.some.inj ht
      exact items_of_list hs
    · obtain rfl := List.mem_singleton.mp hn
      obtain rfl : p = t := Option.some.inj ht
      exact items_of_list hp
  | tupleAdaptedPredicate =>
    obtain ⟨s, hs, h⟩ := Option.bind_eq_some_iff.mp h
    obtain rfl := Option.some.inj h
    obtain rfl := List.mem_singleton.mp hn
    obtain rfl : s = t := Option.some.inj ht
    exact items_of_list hs
  | csvOptions =>
    obtain ⟨l, hl, h⟩ := Option.bind_eq_some_iff.mp h
    split at h
    · rename_i hchecks
      simp only [Bool.and_eq_true] at hchecks
      obtain rfl := Option.some.inj h
      simp only [walked, List.mem_cons, List.not_mem_nil, or_false] at hn
      rcases hn with rfl | rfl | rfl
      · obtain rfl : l = t := Option.some.inj ht
        exact items_of_list hl
      · obtain rfl : arg "delimiter" = t := Option.some.inj ht
        exact items_of_isSingle hchecks.1.1
      · obtain rfl : arg "quote_char" = t := Option.some.inj ht
        exact items_of_isSingle hchecks.1.2
    · simp at h
  | multiRegex =>
    obtain ⟨u, hu, h⟩ := Option.bind_eq_some_iff.mp h
    obtain rfl := Option.some.inj h
    obtain rfl := List.mem_singleton.mp hn
    obtain rfl : u = t := Option.some.inj ht
    obtain ⟨ts, -, hts⟩ := Option.bind_eq_some_iff.mp hu
    obtain ⟨us, -, rfl⟩ := Option.map_eq_some_iff.mp hts
    simp [Datum.items?]
  | _ => simp [walked, listed] at hn

end LibraryClass

end FunctionObjects
