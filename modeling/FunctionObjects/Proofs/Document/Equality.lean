import FunctionObjects.Proofs.Document.Kept
import FunctionObjects.Proofs.Signature.SameType
/-!
# Equality of kept data

What is read back is compared with what was written, so a datum has to be equal to itself.  Collections
and objects are if what they hold is; a float that is not equal to itself is still the same item.
-/

namespace FunctionObjects

open LibraryClass

theorem Magnitude.same_ofInt (n : Int) : (Magnitude.ofInt n).same (.ofInt n) = true := by
  simp [same, ofInt, compare?]

theorem Atom.same_of_readsBack {a : Atom} (h : a.ReadsBack) :
    (a.identical a || a.same a) = true := by
  cases a with
  | bool b => simp [same, number?, real?, Magnitude.same_ofInt]
  | int n => simp [same, number?, real?, Magnitude.same_ofInt]
  | float x => simp [identical]
  | str s => simp [same, number?, real?, text?]
  | scalar s => simp [identical]
  | none => rfl
  | type t => simp [same, number?, real?, text?, bytes?, Ty.same_refl]
  | pattern p => exact absurd h id
  | _ => simp [ReadsBack, isWritten, Document.atomJson?] at h

namespace Datum

section Equations

variable (t u : Datum) (ts us : List Datum) (es fs : List (Datum × Datum))
  (as bs : List (String × Datum))

theorem same_atom (a b : Atom) : (Datum.atom a).same (.atom b) = a.same b := rfl

theorem same_dict :
    (Datum.dict es).same (.dict fs) = (entriesIn es fs && es.length == fs.length) := rfl

theorem same_object_object (c d : ClassName) : (Datum.object c as).same (.object d bs) =
    (c == d && attributesIn as bs && as.length == bs.length) := rfl

theorem sameAll_cons : sameAll (t :: ts) (u :: us) = (t.sameItem u && sameAll ts us) := rfl

theorem entriesIn_cons (e : Datum × Datum) : entriesIn (e :: es) fs =
    (fs.any (fun f => e.1.sameItem f.1 && e.2.sameItem f.2) && entriesIn es fs) := rfl

theorem attributesIn_cons (a : String × Datum) : attributesIn (a :: as) bs =
    (bs.any (fun b => a.1 == b.1 && a.2.sameItem b.2) && attributesIn as bs) := rfl

end Equations

/-- Whether a datum is the same item as itself. -/
def EqualsItself (t : Datum) : Prop := t.sameItem t = true

theorem equalsItself_atom {a : Atom} (h : a.ReadsBack) : (Datum.atom a).EqualsItself := by
  simpa [EqualsItself, sameItem, Datum.identical, same_atom] using Atom.same_of_readsBack h

theorem equalsItself_pattern (p : Pattern) : (Datum.atom (.pattern p)).EqualsItself := by
  simp [EqualsItself, sameItem, same_atom, Atom.same, Atom.number?, Atom.real?, Atom.text?,
    Atom.bytes?]

theorem sameAll_self {ts : List Datum} (h : ∀ t ∈ ts, t.EqualsItself) : sameAll ts ts = true := by
  induction ts with
  | nil => rfl
  | cons t ts ih =>
    rw [sameAll_cons, Bool.and_eq_true]
    exact ⟨h t List.mem_cons_self, ih fun u hu => h u (List.mem_cons_of_mem t hu)⟩

theorem entriesIn_of_subset {es fs : List (Datum × Datum)} (hsub : ∀ e ∈ es, e ∈ fs)
    (h : ∀ e ∈ es, e.1.EqualsItself ∧ e.2.EqualsItself) : entriesIn es fs = true := by
  induction es with
  | nil => rfl
  | cons e es ih =>
    obtain ⟨hkey, hvalue⟩ := h e List.mem_cons_self
    rw [entriesIn_cons, Bool.and_eq_true, List.any_eq_true]
    refine ⟨⟨e, hsub e List.mem_cons_self, ?_⟩, ?_⟩
    · exact Bool.and_eq_true _ _ ▸ ⟨hkey, hvalue⟩
    · exact ih (fun f hf => hsub f (List.mem_cons_of_mem e hf)) fun f hf =>
        h f (List.mem_cons_of_mem e hf)

theorem attributesIn_of_subset {as bs : List (String × Datum)} (hsub : ∀ a ∈ as, a ∈ bs)
    (h : ∀ a ∈ as, a.2.EqualsItself) : attributesIn as bs = true := by
  induction as with
  | nil => rfl
  | cons a as ih =>
    rw [attributesIn_cons, Bool.and_eq_true, List.any_eq_true]
    refine ⟨⟨a, hsub a List.mem_cons_self, ?_⟩, ?_⟩
    · exact Bool.and_eq_true _ _ ▸ ⟨beq_self_eq_true a.1, h a List.mem_cons_self⟩
    · exact ih (fun b hb => hsub b (List.mem_cons_of_mem a hb)) fun b hb =>
        h b (List.mem_cons_of_mem a hb)

theorem equalsItself_of_same {t : Datum} (h : t.same t = true) : t.EqualsItself := by
  rw [EqualsItself, sameItem, h, Bool.or_true]

theorem equalsItself_list {ts : List Datum} (h : ∀ t ∈ ts, t.EqualsItself) :
    (Datum.list ts).EqualsItself := equalsItself_of_same (sameAll_self h)

theorem equalsItself_dict {ts : List (String × Datum)} (h : ∀ t ∈ ts, t.2.EqualsItself) :
    (Datum.dict (ts.map fun t => (.atom (.str t.1), t.2))).EqualsItself := by
  refine equalsItself_of_same ?_
  rw [same_dict, Bool.and_eq_true]
  refine ⟨entriesIn_of_subset (fun _ he => he) fun e he => ?_, beq_self_eq_true _⟩
  obtain ⟨t, ht, rfl⟩ := List.mem_map.mp he
  exact ⟨equalsItself_atom (a := .str t.1) rfl, h t ht⟩

/-- An object is equal to itself if all that is set on it is. -/
theorem same_object {c : ClassName} {as : List (String × Datum)} (h : ∀ a ∈ as, a.2.EqualsItself) :
    (Datum.object c as).same (.object c as) = true := by
  rw [same_object_object, Bool.and_eq_true, Bool.and_eq_true]
  exact ⟨⟨beq_self_eq_true c, attributesIn_of_subset (fun _ ha => ha) h⟩, beq_self_eq_true _⟩

end Datum

/-- An expression that is compiled again is equal to itself, and so is a list of them. -/
theorem Recompiled.equalsItself {owner : LibraryClass} {name : String} {t u : Datum}
    (h : Recompiled owner name t u) : t.EqualsItself := by
  cases h with
  | value => exact Datum.equalsItself_pattern _
  | regex => exact Datum.equalsItself_pattern _
  | patterns =>
    refine Datum.equalsItself_list fun t ht => ?_
    obtain ⟨p, -, rfl⟩ := List.mem_map.mp ht
    exact Datum.equalsItself_pattern p

namespace LibraryClass

variable {zones : Time.Zones} {k : LibraryClass} {arg : String → Datum} {as : List (String × Datum)}

/-- The attributes of most classes are their properties. -/
theorem attributes_properties : ∀ k ∈ Registry.shipped,
    k = .tupleAdaptedFunction ∨ k = .tupleAdaptedPredicate ∨ k.source.attributeNames.Nodup ∧
      ∀ n ∈ k.source.attributeNames, k.properties.lookup n = none ∧ ∃ p ∈ k.params, p.name = n := by
  decide

theorem lookup_of_mem_nodup {n : String} {t : Datum} (hnodup : (as.map (·.1)).Nodup)
    (h : (n, t) ∈ as) : as.lookup n = some t := by
  induction as with
  | nil => simp at h
  | cons a as ih =>
    rw [List.map_cons, List.nodup_cons] at hnodup
    rcases List.mem_cons.mp h with rfl | h
    · simp
    · have hne : n ≠ a.1 := by
        rintro rfl
        exact hnodup.1 (List.mem_map.mpr ⟨_, h, rfl⟩)
      rw [List.lookup_cons, beq_eq_false_iff_ne.mpr hne]
      exact ih hnodup.2 h

/-- A made object is equal to itself if its properties are. -/
theorem same_of_properties (hk : k ∈ Registry.shipped) (has : attributes? zones k arg = some as)
    (h : ∀ p ∈ k.params, ∀ t, k.property? as p.name = some t → t.EqualsItself) :
    (Datum.object k.className as).same (.object k.className as) = true := by
  refine Datum.same_object fun a ha => ?_
  obtain rfl | rfl | ⟨hnodup, hnames⟩ := attributes_properties k hk
  · obtain ⟨s, -, has⟩ := Option.bind_eq_some_iff.mp has
    obtain ⟨p, -, has⟩ := Option.bind_eq_some_iff.mp has
    obtain rfl := Option.some.inj has
    have hselection : s.EqualsItself := h _ (.head _) s rfl
    have hfunction : (arg "function").EqualsItself := h _ (.tail _ (.head _)) _ rfl
    have hprojection : p.EqualsItself := h _ (.tail _ (.tail _ (.head _))) p rfl
    have hnone : Datum.none.EqualsItself := rfl
    simp only [List.mem_cons, List.not_mem_nil, or_false] at ha
    obtain rfl | rfl | rfl | rfl := ha
    · exact Datum.equalsItself_of_same (Datum.same_object (by simpa using hselection))
    · exact hnone
    · exact Datum.equalsItself_of_same (Datum.same_object (by simpa using hprojection))
    · exact hfunction
  · obtain ⟨s, -, has⟩ := Option.bind_eq_some_iff.mp has
    obtain rfl := Option.some.inj has
    have hselection : s.EqualsItself := h _ (.head _) s rfl
    have hpredicate : (arg "predicate").EqualsItself := h _ (.tail _ (.head _)) _ rfl
    simp only [List.mem_cons, List.not_mem_nil, or_false] at ha
    obtain rfl | rfl := ha
    · exact Datum.equalsItself_of_same (Datum.same_object (by simpa using hselection))
    · exact hpredicate
  · have hnamed := named_attributesOf _ _ _ has
    obtain ⟨hplain, p, hp, hname⟩ := hnames a.1 (hnamed ▸ List.mem_map.mpr ⟨a, ha, rfl⟩)
    refine h p hp a.2 ?_
    rw [hname, property?, hplain]
    exact lookup_of_mem_nodup (hnamed ▸ hnodup) ha

end LibraryClass

end FunctionObjects
