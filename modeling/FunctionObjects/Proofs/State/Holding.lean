import Mathlib.Data.Fintype.Card
import FunctionObjects.Value.World
/-!
# What a value holds

A value holds a datum if the datum can be read out of the heap cell by cell, with no value inside
itself.  Reading follows cells at most as often as there are cells, and that is often enough: the
cells on a way down are all different.  An object that is made by calling a class itself carries no
parameterized form: what types of it are read depends on it alone, and on the functions that it holds as a
chain or as the negation of one.
-/

namespace FunctionObjects

/-- What a cell is known by that is equal to itself only. -/
def Cell.handle? (structural : ClassName → Bool) : Cell → Option (ClassName × String)
  | .object c _ _ => if structural c then none else some (c, "<" ++ c.qualified ++ " object>")
  | .routine f => some (.core "function", "<function " ++ f.name ++ ">")
  | .iterator c _ => some (c, "<" ++ c.qualified ++ " object>")
  | _ => none

namespace World

variable (w : World)

/-- Whether objects of a class are compared by what is set on them. -/
def isStructural (c : ClassName) : Bool := w.isSubclass c LibraryClass.structural.className

/-- The attributes that count when an object is read. -/
def visible (fields : List (String × Value)) : List (String × Value) :=
  fields.filter fun (n, _) => !n.startsWith "__"

mutual

/-- Whether a value holds a datum. -/
def Holds : Datum → Value → Prop
  | .atom a, v => v = .atom a
  | .tuple ts, v => ∃ vs, v = .tuple vs ∧ HoldsAll ts vs
  | .frozenset ts, v => ∃ vs, v = .frozenset vs ∧ HoldsAll ts vs
  | .list ts, v => ∃ r vs, v = .ref r ∧ w.heap[r]? = some (.list vs) ∧ HoldsAll ts vs
  | .dict es, v => ∃ r vs, v = .ref r ∧ w.heap[r]? = some (.dict vs) ∧ HoldsEntries es vs
  | .set ts, v => ∃ r vs, v = .ref r ∧ w.heap[r]? = some (.set vs) ∧ HoldsAll ts vs
  | .bytearray bs, v => ∃ r, v = .ref r ∧ w.heap[r]? = some (.bytearray bs)
  | .slots c ts, v => ∃ r o vs, v = .ref r ∧ w.heap[r]? = some (.slots c o vs) ∧ HoldsAll ts vs
  | .fields c es, v =>
    ∃ r o vs, v = .ref r ∧ w.heap[r]? = some (.fields c o vs) ∧ HoldsEntries es vs
  | .object c as, v =>
    ∃ r o vs, v = .ref r ∧ w.heap[r]? = some (.object c o vs) ∧ w.isStructural c = true ∧
      HoldsFields as (visible vs)
  | .keys ts, v => ∃ r vs, v = .ref r ∧ w.heap[r]? = some (.keys vs) ∧ HoldsAll ts vs
  | .handle r c s, v =>
    v = .ref r ∧ ∃ cell, w.heap[r]? = some cell ∧ cell.handle? w.isStructural = some (c, s)

def HoldsAll : List Datum → List Value → Prop
  | [], [] => True
  | t :: ts, v :: vs => Holds t v ∧ HoldsAll ts vs
  | _, _ => False

def HoldsEntries : List (Datum × Datum) → List (Value × Value) → Prop
  | [], [] => True
  | (k, t) :: ts, (x, v) :: vs => Holds k x ∧ Holds t v ∧ HoldsEntries ts vs
  | _, _ => False

def HoldsFields : List (String × Datum) → List (String × Value) → Prop
  | [], [] => True
  | (n, t) :: ts, (m, v) :: vs => n = m ∧ Holds t v ∧ HoldsFields ts vs
  | _, _ => False

end

section

variable {w}

theorem holdsAll_iff {ts : List Datum} {vs : List Value} :
    w.HoldsAll ts vs ↔ List.Forall₂ w.Holds ts vs := by
  induction ts generalizing vs with
  | nil => cases vs <;> simp [HoldsAll]
  | cons t ts ih => cases vs <;> simp [HoldsAll, ih]

theorem holdsFields_iff {ts : List (String × Datum)} {vs : List (String × Value)} :
    w.HoldsFields ts vs ↔ List.Forall₂ (fun t v => t.1 = v.1 ∧ w.Holds t.2 v.2) ts vs := by
  induction ts generalizing vs with
  | nil => cases vs <;> simp [HoldsFields]
  | cons t ts ih => cases vs <;> simp [HoldsFields, ih, and_assoc]

theorem HoldsFields.names {ts : List (String × Datum)} {vs : List (String × Value)}
    (h : w.HoldsFields ts vs) : ts.map (·.1) = vs.map (·.1) := by
  induction ts generalizing vs with
  | nil => cases vs <;> simp_all [HoldsFields]
  | cons t ts ih =>
    cases vs with
    | nil => simp [HoldsFields] at h
    | cons v vs => simp [h.1, ih h.2.2]

theorem holdsEntries_iff {ts : List (Datum × Datum)} {vs : List (Value × Value)} :
    w.HoldsEntries ts vs ↔ List.Forall₂ (fun t v => w.Holds t.1 v.1 ∧ w.Holds t.2 v.2) ts vs := by
  induction ts generalizing vs with
  | nil => cases vs <;> simp [HoldsEntries]
  | cons t ts ih => cases vs <;> simp [HoldsEntries, ih, and_assoc]

end

/-- A state with everything of another one unchanged and possibly more cells. -/
structure Grows (w w' : World) : Prop where
  heap : ∀ {r : Ref} {c : Cell}, w.heap[r]? = some c → w'.heap[r]? = some c
  hierarchy : w'.hierarchy = w.hierarchy
  declarations : w'.declarations = w.declarations
  registry : w'.registry = w.registry
  zones : w'.zones = w.zones

namespace Grows

variable {w}

theorem refl (w : World) : w.Grows w := ⟨id, rfl, rfl, rfl, rfl⟩

theorem trans {v u : World} (h : w.Grows v) (g : v.Grows u) : w.Grows u :=
  ⟨fun hc => g.heap (h.heap hc), g.hierarchy.trans h.hierarchy,
    g.declarations.trans h.declarations, g.registry.trans h.registry,
    g.zones.trans h.zones⟩

theorem push (w : World) (c : Cell) : w.Grows { w with heap := w.heap.push c } := by
  refine ⟨?_, rfl, rfl, rfl, rfl⟩
  intro r d hr
  have hlt : r < w.heap.size := (Array.getElem?_eq_some_iff.mp hr).1
  rw [Array.getElem?_push, if_neg (Nat.ne_of_lt hlt)]
  exact hr

theorem isSubclass {v : World} (h : w.Grows v) (c d : ClassName) :
    v.isSubclass c d = w.isSubclass c d := by
  rw [World.isSubclass, World.isSubclass, h.hierarchy]

theorem isStructural {v : World} (h : w.Grows v) : v.isStructural = w.isStructural :=
  funext fun c => h.isSubclass c _

mutual

/-- What a value holds it holds in every state that has grown from there. -/
theorem holds {v : World} (h : w.Grows v) : ∀ {t : Datum} {x : Value}, w.Holds t x → v.Holds t x
  | .atom _, _, hx => hx
  | .tuple ts, _, ⟨vs, hv, hs⟩ => ⟨vs, hv, h.holdsAll hs⟩
  | .frozenset ts, _, ⟨vs, hv, hs⟩ => ⟨vs, hv, h.holdsAll hs⟩
  | .list ts, _, ⟨r, vs, hv, hr, hs⟩ => ⟨r, vs, hv, h.heap hr, h.holdsAll hs⟩
  | .dict es, _, ⟨r, vs, hv, hr, hs⟩ => ⟨r, vs, hv, h.heap hr, h.holdsEntries hs⟩
  | .set ts, _, ⟨r, vs, hv, hr, hs⟩ => ⟨r, vs, hv, h.heap hr, h.holdsAll hs⟩
  | .bytearray bs, _, ⟨r, hv, hr⟩ => ⟨r, hv, h.heap hr⟩
  | .slots c ts, _, ⟨r, o, vs, hv, hr, hs⟩ => ⟨r, o, vs, hv, h.heap hr, h.holdsAll hs⟩
  | .fields c es, _, ⟨r, o, vs, hv, hr, hs⟩ => ⟨r, o, vs, hv, h.heap hr, h.holdsEntries hs⟩
  | .object c as, _, ⟨r, o, vs, hv, hr, hc, hs⟩ =>
    ⟨r, o, vs, hv, h.heap hr, by rwa [h.isStructural], h.holdsFields hs⟩
  | .keys ts, _, ⟨r, vs, hv, hr, hs⟩ => ⟨r, vs, hv, h.heap hr, h.holdsAll hs⟩
  | .handle r c s, _, ⟨hv, cell, hr, hc⟩ => ⟨hv, cell, h.heap hr, by rwa [h.isStructural]⟩

theorem holdsAll {v : World} (h : w.Grows v) :
    ∀ {ts : List Datum} {vs : List Value}, w.HoldsAll ts vs → v.HoldsAll ts vs
  | [], [], _ => trivial
  | _ :: _, _ :: _, hs => ⟨h.holds hs.1, h.holdsAll hs.2⟩

theorem holdsEntries {v : World} (h : w.Grows v) :
    ∀ {ts : List (Datum × Datum)} {vs : List (Value × Value)},
      w.HoldsEntries ts vs → v.HoldsEntries ts vs
  | [], [], _ => trivial
  | (_, _) :: _, (_, _) :: _, hs => ⟨h.holds hs.1, h.holds hs.2.1, h.holdsEntries hs.2.2⟩

theorem holdsFields {v : World} (h : w.Grows v) :
    ∀ {ts : List (String × Datum)} {vs : List (String × Value)},
      w.HoldsFields ts vs → v.HoldsFields ts vs
  | [], [], _ => trivial
  | (_, _) :: _, (_, _) :: _, hs => ⟨hs.1, h.holds hs.2.1, h.holdsFields hs.2.2⟩

end

end Grows

end World

namespace Datum

mutual

/-- How many cells lie on the longest way down. -/
def depth : Datum → Nat
  | .atom _ => 0
  | .tuple ts => depthAll ts
  | .frozenset ts => depthAll ts
  | .list ts => depthAll ts + 1
  | .dict es => depthEntries es + 1
  | .set ts => depthAll ts + 1
  | .bytearray _ => 1
  | .slots _ ts => depthAll ts + 1
  | .fields _ es => depthEntries es + 1
  | .object _ as => depthFields as + 1
  | .keys ts => depthAll ts + 1
  | .handle .. => 1

def depthAll : List Datum → Nat
  | [] => 0
  | t :: ts => max (depth t) (depthAll ts)

def depthEntries : List (Datum × Datum) → Nat
  | [] => 0
  | (k, t) :: es => max (max (depth k) (depth t)) (depthEntries es)

def depthFields : List (String × Datum) → Nat
  | [] => 0
  | (_, t) :: as => max (depth t) (depthFields as)

end

end Datum

namespace World

variable {w : World}

theorem data_eq_map (cell : Ref → Datum) (vs : List Value) :
    Value.data cell vs = vs.map (Value.datum cell) := by
  induction vs with
  | nil => rfl
  | cons v vs ih => simp [Value.data, ih]

mutual

/-- Reading far enough gives the datum that is held. -/
theorem datum_of_holds : ∀ {t : Datum} {v : Value} {n : Nat}, w.Holds t v → t.depth ≤ n →
    v.datum (Heap.cellDatum w.isStructural w.heap n) = t
  | .atom a, v, n, h, _ => by
    obtain rfl : v = .atom a := h
    rfl
  | .tuple ts, _, n, ⟨vs, hv, hs⟩, hn => by
    subst hv
    rw [Value.datum, data_eq_map, data_of_holdsAll hs (by simpa [Datum.depth] using hn)]
  | .frozenset ts, _, n, ⟨vs, hv, hs⟩, hn => by
    subst hv
    rw [Value.datum, data_eq_map, data_of_holdsAll hs (by simpa [Datum.depth] using hn)]
  | .list ts, _, n + 1, ⟨r, vs, hv, hr, hs⟩, hn => by
    subst hv
    have hs' := data_of_holdsAll (n := n) hs (by simpa [Datum.depth] using hn)
    simp [Value.datum, Heap.cellDatum, hr, hs']
  | .dict es, _, n + 1, ⟨r, vs, hv, hr, hs⟩, hn => by
    subst hv
    have hs' := data_of_holdsEntries (n := n) hs (by simpa [Datum.depth] using hn)
    simp [Value.datum, Heap.cellDatum, hr, hs']
  | .set ts, _, n + 1, ⟨r, vs, hv, hr, hs⟩, hn => by
    subst hv
    have hs' := data_of_holdsAll (n := n) hs (by simpa [Datum.depth] using hn)
    simp [Value.datum, Heap.cellDatum, hr, hs']
  | .bytearray bs, _, n + 1, ⟨r, hv, hr⟩, _ => by
    subst hv
    simp [Value.datum, Heap.cellDatum, hr]
  | .slots c ts, _, n + 1, ⟨r, o, vs, hv, hr, hs⟩, hn => by
    subst hv
    have hs' := data_of_holdsAll (n := n) hs (by simpa [Datum.depth] using hn)
    simp [Value.datum, Heap.cellDatum, hr, hs']
  | .fields c es, _, n + 1, ⟨r, o, vs, hv, hr, hs⟩, hn => by
    subst hv
    have hs' := data_of_holdsEntries (n := n) hs (by simpa [Datum.depth] using hn)
    simp [Value.datum, Heap.cellDatum, hr, hs']
  | .object c as, _, n + 1, ⟨r, o, vs, hv, hr, hc, hs⟩, hn => by
    subst hv
    have hs' := data_of_holdsFields (n := n) hs (by simpa [Datum.depth] using hn)
    simpa [Value.datum, Heap.cellDatum, hr, hc, visible] using hs'
  | .keys ts, _, n + 1, ⟨r, vs, hv, hr, hs⟩, hn => by
    subst hv
    have hs' := data_of_holdsAll (n := n) hs (by simpa [Datum.depth] using hn)
    simp [Value.datum, Heap.cellDatum, hr, hs']
  | .handle r c s, _, n + 1, ⟨hv, cell, hr, hc⟩, _ => by
    subst hv
    cases cell with
    | object d o as =>
      simp only [Cell.handle?] at hc
      split at hc
      · simp at hc
      · rename_i hd
        obtain ⟨rfl, rfl⟩ : d = c ∧ _ = s := by simpa using hc
        simp [Value.datum, Heap.cellDatum, hr, hd]
    | routine f =>
      obtain ⟨rfl, rfl⟩ : _ = c ∧ _ = s := by simpa [Cell.handle?] using hc
      simp [Value.datum, Heap.cellDatum, hr]
    | iterator d vs =>
      obtain ⟨rfl, rfl⟩ : d = c ∧ _ = s := by simpa [Cell.handle?] using hc
      simp [Value.datum, Heap.cellDatum, hr]
    | _ => simp [Cell.handle?] at hc

theorem data_of_holdsAll : ∀ {ts : List Datum} {vs : List Value} {n : Nat}, w.HoldsAll ts vs →
    Datum.depthAll ts ≤ n →
      vs.map (Value.datum (Heap.cellDatum w.isStructural w.heap n)) = ts
  | [], [], _, _, _ => rfl
  | t :: ts, v :: vs, n, hs, hn => by
    simp only [Datum.depthAll, Nat.max_le] at hn
    rw [List.map_cons, datum_of_holds hs.1 hn.1, data_of_holdsAll hs.2 hn.2]

theorem data_of_holdsEntries : ∀ {ts : List (Datum × Datum)} {vs : List (Value × Value)} {n : Nat},
    w.HoldsEntries ts vs → Datum.depthEntries ts ≤ n →
      vs.map (fun e => (e.1.datum (Heap.cellDatum w.isStructural w.heap n),
        e.2.datum (Heap.cellDatum w.isStructural w.heap n))) = ts
  | [], [], _, _, _ => rfl
  | (k, t) :: ts, (x, v) :: vs, n, hs, hn => by
    simp only [Datum.depthEntries, Nat.max_le] at hn
    rw [List.map_cons, datum_of_holds hs.1 hn.1.1, datum_of_holds hs.2.1 hn.1.2,
      data_of_holdsEntries hs.2.2 hn.2]

theorem data_of_holdsFields : ∀ {ts : List (String × Datum)} {vs : List (String × Value)} {n : Nat},
    w.HoldsFields ts vs → Datum.depthFields ts ≤ n →
      vs.map (fun e => (e.1, e.2.datum (Heap.cellDatum w.isStructural w.heap n))) = ts
  | [], [], _, _, _ => rfl
  | (m, t) :: ts, (_, v) :: vs, n, hs, hn => by
    simp only [Datum.depthFields, Nat.max_le] at hn
    obtain ⟨rfl, hv, hvs⟩ := hs
    rw [List.map_cons, datum_of_holds hv hn.1, data_of_holdsFields hvs hn.2]

end

/-- A value holds one datum only. -/
theorem Holds.unique {t u : Datum} {v : Value} (ht : w.Holds t v) (hu : w.Holds u v) : t = u := by
  have h := datum_of_holds ht (Nat.le_max_left t.depth u.depth)
  rw [datum_of_holds hu (Nat.le_max_right t.depth u.depth)] at h
  exact h.symm

theorem lt_size_of_getElem? {r : Ref} {c : Cell} (h : w.heap[r]? = some c) : r < w.heap.size :=
  (Array.getElem?_eq_some_iff.mp h).1

theorem Holds.lt_size {t : Datum} {r : Ref} (h : w.Holds t (.ref r)) : r < w.heap.size := by
  cases t with
  | atom a => cases h
  | tuple ts => obtain ⟨vs, hv, -⟩ := h; cases hv
  | frozenset ts => obtain ⟨vs, hv, -⟩ := h; cases hv
  | list ts => obtain ⟨_, _, ⟨⟩, hr, -⟩ := h; exact lt_size_of_getElem? hr
  | dict es => obtain ⟨_, _, ⟨⟩, hr, -⟩ := h; exact lt_size_of_getElem? hr
  | set ts => obtain ⟨_, _, ⟨⟩, hr, -⟩ := h; exact lt_size_of_getElem? hr
  | bytearray bs => obtain ⟨_, ⟨⟩, hr⟩ := h; exact lt_size_of_getElem? hr
  | slots c ts => obtain ⟨_, _, _, ⟨⟩, hr, -⟩ := h; exact lt_size_of_getElem? hr
  | fields c es => obtain ⟨_, _, _, ⟨⟩, hr, -⟩ := h; exact lt_size_of_getElem? hr
  | object c as => obtain ⟨_, _, _, ⟨⟩, hr, -⟩ := h; exact lt_size_of_getElem? hr
  | keys ts => obtain ⟨_, _, ⟨⟩, hr, -⟩ := h; exact lt_size_of_getElem? hr
  | handle r c s => obtain ⟨⟨⟩, _, hr, -⟩ := h; exact lt_size_of_getElem? hr

/-- Some cell holds a datum of a certain depth. -/
def HasDepth (w : World) (k : Nat) : Prop := ∃ u r, w.Holds u (.ref r) ∧ u.depth = k

/-- Every depth on the way down is the depth of a cell: at a cell the depth drops by one. -/
theorem hasDepth_step {t : Datum} {v : Value} {k n : Nat} (ht : w.Holds t v)
    (hv : ∃ r, v = .ref r) (hd : t.depth = n + 1) (hk : k ≤ n + 1) (hlow : k ≤ n → w.HasDepth k) :
    w.HasDepth k := by
  obtain ⟨r, rfl⟩ := hv
  by_cases hn : k ≤ n
  · exact hlow hn
  · exact ⟨t, r, ht, by omega⟩

mutual

theorem hasDepth_of_holds : ∀ {t : Datum} {v : Value} {k : Nat}, w.Holds t v → 0 < k →
    k ≤ t.depth → w.HasDepth k
  | .atom a, _, k, _, h0, hk => by simp only [Datum.depth] at hk; omega
  | .tuple ts, _, k, ⟨_, _, hs⟩, h0, hk => hasDepth_of_holdsAll hs h0 hk
  | .frozenset ts, _, k, ⟨_, _, hs⟩, h0, hk => hasDepth_of_holdsAll hs h0 hk
  | .list ts, _, k, h, h0, hk =>
    let ⟨r, _, hv, _, hs⟩ := h
    hasDepth_step h ⟨r, hv⟩ rfl hk (hasDepth_of_holdsAll hs h0)
  | .dict es, _, k, h, h0, hk =>
    let ⟨r, _, hv, _, hs⟩ := h
    hasDepth_step h ⟨r, hv⟩ rfl hk (hasDepth_of_holdsEntries hs h0)
  | .set ts, _, k, h, h0, hk =>
    let ⟨r, _, hv, _, hs⟩ := h
    hasDepth_step h ⟨r, hv⟩ rfl hk (hasDepth_of_holdsAll hs h0)
  | .bytearray bs, _, k, h, h0, hk =>
    let ⟨r, hv, _⟩ := h
    hasDepth_step h ⟨r, hv⟩ rfl hk (by omega)
  | .slots c ts, _, k, h, h0, hk =>
    let ⟨r, _, _, hv, _, hs⟩ := h
    hasDepth_step h ⟨r, hv⟩ rfl hk (hasDepth_of_holdsAll hs h0)
  | .fields c es, _, k, h, h0, hk =>
    let ⟨r, _, _, hv, _, hs⟩ := h
    hasDepth_step h ⟨r, hv⟩ rfl hk (hasDepth_of_holdsEntries hs h0)
  | .object c as, _, k, h, h0, hk =>
    let ⟨r, _, _, hv, _, _, hs⟩ := h
    hasDepth_step h ⟨r, hv⟩ rfl hk (hasDepth_of_holdsFields hs h0)
  | .keys ts, _, k, h, h0, hk =>
    let ⟨r, _, hv, _, hs⟩ := h
    hasDepth_step h ⟨r, hv⟩ rfl hk (hasDepth_of_holdsAll hs h0)
  | .handle r c s, _, k, h, h0, hk => hasDepth_step h ⟨r, h.1⟩ rfl hk (by omega)

theorem hasDepth_of_holdsAll : ∀ {ts : List Datum} {vs : List Value} {k : Nat}, w.HoldsAll ts vs →
    0 < k → k ≤ Datum.depthAll ts → w.HasDepth k
  | [], [], k, _, h0, hk => by simp only [Datum.depthAll] at hk; omega
  | t :: ts, v :: vs, k, hs, h0, hk => by
    rw [Datum.depthAll, le_max_iff] at hk
    cases hk with
    | inl hk => exact hasDepth_of_holds hs.1 h0 hk
    | inr hk => exact hasDepth_of_holdsAll hs.2 h0 hk

theorem hasDepth_of_holdsEntries : ∀ {ts : List (Datum × Datum)} {vs : List (Value × Value)}
    {k : Nat}, w.HoldsEntries ts vs → 0 < k → k ≤ Datum.depthEntries ts → w.HasDepth k
  | [], [], k, _, h0, hk => by simp only [Datum.depthEntries] at hk; omega
  | (_, t) :: ts, (_, v) :: vs, k, hs, h0, hk => by
    rw [Datum.depthEntries, le_max_iff, le_max_iff] at hk
    rcases hk with (hk | hk) | hk
    · exact hasDepth_of_holds hs.1 h0 hk
    · exact hasDepth_of_holds hs.2.1 h0 hk
    · exact hasDepth_of_holdsEntries hs.2.2 h0 hk

theorem hasDepth_of_holdsFields : ∀ {ts : List (String × Datum)} {vs : List (String × Value)}
    {k : Nat}, w.HoldsFields ts vs → 0 < k → k ≤ Datum.depthFields ts → w.HasDepth k
  | [], [], k, _, h0, hk => by simp only [Datum.depthFields] at hk; omega
  | (_, t) :: ts, (_, v) :: vs, k, hs, h0, hk => by
    rw [Datum.depthFields, le_max_iff] at hk
    cases hk with
    | inl hk => exact hasDepth_of_holds hs.2.1 h0 hk
    | inr hk => exact hasDepth_of_holdsFields hs.2.2 h0 hk

end

/-- No way down is longer than there are cells: cells of different depths are different. -/
theorem Holds.depth_le_size {t : Datum} {v : Value} (h : w.Holds t v) :
    t.depth ≤ w.heap.size := by
  have hcell : ∀ i : Fin t.depth, ∃ (r : Fin w.heap.size) (u : Datum),
      w.Holds u (.ref r) ∧ u.depth = i + 1 := by
    intro i
    obtain ⟨u, r, hu, hd⟩ := hasDepth_of_holds h (Nat.succ_pos i) i.isLt
    exact ⟨⟨r, hu.lt_size⟩, u, hu, hd⟩
  choose cell datum hholds hdepth using hcell
  have hinj : Function.Injective cell := by
    intro i j hij
    have hsame : datum i = datum j := (hholds i).unique (hij ▸ hholds j)
    have hi := hdepth i
    have hj := hdepth j
    rw [hsame] at hi
    exact Fin.ext (by omega)
  simpa using Fintype.card_le_of_injective cell hinj

/-- What a value holds is what is read of it. -/
theorem read_of_holds {t : Datum} {v : Value} (h : w.Holds t v) : w.read v = t :=
  datum_of_holds h (Nat.le_succ_of_le h.depth_le_size)

end World

namespace World

variable {w v : World} {x : Value}

/-- Values none of which was made through a parameterized form, as far as types are read of them: atoms,
collections, and objects with their functions.  Of a dictionary only the keys count, which are what it
lists. -/
inductive Direct (w : World) : Value → Prop
  | atom (a : Atom) : Direct w (.atom a)
  | list {r : Ref} {vs : List Value} (hr : w.heap[r]? = some (.list vs)) (h : ∀ v ∈ vs, Direct w v) :
    Direct w (.ref r)
  | dict {r : Ref} {es : List (Value × Value)} (hr : w.heap[r]? = some (.dict es))
    (h : ∀ v ∈ es.map (·.1), Direct w v) : Direct w (.ref r)
  | object {r : Ref} {c : ClassName} {fields : List (String × Value)}
    (hr : w.heap[r]? = some (.object c none fields))
    (h : ∀ name ∈ ["functions", "predicate"], ∀ v, fields.lookup name = some v → Direct w v) :
    Direct w (.ref r)

/-- What was made directly stays so when cells are added. -/
theorem Direct.later (h : w.Direct x) (hg : w.Grows v) : v.Direct x := by
  induction h with
  | atom a => exact .atom a
  | list hr _ ih => exact .list (hg.heap hr) ih
  | dict hr _ ih => exact .dict (hg.heap hr) ih
  | object hr _ ih => exact .object (hg.heap hr) ih

end World

end FunctionObjects
