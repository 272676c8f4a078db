import FunctionObjects.Proofs.Construction.Attributes
import FunctionObjects.Proofs.State.Holding
import FunctionObjects.Proofs.State.Running
/-!
# Objects under construction

A new object gets its attributes one after the other while nothing else changes but that lists and
adapters are added for it.  What an attribute holds does not depend on the object itself, so it
stays what it is while the other attributes are set.
-/

namespace FunctionObjects

namespace World

variable {w : World}

/-- Whether the items of a value can be read without asking an object or using up an iterator. -/
def isSteady (w : World) : Value → Bool
  | .ref r =>
    match w.cell? r with
    | some (.iterator ..) => false
    | _ => !w.isTupleObject (.ref r)
  | _ => true

theorem isTupleObject_of_isSteady {v : Value} (h : w.isSteady v = true) :
    w.isTupleObject v = false := by
  cases v with
  | ref r =>
    simp only [isSteady] at h
    split at h
    · simp at h
    · simpa using h
  | _ => rfl

/-- A value is an atom exactly if what it holds is. -/
theorem Holds.atom_or {t : Datum} {v : Value} (h : w.Holds t v) :
    (∃ a, t = .atom a ∧ v = .atom a) ∨ ((∀ a, t ≠ .atom a) ∧ ∀ a, v ≠ .atom a) := by
  cases t with
  | atom a => exact .inl ⟨a, rfl, h⟩
  | handle r c s =>
    obtain ⟨rfl, -⟩ := h
    exact .inr (by simp)
  | tuple ts => obtain ⟨_, rfl, -⟩ := h; exact .inr (by simp)
  | frozenset ts => obtain ⟨_, rfl, -⟩ := h; exact .inr (by simp)
  | list ts => obtain ⟨_, _, rfl, -⟩ := h; exact .inr (by simp)
  | dict es => obtain ⟨_, _, rfl, -⟩ := h; exact .inr (by simp)
  | set ts => obtain ⟨_, _, rfl, -⟩ := h; exact .inr (by simp)
  | bytearray bs => obtain ⟨_, rfl, -⟩ := h; exact .inr (by simp)
  | slots c ts => obtain ⟨_, _, _, rfl, -⟩ := h; exact .inr (by simp)
  | fields c es => obtain ⟨_, _, _, rfl, -⟩ := h; exact .inr (by simp)
  | object c as => obtain ⟨_, _, _, rfl, -⟩ := h; exact .inr (by simp)
  | keys ts => obtain ⟨_, _, rfl, -⟩ := h; exact .inr (by simp)

theorem Holds.isNone_eq {t : Datum} {v : Value} (h : w.Holds t v) : v.isNone = t.isNone := by
  obtain ⟨a, rfl, rfl⟩ | ⟨ht, hv⟩ := h.atom_or
  · cases a <;> rfl
  · have htNone : t.isNone = false := by
      cases t with
      | atom a => exact absurd rfl (ht a)
      | _ => rfl
    have hvNone : v.isNone = false := by
      cases v with
      | atom a => exact absurd rfl (hv a)
      | _ => rfl
    rw [htNone, hvNone]

theorem HoldsAll.length_eq {ts : List Datum} {vs : List Value} (h : w.HoldsAll ts vs) :
    ts.length = vs.length := by
  induction ts generalizing vs with
  | nil => cases vs <;> simp_all [HoldsAll]
  | cons t ts ih =>
    cases vs with
    | nil => simp [HoldsAll] at h
    | cons v vs => simp [ih h.2]

theorem holdsAll_atoms {α : Type} (f : α → Atom) (xs : List α) :
    w.HoldsAll (xs.map fun x => .atom (f x)) (xs.map fun x => .atom (f x)) := by
  induction xs with
  | nil => trivial
  | cons x xs ih => exact ⟨rfl, ih⟩

theorem holdsAll_keys {es : List (Datum × Datum)} {vs : List (Value × Value)}
    (h : w.HoldsEntries es vs) : w.HoldsAll (es.map (·.1)) (vs.map (·.1)) := by
  induction es generalizing vs with
  | nil => cases vs <;> simp_all [HoldsEntries, HoldsAll]
  | cons e es ih =>
    cases vs with
    | nil => simp [HoldsEntries] at h
    | cons v vs => exact ⟨h.1, ih h.2.2⟩

/-- A value is gone through as what it holds is. -/
theorem plainCursor?_of_holds {t : Datum} {v : Value} (h : w.Holds t v)
    (hs : w.isSteady v = true) :
    (∃ ts vs, t.items? = some ts ∧ w.plainCursor? v = some (.held vs) ∧ w.HoldsAll ts vs) ∨
      (t.items? = none ∧ w.plainCursor? v = none) := by
  cases t with
  | atom a =>
    obtain rfl : v = .atom a := h
    cases ht : a.text? with
    | some s =>
      refine .inl ⟨s.toList.map fun c => .atom (.str (String.singleton c)), characters s,
        by simp [Datum.items?, ht], by simp [plainCursor?, ht], ?_⟩
      exact holdsAll_atoms (fun c => .str (String.singleton c)) s.toList
    | none =>
      cases hb : a.bytes? with
      | some bs =>
        refine .inl ⟨bs.map fun b => .atom (.int (b : Nat)), byteValues bs,
          by simp [Datum.items?, ht, hb], by simp [plainCursor?, ht, hb], ?_⟩
        exact holdsAll_atoms (fun b : Nat => .int b) bs
      | none => exact .inr ⟨by simp [Datum.items?, ht, hb], by simp [plainCursor?, ht, hb]⟩
  | tuple ts => obtain ⟨vs, rfl, hvs⟩ := h; exact .inl ⟨ts, vs, rfl, rfl, hvs⟩
  | frozenset ts => obtain ⟨vs, rfl, hvs⟩ := h; exact .inl ⟨ts, vs, rfl, rfl, hvs⟩
  | list ts =>
    obtain ⟨r, vs, rfl, hr, hvs⟩ := h
    exact .inl ⟨ts, vs, rfl, by simp [plainCursor?, cell?, hr], hvs⟩
  | dict es =>
    obtain ⟨r, vs, rfl, hr, hvs⟩ := h
    exact .inl ⟨_, _, rfl, by simp [plainCursor?, cell?, hr], holdsAll_keys hvs⟩
  | set ts =>
    obtain ⟨r, vs, rfl, hr, hvs⟩ := h
    exact .inl ⟨ts, vs, rfl, by simp [plainCursor?, cell?, hr], hvs⟩
  | bytearray bs =>
    obtain ⟨r, rfl, hr⟩ := h
    refine .inl ⟨_, byteValues bs, rfl, by simp [plainCursor?, cell?, hr], ?_⟩
    exact holdsAll_atoms (fun b : Nat => .int b) bs
  | keys ts =>
    obtain ⟨r, vs, rfl, hr, hvs⟩ := h
    exact .inl ⟨ts, vs, rfl, by simp [plainCursor?, cell?, hr], hvs⟩
  | slots c ts =>
    obtain ⟨r, o, vs, rfl, hr, -⟩ := h
    exact .inr ⟨rfl, by simp [plainCursor?, cell?, hr]⟩
  | fields c es =>
    obtain ⟨r, o, vs, rfl, hr, -⟩ := h
    exact .inr ⟨rfl, by simp [plainCursor?, cell?, hr]⟩
  | object c as =>
    obtain ⟨r, o, vs, rfl, hr, -⟩ := h
    exact .inr ⟨rfl, by simp [plainCursor?, cell?, hr]⟩
  | handle r c s =>
    obtain ⟨rfl, cell, hr, hc⟩ := h
    refine .inr ⟨rfl, ?_⟩
    cases cell with
    | iterator d vs => simp [isSteady, cell?, hr] at hs
    | _ => simp_all [plainCursor?, cell?, Cell.handle?]

theorem plainLength?_of_holds {t : Datum} {v : Value} (h : w.Holds t v)
    (hs : w.isSteady v = true) : w.plainLength? v = t.items?.map List.length := by
  obtain ⟨ts, vs, ht, hv, hvs⟩ | ⟨ht, hv⟩ := plainCursor?_of_holds h hs
  · simp [plainLength?, ht, hv, hvs.length_eq]
  · simp [plainLength?, ht, hv]

theorem Holds.cell {t : Datum} {r : Ref} (h : w.Holds t (.ref r)) :
    ∃ c, w.heap[r]? = some c := ⟨_, Array.getElem?_eq_getElem h.lt_size⟩

namespace Grows

variable {v : World} {t : Datum} {x : Value}

theorem isTupleObject (hg : w.Grows v) (h : w.Holds t x) :
    v.isTupleObject x = w.isTupleObject x := by
  cases x with
  | ref r =>
    obtain ⟨c, hc⟩ := h.cell
    cases c <;> simp [World.isTupleObject, World.cell?, hc, hg.heap hc, hg.isSubclass]
  | _ => rfl

theorem plainCursor? (hg : w.Grows v) (h : w.Holds t x) : v.plainCursor? x = w.plainCursor? x := by
  cases x with
  | ref r =>
    obtain ⟨c, hc⟩ := h.cell
    cases c <;> simp [World.plainCursor?, World.cell?, hc, hg.heap hc]
  | _ => rfl

end Grows

end World

namespace Dispatch

open Run World

variable (d : Dispatch) {w v : World} {t : Datum} {x : Value}

theorem result_truth (hg : w.Grows v) (h : w.Holds t x) (hs : w.isSteady x = true) :
    (d.truth x).result v = (.ok t.truth, v) := by
  have hlen : v.plainLength? x = t.items?.map List.length := by
    rw [plainLength?, hg.plainCursor? h]
    exact plainLength?_of_holds h hs
  simp only [truth, result_bind, result_get, hg.isTupleObject h, isTupleObject_of_isSteady hs,
    Bool.false_eq_true, if_false]
  cases x with
  | atom a =>
    obtain rfl : t = .atom a := h.unique rfl
    rfl
  | _ =>
    cases t with
    | atom a => cases h
    | _ => simp [Datum.truth, hlen]

theorem result_length (hg : w.Grows v) (h : w.Holds t x) (hs : w.isSteady x = true) :
    (d.length x).result v = (require .wrongType (t.items?.map List.length)).result v := by
  have hlen : v.plainLength? x = t.items?.map List.length := by
    rw [plainLength?, hg.plainCursor? h]
    exact plainLength?_of_holds h hs
  simp only [length, result_bind, result_get, hg.isTupleObject h, isTupleObject_of_isSteady hs,
    Bool.false_eq_true, if_false, result_pure, hlen]

/-- The items of a value hold the items of what the value holds. -/
theorem result_items (hg : w.Grows v) (h : w.Holds t x) (hs : w.isSteady x = true) :
    (∃ ts xs, t.items? = some ts ∧ (d.items x).result v = (.ok xs, v) ∧ w.HoldsAll ts xs) ∨
      (t.items? = none ∧ (d.items x).result v = (.error .wrongType, v)) := by
  have hcursor : (d.cursor x).result v = (require .wrongType (w.plainCursor? x)).result v := by
    simp [cursor, result_bind, hg.isTupleObject h, isTupleObject_of_isSteady hs,
      hg.plainCursor? h]
  obtain ⟨ts, xs, ht, hx, hxs⟩ | ⟨ht, hx⟩ := plainCursor?_of_holds h hs
  · refine .inl ⟨ts, xs, ht, ?_, hxs⟩
    rw [items, result_bind, hcursor, hx]
    rfl
  · refine .inr ⟨ht, ?_⟩
    rw [items, result_bind, hcursor, hx]
    rfl

end Dispatch

namespace World

variable {w v : World} {r : Ref}

/-- States in which all cells but one stay what they are. -/
structure Beside (r : Ref) (v v' : World) : Prop where
  cell : ∀ {l : Ref} {c : Cell}, l ≠ r → v.heap[l]? = some c → v'.heap[l]? = some c

/-- A value that holds a datum whatever is set on the object in cell `r`: it holds it in every state
that has grown from `w` and has the other cells of `v`. -/
structure Ready (w : World) (r : Ref) (v : World) (t : Datum) (x : Value) : Prop where
  holds : ∀ {v' : World}, w.Grows v' → Beside r v v' → v'.Holds t x

def ReadyFields (w : World) (r : Ref) (v : World) :
    List (String × Datum) → List (String × Value) → Prop
  | [], [] => True
  | (n, t) :: ts, (m, x) :: xs => n = m ∧ Ready w r v t x ∧ ReadyFields w r v ts xs
  | _, _ => False

/-- An object of a class is under construction in cell `r`, with some attributes so far. -/
structure Making (w : World) (r : Ref) (c : ClassName) (as : List (String × Datum)) (v : World) :
    Prop where
  fresh : w.heap.size ≤ r
  grows : w.Grows v
  cell : ∃ fields, v.heap[r]? = some (.object c none fields) ∧ ReadyFields w r v as fields

theorem Beside.refl (r : Ref) (v : World) : Beside r v v := ⟨fun _ h => h⟩

theorem Beside.trans {v₁ v₂ v₃ : World} (h : Beside r v₁ v₂) (g : Beside r v₂ v₃) :
    Beside r v₁ v₃ := ⟨fun hl hc => g.cell hl (h.cell hl hc)⟩

theorem Beside.push (r : Ref) (v : World) (c : Cell) :
    Beside r v { v with heap := v.heap.push c } := ⟨fun _ h => (Grows.push v c).heap h⟩

theorem Ready.of_holds {t : Datum} {x : Value} (h : w.Holds t x) : Ready w r v t x :=
  ⟨fun hg _ => hg.holds h⟩

theorem Ready.later {v' : World} {t : Datum} {x : Value} (h : Ready w r v t x)
    (hb : Beside r v v') : Ready w r v' t x := ⟨fun hg hb' => h.holds hg (hb.trans hb')⟩

theorem ReadyFields.later {v' : World} {ts : List (String × Datum)} {xs : List (String × Value)}
    (h : ReadyFields w r v ts xs) (hb : Beside r v v') : ReadyFields w r v' ts xs := by
  induction ts generalizing xs with
  | nil => cases xs <;> simp_all [ReadyFields]
  | cons t ts ih =>
    cases xs with
    | nil => simp [ReadyFields] at h
    | cons x xs => exact ⟨h.1, h.2.1.later hb, ih h.2.2⟩

theorem ReadyFields.append {ts : List (String × Datum)} {xs : List (String × Value)} {n : String}
    {t : Datum} {x : Value} (h : ReadyFields w r v ts xs) (hx : Ready w r v t x) :
    ReadyFields w r v (ts ++ [(n, t)]) (xs ++ [(n, x)]) := by
  induction ts generalizing xs with
  | nil => cases xs <;> simp_all [ReadyFields]
  | cons t ts ih =>
    cases xs with
    | nil => simp [ReadyFields] at h
    | cons x xs => exact ⟨h.1, h.2.1, ih h.2.2⟩

theorem ReadyFields.names {ts : List (String × Datum)} {xs : List (String × Value)}
    (h : ReadyFields w r v ts xs) : xs.map (·.1) = ts.map (·.1) := by
  induction ts generalizing xs with
  | nil => cases xs <;> simp_all [ReadyFields]
  | cons t ts ih =>
    cases xs with
    | nil => simp [ReadyFields] at h
    | cons x xs => simp [ih h.2.2, h.1]

theorem ReadyFields.holds {v' : World} {ts : List (String × Datum)} {xs : List (String × Value)}
    (h : ReadyFields w r v ts xs) (hg : w.Grows v') (hb : Beside r v v') : v'.HoldsFields ts xs := by
  induction ts generalizing xs with
  | nil => cases xs <;> simp_all [ReadyFields, HoldsFields]
  | cons t ts ih =>
    cases xs with
    | nil => simp [ReadyFields] at h
    | cons x xs => exact ⟨h.1, h.2.1.holds hg hb, ih h.2.2⟩

/-- Construction starts with a new object. -/
theorem Making.start (w : World) (c : ClassName) :
    Making w w.heap.size c [] { w with heap := w.heap.push (.object c none []) } :=
  ⟨Nat.le_refl _, Grows.push w _, [], by simp, trivial⟩

theorem assign_of_new {fields : List (String × Value)} {name : String} (x : Value)
    (h : name ∉ fields.map (·.1)) : Run.assign fields name x = fields ++ [(name, x)] := by
  have hany : fields.any (·.1 == name) = false := by
    simp only [List.any_eq_false, beq_iff_eq]
    intro e he heq
    exact h (List.mem_map.mpr ⟨e, he, heq⟩)
  simp [Run.assign, hany]

/-- Setting a new attribute. -/
theorem Making.setField {c : ClassName} {as : List (String × Datum)} {t : Datum} {x : Value}
    (h : Making w r c as v) (name : String) (hn : name ∉ as.map (·.1)) (hx : Ready w r v t x) :
    ∃ v', (Run.setField (.ref r) name x).result v = (.ok (), v') ∧
      Making w r c (as ++ [(name, t)]) v' ∧ Beside r v v' := by
  obtain ⟨fields, hcell, hready⟩ := h.cell
  have hlt : r < v.heap.size := lt_size_of_getElem? hcell
  have hb : Beside r v
      { v with heap := v.heap.setIfInBounds r (.object c none (fields ++ [(name, x)])) } := by
    refine ⟨fun hl hd => ?_⟩
    rw [Array.getElem?_setIfInBounds_ne (Ne.symm hl)]
    exact hd
  refine ⟨_, ?_, ⟨h.fresh, ?_, _, ?_, (hready.append hx).later hb⟩, hb⟩
  · rw [Run.result_setField hcell, assign_of_new x (by rwa [hready.names])]
  · refine ⟨?_, h.grows.hierarchy, h.grows.declarations, h.grows.registry, h.grows.zones⟩
    intro l d hd
    have hl : l ≠ r := Nat.ne_of_lt (Nat.lt_of_lt_of_le (lt_size_of_getElem? hd) h.fresh)
    exact hb.cell hl (h.grows.heap hd)
  · simp [hlt]

/-- Adding a cell for an attribute. -/
theorem Making.alloc {c : ClassName} {as : List (String × Datum)} (h : Making w r c as v)
    (d : Cell) :
    Making w r c as { v with heap := v.heap.push d } ∧
      Beside r v { v with heap := v.heap.push d } ∧ v.heap.size ≠ r := by
  obtain ⟨fields, hcell, hready⟩ := h.cell
  have hb := Beside.push r v d
  have hlt : r < v.heap.size := lt_size_of_getElem? hcell
  exact ⟨⟨h.fresh, h.grows.trans (Grows.push v d), fields, (Grows.push v d).heap hcell,
    hready.later hb⟩, hb, Nat.ne_of_gt hlt⟩

/-- A list made during construction is ready. -/
theorem Ready.list {l : Ref} {ts : List Datum} {xs : List Value} (hl : l ≠ r)
    (hcell : v.heap[l]? = some (.list xs)) (hs : w.HoldsAll ts xs) :
    Ready w r v (.list ts) (.ref l) :=
  ⟨fun hg hb => ⟨l, xs, rfl, hb.cell hl hcell, hg.holdsAll hs⟩⟩

end World

end FunctionObjects
