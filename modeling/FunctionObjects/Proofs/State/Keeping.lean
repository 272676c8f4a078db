import FunctionObjects.Proofs.State.Running
/-!
# Operations that keep classes

What an operation may change of a state: it adds cells, stores other contents in a cell, and records
calls.  No cell changes its form or its class, and nothing else of the state changes.
-/

namespace FunctionObjects

/-- What a cell stays whatever is stored in it: its form, its class, and the whole of a function. -/
def Cell.kind : Cell → Cell
  | .list _ => .list []
  | .dict _ => .dict []
  | .set _ => .set []
  | .bytearray _ => .bytearray []
  | .slots c _ _ => .slots c none []
  | .fields c _ _ => .fields c none []
  | .object c _ _ => .object c none []
  | .routine r => .routine r
  | .iterator c _ => .iterator c []
  | .keys _ => .keys []

/-- A later state with the same classes, in which every cell is of the kind that it was. -/
structure World.Keeps (w w' : World) : Prop where
  rest : w' = { w with heap := w'.heap, trace := w'.trace }
  cell : ∀ {r : Ref} {c : Cell}, w.heap[r]? = some c → ∃ c', w'.heap[r]? = some c' ∧ c'.kind = c.kind

namespace World.Keeps

variable {w w' w'' : World} {r : Ref} {c : Cell}

theorem refl (w : World) : w.Keeps w := ⟨rfl, fun h => ⟨_, h, rfl⟩⟩

theorem trans (h : w.Keeps w') (h' : w'.Keeps w'') : w.Keeps w'' := by
  refine ⟨?_, fun hc => ?_⟩
  · rw [h'.rest, h.rest]
  · obtain ⟨c', hc', hkind⟩ := h.cell hc
    obtain ⟨c'', hc'', hkind'⟩ := h'.cell hc'
    exact ⟨c'', hc'', hkind'.trans hkind⟩

theorem hierarchy (h : w.Keeps w') : w'.hierarchy = w.hierarchy := by rw [h.rest]

theorem declarations (h : w.Keeps w') : w'.declarations = w.declarations := by rw [h.rest]

theorem push (w : World) (c : Cell) : w.Keeps { w with heap := w.heap.push c } := by
  refine ⟨rfl, fun {r c'} hc => ⟨c', ?_, rfl⟩⟩
  have hlt : r < w.heap.size := (Array.getElem?_eq_some_iff.mp hc).1
  rw [Array.getElem?_push, if_neg (Nat.ne_of_lt hlt)]
  exact hc

/-- Other contents of the same kind. -/
theorem set {c' : Cell} (hc : w.heap[r]? = some c) (hkind : c'.kind = c.kind) :
    w.Keeps { w with heap := w.heap.setIfInBounds r c' } := by
  refine ⟨rfl, fun {s b} hb => ?_⟩
  by_cases hs : s = r
  · subst hs
    obtain rfl : b = c := Option.some.inj (hb.symm.trans hc)
    exact ⟨c', by simp [(Array.getElem?_eq_some_iff.mp hb).1], hkind⟩
  · exact ⟨b, by rwa [Array.getElem?_setIfInBounds_ne (Ne.symm hs)], rfl⟩

end World.Keeps

open Run

variable {α β : Type} {w : World}

/-- From a state on, an operation keeps the classes, whether it succeeds or fails. -/
def Frames (w : World) (m : Run α) : Prop := ∀ u, w.Keeps u → u.Keeps (m.result u).2

namespace Frames

variable {m : Run α} {f : α → Run β}

theorem later {u : World} (h : Frames w m) (hu : w.Keeps u) : Frames u m :=
  fun v hv => h v (hu.trans hv)

@[grind ←] theorem pure (a : α) : Frames w (Pure.pure a) := fun u _ => .refl u

@[grind ←] theorem throw (e : Fault) : Frames w (throw e : Run α) := fun u _ => .refl u

@[grind ←] theorem get : Frames w (MonadState.get : Run World) := fun u _ => .refl u

@[grind ←] theorem cell? (r : Ref) : Frames w (Run.cell? r) := fun u _ => .refl u

@[grind ←] theorem datum (v : Value) : Frames w (Run.datum v) := fun u _ => .refl u

@[grind ←] theorem lift (x : Except Fault α) : Frames w (Run.lift x) := by
  cases x <;> exact fun u _ => .refl u

@[grind ←] theorem require (e : Fault) (x : Option α) : Frames w (Run.require e x) := by
  cases x <;> exact fun u _ => .refl u

@[grind ←] theorem alloc (c : Cell) : Frames w (Run.alloc c) := fun u _ => .push u c

@[grind ←] theorem newList (vs : List Value) : Frames w (Run.newList vs) := alloc _

/-- Stores contents in a cell that was of their kind before. -/
theorem write {r : Ref} {c c' : Cell} (hc : w.heap[r]? = some c) (hkind : c'.kind = c.kind) :
    Frames w (Run.write r c') := by
  intro u hu
  obtain ⟨b, hb, hbkind⟩ := hu.cell hc
  exact .set hb (hkind.trans hbkind.symm)

@[grind ←] theorem bind (hm : Frames w m) (hf : ∀ a, Frames w (f a)) : Frames w (m >>= f) := by
  intro u hu
  have hfirst := hm u hu
  rw [result_bind]
  generalize m.result u = out at hfirst ⊢
  obtain ⟨r, v⟩ := out
  cases r with
  | error e => exact hfirst
  | ok a => exact hfirst.trans (hf a v (hu.trans hfirst))

@[grind ←] theorem throw_bind (e : Fault) (f : α → Run β) : Frames w (MonadExcept.throw e >>= f) :=
  fun u _ => .refl u

/-- What is read of the state holds in the state from which the rest starts. -/
@[grind ←] theorem get_bind {f : World → Run β} (hf : ∀ u, w.Keeps u → Frames u (f u)) :
    Frames w (MonadState.get >>= f) := by
  intro u hu
  rw [result_bind_ok f (result_get u)]
  exact hf u hu u (.refl u)

@[grind ←] theorem cell?_bind {r : Ref} {f : Option Cell → Run β}
    (hf : ∀ u, w.Keeps u → Frames u (f u.heap[r]?)) : Frames w (Run.cell? r >>= f) := by
  intro u hu
  rw [result_bind_ok f (result_cell? r u)]
  exact hf u hu u (.refl u)

@[grind ←] theorem map {g : α → β} (h : Frames w m) : Frames w (g <$> m) := by
  rw [map_eq_pure_bind]
  exact h.bind fun a => .pure (g a)

@[grind ←] theorem tryCatch {h : Fault → Run α} (hm : Frames w m) (hh : ∀ e, Frames w (h e)) :
    Frames w (MonadExcept.tryCatch m h) := by
  intro u hu
  have hfirst := hm u hu
  rw [result_tryCatch]
  generalize m.result u = out at hfirst ⊢
  obtain ⟨r, v⟩ := out
  cases r with
  | error e => exact hfirst.trans (hh e v (hu.trans hfirst))
  | ok a => exact hfirst

@[grind ←] theorem mapM {f : α → Run β} (hf : ∀ a, Frames w (f a)) (as : List α) :
    Frames w (as.mapM f) := by
  induction as with
  | nil => exact .pure []
  | cons a as ih =>
    rw [List.mapM_cons]
    exact (hf a).bind fun b => ih.bind fun bs => .pure _

@[grind ←] theorem optionMapM {f : α → Run β} (hf : ∀ a, Frames w (f a)) (o : Option α) :
    Frames w (o.mapM f) := by
  cases o with
  | none => exact .pure none
  | some a => exact (hf a).map

@[grind ←] theorem foldlM {f : β → α → Run β} (hf : ∀ b a, Frames w (f b a)) (as : List α) (b : β) :
    Frames w (as.foldlM f b) := by
  induction as generalizing b with
  | nil => exact .pure b
  | cons a as ih =>
    rw [List.foldlM_cons]
    exact (hf b a).bind fun b' => ih b'

@[grind ←] theorem forM {f : α → Run PUnit} (hf : ∀ a, Frames w (f a)) (as : List α) :
    Frames w (as.forM f) := by
  induction as with
  | nil => exact .pure _
  | cons a as ih => exact (hf a).bind fun _ => ih

end Frames

/-- A way to call values and methods of objects that keeps the classes. -/
structure Dispatch.Framing (d : Dispatch) : Prop where
  call : ∀ w f args, Frames w (d.call f args)
  method : ∀ w v name args, Frames w (d.method v name args)

namespace Frames

variable {d : Dispatch}

@[grind ←] theorem call (hd : d.Framing) (f : Value) (args : List Value) : Frames w (d.call f args) :=
  hd.call w f args

@[grind ←] theorem method (hd : d.Framing) (v : Value) (name : String) (args : List Value) :
    Frames w (d.method v name args) := hd.method w v name args

end Frames

end FunctionObjects
