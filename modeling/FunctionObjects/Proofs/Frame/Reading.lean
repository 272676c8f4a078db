import FunctionObjects.Document.Reading
import FunctionObjects.Proofs.Document.Entries
import FunctionObjects.Proofs.Frame.Making
/-!
# Reading documents keeps classes

What is read goes into new cells, from the ends of the document inwards.
-/

namespace FunctionObjects

variable {w : World} {d : Dispatch}

theorem Frames.mapM_mem {α β : Type} {f : α → Run β} {as : List α} (hf : ∀ a ∈ as, Frames w (f a)) :
    Frames w (as.mapM f) := by
  induction as with
  | nil => exact .pure []
  | cons a as ih =>
    rw [List.mapM_cons]
    refine (hf a List.mem_cons_self).bind fun b => ?_
    exact (ih fun x hx => hf x (List.mem_cons_of_mem a hx)).bind fun bs => .pure _

namespace Document

mutual

theorem frames_build : ∀ (doc : Document) (w : World), Frames w (build doc)
  | .leaf v, _ => .pure v
  | .list ds, w => (frames_buildAll ds w).bind fun vs => .newList vs
  | .dict es, w => (frames_buildEntries es w).bind fun es =>
    (Run.frames_insertAll [] es).bind fun es => .alloc (.dict es)

theorem frames_buildAll : ∀ (ds : List Document) (w : World), Frames w (buildAll ds)
  | [], _ => .pure []
  | d :: ds, w => (frames_build d w).bind fun _ => (frames_buildAll ds w).bind fun _ => .pure _

theorem frames_buildEntries : ∀ (es : List (Value × Document)) (w : World), Frames w (buildEntries es)
  | [], _ => .pure []
  | (_, d) :: es, w => (frames_build d w).bind fun _ => (frames_buildEntries es w).bind fun _ => .pure _

end

end Document

namespace Reading

theorem frames_ofSpec (hd : d.Framing) {s : Spec (Run Value)}
    (h : ∀ p ∈ s.properties, ∀ u, Frames u p.2) : Frames w (ofSpec d s) := by
  refine .get_bind fun u _ => .bind (.lift _) fun c => ?_
  have hnamed : Frames u (s.properties.mapM fun p => do return (p.1, ← p.2)) :=
    .mapM_mem fun p hp => (h p hp u).bind fun _ => .pure _
  dsimp only
  split
  · exact .throw_bind _ _
  · exact hnamed.bind fun named => Construction.frames_make hd _ _

/-- The entries of a dictionary are read only if it specifies something. -/
theorem frames_ofEntries (hd : d.Framing) {es : List (Value × Document × Run Value)}
    (h : ∀ e ∈ es, ∀ u, Frames u e.2.2) : Frames w (ofEntries d es) := by
  refine .get_bind fun u _ => ?_
  split
  · rename_i s hs
    refine frames_ofSpec hd fun p hp => ?_
    obtain ⟨q, hq, rfl⟩ := List.mem_map.mp hp
    obtain ⟨e, he, heq⟩ := Spec.mem_of_ofEntries hs hq
    change ∀ u, Frames u q.2.2
    rw [← heq]
    exact h e he
  · exact .throw _

theorem frames_plainEntries {es : List (Value × Document × Run Value)}
    (h : ∀ e ∈ es, ∀ u, Frames u e.2.2) : Frames w (plainEntries es) := by
  unfold plainEntries
  split
  · refine (Document.frames_build _ w).bind fun name => .get_bind fun u _ => ?_
    exact .bind (.lift _) fun _ => .pure _
  · exact .bind (.mapM_mem fun e he => (h e he w).bind fun _ => .pure _) fun _ => .alloc _

mutual

/-- Reading a document of any depth. -/
theorem frames_value (hd : d.Framing) : ∀ (doc : Document) (w : World), Frames w (value d doc)
  | .leaf v, _ => .pure v
  | .list ds, w => (frames_values hd ds w).bind fun vs => .newList vs
  | .dict es, w => by
    rw [value]
    split
    · exact frames_ofEntries hd (frames_entries hd es)
    · exact frames_plainEntries (frames_entries hd es)

theorem frames_values (hd : d.Framing) : ∀ (ds : List Document) (w : World), Frames w (values d ds)
  | [], _ => .pure []
  | doc :: ds, w => (frames_value hd doc w).bind fun _ => (frames_values hd ds w).bind fun _ => .pure _

theorem frames_entries (hd : d.Framing) : ∀ (es : List (Value × Document)),
    ∀ e ∈ entries d es, ∀ w, Frames w e.2.2
  | [], e, he => by simp [entries] at he
  | (k, doc) :: es, e, he => by
    rw [entries] at he
    rcases List.mem_cons.mp he with rfl | he
    · exact frames_value hd doc
    · exact frames_entries hd es e he

end

/-- Reading a function object. -/
theorem frames_function (hd : d.Framing) (doc : Document) : Frames w (function d doc) := by
  unfold function
  split
  · exact frames_ofEntries hd (frames_entries hd _)
  · exact .throw _

end Reading

end FunctionObjects
