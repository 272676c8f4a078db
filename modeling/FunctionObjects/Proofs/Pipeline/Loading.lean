import FunctionObjects.Proofs.Document.Carrying
import FunctionObjects.Proofs.Document.Entries
import FunctionObjects.Proofs.Pipeline.Building
/-!
# Loading pipelines

A configuration is read before any function is.  Of the documents of its steps it keeps the specifications,
and from those the same functions are made as from the documents themselves.
-/

namespace FunctionObjects

open Run World LibraryClass

variable {d : Dispatch} {u v : World} {g x : Value} {gs : List Value} {doc : Document}
  {docs : List Document} {b : Bool}

namespace Reading

theorem entries_eq_map (es : List (Value × Document)) :
    entries d es = es.map fun e => (e.1, e.2, value d e.2) := by
  induction es with
  | nil => rfl
  | cons e es ih => rw [entries, ih, List.map_cons]

/-- A dictionary that specifies something is made, and every other one with the name of a class is refused. -/
theorem result_ofEntries (d : Dispatch) (es : List (Value × Document)) (u : World) :
    (ofEntries d (entries d es)).result u = match Spec.ofEntries u id es with
      | .ok s => (ofSpec d (s.map (value d))).result u
      | .error ps => (.error (.badSpec ps), u) := by
  have hread : Spec.ofEntries u Prod.fst (entries d es) =
      (Spec.ofEntries u id es).map (Spec.map fun doc => (doc, value d doc)) := by
    rw [entries_eq_map]
    exact Spec.ofEntries_map Prod.fst fun doc => (doc, value d doc)
  rw [ofEntries, result_bind_ok _ (result_get u), hread]
  cases Spec.ofEntries u id es with
  | error ps => rfl
  | ok s =>
    have hmap : (s.map fun doc => (doc, value d doc)).map Prod.snd = s.map (value d) := by
      simp [Spec.map]
    simp only [Except.map, hmap]

/-- A function object is read from the specification that its document gives in a configuration. -/
theorem exists_step (h : (function d doc).result u = (.ok g, v)) :
    ∃ s, (∀ w source, PipelineConfig.step w source doc = .ok s) ∧
      ∀ u, (Pipeline.step d s).result u = (function d doc).result u := by
  cases doc with
  | leaf x => cases h
  | list docs => cases h
  | dict es =>
    have hresult := result_ofEntries d es u
    cases hs : Spec.ofEntries u id es with
    | error ps =>
      rw [hs] at hresult
      cases hresult.symm.trans h
    | ok s =>
      refine ⟨s, fun w source => Spec.ofEntries_of_ok hs w, fun u' => ?_⟩
      have hother := result_ofEntries d es u'
      rw [Spec.ofEntries_of_ok hs u'] at hother
      exact hother.symm

end Reading

namespace Pipeline

/-- What configures a pipeline of documents. -/
def configuration (docs : List Document) (b : Bool) : Document :=
  .ofNamed [("functions", .list docs), ("fail_on_incompatible", .leaf (.bool b))]

/-- The functions of the steps are read as their documents are, one after the other. -/
theorem exists_steps (h : (docs.mapM (Reading.function d)).result u = (.ok gs, v)) :
    ∃ ss, (ss.mapM (step d)).result u = (.ok gs, v) ∧ ss.length = docs.length ∧
      ∀ w source i, PipelineConfig.stepsFrom w source i docs = .ok ss := by
  induction docs generalizing u gs with
  | nil => exact ⟨[], h, rfl, fun _ _ _ => rfl⟩
  | cons doc docs ih =>
    rw [List.mapM_cons] at h
    obtain ⟨g, u', hg, hrest⟩ := result_bind_eq_ok.mp h
    obtain ⟨gs', u'', hgs, hpure⟩ := result_bind_eq_ok.mp hrest
    obtain ⟨rfl, rfl⟩ : g :: gs' = gs ∧ u'' = v := by simpa using hpure
    obtain ⟨s, hs, hstep⟩ := Reading.exists_step hg
    obtain ⟨ss, hss, hlength, hsteps⟩ := ih hgs
    refine ⟨s :: ss, ?_, by simp [hlength], fun w source i => ?_⟩
    · rw [List.mapM_cons, result_bind_ok _ ((hstep u).trans hg), result_bind_ok _ hss]
      rfl
    · simp only [PipelineConfig.stepsFrom, hs, hsteps]
      rfl

/-- What a configuration of documents says. -/
theorem result_ofValue {ss : List (Spec Document)} (hx : Document.ofValue u x = configuration docs b)
    (hne : ss ≠ []) (hss : ∀ w source i, PipelineConfig.stepsFrom w source i docs = .ok ss) :
    (PipelineConfig.ofValue d x).result u = (.ok ⟨"pipeline", ss, b⟩, u) := by
  have htext : Document.textOf? x = none := by
    cases x with
    | atom a => cases hx
    | _ => rfl
  obtain ⟨s, ss, rfl⟩ := List.exists_cons_of_ne_nil hne
  have hsteps : (PipelineConfig.stepsOf d .value (.list docs)).result u = (.ok (.ok (s :: ss)), u) := by
    simp only [PipelineConfig.stepsOf, PipelineConfig.items?, result_bind, result_pure, result_get, hss]
  have hname : ("name" == "functions") = false ∧ ("name" == "fail_on_incompatible") = false ∧
      ("fail_on_incompatible" == "functions") = false := by decide
  simp only [PipelineConfig.ofValue, htext, result_bind_ok _ (result_get u), hx, configuration,
    Document.ofNamed, PipelineConfig.ofDocument, PipelineConfig.ofEntries, Document.lookup?_named,
    List.lookup_cons, hname, beq_self_eq_true, List.lookup_nil]
  rw [result_bind_ok _ hsteps]
  rfl

/-- Loading reads the functions of a configuration one after the other and makes the chain of them, which
is checked. -/
theorem result_load (hx : Document.ofValue u x = configuration docs b) (hne : docs ≠ [])
    (hread : (docs.mapM (Reading.function d)).result u = (.ok gs, v))
    (ho : v.Offers functionComposite) :
    (∀ e, (withPipeline v gs).validateChain gs = .error e →
      (load d x).result u = (.error e, withPipeline v gs)) ∧
    ∀ q, (withPipeline v gs).validateChain gs = .ok q →
      (q.isValid = true → (load d x).result u = (.ok (.ref (v.heap.size + 1)), withPipeline v gs)) ∧
      (q.isValid = false → b = true →
        (load d x).result u = (.error (.invalidPipeline "pipeline" q), withPipeline v gs)) ∧
      (q.isValid = false → b = false → ∃ log,
        (load d x).result u =
          (.ok (.ref (v.heap.size + 1)), { withPipeline v gs with log := log })) := by
  obtain ⟨ss, hss, hlength, hsteps⟩ := exists_steps hread
  have hssNe : ss ≠ [] := by
    rintro rfl
    exact hne (List.length_eq_zero_iff.mp hlength.symm)
  have hload : (load d x).result u = (build d ⟨"pipeline", ss, b⟩).result u := by
    rw [load, result_bind_ok _ (result_ofValue hx hssNe hsteps)]
  rw [hload]
  exact result_build (c := ⟨"pipeline", ss, b⟩) hss ho

end Pipeline

end FunctionObjects
