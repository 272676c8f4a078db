import FunctionObjects.Proofs.Chain.Unpacking
import FunctionObjects.Proofs.Keyed.Entries
import FunctionObjects.Proofs.Keyed.Standing
/-!
# Dictionaries combined by an operator

One call combines the entries of an input one after the other into a dictionary that is updated in
place.  The operator sees other contents of that dictionary in every call, so what it gives must not
depend on them; nor may an input be the dictionary itself.
-/

namespace FunctionObjects

open Run World Keyed

variable {α : Type} {r : Ref} {M : Meaning r α} {K : Datum → Prop} {w u : World} {m f : Value}
  {op : α → α → α} {es : List (Datum × α)} {n : Nat}

/-- An object of a class that leaves its calls to the library's combining of dictionaries, and the
operator that is set on it. -/
structure World.CombinesBy (w : World) (m f : Value) : Prop where
  isSet : f.isNone = false
  object : ∃ l c o as, m = .ref l ∧ w.heap[l]? = some (.object c o as) ∧
    as.lookup "binary_operator" = some f ∧ as.lookup "apply" = none ∧ as.lookup "_apply" = none ∧
    w.member? c "__call__" = some (.library .binaryOperator .method) ∧
    w.member? c "apply" = some (.library .binaryOperatorMap .method) ∧
    w.member? c "_apply" = some (.library .binaryOperatorMap .method)

/-- A value that is called with two arguments like an operation on what values stand for: whatever
cell `r` holds, it succeeds, adds cells at most, and its outcome depends on nothing else. -/
def Meaning.Answers (M : Meaning r α) (d : Dispatch) (w : World) (f : Value) (op : α → α → α) :
    Prop :=
  ∀ u, Around r w u → ∀ a b x y, M.stands u a x → M.stands u b y →
    ∃ z v, (d.call f [x, y]).result u = (.ok z, v) ∧ u.Grows v ∧ M.stands v (op a b) z

/-- Cell `r` is a dictionary whose entries stand for some others. -/
def Meaning.IsDict (M : Meaning r α) (K : Datum → Prop) (w : World) (es : List (Datum × α)) : Prop :=
  ∃ vs, w.heap[r]? = some (.dict vs) ∧ M.StandForEntries K w es vs

/-- An input: nothing, or a dictionary in another cell than `r`. -/
def Meaning.IsInput (M : Meaning r α) (K : Datum → Prop) (w : World) :
    Option (List (Datum × α)) → Value → Prop
  | .none, x => x = .none
  | .some es, x => ∃ l vs, x = .ref l ∧ l ≠ r ∧ w.heap[l]? = some (.dict vs) ∧
    M.StandForEntries K w es vs

/-- A state to start from: nothing, if cell `r` is the next one to be added, or the dictionary in cell
`r`. -/
inductive Meaning.Starts (M : Meaning r α) (K : Datum → Prop) (w : World) :
    Value → List (Datum × α) → Prop
  | nothing (hr : w.heap.size = r) : Starts M K w .none []
  | dict {es : List (Datum × α)} (h : M.IsDict K w es) (hdistinct : Distinct es) :
    Starts M K w (.ref r) es

theorem Meaning.Answers.later {d : Dispatch} (h : M.Answers d w f op) (hu : Around r w u) :
    M.Answers d u f op := fun v hv => h v (hu.trans hv)

theorem Meaning.IsInput.later {t : Option (List (Datum × α))} {x : Value} (h : M.IsInput K w t x)
    (hu : Around r w u) : M.IsInput K u t x := by
  cases t with
  | none => exact h
  | some es =>
    obtain ⟨l, vs, hx, hl, hcell, hes⟩ := h
    exact ⟨l, vs, hx, hl, hu.cell hl hcell, Keyed.later hes hu⟩

/-- An object stays what it is while a dictionary is updated. -/
theorem World.CombinesBy.later (h : w.CombinesBy m f)
    (hr : ∀ c, w.heap[r]? = some c → ∃ vs, c = .dict vs) (hu : Around r w u) :
    u.CombinesBy m f := by
  obtain ⟨l, c, o, as, hm, hcell, hattributes⟩ := h.object
  have hl : l ≠ r := by
    rintro rfl
    obtain ⟨vs, hvs⟩ := hr _ hcell
    cases hvs
  refine ⟨h.isSet, l, c, o, as, hm, hu.cell hl hcell, ?_⟩
  simpa only [hu.sameClasses.member?] using hattributes

/-- Adding cells leaves every object what it is. -/
theorem World.CombinesBy.grows (h : w.CombinesBy m f) (hg : w.Grows u) : u.CombinesBy m f :=
  h.later (r := w.heap.size) (fun _ hc => absurd (lt_size_of_getElem? hc) (Nat.lt_irrefl _))
    (.of_grows hg)

namespace ByKey

/-- Folds inputs into a state, one call after the other. -/
def fold (d : Dispatch) (m state : Value) (xs : List Value) : Run Value :=
  xs.foldlM (fun s x => d.call m [s, x]) state

theorem result_call (h : w.CombinesBy m f) (state x : Value) :
    ((Dispatch.ofDepth (n + 2)).call m [state, x]).result w =
      (apply (.ofDepth n) m state x).result w := by
  obtain ⟨l, c, o, as, rfl, hcell, -, happly, -, hcall, hmember, -⟩ := h.object
  rw [Dispatch.result_call_object (n + 1) hcell hcall]
  exact Dispatch.result_method_object n hcell hmember happly

theorem result_combine (h : w.CombinesBy m f) (state x : Value) :
    ((Dispatch.ofDepth (n + 1)).method m "_apply" [state, x]).result w =
      (do (← entries x).forM (step (.ofDepth n) f state); return state : Run Value).result w := by
  obtain ⟨l, c, o, as, rfl, hcell, hf, -, happly, -, -, hmember⟩ := h.object
  rw [Dispatch.result_method_object n hcell hmember happly]
  change (combine (.ofDepth n) (.ref l) state x).result w = _
  rw [combine, result_bind_ok _ (result_optional_set hcell hf h.isSet)]

theorem result_entries {l : Ref} {vs : List (Value × Value)} (h : w.heap[l]? = some (.dict vs)) :
    (entries (.ref l)).result w = (.ok vs, w) := by
  simp [entries, result_bind, h]

/-- What a dictionary has under a key is looked up among its entries. -/
theorem result_current {vs : List (Value × Value)} (h : w.heap[r]? = some (.dict vs)) (x : Value) :
    (current (.ofDepth (n + 1)) (.ref r) x).result w =
      (do return (← Run.lookup? vs x).getD .none : Run Value).result w := by
  change (Method.call (.ofDepth n) (.ref r) "get" [x]).result w = _
  simp [Method.call, Method.isObject, Method.ofPlain, World.cell?, result_bind, h]

/-- All keys of the inputs are keys. -/
theorem keys_inputs {inputs : List (Option (List (Datum × α)))} {xs : List Value}
    (h : List.Forall₂ (M.IsInput K w) inputs xs) :
    ∀ e ∈ inputs.flatMap (·.getD []), K e.1 := by
  induction h with
  | nil => simp
  | @cons t x rest xs hx _ ih =>
    rw [List.flatMap_cons]
    refine List.forall_mem_append.mpr ⟨?_, ih⟩
    cases t with
    | none => simp
    | some ts =>
      obtain ⟨_, _, -, -, -, hts⟩ := hx
      exact Keyed.keys hts

variable (hK : Datum.AreKeys K)

include hK

/-- One entry goes where it goes on data, and nothing else changes but that cells are added. -/
theorem result_step {e : Datum × α} {xe : Value × Value}
    (hop : M.Answers (.ofDepth (n + 1)) u f op) (hdict : M.IsDict K u es)
    (he : M.StandsForEntry K u e xe) :
    ∃ v, (step (.ofDepth (n + 1)) f (.ref r) xe).result u = (.ok (), v) ∧ Around r u v ∧
      M.IsDict K v (Keyed.combine op M.nothing es e) := by
  obtain ⟨vs, hcell, hvs⟩ := hdict
  obtain ⟨o, hlookup, ho⟩ := result_lookup? hK hvs he.isKey he.key
  obtain ⟨z, v, hcall, hg, hz⟩ := hop u (.refl r u) _ _ _ _ ho he.value
  have hu : Around r u v := .of_grows hg
  have hvs' := Keyed.later hvs hu
  obtain ⟨us, hinsert, hus⟩ := result_insert hK hvs' he.isKey (M.key_later hu he.key) hz
  have hset : Around r v { v with heap := v.heap.setIfInBounds r (.dict us) } :=
    .set (hg.heap hcell) rfl
  refine ⟨_, ?_, hu.trans hset, us, ?_, Keyed.later hus hset⟩
  · rw [step]
    have hcurrent : (current (.ofDepth (n + 1)) (.ref r) xe.1).result u =
        (.ok (o.getD .none), u) := by
      rw [result_current hcell, result_bind_ok _ hlookup]
      rfl
    rw [result_bind_ok _ hcurrent, result_bind_ok _ hcall, store]
    simp only [result_bind, result_cell?, hg.heap hcell, hinsert, result_write]
  · simp [lt_size_of_getElem? (hg.heap hcell)]

/-- The entries of an input are combined one after the other. -/
theorem result_forM {xes : List (Value × Value)} {ts : List (Datum × α)}
    (hop : M.Answers (.ofDepth (n + 1)) w f op) (hts : M.StandForEntries K w ts xes)
    (hu : Around r w u) (hdict : M.IsDict K u es) :
    ∃ v, (xes.forM (step (.ofDepth (n + 1)) f (.ref r))).result u = (.ok (), v) ∧ Around r u v ∧
      M.IsDict K v (ts.foldl (Keyed.combine op M.nothing) es) := by
  induction hts generalizing u es with
  | nil => exact ⟨u, rfl, .refl r u, hdict⟩
  | cons he _ ih =>
    obtain ⟨v, hstep, hv, hdict'⟩ :=
      result_step hK (hop.later hu) hdict ⟨he.isKey, M.key_later hu he.key, M.later hu he.value⟩
    obtain ⟨v', hloop, hv', hdict''⟩ := ih (hu.trans hv) hdict'
    refine ⟨v', ?_, hv.trans hv', hdict''⟩
    exact (result_bind_ok _ hstep).trans hloop

/-- An input is combined into the dictionary in cell `r`. -/
theorem result_call_dict {t : Option (List (Datum × α))} {x : Value} (h : u.CombinesBy m f)
    (hop : M.Answers (.ofDepth (n + 1)) u f op) (hdict : M.IsDict K u es) (hx : M.IsInput K u t x) :
    ∃ v, ((Dispatch.ofDepth (n + 4)).call m [.ref r, x]).result u = (.ok (.ref r), v) ∧
      Around r u v ∧ M.IsDict K v ((t.getD []).foldl (Keyed.combine op M.nothing) es) := by
  rw [result_call h]
  cases t with
  | none =>
    obtain rfl : x = .none := hx
    exact ⟨u, rfl, .refl r u, hdict⟩
  | some ts =>
    obtain ⟨l, vs, rfl, -, hcell, hvs⟩ := hx
    obtain ⟨v, hloop, hv, hdict'⟩ := result_forM hK hop hvs (.refl r u) hdict
    refine ⟨v, ?_, hv, hdict'⟩
    change ((Dispatch.ofDepth (n + 2)).method m "_apply" [.ref r, .ref l]).result u = _
    rw [result_combine h]
    simp only [result_bind, result_entries hcell, hloop, result_pure]

/-- The first dictionary is combined into a new one. -/
theorem result_call_new {ts : List (Datum × α)} {x : Value} (h : u.CombinesBy m f)
    (hop : M.Answers (.ofDepth (n + 1)) u f op) (hr : u.heap.size = r)
    (hx : M.IsInput K u (some ts) x) :
    ∃ v, ((Dispatch.ofDepth (n + 4)).call m [.none, x]).result u = (.ok (.ref r), v) ∧
      Around r u v ∧ M.IsDict K v (ts.foldl (Keyed.combine op M.nothing) []) := by
  obtain ⟨l, vs, rfl, hl, hcell, hvs⟩ := hx
  let v : World := { u with heap := u.heap.push (.dict []) }
  have hg : Around r u v := .of_grows (.push u _)
  have hdict : M.IsDict K v [] := ⟨[], by simp [v, ← hr], .nil⟩
  have hfresh : ∀ c, u.heap[r]? = some c → ∃ vs, c = .dict vs := fun c hc =>
    absurd (lt_size_of_getElem? hc) (Nat.not_lt.mpr hr.le)
  obtain ⟨v', hcall, hv', hdict'⟩ := result_call_dict hK (h.later hfresh hg) (hop.later hg) hdict
    (t := some ts) (x := .ref l) ⟨l, vs, rfl, hl, hg.cell hl hcell, Keyed.later hvs hg⟩
  refine ⟨v', ?_, hg.trans hv', hdict'⟩
  rw [result_call (h.later hfresh hg)] at hcall
  rw [result_call h]
  change ((do
    let state ← alloc (.dict [])
    (Dispatch.ofDepth (n + 2)).method m "_apply" [state, .ref l] : Run Value)).result u = _
  rw [result_bind_ok _ (result_alloc _ u), hr]
  exact hcall

/-- Folding into the dictionary in cell `r` combines the entries of all inputs. -/
theorem result_fold_dict {inputs : List (Option (List (Datum × α)))} {xs : List Value}
    (h : w.CombinesBy m f) (hop : M.Answers (.ofDepth (n + 1)) w f op)
    (hxs : List.Forall₂ (M.IsInput K w) inputs xs)
    (hr : ∀ c, w.heap[r]? = some c → ∃ vs, c = .dict vs)
    (hu : Around r w u) (hdict : M.IsDict K u es) :
    ∃ v, (fold (.ofDepth (n + 4)) m (.ref r) xs).result u = (.ok (.ref r), v) ∧ Around r u v ∧
      M.IsDict K v ((inputs.flatMap (·.getD [])).foldl (Keyed.combine op M.nothing) es) := by
  induction hxs generalizing u es with
  | nil => exact ⟨u, rfl, .refl r u, hdict⟩
  | @cons t x _ _ hx _ ih =>
    obtain ⟨v, hcall, hv, hdict'⟩ :=
      result_call_dict hK (h.later hr hu) (hop.later hu) hdict (hx.later hu)
    obtain ⟨v', hrest, hv', hdict''⟩ := ih (hu.trans hv) hdict'
    refine ⟨v', ?_, hv.trans hv', ?_⟩
    · rw [fold, List.foldlM_cons, result_bind_ok _ hcall]
      exact hrest
    · rwa [List.flatMap_cons, List.foldl_append]

/-- Folding from nothing: with a dictionary among the inputs it ends in a new one. -/
theorem result_fold_new {inputs : List (Option (List (Datum × α)))} {xs : List Value}
    (h : w.CombinesBy m f) (hop : M.Answers (.ofDepth (n + 1)) w f op)
    (hxs : List.Forall₂ (M.IsInput K w) inputs xs) (hr : w.heap.size = r)
    (hsome : ∃ ts, some ts ∈ inputs) :
    ∃ v, (fold (.ofDepth (n + 4)) m .none xs).result w = (.ok (.ref r), v) ∧ Around r w v ∧
      M.IsDict K v ((inputs.flatMap (·.getD [])).foldl (Keyed.combine op M.nothing) []) := by
  have hfresh : ∀ c, w.heap[r]? = some c → ∃ vs, c = .dict vs := fun c hc =>
    absurd (lt_size_of_getElem? hc) (Nat.not_lt.mpr hr.le)
  induction hxs with
  | nil => simp at hsome
  | @cons t x rest xs hx hxs ih =>
    cases t with
    | none =>
      obtain rfl : x = .none := hx
      have hskip : ((Dispatch.ofDepth (n + 4)).call m [.none, .none]).result w = (.ok .none, w) := by
        rw [result_call h]
        rfl
      obtain ⟨v, hrest, hv, hdict⟩ := ih (by simpa using hsome)
      refine ⟨v, ?_, hv, hdict⟩
      rw [fold, List.foldlM_cons, result_bind_ok _ hskip]
      exact hrest
    | some ts =>
      obtain ⟨v, hcall, hv, hdict⟩ := result_call_new hK h hop hr hx
      obtain ⟨v', hrest, hv', hdict'⟩ := result_fold_dict hK h hop hxs hfresh hv hdict
      refine ⟨v', ?_, hv.trans hv', ?_⟩
      · rw [fold, List.foldlM_cons, result_bind_ok _ hcall]
        exact hrest
      · rwa [List.flatMap_cons, List.foldl_append]

end ByKey

end FunctionObjects
