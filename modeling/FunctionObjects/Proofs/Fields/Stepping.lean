import FunctionObjects.Proofs.Fields.Tuples
import FunctionObjects.Proofs.Pipeline.Building
/-!
# Steps on tuple objects

An adapted function that works on a tuple selects values, hands them to the function inside it, and
writes what comes back into the tuple.  If the function inside is pure, that is a step on the contents of
the tuple: it does not matter which other contents the tuple has while the function runs.
-/

namespace FunctionObjects

open Run World

variable {α : Type} {r : Ref} {M : Meaning r α} {K : Datum → Prop} {c : ClassName} {w u v : World}
  {F f x y : Value} {rs qs xs ys : List Value} {t : Contents α} {step : TupleStep α} {n : Nat}

namespace Fields

/-- What a function inside is handed for some values: a single one itself, several ones in a tuple. -/
def pack (xs : List Value) : Run Value :=
  match xs with
  | [x] => return x
  | xs => PositionalTuple.ofValues xs

/-- The values that an output stands for when so many are to be written. -/
def unpack (d : Dispatch) (count : Nat) (y : Value) : Run (List Value) :=
  if count = 1 then return [y] else d.items y

/-- Hands values to a function. -/
def handOn (d : Dispatch) (f : Value) (xs : List Value) : Run Value := do d.call f [← pack xs]

/-- Writes values under as many references, and gives the state itself. -/
def write (d : Dispatch) (self state : Value) (qs ys : List Value) : Run Value := do
  if ys.length = qs.length then
    store d state (qs.zip ys)
    return state
  else throw (.arity (← Run.typeName self) qs.length (.count ys.length))

/-- What a function gives for some values, unpacked. -/
def deliver (d e : Dispatch) (f : Value) (count : Nat) (xs : List Value) : Run (List Value) := do
  unpack e count (← handOn d f xs)

end Fields

namespace World

/-- An object of a class, with what is set on it. -/
def IsObjectWith (w : World) (x : Value) (c : ClassName) (as : List (String × Value)) : Prop :=
  ∃ l o, x = .ref l ∧ w.heap[l]? = some (.object c o as)

/-- An object of a class that leaves it to the library to select the values under some references. -/
def Selects (w : World) (x : Value) (rs : List Value) : Prop :=
  ∃ c as s, w.IsObjectWith x c as ∧ as.lookup "selection" = some (.ref s) ∧
    w.heap[s]? = some (.list rs) ∧ as.lookup "apply" = none ∧
    w.member? c "__call__" = some (.library .function .method) ∧
    w.member? c "apply" = some (.library .tupleInputAdapter .method)

/-- An object of a class that leaves it to the library to write an output under some references. -/
def Projects (w : World) (x : Value) (qs : List Value) : Prop :=
  ∃ c as s, w.IsObjectWith x c as ∧ as.lookup "projection" = some (.ref s) ∧
    w.heap[s]? = some (.list qs) ∧
    w.member? c "__call__" = some (.library .tupleOutputAdapter .method)

/-- An object of a class that leaves it to the library to apply a function to selected values of a tuple
and to write its output into the tuple. -/
def AdaptsTuple (w : World) (F : Value) (rs : List Value) (f : Value) (qs : List Value) : Prop :=
  ∃ c as i g, w.IsObjectWith F c as ∧ w.Selects i rs ∧ w.Projects g qs ∧ f.isNone = false ∧
    as.lookup "input_adapter" = some i ∧ as.lookup "function" = some f ∧
    as.lookup "output_fold" = some g ∧ as.lookup "apply" = none ∧
    as.lookup "adapt_input" = none ∧ as.lookup "adapt_output" = none ∧
    w.member? c "__call__" = some (.library .function .method) ∧
    w.member? c "apply" = some (.library .adaptedFunction .method) ∧
    w.member? c "adapt_input" = some (.library .inputAdapted .method) ∧
    w.member? c "adapt_output" = some (.library .outputAdapted .method)

end World

/-- A function is pure on some values: whatever cell `r` holds, for what stands for them it adds cells at
most, and what it delivers, so many values or nothing at all, is told by what they stand for.  The depths
are those at which an adapter that is called at depth `n + 6` calls it and unpacks its output. -/
structure Meaning.Delivers (M : Meaning r α) (n : Nat) (w : World) (f : Value) (count : Nat)
    (as : List α) (o : Option (List α)) : Prop where
  grows : ∀ {u v xs y}, Around r w u → List.Forall₂ (M.stands u) as xs →
    (Fields.handOn (.ofDepth (n + 4)) f xs).result u = (.ok y, v) → u.Grows v
  delivers : ∀ {u xs}, Around r w u → List.Forall₂ (M.stands u) as xs →
    Computes u (Fields.deliver (.ofDepth (n + 4)) (.ofDepth (n + 2)) f count xs) o
      fun bs ys v => u.Grows v ∧ List.Forall₂ (M.stands v) bs ys

/-- An object performs a step on a tuple with some contents: it adapts a function to the references of the
step that is pure on the values that the step selects. -/
structure Meaning.Performs (M : Meaning r α) (K : Datum → Prop) (n : Nat) (w : World)
    (t : Contents α) (F : Value) (step : TupleStep α) : Prop where
  within : step.Within K
  adapts : ∃ rs f qs, w.AdaptsTuple F rs f qs ∧ List.Forall₂ (M.key w) step.selection rs ∧
    List.Forall₂ (M.key w) step.projection qs ∧
    ∀ as, TupleStep.select M.nothing t step.selection = some as →
      M.Delivers n w f step.projection.length as (step.apply as)

section

variable (ht : M.IsTuple K c w t) (hu : Around r w u)

include ht hu

theorem World.IsObjectWith.later {b : ClassName} {as : List (String × Value)} (h : w.IsObjectWith x b as) :
    u.IsObjectWith x b as := by
  obtain ⟨l, o, hx, hcell⟩ := h
  exact ⟨l, o, hx, hu.cell (ht.ne_of_cell hcell nofun nofun) hcell⟩

theorem World.Selects.later (h : w.Selects x rs) : u.Selects x rs := by
  obtain ⟨b, as, s, hx, hattribute, hlist, happly, hmembers⟩ := h
  refine ⟨b, as, s, hx.later ht hu, hattribute, hu.cell (ht.ne_of_cell hlist nofun nofun) hlist,
    happly, ?_⟩
  simpa only [hu.sameClasses.member?] using hmembers

theorem World.Projects.later (h : w.Projects x qs) : u.Projects x qs := by
  obtain ⟨b, as, s, hx, hattribute, hlist, hmember⟩ := h
  refine ⟨b, as, s, hx.later ht hu, hattribute, hu.cell (ht.ne_of_cell hlist nofun nofun) hlist, ?_⟩
  rwa [hu.sameClasses.member?]

theorem World.AdaptsTuple.later (h : w.AdaptsTuple F rs f qs) : u.AdaptsTuple F rs f qs := by
  obtain ⟨b, as, i, g, hF, hi, hg, hrest⟩ := h
  refine ⟨b, as, i, g, hF.later ht hu, hi.later ht hu, hg.later ht hu, ?_⟩
  simpa only [hu.sameClasses.member?] using hrest

/-- Updating the tuple leaves the step what it is, as far as the same is selected. -/
theorem Meaning.Performs.later {t' : Contents α} (h : M.Performs K n w t F step)
    (hselect : TupleStep.select M.nothing t' step.selection =
      TupleStep.select M.nothing t step.selection) : M.Performs K n u t' F step where
  within := h.within
  adapts := by
    obtain ⟨rs, f, qs, hF, hrs, hqs, hf⟩ := h.adapts
    refine ⟨rs, f, qs, hF.later ht hu, hrs.imp fun _ _ => M.key_later hu,
      hqs.imp fun _ _ => M.key_later hu, fun as has => ?_⟩
    have hf' := hf as (hselect ▸ has)
    exact ⟨fun hv => hf'.grows (hu.trans hv), fun hv => hf'.delivers (hu.trans hv)⟩

end

namespace Fields

/-- What an adapter's object keeps as a list is read without changing anything. -/
theorem result_itemsOf {d : Dispatch} {as : List (String × Value)} {s : Ref} {name : String}
    (hx : w.IsObjectWith x c as) (hname : as.lookup name = some (.ref s))
    (hlist : w.heap[s]? = some (.list rs)) : (d.itemsOf x name).result w = (.ok rs, w) := by
  obtain ⟨l, o, rfl, hcell⟩ := hx
  rw [Dispatch.itemsOf, result_bind_ok _ (result_field hcell hname),
    Dispatch.result_items_list hlist]

theorem result_call_select (h : w.Selects x rs) (hy : y.isNone = false) (n : Nat) :
    ((Dispatch.ofDepth (n + 2)).call x [y]).result w = (selected (.ofDepth n) y rs).result w := by
  obtain ⟨b, as, s, hx, hattribute, hlist, happly, hcall, hmember⟩ := h
  have hitems := result_itemsOf (d := .ofDepth n) hx hattribute hlist
  obtain ⟨l, o, rfl, hcell⟩ := hx
  rw [Dispatch.result_call_object (n + 1) hcell hcall]
  refine (Dispatch.result_method_object n hcell hmember happly).trans ?_
  change (select (.ofDepth n) (.ref l) y).result w = _
  rw [select, hy]
  exact result_bind_ok _ hitems

/-- Values that are selected are packed for the function inside. -/
theorem result_selected {d : Dispatch}
    (h : (rs.mapM fun q => d.method x "get" [q]).result w = (.ok xs, u))
    (hlength : xs.length = rs.length) : (selected d x rs).result w = (pack xs).result u := by
  match rs, xs with
  | [q], xs =>
    rw [List.mapM_cons, result_bind_eq_ok] at h
    obtain ⟨a, v, hget, h⟩ := h
    cases h
    exact hget
  | [], [] => exact result_bind_ok _ h
  | _ :: _ :: _, _ :: _ :: _ => exact result_bind_ok _ h

theorem result_selected_error {d : Dispatch} {e : Fault}
    (h : (rs.mapM fun q => d.method x "get" [q]).result w = (.error e, v)) :
    (selected d x rs).result w = (.error e, v) := by
  match rs with
  | [q] =>
    rw [List.mapM_cons, result_bind] at h
    split at h
    · cases h
    · rename_i hget
      cases h
      exact hget
  | [] => exact result_bind_error _ h
  | _ :: _ :: _ => exact result_bind_error _ h

/-- Without references an output is refused. -/
theorem result_call_project_nil (h : w.Projects x []) (y : Value) (n : Nat) :
    ((Dispatch.ofDepth (n + 1)).call x [.ref r, y]).result w = (.error .projectionMissing, w) := by
  obtain ⟨b, as, s, hx, hattribute, hlist, hcall⟩ := h
  have hitems := result_itemsOf (d := .ofDepth n) hx hattribute hlist
  obtain ⟨l, o, rfl, hcell⟩ := hx
  rw [Dispatch.result_call_object n hcell hcall]
  exact result_bind_ok _ hitems

/-- The values that an output stands for are written if there are as many as references. -/
theorem result_call_project (h : w.Projects x qs) (hqs : qs ≠ []) (y : Value) (n : Nat) :
    ((Dispatch.ofDepth (n + 1)).call x [.ref r, y]).result w =
      (do write (.ofDepth n) x (.ref r) qs (← unpack (.ofDepth n) qs.length y) : Run Value).result
        w := by
  obtain ⟨b, as, s, hx, hattribute, hlist, hcall⟩ := h
  have hitems := result_itemsOf (d := .ofDepth n) hx hattribute hlist
  obtain ⟨l, o, rfl, hcell⟩ := hx
  rw [Dispatch.result_call_object n hcell hcall]
  refine (result_bind_ok _ hitems).trans ?_
  match qs with
  | [q] =>
    have hstore : store (.ofDepth n) (.ref r) [(q, y)] =
        (do let _ ← (Dispatch.ofDepth n).method (.ref r) "put" [q, y]) := by
      simp [store]
    change (do
      let _ ← (Dispatch.ofDepth n).method (.ref r) "put" [q, y]
      return Value.ref r : Run Value).result w = (do
      store (.ofDepth n) (.ref r) [(q, y)]
      return Value.ref r : Run Value).result w
    rw [hstore, bind_assoc]
    rfl
  | _ :: _ :: _ => rfl

/-- A call selects values for the function inside and gives its output back to the adapter. -/
theorem result_call (h : u.AdaptsTuple F rs f qs) (hx : x.isNone = false) (n : Nat) :
    ((Dispatch.ofDepth (n + 6)).call F [x]).result u = (do
      let y ← (do (Dispatch.ofDepth (n + 4)).call f [← selected (.ofDepth (n + 1)) x rs])
      (Dispatch.ofDepth (n + 4)).method F "adapt_output" [y, x] : Run Value).result u := by
  obtain ⟨b, as, i, g, ⟨l, o, rfl, hcell⟩, hselects, -, hf, hi, hfunction, -, happly, hadapt, -, hcall,
    hmember, hinput, -⟩ := h
  have hinner : (Adapted.inner (.ref l) "function" .function).result u = (.ok f, u) := by
    rw [Adapted.inner, result_bind_ok _ (result_optional_set hcell hfunction hf)]
    rfl
  have hadapted : ((Dispatch.ofDepth (n + 4)).method (.ref l) "adapt_input" [x]).result u =
      (selected (.ofDepth (n + 1)) x rs).result u := by
    refine (Dispatch.result_method_object (n + 3) hcell hinput hadapt).trans ?_
    change (Adapted.adaptInput (.ofDepth (n + 3)) (.ref l) x).result u = _
    have hnone : i.isNone = false := by
      obtain ⟨_, _, _, ⟨_, _, rfl, -⟩, -⟩ := hselects
      rfl
    rw [Adapted.adaptInput, result_bind_ok _ (result_optional_set hcell hi hnone)]
    exact result_call_select hselects hx (n + 1)
  rw [Dispatch.result_call_object (n + 5) hcell hcall]
  refine (Dispatch.result_method_object (n + 4) hcell hmember happly).trans ?_
  change (Adapted.applyFunction (.ofDepth (n + 4)) (.ref l) x).result u = _
  rw [Adapted.applyFunction, result_bind_ok _ hinner, bind_assoc]
  exact result_bind_congr _ hadapted

/-- The adapter for outputs answers for what comes back. -/
theorem result_output (h : u.AdaptsTuple F rs f qs) (x y : Value) (n : Nat) :
    ∃ g, u.Projects g qs ∧ ((Dispatch.ofDepth (n + 2)).method F "adapt_output" [y, x]).result u =
      ((Dispatch.ofDepth (n + 1)).call g [x, y]).result u := by
  obtain ⟨b, as, i, g, ⟨l, o, rfl, hcell⟩, -, hprojects, -, -, -, hg, -, -, hadapt, -, -, -,
    houtput⟩ := h
  have hnone : g.isNone = false := by
    obtain ⟨_, _, _, ⟨_, _, rfl, -⟩, -⟩ := hprojects
    rfl
  have hkind : (Adapted.outputKind (.ref l)).result u = (.ok .fold, u) := by
    rw [Adapted.outputKind, result_bind_ok _ (result_optional_set hcell hg hnone)]
    rfl
  refine ⟨g, hprojects, (Dispatch.result_method_object (n + 1) hcell houtput hadapt).trans ?_⟩
  change (Adapted.adaptOutput (.ofDepth (n + 1)) (.ref l) y x).result u = _
  rw [Adapted.adaptOutput, result_bind_ok _ hkind]
  exact result_bind_ok _ (result_field hcell hg)

section

variable (hK : Datum.AreKeys K) (ht : M.IsTuple K c u t)

include hK ht

omit hK ht in
theorem forall₂_zip {β γ δ : Type} {R : α → β → Prop} {S : γ → δ → Prop} {as : List α}
    {bs : List β} {cs : List γ} {ds : List δ} (h : List.Forall₂ R as bs)
    (h' : List.Forall₂ S cs ds) :
    List.Forall₂ (fun p q => R p.1 q.1 ∧ S p.2 q.2) (as.zip cs) (bs.zip ds) := by
  induction h generalizing cs ds with
  | nil => exact .nil
  | cons hab _ ih =>
    cases h' with
    | nil => exact .nil
    | cons hcd hrest => exact .cons ⟨hab, hcd⟩ (ih hrest)

/-- Selecting reads what is selected on data. -/
theorem computes_select {σs : List Datum} (hσs : ∀ σ ∈ σs, σ.hashable = true → K σ)
    (hrs : List.Forall₂ (M.key u) σs rs) (n : Nat) :
    Computes u (rs.mapM fun q => (Dispatch.ofDepth (n + 1)).method (.ref r) "get" [q])
      (TupleStep.select M.nothing t σs) fun as xs v =>
        v = u ∧ xs.length = rs.length ∧ List.Forall₂ (M.stands u) as xs := by
  refine .mapM ?_
  induction hrs with
  | nil => exact .nil
  | cons hq _ ih =>
    rw [List.forall_mem_cons] at hσs
    exact .cons (computes_get hK ht hq hσs.1 n) (ih hσs.2)

/-- Writing an output does what it does on data. -/
theorem computes_write {ρs : List Datum} {bs : List α} (hρs : ∀ ρ ∈ ρs, ρ.hashable = true → K ρ)
    (hne : ρs ≠ []) (hqs : List.Forall₂ (M.key u) ρs qs) (hys : List.Forall₂ (M.stands u) bs ys)
    (g : Value) (n : Nat) :
    Computes u (write (.ofDepth (n + 1)) g (.ref r) qs ys) (TupleStep.project t ρs bs)
      fun t' y v => y = .ref r ∧ Around r u v ∧ M.IsTuple K c v t' := by
  rw [write, TupleStep.project, hqs.length_eq, hys.length_eq]
  by_cases hlength : ys.length = qs.length
  · rw [if_pos hlength, if_neg (by simp [hne, hlength])]
    have hpairs : ∀ p ∈ ρs.zip bs, p.1.hashable = true → K p.1 := fun p hp =>
      hρs _ (List.of_mem_zip hp).1
    exact (computes_store hK n hpairs (forall₂_zip hqs hys) (.refl r u) ht).bind_pure
      fun _ _ _ hstore => ⟨rfl, hstore⟩
  · rw [if_neg hlength, if_pos (.inr hlength)]
    exact ⟨_, u, rfl⟩

/-- What a function delivers is written if it is written on data. -/
theorem computes_output {ρs : List Datum} {as : List α} {o : Option (List α)}
    (hF : u.AdaptsTuple F rs f qs) (hρs : ∀ ρ ∈ ρs, ρ.hashable = true → K ρ)
    (hqs : List.Forall₂ (M.key u) ρs qs) (hf : M.Delivers n u f ρs.length as o)
    (hxs : List.Forall₂ (M.stands u) as xs) :
    Computes u (do
      let y ← handOn (.ofDepth (n + 4)) f xs
      (Dispatch.ofDepth (n + 4)).method F "adapt_output" [y, .ref r])
      (do TupleStep.project t ρs (← o))
      fun t' y v => y = .ref r ∧ Around r u v ∧ M.IsTuple K c v t' := by
  have hdeliver := hf.delivers (.refl r u) hxs
  rcases hcall : (handOn (.ofDepth (n + 4)) f xs).result u with ⟨e | y, v⟩
  · -- the function fails
    rw [hdeliver.eq_none (result_bind_error _ hcall)]
    exact ⟨e, v, result_bind_error _ hcall⟩
  · have hg := hf.grows (.refl r u) hxs hcall
    obtain ⟨g, hprojects, houtput⟩ :=
      result_output (hF.later ht (.of_grows hg)) (.ref r) y (n + 2)
    refine .of_result ((result_bind_ok _ hcall).trans houtput) ?_
    by_cases hne : ρs = []
    · subst hne
      cases hqs
      have hnone : (do TupleStep.project t [] (← o)) = none := by cases o <;> rfl
      rw [hnone]
      exact ⟨_, v, result_call_project_nil hprojects y (n + 2)⟩
    · have hunpack : Computes v (unpack (.ofDepth (n + 2)) ρs.length y) o fun bs ys v' =>
          u.Grows v' ∧ List.Forall₂ (M.stands v') bs ys :=
        .of_result (result_bind_ok _ hcall).symm hdeliver
      rw [hqs.length_eq] at hunpack
      have hqs' : qs ≠ [] := by
        rintro rfl
        exact hne (List.forall₂_nil_right_iff.mp hqs)
      refine .of_result (result_call_project hprojects hqs' y (n + 2)) (hunpack.bind ?_)
      rintro bs ys v' - ⟨hg', hys⟩
      have hu' : Around r u v' := .of_grows hg'
      exact (computes_write hK (ht.grows hg') hρs hne (hqs.imp fun _ _ => M.key_later hu') hys g
        (n + 1)).imp fun _ _ _ ⟨hy, hv, ht'⟩ => ⟨hy, hu'.trans hv, ht'⟩

/-- A call does what the step does on data, and changes nothing around the tuple. -/
theorem computes_call (hF : M.Performs K n u t F step) :
    Computes u ((Dispatch.ofDepth (n + 6)).call F [.ref r]) (step.run M.nothing t)
      fun t' y v => y = .ref r ∧ Around r u v ∧ M.IsTuple K c v t' := by
  obtain ⟨rs, f, qs, hadapts, hrs, hqs, hf⟩ := hF.adapts
  have hselect := computes_select hK ht
    (fun σ hσ => hF.within σ (List.mem_append_left _ hσ)) hrs n
  refine .of_result (result_call hadapts rfl n) ?_
  rw [TupleStep.run]
  rcases hselected : TupleStep.select M.nothing t step.selection with _ | as
  · rw [hselected] at hselect
    obtain ⟨e, v, hget⟩ := hselect
    exact ⟨e, v, result_bind_error _ (result_bind_error _ (result_selected_error hget))⟩
  · rw [hselected] at hselect
    obtain ⟨xs, v, hget, rfl, hlength, hxs⟩ := hselect
    refine .of_result (result_bind_congr _ (result_bind_congr _ (result_selected hget hlength))) ?_
    exact computes_output hK ht hadapts
      (fun ρ hρ => hF.within ρ (List.mem_append_right _ hρ)) hqs (hf as hselected) hxs

end

end Fields

end FunctionObjects
