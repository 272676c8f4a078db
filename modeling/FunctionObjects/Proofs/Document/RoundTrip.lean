import FunctionObjects.Call.Evaluate
import FunctionObjects.Proofs.State.Initial
import FunctionObjects.Proofs.Document.Writing
/-!
# Written function objects

A function object that is built out of kept data is either refused because of a value without a form,
or written as a document from which an equal object of the same class is read, whatever has been made
in between.
-/

namespace FunctionObjects

open Run World LibraryClass

variable {d : Dispatch} {w : World} {k : LibraryClass} {as : List (String × Datum)} {f : Value}

/-- A document from which an object that is equal to another one and of its class is read, in every
state with more cells. -/
def Restores (d : Dispatch) (w : World) (f : Value) (doc : Document) : Prop :=
  ∀ u, w.Grows u → ∃ g v, (Reading.function d doc).result u = (.ok g, v) ∧ u.Grows v ∧
    v.classOf g = w.classOf f ∧ (Run.same g f).result v = (.ok true, v)

namespace World

theorem classOf_of_holds {c : ClassName} (h : w.Holds (.object c as) f) : w.classOf f = c := by
  obtain ⟨r, o, fields, rfl, hr, -, -⟩ := h
  simp [classOf, hr]

/-- Objects that hold the same are equal if it is equal to itself. -/
theorem result_same_of_holds {c : ClassName} {g : Value} (h : (Datum.object c as).EqualsItself)
    (hg : w.Holds (.object c as) g) (hf : w.Holds (.object c as) f) :
    (Run.same g f).result w = (.ok true, w) := by
  have hsame : (Datum.object c as).same (.object c as) = true := by
    simpa [Datum.EqualsItself, Datum.sameItem, Datum.identical] using h
  rw [result_same, read_of_holds hg, read_of_holds hf, hsame]

end World

/-- What returns a function object restores it. -/
theorem Returns.restores {doc : Document} (h : Returns d w doc (.object k.className as))
    (hdoc : ∃ es, doc = .dict es ∧ (Document.lookup? es classKey).isSome = true)
    (hf : w.Holds (.object k.className as) f) : Restores d w f doc := by
  obtain ⟨es, rfl, hclass⟩ := hdoc
  intro u hu
  obtain ⟨g, v, hres, hv, hg, -⟩ := h.1 u hu
  refine ⟨g, v, ?_, hv, ?_, result_same_of_holds h.2 hg ((hu.trans hv).holds hf)⟩
  · rw [← hres]
    simp only [Reading.function, Reading.value, hclass, if_true]
  · rw [classOf_of_holds hg, classOf_of_holds hf]

namespace Writing

/-- Writing a function object of kept data gives a document that returns it. -/
theorem writes_returning {odd : Datum → Prop} (hw : w.Stocked) (hk : k ∈ Registry.shipped)
    (hodd : ∀ t, odd t → t.IsForeign) (hbuilt : Built d w f)
    (hread : w.read f = .object k.className as) (hkept : Kept odd (w.read f)) :
    w.Holds (.object k.className as) f ∧ Made w (.object k.className as) ∧
      Writes w odd (function f) fun doc => Returns d w doc (.object k.className as) ∧
        ∃ es, doc = .dict es ∧ (Document.lookup? es classKey).isSome = true := by
  obtain ⟨t, hholds, hmade⟩ := hbuilt.holds
  obtain rfl : t = .object k.className as := by rw [← read_of_holds hholds, hread]
  rw [hread] at hkept
  obtain ⟨⟨arg, has⟩, hmades⟩ := hmade.of_function hw hk
  have hproperties := hkept.properties hodd hk
  have hdepth : Datum.depthFields as ≤ w.heap.size + 1 :=
    Nat.le_succ_of_le (Nat.le_of_succ_le hholds.depth_le_size)
  have hcells : WritesProperties d w odd (Writing.cell (w.heap.size + 1)) k as :=
    writes_properties hw hk has hmades hdepth fun p hp t ht hrec v hv =>
      writes_value hw hodd (hproperties.kept p hp t ht hrec) hv
  exact ⟨hholds, hmade, .bind_result (result_get w)
    (writes_functionWith hw hk hholds has hproperties hodd hcells)⟩

/-- Writing a function object of kept data. -/
theorem writes_function {odd : Datum → Prop} (hw : w.Stocked) (hk : k ∈ Registry.shipped)
    (hodd : ∀ t, odd t → t.IsForeign) (hbuilt : Built d w f)
    (hread : w.read f = .object k.className as) (hkept : Kept odd (w.read f)) :
    Writes w odd (function f) (Restores d w f) := by
  obtain ⟨hholds, -, hwritten⟩ := writes_returning hw hk hodd hbuilt hread hkept
  exact hwritten.imp fun doc ⟨hdoc, hdict⟩ => hdoc.restores hdict hholds

/-! ## Objects with one property at most -/

/-- Without parameters, only the name of the class is written. -/
theorem result_function_of_no_params {name : String} (hk : k ∈ Registry.shipped) (ho : w.Offers k)
    (hparams : k.params = []) (hname : w.registry.names.lookup k.className = some name)
    (hf : w.Holds (.object k.className as) f) :
    (function f).result w = (.ok (.ofNamed [(classKey, .str name)]), w) := by
  have hnameOf : Run.lift (w.registry.nameOf k.className) = pure name := by
    simp only [Registry.nameOf, hname]
    rfl
  simp only [function, functionWith, result_bind, result_get, classOf_of_holds hf, hnameOf,
    properties_of_offers hk ho, hparams, parameters, List.foldlM_nil, result_pure]
  rfl

/-- A property that is not at its default is written under its name. -/
theorem result_function_of_param {name : String} {p : Param} {t : Datum} {doc : Document}
    (hk : k ∈ Registry.shipped) (ho : w.Offers k) (hparams : k.params = [p])
    (hname : w.registry.names.lookup k.className = some name)
    (hf : w.Holds (.object k.className as) f) (ht : k.property? as p.name = some t)
    (hkept : ∀ x, w.Holds t x → (x.isNone || p.default.any (isDefault w x)) = false)
    (hwritten : ∀ x, w.Holds t x → (value (cell (w.heap.size + 1)) x).result w = (.ok doc, w)) :
    (function f).result w = (.ok (.ofNamed [(classKey, .str name), (p.name, doc)]), w) := by
  have hp : p ∈ k.params := by simp [hparams]
  have hnameOf : Run.lift (w.registry.nameOf k.className) = pure name := by
    simp only [Registry.nameOf, hname]
    rfl
  obtain ⟨x, hattribute, hx⟩ := result_attribute? hk ho hf hp ht
  have hnew : p.name ∉ [(classKey, Document.str name)].map (·.1) := by
    simpa using (params_properties k hk p hp).2.1
  have hput := Document.put_of_new doc hnew
  simp only [function, functionWith, result_bind, result_get, classOf_of_holds hf, hnameOf,
    properties_of_offers hk ho, hparams, parameters, List.foldlM_cons, List.foldlM_nil, result_pure,
    hattribute, hkept x hx, Bool.false_eq_true, if_false, hwritten x hx]
  rw [Document.ofNamed]
  exact congrArg (fun es => (Except.ok (Document.dict es), w)) hput

/-- An object with one property, which is nothing unless it is given, is kept if that is. -/
theorem kept_of_param {odd : Datum → Prop} {p : Param} {t : Datum} (hk : k ∈ Registry.shipped)
    (hparams : k.params = [p]) (hdefault : p.default = some .none)
    (ht : k.property? as p.name = some t) (hne : t ≠ .list [] ∧ t ≠ .dict []) (h : Kept odd t) :
    Kept odd (.object k.className as) := by
  have hproperty : ∀ q ∈ k.params, q = p ∧ k.property? as q.name = some t := by
    intro q hq
    obtain rfl : q = p := by simpa [hparams] using hq
    exact ⟨rfl, ht⟩
  refine .function hk ?_ ?_ ?_ ?_
  · intro q hq _
    rw [(hproperty q hq).1, hdefault]
  · intro q hq hlist
    rw [(hproperty q hq).2] at hlist
    exact absurd (Option.some.inj hlist) hne.1
  · intro q hq hdict
    rw [(hproperty q hq).2] at hdict
    exact absurd (Option.some.inj hdict) hne.2
  · intro q hq u hu _
    rw [(hproperty q hq).2] at hu
    exact Option.some.inj hu ▸ h

/-! ## Comparisons -/

theorem params_isEqual : isEqual.params = [.optional "value"] := rfl

/-- Making a comparison. -/
theorem make_isEqual (d : Dispatch) (hw : w.Stocked) {t : Datum} {x : Value} (hx : w.Holds t x) :
    ∃ f v, (Construction.make d isEqual.className ⟨[x], []⟩).result w = (.ok f, v) ∧ w.Grows v ∧
      v.Holds (.object isEqual.className [("value", t)]) f := by
  have hk : isEqual ∈ Registry.shipped := by decide
  have hgiven : Construction.Given w isEqual.source ⟨[(.optional "value", x)], [], []⟩
      fun name => if name = "value" then t else .none := by
    refine ⟨rfl, fun name => ?_, by simp [source, owner?, walked, listed]⟩
    by_cases hname : name = "value"
    · subst hname
      exact hx
    · have hne : ("value" == name) = false := beq_eq_false_iff_ne.mpr (Ne.symm hname)
      simp only [hname, if_false, Binding.value, Param.optional, List.find?_cons, hne]
      rfl
  have hbind : Binding.of isEqual.params ⟨[x], []⟩ = .ok ⟨[(.optional "value", x)], [], []⟩ := rfl
  obtain ⟨as, v, has, hres, hm⟩ | ⟨hnone, -⟩ :=
    Construction.result_make_of_given d hk (hw _ hk) hw.equipped hbind hgiven
  · obtain rfl : [("value", t)] = as := Option.some.inj has
    exact ⟨_, v, hres, hm.grows, Construction.holds_of_making (hw _ hk) has hm⟩
  · simp [attributes?, source, owner?, attributesOf?, parameters?, Param.optional] at hnone

/-- A comparison is written with what its value is written as.  What is read compares with what that
carries. -/
theorem result_comparison {t u : Datum} {doc : Document} (hw : w.Stocked)
    (hf : w.Holds (.object isEqual.className [("value", t)]) f)
    (hkept : ∀ x, w.Holds t x → (x.isNone || isDefault w x .none) = false)
    (hwritten : ∀ x, w.Holds t x →
      (value (cell (w.heap.size + 1)) x).result w = (.ok doc, w))
    (hdoc : Carries d w doc u) :
    ∃ written g v, (function f).result w = (.ok written, w) ∧
      (Reading.function d written).result w = (.ok g, v) ∧
      (Run.same g f).result v = (.ok (u.sameItem t), v) := by
  have hk : isEqual ∈ Registry.shipped := by decide
  have ho := hw _ hk
  obtain ⟨name, hname, hnames, hclasses⟩ := ho.registered
  have hresult := result_function_of_param hk ho params_isEqual hnames hf (t := t) rfl hkept hwritten
  have hread : Carries d w (.ofNamed ((classKey, .str name) :: [("value", doc)]))
      (.object isEqual.className [("value", u)]) := by
    have hfields : CarriesFields d w [("value", doc)] [("value", u)] := .cons ⟨rfl, hdoc⟩ .nil
    refine carries_function hk hw hname hclasses hfields ?_ (by simp [classKey]) ?_ rfl
    · simp [params_isEqual, Param.optional]
    · simp [source, owner?, walked, listed]
  obtain ⟨g, v, hres, hv, hg, -⟩ := hread w (.refl w)
  refine ⟨_, g, v, hresult, ?_, ?_⟩
  · rw [← hres]
    rfl
  · rw [result_same, read_of_holds hg, read_of_holds (hv.holds hf)]
    simp [Datum.same, Datum.attributesIn, Datum.sameItem]

/-- A comparison with a kept value is kept. -/
theorem kept_isEqual {odd : Datum → Prop} {t : Datum} (hne : t ≠ .list [] ∧ t ≠ .dict [])
    (h : Kept odd t) : Kept odd (.object isEqual.className [("value", t)]) :=
  kept_of_param (by decide) params_isEqual rfl rfl hne h

/-- A comparison with something built is built. -/
theorem built_isEqual {x f : Value} {v : World} (hw : w.Stocked) (hx : Built d w x)
    (hmake : (Construction.make d isEqual.className ⟨[x], []⟩).result w = (.ok f, v)) : Built d v f := by
  refine .call hw (by decide) ?_ (by simp) ?_ hmake
  · simpa using hx
  · simp [source, owner?, walked, listed]

/-- A function object of kept data and of data without a form is refused or restored. -/
theorem function_refused_or_restored (hw : w.Stocked) (hk : k ∈ Registry.shipped) (hbuilt : Built d w f)
    (hread : w.read f = .object k.className as) (hkept : Kept Datum.IsForeign (w.read f)) :
    (∃ e, (function f).result w = (.error e, w) ∧ e.kind = .serde) ∨
      ∃ doc, (function f).result w = (.ok doc, w) ∧ Restores d w f doc := by
  obtain ⟨c, t, hres, -⟩ | hwritten := writes_function hw hk (fun _ h => h) hbuilt hread hkept
  · exact .inl ⟨_, hres, rfl⟩
  · exact .inr hwritten

/-- A comparison with a function of the core is refused or restored. -/
theorem builtin_refused_or_restored : ∃ f w,
    (Construction.make .standard isEqual.className ⟨[.atom (.builtin .len)], []⟩).result initial =
      (.ok f, w) ∧
    ((∃ e, (function f).result w = (.error e, w) ∧ e.kind = .serde) ∨
      ∃ doc, (function f).result w = (.ok doc, w) ∧ Restores .standard w f doc) := by
  have hk : isEqual ∈ Registry.shipped := by decide
  obtain ⟨f, w, hmake, hgrows, hf⟩ :=
    make_isEqual (t := .atom (.builtin .len)) .standard initial_stocked rfl
  have hbuilt : Built .standard w f := built_isEqual initial_stocked (.atom (.builtin .len)) hmake
  have hread := read_of_holds hf
  exact ⟨f, w, hmake, function_refused_or_restored (hgrows.stocked initial_stocked) hk hbuilt hread
    (hread ▸ kept_isEqual (by simp) (.odd rfl))⟩

/-- A comparison with a tuple is read as one with a list. -/
theorem tuple_not_restored : ∃ f w doc g v,
    (Construction.make .standard isEqual.className ⟨[.tuple [.int 1, .int 2]], []⟩).result initial =
      (.ok f, w) ∧
    (function f).result w = (.ok doc, w) ∧
    (Reading.function .standard doc).result w = (.ok g, v) ∧
    (Run.same g f).result v = (.ok false, v) := by
  obtain ⟨f, w, hmake, hgrows, hf⟩ := make_isEqual (x := .tuple [.int 1, .int 2])
    (t := .tuple [.atom (.int 1), .atom (.int 2)]) .standard initial_stocked
    ⟨_, rfl, rfl, rfl, trivial⟩
  have hvalue : ∀ x, w.Holds (.tuple [.atom (.int 1), .atom (.int 2)]) x →
      x = .tuple [.int 1, .int 2] := by
    rintro x ⟨vs, rfl, hvs⟩
    match vs, hvs with
    | [_, _], ⟨rfl, rfl, _⟩ => rfl
  have hkept : ∀ x, w.Holds (.tuple [.atom (.int 1), .atom (.int 2)]) x →
      (x.isNone || isDefault w x .none) = false := by
    intro x hx
    rw [hvalue x hx]
    rfl
  have hwritten : ∀ x, w.Holds (.tuple [.atom (.int 1), .atom (.int 2)]) x →
      (value (cell (w.heap.size + 1)) x).result w =
        (.ok (.list [.leaf (.int 1), .leaf (.int 2)]), w) := by
    intro x hx
    rw [hvalue x hx]
    rfl
  obtain ⟨doc, g, v, hdoc, hg, hsame⟩ := result_comparison (d := .standard)
    (hgrows.stocked initial_stocked) hf hkept hwritten
    (carries_list (.cons (carries_atom _) (.cons (carries_atom _) .nil)))
  exact ⟨f, w, doc, g, v, hmake, hdoc, hg, hsame⟩

/-- A function object of kept data alone is written as what is read, from then on, as one that holds the
same and was made directly. -/
theorem exists_document_of_kept (hw : w.Stocked) (hk : k ∈ Registry.shipped) (hbuilt : Built d w f)
    (hread : w.read f = .object k.className as) (hkept : Kept (fun _ => False) (w.read f)) :
    ∃ doc, (function f).result w = (.ok doc, w) ∧ (w.read f).EqualsItself ∧
      Gives w (Reading.function d doc) fun u g => u.Holds (w.read f) g ∧ u.Direct g := by
  obtain ⟨-, -, hwritten⟩ := writes_returning hw hk (fun _ h => h.elim) hbuilt hread hkept
  obtain ⟨_, _, -, hodd⟩ | ⟨doc, hdoc, ⟨hcarries, hself⟩, es, rfl, hclass⟩ := hwritten
  · exact hodd.elim
  · rw [hread]
    refine ⟨_, hdoc, hself, fun u hu => ?_⟩
    obtain ⟨g, v, hres, hv, hg, hdirect⟩ := hcarries u hu
    refine ⟨g, v, ?_, hv, hg, hdirect⟩
    rw [← hres]
    simp only [Reading.function, Reading.value, hclass, if_true]

/-- A function object of kept data alone is written and restored. -/
theorem function_restored (hw : w.Stocked) (hk : k ∈ Registry.shipped) (hbuilt : Built d w f)
    (hread : w.read f = .object k.className as) (hkept : Kept (fun _ => False) (w.read f)) :
    ∃ doc, (function f).result w = (.ok doc, w) ∧ Restores d w f doc := by
  obtain ⟨c, t, -, hodd⟩ | hwritten :=
    writes_function hw hk (fun _ h => h.elim) hbuilt hread hkept
  · exact hodd.elim
  · exact hwritten

/-- A comparison with a list of a comparison with a number and of a text is restored. -/
theorem number_restored : ∃ inner v f w doc,
    (Construction.make .standard isEqual.className ⟨[.int 5], []⟩).result initial = (.ok inner, v) ∧
    (Construction.make .standard isEqual.className ⟨[.ref v.heap.size], []⟩).result
      { v with heap := v.heap.push (.list [inner, .str "a"]) } = (.ok f, w) ∧
    (function f).result w = (.ok doc, w) ∧ Restores .standard w f doc := by
  have hk : isEqual ∈ Registry.shipped := by decide
  obtain ⟨inner, v, hinner, hv, hholds⟩ :=
    make_isEqual (t := .atom (.int 5)) .standard initial_stocked rfl
  have hu : v.Grows { v with heap := v.heap.push (.list [inner, .str "a"]) } := .push v _
  have hstocked := hv.stocked initial_stocked
  generalize hlist : ({ v with heap := v.heap.push (.list [inner, .str "a"]) } : World) = u at hu
  have hcell : u.heap[v.heap.size]? = some (.list [inner, .str "a"]) := by simp [← hlist]
  have hitems : u.Holds (.list [.object isEqual.className [("value", .atom (.int 5))], .atom (.str "a")])
      (.ref v.heap.size) := ⟨_, _, rfl, hcell, hu.holds hholds, rfl, trivial⟩
  obtain ⟨f, w, hmake, hw, hf⟩ := make_isEqual .standard (hu.stocked hstocked) hitems
  have hbuilt : Built .standard w f := by
    refine built_isEqual (hu.stocked hstocked) (.cell hcell ?_ ?_) hmake
    · have hregistry : u.registry = .initial := by
        rw [hu.registry, hv.registry, initial, starting]
      simp only [World.classOf, hcell, hregistry]
      decide +kernel
    · simp only [parts, List.forall_mem_cons]
      exact ⟨(built_isEqual initial_stocked (.atom _) hinner).later hu, .atom _, List.forall_mem_nil _⟩
  have hkept : Kept (fun _ => False)
      (.list [.object isEqual.className [("value", .atom (.int 5))], .atom (.str "a")]) := by
    refine .list ?_
    simp only [List.forall_mem_cons]
    exact ⟨kept_isEqual (by simp) (.atom rfl), .atom rfl, List.forall_mem_nil _⟩
  have hread := read_of_holds hf
  obtain ⟨doc, hwritten, hrestores⟩ := function_restored (hw.stocked (hu.stocked hstocked)) hk hbuilt hread
    (hread ▸ kept_isEqual (by simp) hkept)
  subst hlist
  exact ⟨inner, v, f, w, doc, hinner, hmake, hwritten, hrestores⟩

/-- A comparison with an expression is read as one with the text of the expression. -/
theorem pattern_not_restored : ∃ f w doc g v, Pattern.IsPlain ⟨"a", false, 32⟩ ∧
    (Construction.make .standard isEqual.className ⟨[.atom (.pattern ⟨"a", false, 32⟩)], []⟩).result
      initial = (.ok f, w) ∧
    (function f).result w = (.ok doc, w) ∧
    (Reading.function .standard doc).result w = (.ok g, v) ∧
    (Run.same g f).result v = (.ok false, v) := by
  obtain ⟨f, w, hmake, hgrows, hf⟩ := make_isEqual (t := .atom (.pattern ⟨"a", false, 32⟩))
    .standard initial_stocked rfl
  have hkept : ∀ x, w.Holds (.atom (.pattern ⟨"a", false, 32⟩)) x →
      (x.isNone || isDefault w x .none) = false := by
    rintro x rfl
    rfl
  have hwritten : ∀ x, w.Holds (.atom (.pattern ⟨"a", false, 32⟩)) x →
      (value (cell (w.heap.size + 1)) x).result w = (.ok (.leaf (.atom (.str "a"))), w) := by
    rintro x rfl
    exact result_pattern _ _ w
  obtain ⟨doc, g, v, hdoc, hg, hsame⟩ := result_comparison (d := .standard)
    (hgrows.stocked initial_stocked) hf hkept hwritten (carries_atom _)
  exact ⟨f, w, doc, g, v, rfl, hmake, hdoc, hg, hsame⟩

end Writing

end FunctionObjects
