import FunctionObjects.Document.Reading
import FunctionObjects.Proofs.Construction.Partners
import FunctionObjects.Proofs.State.Computing
/-!
# What documents carry

A document carries a datum if reading it, from a state on, gives a value that holds the datum, was made
directly, and adds cells at most.  Lists, dictionaries, names of types and specifications carry what their parts do.
-/

namespace FunctionObjects

open Run World LibraryClass

variable (d : Dispatch) (w : World)

/-- Reading a document gives a value that holds a datum and was made directly. -/
def Carries (doc : Document) (t : Datum) : Prop :=
  Gives w (Reading.value d doc) fun u x => u.Holds t x ∧ u.Direct x

/-- Named documents that carry named data. -/
def CarriesFields (docs : List (String × Document)) (ts : List (String × Datum)) : Prop :=
  List.Forall₂ (fun e t => e.1 = t.1 ∧ Carries d w e.2 t.2) docs ts

namespace Document

/-- A dictionary of named documents. -/
def ofNamed (docs : List (String × Document)) : Document :=
  .dict (docs.map fun e => (.str e.1, e.2))

theorem lookup?_named {α : Type} (es : List (String × α)) (name : String) :
    lookup? (es.map fun e => (Value.str e.1, e.2)) name = es.lookup name := by
  induction es with
  | nil => rfl
  | cons e es ih =>
    obtain ⟨n, a⟩ := e
    by_cases h : name = n
    · subst h
      simp [lookup?, textOf?, Value.str, Atom.text?]
    · simp only [lookup?, List.map_cons, List.find?_cons, textOf?, Value.str, Atom.text?,
        List.lookup_cons, beq_eq_false_iff_ne.mpr h]
      have hne : (some n == some name) = false := by simpa using Ne.symm h
      rw [hne]
      exact ih

end Document

namespace Reading

theorem values_eq_mapM (docs : List Document) : values d docs = docs.mapM (value d) := by
  induction docs with
  | nil => rfl
  | cons doc docs ih => rw [values, ih, List.mapM_cons]

theorem entries_named (docs : List (String × Document)) :
    entries d (docs.map fun e => (Value.str e.1, e.2)) =
      docs.map fun e => (Value.str e.1, e.2, value d e.2) := by
  induction docs with
  | nil => rfl
  | cons e docs ih => simp [entries, ih]

end Reading

variable {d w} {v : World}

/-- What relates members of lists and says something of the second ones. -/
theorem forall₂_and_right {α β : Type} {R : α → β → Prop} {P : β → Prop} {as : List α} {bs : List β}
    (h : List.Forall₂ (fun a b => R a b ∧ P b) as bs) : List.Forall₂ R as bs ∧ ∀ b ∈ bs, P b := by
  induction h with
  | nil => exact ⟨.nil, by simp⟩
  | cons hab _ ih => exact ⟨.cons hab.1 ih.1, List.forall_mem_cons.mpr ⟨hab.2, ih.2⟩⟩

theorem Carries.later {doc : Document} {t : Datum} (h : Carries d w doc t) (hg : w.Grows v) :
    Carries d v doc t := fun u hu => h u (hg.trans hu)

theorem carries_atom (a : Atom) : Carries d w (.leaf (.atom a)) (.atom a) :=
  Gives.pure fun _ _ => ⟨rfl, .atom a⟩

theorem carries_list {docs : List Document} {ts : List Datum}
    (h : List.Forall₂ (Carries d w) docs ts) : Carries d w (.list docs) (.list ts) := by
  rw [Carries, Reading.value, Reading.values_eq_mapM]
  have hall : Gives w (docs.mapM (Reading.value d)) fun u vs =>
      List.Forall₂ (fun t x => u.Holds t x ∧ u.Direct x) ts vs :=
    Gives.mapM (fun hg hx => ⟨hg.holds hx.1, hx.2.later hg⟩) h
  refine hall.bind fun u vs _ hvs => Gives.alloc fun v r hv hr => ?_
  obtain ⟨hholds, hdirect⟩ := forall₂_and_right hvs
  exact ⟨⟨r, vs, rfl, hr, hv.holdsAll (holdsAll_iff.mpr hholds)⟩,
    .list hr fun x hx => (hdirect x hx).later hv⟩

theorem carries_type {name : String} {t : Ty} (h : typeNamed name = .ok t) :
    Carries d w (.ofTypeName name) (.atom (.type t)) := by
  have hload : ∀ u : World, u.loadType (.str name) = .ok t := fun u => h
  have hresult : ∀ u : World, (Reading.value d (.ofTypeName name)).result u =
      (.ok (.atom (.type t)), u) := by
    intro u
    have hvalue : Reading.value d (.ofTypeName name) = (do
        return .type (← Run.lift ((← get).loadType (.str name)))) := rfl
    rw [hvalue]
    simp [result_bind, result_map, hload]
    rfl
  exact Gives.of_result (fun u _ => hresult u) fun _ _ => ⟨rfl, .atom _⟩

theorem CarriesFields.names {docs : List (String × Document)} {ts : List (String × Datum)}
    (h : CarriesFields d w docs ts) : docs.map (·.1) = ts.map (·.1) := by
  induction h with
  | nil => rfl
  | cons he _ ih => simp [he.1, ih]

/-- Documents that are read one after the other under their names. -/
theorem gives_named {docs : List (String × Document)} {ts : List (String × Datum)}
    (h : CarriesFields d w docs ts) :
    Gives w ((docs.map fun e => (e.1, Reading.value d e.2)).mapM fun e => do return (e.1, ← e.2))
      fun u vs => u.HoldsFields ts vs ∧ ∀ e ∈ vs, u.Direct e.2 := by
  have hread : List.Forall₂ (fun (e : String × Run Value) (t : String × Datum) =>
      Gives w (do return (e.1, ← e.2)) fun u (v : String × Value) =>
        (t.1 = v.1 ∧ u.Holds t.2 v.2) ∧ u.Direct v.2)
      (docs.map fun e => (e.1, Reading.value d e.2)) ts := by
    rw [List.forall₂_map_left_iff]
    refine h.imp fun e t he => ?_
    exact he.2.bind fun u x _ hx => .pure fun v hv => ⟨⟨he.1.symm, hv.holds hx.1⟩, hx.2.later hv⟩
  intro u hg
  obtain ⟨vs, v, hres, hv, hvs⟩ :=
    Gives.mapM (fun hg hx => ⟨⟨hx.1.1, hg.holds hx.1.2⟩, hx.2.later hg⟩) hread u hg
  obtain ⟨hholds, hdirect⟩ := forall₂_and_right hvs
  exact ⟨vs, v, hres, hv, holdsFields_iff.mpr hholds, hdirect⟩

/-- A dictionary that names neither a class nor a type carries a dictionary. -/
theorem carries_dict {docs : List (String × Document)} {ts : List (String × Datum)}
    (hclass : classKey ∉ ts.map (·.1)) (htype : ts.map (·.1) ≠ [typeKey])
    (h : CarriesFields d w docs ts) :
    Carries d w (.ofNamed docs) (.dict (ts.map fun t => (.atom (.str t.1), t.2))) := by
  have hnames : docs.map (·.1) = ts.map (·.1) := h.names
  have hlookup : docs.lookup classKey = none := by
    rw [List.lookup_eq_none_iff]
    intro e he
    rw [bne_iff_ne]
    intro heq
    exact hclass (hnames ▸ List.mem_map.mpr ⟨e, he, heq.symm⟩)
  have htypeEntry : Reading.typeEntry?
      (docs.map fun e => (Value.str e.1, e.2, Reading.value d e.2)) = none := by
    match docs, hnames with
    | [], _ => rfl
    | [e], hnames =>
      have hne : e.1 ≠ typeKey := by
        intro heq
        exact htype (by rw [← hnames, List.map_singleton, heq])
      simp [Reading.typeEntry?, Document.textOf?, Value.str, Atom.text?, hne]
    | e :: e' :: docs, _ => rfl
  have hread : List.Forall₂ (fun (e : Value × Document × Run Value) (t : String × Datum) =>
      Gives w (do return (e.1, ← e.2.2)) fun u (v : Value × Value) =>
        v.1 = .str t.1 ∧ u.Holds t.2 v.2)
      (docs.map fun e => (Value.str e.1, e.2, Reading.value d e.2)) ts := by
    rw [List.forall₂_map_left_iff]
    refine h.imp fun e t he => ?_
    exact he.2.bind fun u x _ hx => .pure fun v hv => ⟨congrArg Value.str he.1, hv.holds hx.1⟩
  rw [Carries, Document.ofNamed, Reading.value, Document.lookup?_named, hlookup,
    Reading.entries_named]
  simp only [Option.isSome_none, Bool.false_eq_true, if_false, Reading.plainEntries, htypeEntry]
  refine (Gives.mapM (fun hg hx => ⟨hx.1, hg.holds hx.2⟩) hread).bind fun u vs _ hvs => ?_
  refine Gives.alloc fun v r hv hr => ⟨⟨r, vs, rfl, hr, ?_⟩, .dict hr ?_⟩
  · rw [holdsEntries_iff, List.forall₂_map_left_iff]
    exact hvs.imp fun t x hx => ⟨hx.1, hv.holds hx.2⟩
  · have hkeys : ∀ e ∈ vs, v.Direct e.1 :=
      (forall₂_and_right (hvs.imp fun t x hx => ⟨hx, hx.1 ▸ Direct.atom (.str t.1)⟩)).2
    simpa using hkeys

namespace Spec

/-- The specification that a named class and named properties make up. -/
theorem ofEntries_named {α : Type} (u : World) (doc : α → Document) {name : String} {a : α}
    (ha : doc a = .str name) (hname : name ≠ "") {props : List (String × α)}
    (hprops : classKey ∉ props.map (·.1)) :
    ofEntries u doc ((.str classKey, a) :: props.map fun e => (.str e.1, e.2)) =
      .ok ⟨name, props⟩ := by
  have hkey : nameKey? ((Value.str classKey, a) :: props.map fun e => (Value.str e.1, e.2)) =
      some classKey := by
    simp [nameKey?, Document.lookup?, Document.textOf?, Value.str, Atom.text?, classKey]
  have hfilter : (props.map fun e => (Value.str e.1, e.2)).filter
      (fun e => Document.textOf? e.1 != some classKey) = props.map fun e => (Value.str e.1, e.2) := by
    rw [List.filter_eq_self]
    intro e he
    obtain ⟨p, hp, rfl⟩ := List.mem_map.mp he
    have hne : p.1 ≠ classKey := fun heq => hprops (heq ▸ List.mem_map.mpr ⟨p, hp, rfl⟩)
    simpa [Document.textOf?, Value.str, Atom.text?] using hne
  have hothers : ((Value.str classKey, a) :: props.map fun e => (Value.str e.1, e.2)).filter
      (fun e => (some classKey).isNone || Document.textOf? e.1 != some classKey) =
        props.map fun e => (Value.str e.1, e.2) := by
    simpa [Document.textOf?, Value.str, Atom.text?] using hfilter
  have hproperties : (props.map fun e => (Value.str e.1, e.2)).map (property u) =
      props.map Except.ok := by
    rw [List.map_map]
    rfl
  have hproblems : problems (props.map fun p => (.ok p : Except Detail _)) = [] := by
    simp [problems]
  have hkept : (props.map fun p => (.ok p : Except Detail _)).filterMap Except.toOption = props := by
    rw [List.filterMap_map]
    exact List.filterMap_some
  have hnamed : Spec.name doc ((Value.str classKey, a) :: props.map fun e => (Value.str e.1, e.2)) =
      .ok name := by
    have htext : nonemptyText (doc a) = .ok name := by
      simp [ha, Document.str, nonemptyText, asText?, Value.str, Atom.text?, hname, bind, Except.bind,
        pure, Except.pure]
    have hlookup : Document.lookup?
        ((Value.str classKey, a) :: props.map fun e => (Value.str e.1, e.2)) classKey = some a := by
      simp [Document.lookup?, Document.textOf?, Value.str, Atom.text?]
    simp only [Spec.name, hkey, hlookup, htext]
    rfl
  simp only [ofEntries, hkey, hothers, hproperties, hnamed, hproblems, hkept]
  rfl

end Spec

/-- What a parameter is given if some of them are given by name. -/
def argumentOf (k : LibraryClass) (ts : List (String × Datum)) (name : String) : Datum :=
  match k.params.find? fun p => p.name == name with
  | some p =>
    match ts.lookup name, p.default with
    | some t, _ => t
    | none, some (.atom a) => .atom a
    | none, _ => .none
  | none => .none

theorem lookup_holdsFields {ts : List (String × Datum)} {vs : List (String × Value)}
    (h : w.HoldsFields ts vs) (name : String) :
    (∃ t x, ts.lookup name = some t ∧ vs.lookup name = some x ∧ w.Holds t x) ∨
      (ts.lookup name = none ∧ vs.lookup name = none) := by
  rw [holdsFields_iff] at h
  induction h with
  | nil => exact .inr ⟨rfl, rfl⟩
  | @cons t v ts vs hv _ ih =>
    obtain ⟨n, t⟩ := t
    obtain ⟨m, x⟩ := v
    obtain ⟨rfl, hx⟩ := hv
    by_cases hn : name = n
    · subst hn
      exact .inl ⟨t, x, by simp, by simp, hx⟩
    · simpa only [List.lookup_cons, beq_eq_false_iff_ne.mpr hn] using ih

/-- Arguments by name are bound to what they hold. -/
theorem holds_named {k : LibraryClass} (hk : k ∈ Registry.shipped) {ts : List (String × Datum)}
    {vs : List (String × Value)} (h : w.HoldsFields ts vs) (name : String) :
    w.Holds (argumentOf k ts name)
      (Binding.value ⟨k.params.map fun p => (p, Binding.named vs p), [], []⟩ name) := by
  rw [Binding.value_map, argumentOf]
  cases hfind : k.params.find? fun p => p.name == name with
  | none => rfl
  | some p =>
    have hp := List.mem_of_find?_eq_some hfind
    have hname : p.name = name := by simpa using List.find?_some hfind
    obtain ⟨a, ha, -⟩ := Param.default_of_isPreset (Construction.params_isPreset k hk p hp)
    simp only [Option.map_some, Option.getD_some, Binding.named, hname, ha]
    obtain ⟨t, x, ht, hx, hholds⟩ | ⟨ht, hx⟩ := lookup_holdsFields h name
    · rw [ht, hx]
      exact hholds
    · rw [ht, hx]
      rfl

/-- Arguments by name are bound to what was made directly if all of them were. -/
theorem direct_named {k : LibraryClass} (hk : k ∈ Registry.shipped) {vs : List (String × Value)}
    (h : ∀ e ∈ vs, w.Direct e.2) (name : String) :
    w.Direct (Binding.value ⟨k.params.map fun p => (p, Binding.named vs p), [], []⟩ name) := by
  rw [Binding.value_map]
  cases hfind : k.params.find? fun p => p.name == name with
  | none => exact .atom .none
  | some p =>
    obtain ⟨a, ha, -⟩ := Param.default_of_isPreset
      (Construction.params_isPreset k hk p (List.mem_of_find?_eq_some hfind))
    simp only [Option.map_some, Option.getD_some, Binding.named, ha]
    cases hl : vs.lookup p.name with
    | none => exact .atom a
    | some x => exact h _ (Binding.mem_of_lookup hl)

/-- Core collections and atoms can be gone through. -/
theorem isSteady_of_holds {t : Datum} {x : Value} (h : w.Holds t x)
    (ht : t.items? ≠ none ∨ ∃ a, t = .atom a) : w.isSteady x = true := by
  cases t with
  | atom a => obtain rfl : x = .atom a := h; rfl
  | tuple ts => obtain ⟨vs, rfl, -⟩ := h; rfl
  | frozenset ts => obtain ⟨vs, rfl, -⟩ := h; rfl
  | list ts =>
    obtain ⟨r, vs, rfl, hr, -⟩ := h
    simp [isSteady, isTupleObject, World.cell?, hr]
  | dict es =>
    obtain ⟨r, vs, rfl, hr, -⟩ := h
    simp [isSteady, isTupleObject, World.cell?, hr]
  | set ts =>
    obtain ⟨r, vs, rfl, hr, -⟩ := h
    simp [isSteady, isTupleObject, World.cell?, hr]
  | bytearray bs =>
    obtain ⟨r, rfl, hr⟩ := h
    simp [isSteady, isTupleObject, World.cell?, hr]
  | keys ts =>
    obtain ⟨r, vs, rfl, hr, -⟩ := h
    simp [isSteady, isTupleObject, World.cell?, hr]
  | slots c ts => simp [Datum.items?] at ht
  | fields c es => simp [Datum.items?] at ht
  | object c as => simp [Datum.items?] at ht
  | handle r c s => simp [Datum.items?] at ht

theorem properties_of_offers {k : LibraryClass} (hk : k ∈ Registry.shipped) (ho : w.Offers k) :
    w.properties k.className = k.params := by
  have hnamed : k.params.filter Param.isNamed = k.params := by
    rw [List.filter_eq_self]
    exact fun p hp => Param.isNamed_of_isPreset (Construction.params_isPreset k hk p hp)
  rw [World.properties, ho.constructor]
  cases howner : k.owner? with
  | none =>
    rw [Construction.params_of_no_owner howner]
    rfl
  | some owner => simpa [Constructor.params] using hnamed

/-- Making the object of a specification. -/
theorem gives_ofSpec {k : LibraryClass} (hk : k ∈ Registry.shipped) (hw : w.Stocked)
    {name : String} (hclass : w.registry.classes.lookup name = some k.className)
    {docs : List (String × Document)} {ts as : List (String × Datum)}
    (h : CarriesFields d w docs ts) (hparams : ∀ t ∈ ts, ∃ p ∈ k.params, p.name = t.1)
    (hwalked : ∀ n ∈ k.source.walked, (argumentOf k ts n).items? ≠ none ∨
      ∃ a, argumentOf k ts n = .atom a)
    (has : attributes? w.zones k (argumentOf k ts) = some as) :
    Gives w (Reading.ofSpec d ⟨name, docs.map fun e => (e.1, Reading.value d e.2)⟩)
      fun u x => u.Holds (.object k.className as) x ∧ u.Direct x := by
  refine Gives.get_bind fun u hu => ?_
  have hunknown : Reading.unknown u k.className
      (⟨name, docs.map fun e => (e.1, Reading.value d e.2)⟩ : Spec (Run Value)) = [] := by
    have hknown : ((docs.map fun e => (e.1, Reading.value d e.2)).map (·.1)).filter
        (fun n => !(k.params.map (·.name)).contains n) = [] := by
      rw [List.filter_eq_nil_iff, List.map_map]
      intro n hn
      have hn' : n ∈ ts.map (·.1) := h.names ▸ hn
      obtain ⟨t, ht, rfl⟩ := List.mem_map.mp hn'
      obtain ⟨p, hp, hpname⟩ := hparams t ht
      simpa using ⟨p, hp, hpname⟩
    rw [Reading.unknown, properties_of_offers hk (hu.stocked hw k hk), hknown,
      List.mergeSort_nil]
  have hfound : Run.lift (u.registry.classNamed name) = pure k.className := by
    simp only [Registry.classNamed, hu.registry, hclass]
    rfl
  rw [hfound, pure_bind]
  simp only [hunknown, List.isEmpty_nil, Bool.not_true, Bool.false_eq_true, if_false]
  refine Gives.bind (fun v hv => gives_named h v (hu.trans hv)) fun v vs hv ⟨hvs, hdirect⟩ => ?_
  have hnames : ∀ e ∈ vs, ∃ p ∈ k.params, p.name = e.1 := by
    intro e he
    have hmem : e.1 ∈ ts.map (·.1) := hvs.names ▸ List.mem_map.mpr ⟨e, he, rfl⟩
    obtain ⟨t, ht, hte⟩ := List.mem_map.mp hmem
    obtain ⟨p, hp, hname⟩ := hparams t ht
    exact ⟨p, hp, hname.trans hte⟩
  have hbind := Binding.of_named (Construction.params_isPreset k hk) hnames
  intro v' hv'
  have hgiven : Construction.Given v' k.source
      ⟨k.params.map fun p => (p, Binding.named vs p), [], []⟩ (argumentOf k ts) := by
    refine ⟨by simp [LibraryClass.params, Function.comp_def], fun n => hv'.holds (holds_named hk hvs n), ?_⟩
    exact fun n hn => isSteady_of_holds (hv'.holds (holds_named hk hvs n)) (hwalked n hn)
  have hgrows := (hu.trans hv).trans hv'
  have hstocked := hgrows.stocked hw
  rw [← hgrows.zones] at has
  obtain ⟨as', v'', has', hres, hm⟩ | ⟨hnone, -⟩ :=
    Construction.result_make_of_given d hk (hstocked k hk) hstocked.equipped hbind hgiven
  · rw [has] at has'
    obtain rfl := Option.some.inj has'
    refine ⟨_, v'', hres, hm.grows, Construction.holds_of_making (hstocked k hk) has hm, ?_⟩
    exact Construction.direct_of_make hk (hstocked k hk) hbind hgiven
      (fun n => (direct_named hk hdirect n).later hv') has hres hm
  · rw [has] at hnone
    simp at hnone

/-- A specification carries the object that its class makes of what its properties carry. -/
theorem carries_function {k : LibraryClass} (hk : k ∈ Registry.shipped) (hw : w.Stocked)
    {name : String} (hname : name ≠ "")
    (hclass : w.registry.classes.lookup name = some k.className)
    {docs : List (String × Document)} {ts as : List (String × Datum)}
    (h : CarriesFields d w docs ts) (hparams : ∀ t ∈ ts, ∃ p ∈ k.params, p.name = t.1)
    (hkey : classKey ∉ ts.map (·.1))
    (hwalked : ∀ n ∈ k.source.walked, (argumentOf k ts n).items? ≠ none ∨
      ∃ a, argumentOf k ts n = .atom a)
    (has : attributes? w.zones k (argumentOf k ts) = some as) :
    Carries d w (.ofNamed ((classKey, .str name) :: docs)) (.object k.className as) := by
  have hspec : ∀ u, Spec.ofEntries u Prod.fst ((Value.str classKey, Document.str name,
      Reading.value d (Document.str name)) ::
        docs.map fun e => (Value.str e.1, e.2, Reading.value d e.2)) =
      .ok ⟨name, docs.map fun e => (e.1, e.2, Reading.value d e.2)⟩ := by
    intro u
    have hprops : classKey ∉ (docs.map fun e => (e.1, e.2, Reading.value d e.2)).map (·.1) := by
      rw [List.map_map]
      exact h.names ▸ hkey
    have hnamed := Spec.ofEntries_named u Prod.fst
      (a := (Document.str name, Reading.value d (Document.str name))) rfl hname hprops
    simpa [List.map_map, Function.comp_def] using hnamed
  have hlookup : Document.lookup?
      (((classKey, Document.str name) :: docs).map fun e => (Value.str e.1, e.2)) classKey =
        some (.str name) := by
    rw [Document.lookup?_named]
    simp
  rw [Carries, Document.ofNamed, Reading.value, hlookup, Reading.entries_named]
  simp only [Option.isSome_some, if_true, List.map_cons, Reading.ofEntries]
  refine Gives.get_bind fun u hu => ?_
  simp only [hspec, Spec.map, List.map_map, Function.comp_def]
  exact gives_ofSpec hk (hu.stocked hw) (by rwa [hu.registry])
    (h.imp fun e t he => ⟨he.1, he.2.later hu⟩) hparams hwalked (by rwa [hu.zones])

end FunctionObjects
