import FunctionObjects.Proofs.Construction.Making
/-!
# Setting up new objects

Each constructor leaves exactly the attributes that its parameters call for, or fails where these are
refused.  Constructors of one shape share one lemma.
-/

namespace FunctionObjects

open Run World LibraryClass

variable {w v : World} {r : Ref} {c : ClassName} {as : List (String × Datum)} {t : Datum} {x : Value}

/-- An operation completes the object in cell `r` with these attributes, or fails if there are none. -/
def Makes (w : World) (r : Ref) (c : ClassName) (m : Run Unit) (v : World)
    (out : Option (List (String × Datum))) : Prop :=
  (∃ as v', out = some as ∧ m.result v = (.ok (), v') ∧ Making w r c as v') ∨
    (out = none ∧ ∃ e v', m.result v = (.error e, v'))

namespace Makes

variable {m : Run Unit} {out : Option (List (String × Datum))}

theorem fail {e : Fault} {v' : World} (h : m.result v = (.error e, v')) : Makes w r c m v none :=
  .inr ⟨rfl, e, v', h⟩

theorem fail_bind {α : Type} {n : Run α} {f : α → Run Unit} {e : Fault} {v' : World}
    (h : n.result v = (.error e, v')) : Makes w r c (n >>= f) v none :=
  fail (result_bind_error f h)

/-- A first step that succeeds. -/
theorem bind {α : Type} {n : Run α} {f : α → Run Unit} {a : α} {v' : World}
    (h : n.result v = (.ok a, v')) (hrest : Makes w r c (f a) v' out) :
    Makes w r c (n >>= f) v out := by
  rw [Makes, result_bind_ok f h]
  exact hrest

/-- Setting the last attribute. -/
theorem setField (h : Making w r c as v) (name : String) (hn : name ∉ as.map (·.1))
    (hx : Ready w r v t x) :
    Makes w r c (Run.setField (.ref r) name x) v (some (as ++ [(name, t)])) := by
  obtain ⟨v', hres, hm, -⟩ := h.setField name hn hx
  exact .inl ⟨_, v', rfl, hres, hm⟩

/-- Setting an attribute with more to come. -/
theorem setField_bind (h : Making w r c as v) (name : String) (hn : name ∉ as.map (·.1))
    (hx : Ready w r v t x)
    (hrest : ∀ v', Making w r c (as ++ [(name, t)]) v' → Beside r v v' → Makes w r c m v' out) :
    Makes w r c (do Run.setField (.ref r) name x; m) v out := by
  obtain ⟨v', hres, hm, hb⟩ := h.setField name hn hx
  exact bind hres (hrest v' hm hb)

end Makes

namespace World.Making

variable (d : Dispatch)

/-- A new list for an attribute. -/
theorem listOf (h : Making w r c as v) (hx : w.Holds t x) (hs : w.isSteady x = true) :
    (∃ l y v', t.listed? = some l ∧ (d.listOf x).result v = (.ok y, v') ∧ Making w r c as v' ∧
      Beside r v v' ∧ Ready w r v' l y) ∨
    (t.listed? = none ∧ ∃ e, (d.listOf x).result v = (.error e, v)) := by
  have htruth := d.result_truth h.grows hx hs
  have hnew : ∀ ts xs, w.HoldsAll ts xs →
      let v' := { v with heap := v.heap.push (.list xs) }
      Making w r c as v' ∧ Beside r v v' ∧ Ready w r v' (.list ts) (.ref v.heap.size) := by
    intro ts xs hxs
    obtain ⟨hm, hb, hne⟩ := h.alloc (.list xs)
    exact ⟨hm, hb, Ready.list hne (by simp) hxs⟩
  cases hb : t.truth with
  | false =>
    refine .inl ⟨_, _, _, ?_, ?_, hnew [] [] trivial⟩
    · simp [Datum.listed?, hb]
    · simp [Dispatch.listOf, result_bind, htruth, hb]
  | true =>
    obtain ⟨ts, xs, ht, hitems, hxs⟩ | ⟨ht, hitems⟩ := d.result_items h.grows hx hs
    · refine .inl ⟨_, _, _, ?_, ?_, hnew ts xs hxs⟩
      · simp [Datum.listed?, hb, ht]
      · simp [Dispatch.listOf, result_bind, htruth, hb, hitems]
    · refine .inr ⟨by simp [Datum.listed?, hb, ht], .wrongType, ?_⟩
      simp [Dispatch.listOf, result_bind, htruth, hb, hitems]

/-- A new adapter for an attribute, with the list of its references. -/
theorem adapter (h : Making w r c as v) (hx : w.Holds t x) (hs : w.isSteady x = true)
    (k : LibraryClass) (name : String) (hname : name.startsWith "__" = false)
    (hk : w.isStructural k.className = true) :
    let m : Run Value := do Run.alloc (.object k.className none [(name, ← d.listOf x)])
    (∃ l y v', t.listed? = some l ∧ m.result v = (.ok y, v') ∧ Making w r c as v' ∧
      Beside r v v' ∧ Ready w r v' (k.adapter name l) y) ∨
    (t.listed? = none ∧ ∃ e, m.result v = (.error e, v)) := by
  intro m
  obtain ⟨l, y, v', hl, hres, hm, hb, hy⟩ | ⟨hl, e, hres⟩ := h.listOf d hx hs
  · obtain ⟨hm', hb', hne⟩ := hm.alloc (.object k.className none [(name, y)])
    refine .inl ⟨l, .ref v'.heap.size, _, hl, by simp [m, result_bind, hres], hm', hb.trans hb',
      ⟨?_⟩⟩
    intro u hg hu
    refine ⟨_, none, [(name, y)], rfl, hu.cell hne (by simp), ?_, ?_⟩
    · rw [hg.isStructural]
      exact hk
    · have hy' := (hy.later hb').holds hg hu
      simpa [visible, hname, HoldsFields] using hy'
  · exact .inr ⟨hl, e, by simp [m, result_bind, hres]⟩

/-- The slots of an adapted output. -/
theorem setOutput (h : Making w r c as v) {tp tf : Datum} {o f : Value}
    (hadapter : "output_adapter" ∉ as.map (·.1)) (hfold : "output_fold" ∉ as.map (·.1))
    (ho : Ready w r v tp o) (hf : Ready w r v tf f) :
    (∃ slots v', outputs? tp tf = some slots ∧
      (Adapted.setOutput (.ref r) o f).result v = (.ok (), v') ∧ Making w r c (as ++ slots) v') ∨
    (outputs? tp tf = none ∧ ∃ e v', (Adapted.setOutput (.ref r) o f).result v = (.error e, v')) := by
  have hoNone := (ho.holds h.grows (.refl r v)).isNone_eq
  have hfNone := (hf.holds h.grows (.refl r v)).isNone_eq
  cases hclash : !tp.isNone && !tf.isNone with
  | true =>
    refine .inr ⟨by simp [outputs?, hclash], .bothSlots (v.classOf (.ref r)).name, v, ?_⟩
    simp [Adapted.setOutput, Adapted.checkSlots, result_bind, hoNone, hfNone, hclash, typeName]
  | false =>
    obtain ⟨v₁, hres₁, hm₁, hb₁⟩ := h.setField "output_adapter" hadapter ho
    obtain ⟨v₂, hres₂, hm₂, -⟩ :=
      hm₁.setField "output_fold" (by simpa using hfold) (hf.later hb₁)
    refine .inl ⟨[("output_adapter", tp), ("output_fold", tf)], v₂, by simp [outputs?, hclash], ?_,
      by simpa using hm₂⟩
    simp [Adapted.setOutput, Adapted.checkSlots, result_bind, hoNone, hfNone, hclash, hres₁, hres₂]

/-- The slots of an adapted object. -/
theorem setSlots (h : Making w r c [] v) {ti tp tf : Datum} {i o f : Value}
    (hi : Ready w r v ti i) (ho : Ready w r v tp o) (hf : Ready w r v tf f) :
    (∃ as v', adapted? ti tp tf = some as ∧
      (Adapted.setSlots (.ref r) i o f).result v = (.ok (), v') ∧ Making w r c as v') ∨
    (adapted? ti tp tf = none ∧ ∃ e v', (Adapted.setSlots (.ref r) i o f).result v = (.error e, v'))
    := by
  obtain ⟨v₁, hres₁, hm₁, hb₁⟩ := h.setField "input_adapter" (by simp) hi
  have hseq : (Adapted.setSlots (.ref r) i o f).result v =
      (Adapted.setOutput (.ref r) o f).result v₁ := result_bind_ok _ hres₁
  rw [hseq]
  obtain ⟨slots, v₂, hslots, hres₂, hm₂⟩ | ⟨hslots, e, v₂, hres₂⟩ :=
    hm₁.setOutput (by simp) (by simp) (ho.later hb₁) (hf.later hb₁)
  · exact .inl ⟨_, v₂, by rw [adapted?, hslots]; rfl, hres₂, hm₂⟩
  · exact .inr ⟨by rw [adapted?, hslots]; rfl, e, v₂, hres₂⟩

end World.Making

namespace Construction

variable (d : Dispatch) {b : Binding} {arg : String → Datum}

/-- Constructors that store a new list and nothing else. -/
theorem makes_listed (h : Making w r c [] v) (name : String) (hx : w.Holds t x)
    (hs : w.isSteady x = true) :
    Makes w r c (do Run.setField (.ref r) name (← d.listOf x)) v
      (do return [(name, ← t.listed?)]) := by
  obtain ⟨l, y, v', hl, hres, hm, -, hy⟩ | ⟨hl, e, hres⟩ := h.listOf d hx hs
  · rw [hl]
    exact .bind hres (.setField hm name (by simp) hy)
  · rw [hl]
    exact .fail_bind hres

/-- Constructors that store every parameter. -/
theorem makes_stored (h : Making w r c as v) (ps : List (Param × Value))
    (hnew : ∀ e ∈ ps, e.1.name ∉ as.map (·.1)) (hnodup : (ps.map (·.1.name)).Nodup)
    (harg : ∀ e ∈ ps, w.Holds (arg e.1.name) e.2) :
    Makes w r c (ps.forM fun (p, x) =>
        if [].contains p.name then pure () else Run.setField (.ref r) p.name x) v
      (some (as ++ ps.map fun e => (e.1.name, arg e.1.name))) := by
  induction ps generalizing as v with
  | nil => exact .inl ⟨as, v, by simp, rfl, h⟩
  | cons e ps ih =>
    rw [List.map_cons, List.nodup_cons] at hnodup
    have hready : Ready w r v (arg e.1.name) e.2 := .of_holds (harg e (by simp))
    change Makes w r c (do
      Run.setField (.ref r) e.1.name e.2
      ps.forM _) v _
    refine .setField_bind h e.1.name (hnew e (by simp)) hready ?_
    intro v' hm _
    have hrest := ih hm ?_ hnodup.2 fun e' he' => harg e' (by simp [he'])
    · simpa using hrest
    · intro e' he'
      rw [List.map_append, List.mem_append, not_or]
      refine ⟨hnew e' (by simp [he']), ?_⟩
      simp only [List.map_cons, List.map_nil, List.mem_singleton]
      intro heq
      exact hnodup.1 (List.mem_map.mpr ⟨e', he', heq⟩)

theorem names_of_adapted {ti tp tf : Datum} (h : adapted? ti tp tf = some as) :
    as.map (·.1) = ["input_adapter", "output_adapter", "output_fold"] := by
  simp only [adapted?, outputs?] at h
  split at h
  · simp at h
  · obtain rfl := Option.some.inj h
    rfl

/-- Constructors that store the slots of an adapted object and one function. -/
theorem makes_adapted (h : Making w r c [] v) {ti tp tf : Datum} {i o f : Value} (name : String)
    (hi : Ready w r v ti i) (ho : Ready w r v tp o) (hf : Ready w r v tf f) (hx : w.Holds t x)
    (hname : name ∉ ["input_adapter", "output_adapter", "output_fold"]) :
    Makes w r c (do Adapted.setSlots (.ref r) i o f; Run.setField (.ref r) name x) v
      (do return (← adapted? ti tp tf) ++ [(name, t)]) := by
  obtain ⟨as, v', has, hres, hm⟩ | ⟨has, e, v', hres⟩ := h.setSlots hi ho hf
  · rw [has]
    refine .bind hres (.setField hm name ?_ (.of_holds hx))
    rwa [names_of_adapted has]
  · rw [has]
    exact .fail_bind hres

/-- What a constructor is given: parameters that hold data, and that can be gone through where the
constructor does so. -/
structure Given (w : World) (owner : LibraryClass) (b : Binding) (arg : String → Datum) : Prop where
  params : b.values.map (·.1) = owner.parameters?.getD []
  holds : ∀ name, w.Holds (arg name) (b.value name)
  steady : ∀ name ∈ owner.walked, w.isSteady (b.value name) = true

theorem Given.value_eq {owner : LibraryClass} (hb : Given w owner b arg)
    (hnodup : ((owner.parameters?.getD []).map Param.name).Nodup) {e : Param × Value}
    (he : e ∈ b.values) : b.value e.1.name = e.2 := by
  have hnames : (b.values.map (·.1.name)).Nodup := by
    rw [← hb.params, List.map_map] at hnodup
    exact hnodup
  rw [Binding.value]
  generalize b.values = es at he hnames
  induction es with
  | nil => simp at he
  | cons e' es ih =>
    rw [List.map_cons, List.nodup_cons] at hnames
    rcases List.mem_cons.mp he with rfl | he
    · simp
    · have hne : e'.1.name ≠ e.1.name := by
        intro heq
        exact hnames.1 (heq ▸ List.mem_map.mpr ⟨e, he, rfl⟩)
      simpa [hne] using ih he hnames.2

/-- Constructors that store every parameter under its own name. -/
theorem makes_parameters {owner : LibraryClass} (h : Making w r c [] v) (hb : Given w owner b arg)
    (hset : setUp d owner (.ref r) b = storeAll (.ref r) b [])
    (hnodup : ((owner.parameters?.getD []).map Param.name).Nodup) :
    Makes w r c (setUp d owner (.ref r) b) v
      (some ((owner.parameters?.getD []).map fun p => (p.name, arg p.name))) := by
  have hholds : ∀ e ∈ b.values, w.Holds (arg e.1.name) e.2 := fun e he =>
    hb.value_eq hnodup he ▸ hb.holds e.1.name
  rw [hset, ← hb.params, List.map_map]
  rw [← hb.params, List.map_map] at hnodup
  exact makes_stored h b.values (by simp) hnodup hholds

/-- The parts of the library that constructors rely on. -/
structure Equipped (w : World) : Prop where
  input : w.isStructural LibraryClass.tupleInputAdapter.className = true
  output : w.isStructural LibraryClass.tupleOutputAdapter.className = true

theorem makes_tupleAdaptedFunction (h : Making w r c [] v) (he : Equipped w)
    (hb : Given w .tupleAdaptedFunction b arg) :
    Makes w r c (setUp d .tupleAdaptedFunction (.ref r) b) v
      (attributesOf? w.zones .tupleAdaptedFunction arg) := by
  obtain ⟨l, y, v₁, hl, hres, hm, -, hy⟩ | ⟨hl, e, hres⟩ :=
    h.adapter d (hb.holds "selection") (hb.steady _ (by decide)) .tupleInputAdapter "selection"
      (by simp) he.input
  · obtain ⟨l', y', v₂, hl', hres', hm', hb', hy'⟩ | ⟨hl', e, hres'⟩ :=
      hm.adapter d (hb.holds "projection") (hb.steady _ (by decide)) .tupleOutputAdapter "projection"
        (by simp) he.output
    · have hadapted := makes_adapted hm' "function" (hy.later hb') (.of_holds (t := .none) rfl) hy'
        (hb.holds "function") (by decide)
      simp only [attributesOf?, hl, hl']
      exact .bind hres (.bind hres' hadapted)
    · simp only [attributesOf?, hl, hl']
      exact .bind hres (.fail_bind hres')
  · simp only [attributesOf?, hl]
    exact .fail_bind hres

theorem makes_tupleAdaptedPredicate (h : Making w r c [] v) (he : Equipped w)
    (hb : Given w .tupleAdaptedPredicate b arg) :
    Makes w r c (setUp d .tupleAdaptedPredicate (.ref r) b) v
      (attributesOf? w.zones .tupleAdaptedPredicate arg) := by
  obtain ⟨l, y, v₁, hl, hres, hm, -, hy⟩ | ⟨hl, e, hres⟩ :=
    h.adapter d (hb.holds "selection") (hb.steady _ (by decide)) .tupleInputAdapter "selection"
      (by simp) he.input
  · simp only [attributesOf?, hl]
    have hset : setUp d .tupleAdaptedPredicate (.ref r) b =
        (do
          let input ← selector d (b.value "selection")
          Run.setField (.ref r) "input_adapter" input
          Run.setField (.ref r) "predicate" (b.value "predicate")) := by
      simp [setUp, Adapted.setInput]
    rw [hset]
    refine .bind hres (.setField_bind hm "input_adapter" (by simp) hy fun v₂ hm₂ _ => ?_)
    exact .setField hm₂ "predicate" (by simp) (.of_holds (hb.holds "predicate"))
  · simp only [attributesOf?, hl]
    exact .fail_bind hres

end Construction

end FunctionObjects
