import FunctionObjects.Proofs.Document.Equality
import FunctionObjects.Proofs.Document.Properties
/-!
# Writing what holds other values

Writing changes nothing.  It either refuses a value of a class without a form, or gives a document that
carries what is kept.  Collections, dictionaries and function objects are written as their parts are.
-/

namespace FunctionObjects

open Run World LibraryClass

variable {w : World}

/-- An operation changes nothing and gives what is stated, unless it refuses something odd. -/
def Writes {α : Type} (w : World) (odd : Datum → Prop) (m : Run α) (P : α → Prop) : Prop :=
  (∃ c t, m.result w = (.error (.notWritable c), w) ∧ odd t) ∨
    ∃ a, m.result w = (.ok a, w) ∧ P a

namespace Writes

variable {α β : Type} {odd : Datum → Prop} {m : Run α} {P : α → Prop}

theorem done {a : α} (h : m.result w = (.ok a, w)) (ha : P a) : Writes w odd m P := .inr ⟨a, h, ha⟩

theorem bind {f : α → Run β} {Q : β → Prop} (h : Writes w odd m P)
    (hf : ∀ a, P a → Writes w odd (f a) Q) : Writes w odd (m >>= f) Q := by
  obtain ⟨c, t, hres, ht⟩ | ⟨a, hres, ha⟩ := h
  · exact .inl ⟨c, t, result_bind_error f hres, ht⟩
  · obtain ⟨c, t, hres', ht⟩ | ⟨b, hres', hb⟩ := hf a ha
    · exact .inl ⟨c, t, by rw [result_bind_ok f hres, hres'], ht⟩
    · exact .inr ⟨b, by rw [result_bind_ok f hres, hres'], hb⟩

theorem imp {Q : α → Prop} (h : Writes w odd m P) (hPQ : ∀ a, P a → Q a) : Writes w odd m Q :=
  h.imp_right fun ⟨a, hres, ha⟩ => ⟨a, hres, hPQ a ha⟩

theorem bind_result {f : α → Run β} {Q : β → Prop} {a : α} (h : m.result w = (.ok a, w))
    (hf : Writes w odd (f a) Q) : Writes w odd (m >>= f) Q := by
  rw [Writes, result_bind_ok f h]
  exact hf

end Writes

/-- A document carries a datum that is equal to itself. -/
def Returns (d : Dispatch) (w : World) (doc : Document) (t : Datum) : Prop :=
  Carries d w doc t ∧ t.EqualsItself

namespace Document

theorem put_of_new {name : String} {docs : List (String × Document)} (doc : Document)
    (h : name ∉ docs.map (·.1)) : put name doc (docs.map fun e => (Value.str e.1, e.2)) =
      (docs ++ [(name, doc)]).map fun e => (Value.str e.1, e.2) := by
  induction docs with
  | nil => rfl
  | cons e docs ih =>
    rw [List.map_cons, List.mem_cons, not_or] at h
    have hne : (textOf? (Value.str e.1) == some name) = false := by
      simpa [textOf?, Value.str, Atom.text?] using Ne.symm h.1
    simp only [List.map_cons, put, hne, Bool.false_eq_true, if_false, ih h.2, List.cons_append]

end Document

namespace Writing

variable {d : Dispatch} {odd : Datum → Prop} {cell : Ref → Run Document}

theorem writes_values {ts : List Datum} {vs : List Value} (h : w.HoldsAll ts vs)
    (hcell : ∀ t ∈ ts, ∀ v, w.Holds t v → Writes w odd (value cell v) (Returns d w · t)) :
    Writes w odd (values cell vs) fun docs =>
      List.Forall₂ (Carries d w) docs ts ∧ ∀ t ∈ ts, t.EqualsItself := by
  induction ts generalizing vs with
  | nil =>
    cases vs with
    | nil => exact .done rfl ⟨.nil, by simp⟩
    | cons v vs => simp [HoldsAll] at h
  | cons t ts ih =>
    cases vs with
    | nil => simp [HoldsAll] at h
    | cons v vs =>
      have hrest := ih h.2 fun u hu => hcell u (List.mem_cons_of_mem t hu)
      exact (hcell t List.mem_cons_self v h.1).bind fun doc hdoc =>
        hrest.bind fun docs hdocs => .done rfl
          ⟨.cons hdoc.1 hdocs.1, List.forall_mem_cons.mpr ⟨hdoc.2, hdocs.2⟩⟩

theorem writes_entries {ts : List (String × Datum)} {vs : List (Value × Value)}
    {before : List (String × Document)}
    (h : w.HoldsEntries (ts.map fun t => (.atom (.str t.1), t.2)) vs)
    (hnew : ∀ t ∈ ts, t.1 ∉ before.map (·.1)) (hnodup : (ts.map (·.1)).Nodup)
    (hcell : ∀ t ∈ ts, ∀ v, w.Holds t.2 v → Writes w odd (value cell v) (Returns d w · t.2)) :
    Writes w odd (vs.foldlM (fun written (e : Value × Value) => do
        let key ← Run.plain e.1
        return Document.put key (← value cell e.2) written)
        (before.map fun e => (Value.str e.1, e.2)))
      fun out => ∃ docs, out = (before ++ docs).map (fun e => (Value.str e.1, e.2)) ∧
        CarriesFields d w docs ts ∧ ∀ t ∈ ts, t.2.EqualsItself := by
  induction ts generalizing vs before with
  | nil =>
    cases vs with
    | nil => exact .done rfl ⟨[], by simp, .nil, by simp⟩
    | cons v vs => simp [HoldsEntries] at h
  | cons t ts ih =>
    cases vs with
    | nil => simp [HoldsEntries] at h
    | cons v vs =>
      obtain ⟨hkey, hvalue, hrest⟩ := h
      have hplain : (Run.plain v.1).result w = (.ok t.1, w) := by
        rw [result_plain, read_of_holds hkey]
        rfl
      rw [List.map_cons, List.nodup_cons] at hnodup
      rw [List.foldlM_cons]
      refine .bind (.bind_result hplain ((hcell t List.mem_cons_self _ hvalue).bind
        (Q := fun out => ∃ doc, Returns d w doc t.2 ∧
          out = (before ++ [(t.1, doc)]).map fun e => (Value.str e.1, e.2)) fun doc hdoc =>
          .done rfl ⟨doc, hdoc, Document.put_of_new doc (hnew t List.mem_cons_self)⟩)) ?_
      rintro _ ⟨doc, hdoc, rfl⟩
      have hnew' : ∀ u ∈ ts, u.1 ∉ (before ++ [(t.1, doc)]).map (·.1) := by
        intro u hu
        rw [List.map_append, List.mem_append, not_or]
        refine ⟨hnew u (List.mem_cons_of_mem t hu), ?_⟩
        simp only [List.map_cons, List.map_nil, List.mem_singleton]
        intro heq
        exact hnodup.1 (heq ▸ List.mem_map.mpr ⟨u, hu, rfl⟩)
      refine (ih hrest hnew' hnodup.2 fun u hu => hcell u (List.mem_cons_of_mem t hu)).imp ?_
      rintro _ ⟨docs, rfl, hdocs, hself⟩
      exact ⟨(t.1, doc) :: docs, by simp, .cons ⟨rfl, hdoc.1⟩ hdocs,
        List.forall_mem_cons.mpr ⟨hdoc.2, hself⟩⟩

/-- What is written for a property that may be given again. -/
def GivesAgain (k : LibraryClass) (as ts : List (String × Datum)) (p : Param) : Prop :=
  ∃ t a, k.property? as p.name = some t ∧ t.EqualsItself ∧ p.default = some (.atom a) ∧
    Again k.source p.name t ((ts.lookup p.name).getD (.atom a))

/-- Properties that are kept as they are or whose expressions are compiled again. -/
def WritesProperties (d : Dispatch) (w : World) (odd : Datum → Prop) (cell : Ref → Run Document)
    (k : LibraryClass) (as : List (String × Datum)) : Prop :=
  ∀ p ∈ k.params, ∀ t, k.property? as p.name = some t → ∀ v, w.Holds t v →
    Writes w odd (value cell v) fun doc => t.EqualsItself ∧
      ∃ u, Carries d w doc u ∧ (u = t ∨ Recompiled k.source p.name t u)

/-- What is left out may be given again as its default. -/
theorem again_of_omitted {k : LibraryClass} {as : List (String × Datum)}
    (hkept : KeptProperties odd k as) (hodd : ∀ t, odd t → t.IsForeign) {p : Param}
    (hp : p ∈ k.params) {t : Datum} (ht : k.property? as p.name = some t) {v : Value}
    (hv : w.Holds t v) {a : Atom} (ha : p.default = some (.atom a)) (hplain : a.isPlain = true)
    (homitted : v.isNone = true ∨ isDefault w v (.atom a) = true) :
    t.EqualsItself ∧ Again k.source p.name t (.atom a) := by
  have hdefaultSelf : (Datum.atom a).EqualsItself := by
    cases a <;> first | exact Datum.equalsItself_atom rfl | simp [Atom.isPlain] at hplain
  rcases homitted with hnone | hdefault
  · have htNone : t = .none := by
      rw [hv.isNone_eq] at hnone
      unfold Datum.isNone at hnone
      split at hnone
      · rfl
      · simp at hnone
    subst htNone
    have haNone := hkept.none p hp ht
    rw [ha] at haNone
    obtain rfl : a = .none := by simpa [Value.none] using haNone
    exact ⟨hdefaultSelf, .kept _⟩
  · obtain rfl | ⟨rfl, hempty⟩ := eq_of_isDefault hv hplain hdefault
    · exact ⟨hdefaultSelf, .kept _⟩
    · have hshape : ¬(t = .tuple [] ∨ t = .frozenset [] ∨ t = .set []) := by
        intro hs
        have hrec : ¬ ∃ u, Recompiled k.source p.name t u := by
          rintro ⟨u, hu⟩
          obtain ⟨_, _, rfl, -⟩ | ⟨_, _, rfl, -⟩ := hu.shape <;> simp at hs
        cases hkept.kept p hp t ht hrec with
        | odd h =>
          have hforeign := hodd _ h
          rcases hs with rfl | rfl | rfl <;> exact hforeign
        | _ => simp at hs
      rcases hempty with h | h | rfl | rfl | h
      · exact absurd (.inl h) hshape
      · exact absurd (.inr (.inl h)) hshape
      · exact ⟨Datum.equalsItself_list (by simp), .empty (hkept.list p hp ht ha)⟩
      · exact absurd ha (hkept.dict p hp ht)
      · exact absurd (.inr (.inr h)) hshape

/-- Writing the parameters of a function object one after the other. -/
theorem writes_parameters {k : LibraryClass} {as : List (String × Datum)} {self : Value}
    (hk : k ∈ Registry.shipped) (ho : w.Offers k) (hself : w.Holds (.object k.className as) self)
    (hkept : KeptProperties odd k as) (hodd : ∀ t, odd t → t.IsForeign)
    (hcell : WritesProperties d w odd cell k as)
    (hexists : ∀ p ∈ k.params, ∃ t, k.property? as p.name = some t)
    {c : ClassName} {ps : List Param} (hps : ∀ p ∈ ps, p ∈ k.params)
    (hnodup : (ps.map Param.name).Nodup) {before : List (String × Document)}
    (hnew : ∀ p ∈ ps, p.name ∉ before.map (·.1)) :
    Writes w odd (parameters cell self c ps (before.map fun e => (Value.str e.1, e.2)))
      fun out => ∃ docs ts, out = (before ++ docs).map (fun e => (Value.str e.1, e.2)) ∧
        CarriesFields d w docs ts ∧ (∀ t ∈ ts, ∃ p ∈ ps, p.name = t.1) ∧
        ∀ p ∈ ps, GivesAgain k as ts p := by
  induction ps generalizing before with
  | nil => exact .done rfl ⟨[], [], by simp, .nil, by simp, by simp⟩
  | cons p ps ih =>
    have hp := hps p List.mem_cons_self
    have hps' : ∀ q ∈ ps, q ∈ k.params := fun q hq => hps q (List.mem_cons_of_mem p hq)
    rw [List.map_cons, List.nodup_cons] at hnodup
    obtain ⟨t, ht⟩ := hexists p hp
    obtain ⟨a, ha, hplain⟩ := Param.default_of_isPreset (Construction.params_isPreset k hk p hp)
    obtain ⟨v, hattribute, hv⟩ := result_attribute? hk ho hself hp ht
    have hlater : ∀ {ts : List (String × Datum)} {x : String × Datum},
        (∀ q ∈ ps, GivesAgain k as ts q) → x.1 = p.name →
        ∀ q ∈ ps, GivesAgain k as (x :: ts) q := by
      rintro ts ⟨n, x⟩ hagain rfl q hq
      have hne : q.name ≠ p.name := by
        intro heq
        exact hnodup.1 (heq ▸ List.mem_map.mpr ⟨q, hq, rfl⟩)
      simpa only [GivesAgain, List.lookup_cons, beq_eq_false_iff_ne.mpr hne] using hagain q hq
    rw [parameters, List.foldlM_cons]
    cases homit : v.isNone || isDefault w v (.atom a) with
    | true =>
      have homitted : v.isNone = true ∨ isDefault w v (.atom a) = true := by simpa using homit
      refine .bind_result (a := before.map fun e => (Value.str e.1, e.2)) ?_ ?_
      · simp only [result_bind, hattribute, result_get, ha, Option.any_some, homit, if_true,
          result_pure]
      · refine (ih hps' hnodup.2 fun q hq => hnew q (List.mem_cons_of_mem p hq)).imp ?_
        rintro _ ⟨docs, ts, rfl, hdocs, hts, hagain⟩
        have hlookup : ts.lookup p.name = none := by
          rw [List.lookup_eq_none_iff]
          intro x hx
          obtain ⟨q, hq, hname⟩ := hts x hx
          rw [bne_iff_ne]
          intro heq
          exact hnodup.1 (heq ▸ hname ▸ List.mem_map.mpr ⟨q, hq, rfl⟩)
        refine ⟨docs, ts, rfl, hdocs, fun x hx => ?_, ?_⟩
        · obtain ⟨q, hq, hname⟩ := hts x hx
          exact ⟨q, List.mem_cons_of_mem p hq, hname⟩
        · intro q hq
          rcases List.mem_cons.mp hq with rfl | hq
          · obtain ⟨hself, hagain⟩ := again_of_omitted hkept hodd hp ht hv ha hplain homitted
            exact ⟨t, a, ht, hself, ha, by rwa [hlookup]⟩
          · exact hagain q hq
    | false =>
      refine .bind (P := fun out => ∃ doc u, t.EqualsItself ∧ Carries d w doc u ∧
        (u = t ∨ Recompiled k.source p.name t u) ∧
        out = (before ++ [(p.name, doc)]).map fun e => (Value.str e.1, e.2))
        (.bind_result hattribute (.bind_result (result_get w) ?_)) ?_
      · simp only [ha, Option.any_some, homit, Bool.false_eq_true, if_false]
        exact (hcell p hp t ht v hv).bind fun doc ⟨hself, u, hdoc, hu⟩ => .done rfl
          ⟨doc, u, hself, hdoc, hu, Document.put_of_new doc (hnew p List.mem_cons_self)⟩
      · rintro _ ⟨doc, u, hself, hdoc, hu, rfl⟩
        have hnew' : ∀ q ∈ ps, q.name ∉ (before ++ [(p.name, doc)]).map (·.1) := by
          intro q hq
          rw [List.map_append, List.mem_append, not_or]
          refine ⟨hnew q (List.mem_cons_of_mem p hq), ?_⟩
          simp only [List.map_cons, List.map_nil, List.mem_singleton]
          intro heq
          exact hnodup.1 (heq ▸ List.mem_map.mpr ⟨q, hq, rfl⟩)
        refine (ih hps' hnodup.2 hnew').imp ?_
        rintro _ ⟨docs, ts, rfl, hdocs, hts, hagain⟩
        refine ⟨(p.name, doc) :: docs, (p.name, u) :: ts, by simp, .cons ⟨rfl, hdoc⟩ hdocs, ?_, ?_⟩
        · intro x hx
          rcases List.mem_cons.mp hx with rfl | hx
          · exact ⟨p, List.mem_cons_self, rfl⟩
          · obtain ⟨q, hq, hname⟩ := hts x hx
            exact ⟨q, List.mem_cons_of_mem p hq, hname⟩
        · intro q hq
          rcases List.mem_cons.mp hq with rfl | hq
          · refine ⟨t, a, ht, hself, ha, ?_⟩
            rcases hu with rfl | hrec
            · have hsame : Again k.source q.name u u := .kept u
              simpa using hsame
            · simpa using Again.recompiled hrec
          · exact hlater hagain rfl q hq

theorem params_nodup : ∀ k ∈ Registry.shipped, (k.params.map Param.name).Nodup ∧
    ∀ n ∈ k.source.walked, ∃ p ∈ k.params, p.name = n := by
  decide

theorem argumentOf_eq {k : LibraryClass} (hk : k ∈ Registry.shipped) (ts : List (String × Datum))
    {p : Param} (hp : p ∈ k.params) {a : Atom} (ha : p.default = some (.atom a)) :
    argumentOf k ts p.name = (ts.lookup p.name).getD (.atom a) := by
  have hfind : k.params.find? (fun q => q.name == p.name) = some p := by
    have hnodup := (params_nodup k hk).1
    generalize k.params = ps at hp hnodup
    induction ps with
    | nil => simp at hp
    | cons q ps ih =>
      rw [List.map_cons, List.nodup_cons] at hnodup
      rcases List.mem_cons.mp hp with rfl | hp
      · simp
      · have hne : q.name ≠ p.name := by
          intro heq
          exact hnodup.1 (heq ▸ List.mem_map.mpr ⟨p, hp, rfl⟩)
        rw [List.find?_cons, beq_eq_false_iff_ne.mpr hne]
        exact ih hp hnodup.2
  rw [argumentOf, hfind]
  cases ts.lookup p.name <;> simp [ha]

/-- Writing a function object, given how the cells are written. -/
theorem writes_functionWith {k : LibraryClass} {arg : String → Datum} {as : List (String × Datum)}
    {self : Value} (hw : w.Stocked) (hk : k ∈ Registry.shipped)
    (hself : w.Holds (.object k.className as) self) (has : attributes? w.zones k arg = some as)
    (hkept : KeptProperties odd k as) (hodd : ∀ t, odd t → t.IsForeign)
    (hcell : WritesProperties d w odd cell k as) :
    Writes w odd (functionWith cell self) fun doc => Returns d w doc (.object k.className as) ∧
      ∃ es, doc = .dict es ∧ (Document.lookup? es classKey).isSome = true := by
  have ho := hw k hk
  obtain ⟨name, hname, hnames, hclasses⟩ := ho.registered
  have hclass : w.classOf self = k.className := by
    obtain ⟨r, o, fields, rfl, hr, -, -⟩ := hself
    simp [World.classOf, hr]
  have hnameOf : Run.lift (w.registry.nameOf k.className) = pure name := by
    simp only [Registry.nameOf, hnames]
    rfl
  have hnew : ∀ p ∈ k.params, p.name ∉ [(classKey, Document.str name)].map (·.1) := fun p hp => by
    simpa using (params_properties k hk p hp).2.1
  have hparameters := writes_parameters (c := k.className) hk ho hself hkept hodd hcell
    (fun p hp => exists_property? hk has hp) (fun p hp => hp) (params_nodup k hk).1 hnew
  rw [functionWith]
  refine .bind_result (result_get w) ?_
  simp only [hclass, hnameOf, pure_bind, properties_of_offers hk ho]
  refine hparameters.bind ?_
  rintro _ ⟨docs, ts, rfl, hdocs, hts, hagain⟩
  refine .done rfl ?_
  have hgiven : GivenAgain k.source as (argumentOf k ts) := by
    intro p hp
    obtain ⟨t, a, ht, -, ha, h⟩ := hagain p hp
    refine ⟨t, ?_, ?_⟩
    · rw [← ht, property?, property?, (params_properties k hk p hp).1]
    · rwa [argumentOf_eq hk ts hp ha]
  have hwalked : ∀ n ∈ k.source.walked, (argumentOf k ts n).items? ≠ none ∨
      ∃ a, argumentOf k ts n = .atom a := by
    intro n hn
    obtain ⟨p, hp, rfl⟩ := (params_nodup k hk).2 n hn
    obtain ⟨t, ht, h⟩ := hgiven p hp
    generalize argumentOf k ts p.name = u at h
    cases h with
    | kept => exact .inl (items_of_walked has hn ht)
    | empty => exact .inr ⟨_, rfl⟩
    | recompiled hrec =>
      obtain ⟨_, a, -, rfl⟩ | ⟨_, us, -, rfl⟩ := hrec.shape
      · exact .inr ⟨a, rfl⟩
      · exact .inl (by simp [Datum.items?])
  have hkey : classKey ∉ ts.map (·.1) := by
    intro hmem
    obtain ⟨x, hx, hkey⟩ := List.mem_map.mp hmem
    obtain ⟨p, hp, hpname⟩ := hts x hx
    exact (params_properties k hk p hp).2.1 (hpname.trans hkey)
  have hself : (Datum.object k.className as).EqualsItself := by
    refine Datum.equalsItself_of_same (same_of_properties hk has fun p hp t ht => ?_)
    obtain ⟨u, a, hu, huself, -, -⟩ := hagain p hp
    rw [ht] at hu
    exact Option.some.inj hu ▸ huself
  refine ⟨⟨?_, hself⟩, _, rfl, ?_⟩
  · exact carries_function hk hw hname hclasses hdocs hts hkey hwalked
      (attributesOf?_again has hgiven)
  · simp [Document.lookup?, Document.textOf?, Value.str, Atom.text?]

end Writing

end FunctionObjects
