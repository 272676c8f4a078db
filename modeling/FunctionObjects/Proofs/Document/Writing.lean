import FunctionObjects.Proofs.Document.Specifying
/-!
# Writing values

A value of kept data is written at any depth.  Atoms are written as they are or as the names of types,
expressions as their texts where these are compiled again, and a value without a form is refused.
-/

namespace FunctionObjects

open Run World LibraryClass

namespace Writing

variable {w : World} {d : Dispatch} {odd : Datum → Prop} {cell : Ref → Run Document}

theorem typeNamed_any : typeNamed "typing.Any" = .ok .any := by
  have hname : isTypeName "typing.Any" = true := by decide +kernel
  have hparts : ("typing.Any".toList.splitOn '.').map String.ofList = ["typing", "Any"] := by
    decide +kernel
  have hpath : ClassName.ofPath? ["typing", "Any"] = some ⟨"typing", "Any"⟩ := by decide +kernel
  simp only [typeNamed, hname, hparts, hpath]
  rfl

/-- Atoms that are read as they are written. -/
theorem writes_atom {a : Atom} (h : a.ReadsBack) :
    Writes w odd (value cell (.atom a)) (Returns d w · (.atom a)) := by
  have hself := Datum.equalsItself_atom h
  have hleaf : Writing.atom w a = .ok (.leaf (.atom a)) →
      Writes w odd (value cell (.atom a)) (Returns d w · (.atom a)) := by
    intro hatom
    refine .done (a := .leaf (.atom a)) ?_ ⟨carries_atom a, hself⟩
    simp [value, result_bind, hatom]
  cases a with
  | pattern p => exact absurd h id
  | type t =>
    cases t with
    | cls c =>
      refine .done (a := .ofTypeName c.qualified) ?_ ⟨carries_type h, hself⟩
      simp [value, result_bind, Writing.atom]
      rfl
    | any =>
      refine .done (a := .ofTypeName "typing.Any") ?_ ⟨carries_type typeNamed_any, hself⟩
      simp [value, result_bind, Writing.atom]
      rfl
    | _ => simp [Atom.ReadsBack, Atom.isWritten, Document.atomJson?] at h
  | _ =>
    simp only [Atom.ReadsBack, Atom.isWritten] at h
    exact hleaf (by simp [Writing.atom, h]; rfl)

theorem result_pattern (cell : Ref → Run Document) (p : Pattern) (w : World) :
    (value cell (.atom (.pattern p))).result w = (.ok (.leaf (.atom p.spelled)), w) := by
  cases hb : p.binary <;>
    simp [value, result_bind, Writing.atom, Pattern.spelled, hb, Document.str, Value.str] <;> rfl

theorem result_patterns {ps : List Pattern} {vs : List Value}
    (h : w.HoldsAll (ps.map fun p => .atom (.pattern p)) vs) :
    (values cell vs).result w = (.ok (ps.map fun p => .leaf (.atom p.spelled)), w) := by
  induction ps generalizing vs with
  | nil => cases vs <;> simp_all [HoldsAll, values]
  | cons p ps ih =>
    cases vs with
    | nil => simp [HoldsAll] at h
    | cons v vs =>
      obtain ⟨rfl, hvs⟩ := h
      simp [values, result_bind, result_pattern, ih hvs, result_map]

/-- Expressions that are compiled again are written as their texts. -/
theorem writes_recompiled {owner : LibraryClass} {name : String} {t u : Datum}
    (h : Recompiled owner name t u) {v : Value} (hv : w.Holds t v) {n : Nat} (hdepth : t.depth ≤ n) :
    Writes w odd (value (Writing.cell n) v) (Carries d w · u) := by
  cases h with
  | @value p hp =>
    obtain rfl := hv
    exact .done (result_pattern _ p w) (carries_atom _)
  | @regex p hp htext =>
    obtain rfl := hv
    exact .done (result_pattern _ p w) (carries_atom _)
  | @patterns ps hps =>
    obtain ⟨r, vs, rfl, hr, hvs⟩ := hv
    cases n with
    | zero => simp [Datum.depth] at hdepth
    | succ n =>
      have hresult : value (Writing.cell (n + 1)) (.ref r) = Writing.cell (n + 1) r := rfl
      rw [hresult, Writing.cell]
      refine .bind_result (result_get w) ?_
      simp only [World.cell?, hr]
      refine .bind_result (result_patterns hvs) (.done rfl (carries_list ?_))
      rw [List.forall₂_map_left_iff, List.forall₂_map_right_iff]
      exact List.forall₂_same.mpr fun p _ => carries_atom _

/-- A value without a form is refused. -/
theorem refuses_foreign {t : Datum} {v : Value} {n : Nat} (hv : w.Holds t v) (hmade : Made w t)
    (hforeign : t.IsForeign) (hdepth : t.depth ≤ n) :
    ∃ c, (value (Writing.cell n) v).result w = (.error (.notWritable c), w) := by
  have hcell : ∀ {r : Ref} {c : Cell}, v = .ref r → w.heap[r]? = some c → 0 < t.depth →
      (∀ vs, c ≠ .list vs) → (∀ vs, c ≠ .set vs) → (∀ es, c ≠ .dict es) →
      w.registry.isRegistered (w.classOf (.ref r)) = false →
      ∃ c, (value (Writing.cell n) v).result w = (.error (.notWritable c), w) := by
    intro r c hr hc hpos hlist hset hdict hclass
    subst hr
    cases n with
    | zero => omega
    | succ n =>
      refine ⟨(w.classOf (.ref r)).name, ?_⟩
      cases c <;> simp_all [value, Writing.cell, result_bind, World.cell?]
  cases t with
  | atom a =>
    obtain rfl : v = .atom a := hv
    have herror : ∃ c, Writing.atom w a = .error (.notWritable c) := by
      cases a with
      | pattern p => simp [Datum.IsForeign, Atom.isWritten] at hforeign
      | type t =>
        cases t with
        | cls c => simp [Datum.IsForeign, Atom.isWritten] at hforeign
        | any => simp [Datum.IsForeign, Atom.isWritten] at hforeign
        | _ => exact ⟨_, rfl⟩
      | _ =>
        simp only [Datum.IsForeign, Atom.isWritten] at hforeign
        exact ⟨_, by simp [Writing.atom, hforeign]; rfl⟩
    obtain ⟨c, hc⟩ := herror
    exact ⟨c, by simp [value, result_bind, hc]⟩
  | slots c ts =>
    obtain ⟨r, o, vs, hr, hc, -⟩ := hv
    cases hmade with
    | slots hclass => exact hcell hr hc (Nat.succ_pos _) (by simp) (by simp) (by simp) (by
        simpa [World.classOf, hc] using hclass)
  | fields c es =>
    obtain ⟨r, o, vs, hr, hc, -⟩ := hv
    cases hmade with
    | fields hclass => exact hcell hr hc (Nat.succ_pos _) (by simp) (by simp) (by simp) (by
        simpa [World.classOf, hc] using hclass)
  | bytearray bs =>
    obtain ⟨r, hr, hc⟩ := hv
    cases hmade with
    | bytearray hclass => exact hcell hr hc Nat.one_pos (by simp) (by simp) (by simp) (by
        simpa [World.classOf, hc] using hclass)
  | keys ts =>
    obtain ⟨r, vs, hr, hc, -⟩ := hv
    cases hmade with
    | keys hclass => exact hcell hr hc (Nat.succ_pos _) (by simp) (by simp) (by simp) (by
        simpa [World.classOf, hc] using hclass)
  | handle r c s =>
    obtain ⟨hr, cell, hc, hhandle⟩ := hv
    cases hmade with
    | handle hclass =>
      have hkind : w.classOf (.ref r) = c ∧ (∀ vs, cell ≠ .list vs) ∧ (∀ vs, cell ≠ .set vs) ∧
          ∀ es, cell ≠ .dict es := by
        cases cell <;> simp_all [World.classOf, Cell.handle?]
      obtain ⟨hcls, hlist, hset, hdict⟩ := hkind
      exact hcell hr hc Nat.one_pos hlist hset hdict (by rwa [hcls])
  | object c as =>
    obtain ⟨r, o, vs, hr, hc, -⟩ := hv
    obtain hclass | ⟨k, hk, hname, -⟩ := hmade.of_object
    · exact hcell hr hc (Nat.succ_pos _) (by simp) (by simp) (by simp) (by
        simpa [World.classOf, hc] using hclass)
    · exact absurd hname (hforeign k hk)
  | tuple ts => exact absurd hforeign id
  | frozenset ts => exact absurd hforeign id
  | list ts => exact absurd hforeign id
  | dict es => exact absurd hforeign id
  | set ts => exact absurd hforeign id

theorem depth_of_mem {ts : List Datum} {t : Datum} (h : t ∈ ts) : t.depth ≤ Datum.depthAll ts := by
  induction ts with
  | nil => simp at h
  | cons u ts ih =>
    rw [Datum.depthAll]
    rcases List.mem_cons.mp h with rfl | h
    · exact Nat.le_max_left _ _
    · exact Nat.le_trans (ih h) (Nat.le_max_right _ _)

theorem depth_of_mem_entries {ts : List (Datum × Datum)} {t : Datum × Datum} (h : t ∈ ts) :
    t.2.depth ≤ Datum.depthEntries ts := by
  induction ts with
  | nil => simp at h
  | cons u ts ih =>
    rw [Datum.depthEntries]
    rcases List.mem_cons.mp h with rfl | h
    · exact Nat.le_trans (Nat.le_max_right _ _) (Nat.le_max_left _ _)
    · exact Nat.le_trans (ih h) (Nat.le_max_right _ _)

/-- Writing the properties of a function object, given how those are written that are not compiled
again. -/
theorem writes_properties {k : LibraryClass} {arg : String → Datum} {as : List (String × Datum)}
    {n : Nat} (hw : w.Stocked) (hk : k ∈ Registry.shipped) (has : attributes? w.zones k arg = some as)
    (hmade : ∀ e ∈ as, Made w e.2) (hdepth : Datum.depthFields as ≤ n)
    (hvalue : ∀ p ∈ k.params, ∀ t, k.property? as p.name = some t →
      (¬ ∃ u, Recompiled k.source p.name t u) → ∀ v, w.Holds t v → Made w t → t.depth ≤ n →
        Writes w odd (value (Writing.cell n) v) (Returns d w · t)) :
    WritesProperties d w odd (Writing.cell n) k as := by
  intro p hp t ht v hv
  have hdepthProperty : t.depth ≤ n := Nat.le_trans (depth_of_property? hk has hp ht) hdepth
  by_cases hrec : ∃ u, Recompiled k.source p.name t u
  · obtain ⟨u, hu⟩ := hrec
    exact (writes_recompiled hu hv hdepthProperty).imp fun doc hdoc =>
      ⟨hu.equalsItself, u, hdoc, .inr hu⟩
  · have hmadeProperty := made_property? hw hk has hmade hp ht
    exact (hvalue p hp t ht hrec v hv hmadeProperty hdepthProperty).imp
      fun doc hdoc => ⟨hdoc.2, t, hdoc.1, .inl rfl⟩

theorem exists_eq_succ {t : Datum} {n : Nat} (h : t.depth ≤ n) (hpos : 0 < t.depth) :
    ∃ m, n = m + 1 := Nat.exists_eq_succ_of_ne_zero (by omega)

/-- Writing a list, given how its items are written. -/
theorem writes_list {ts : List Datum} {v : Value} {n : Nat} (hv : w.Holds (.list ts) v)
    (hitems : ∀ t ∈ ts, ∀ x, w.Holds t x →
      Writes w odd (value (Writing.cell n) x) (Returns d w · t)) :
    Writes w odd (value (Writing.cell (n + 1)) v) (Returns d w · (.list ts)) := by
  obtain ⟨r, vs, rfl, hr, hvs⟩ := hv
  rw [value, Writing.cell]
  refine .bind_result (result_get w) ?_
  simp only [World.cell?, hr]
  exact (writes_values hvs hitems).bind fun docs hdocs =>
    .done rfl ⟨carries_list hdocs.1, Datum.equalsItself_list hdocs.2⟩

/-- Writing a dictionary with texts for keys, given how its values are written. -/
theorem writes_dict {ts : List (String × Datum)} {v : Value} {n : Nat}
    (hv : w.Holds (.dict (ts.map fun t => (.atom (.str t.1), t.2))) v)
    (hnodup : (ts.map (·.1)).Nodup) (hclass : classKey ∉ ts.map (·.1))
    (htype : ts.map (·.1) ≠ [typeKey])
    (hitems : ∀ t ∈ ts, ∀ x, w.Holds t.2 x →
      Writes w odd (value (Writing.cell n) x) (Returns d w · t.2)) :
    Writes w odd (value (Writing.cell (n + 1)) v)
      (Returns d w · (.dict (ts.map fun t => (.atom (.str t.1), t.2)))) := by
  obtain ⟨r, vs, rfl, hr, hvs⟩ := hv
  have hnew : ∀ t ∈ ts, t.1 ∉ ([] : List (String × Document)).map (·.1) := by simp
  rw [value, Writing.cell]
  refine .bind_result (result_get w) ?_
  simp only [World.cell?, hr]
  refine .bind (writes_entries hvs hnew hnodup hitems) ?_
  rintro _ ⟨docs, rfl, hdocs, hself⟩
  exact .done rfl ⟨carries_dict hclass htype hdocs, Datum.equalsItself_dict hself⟩

/-- Writing a function object inside another value. -/
theorem writes_nested {k : LibraryClass} {as : List (String × Datum)} {v : Value} {n : Nat}
    {P : Document → Prop} (ho : w.Offers k) (hv : w.Holds (.object k.className as) v)
    (hwritten : Writes w odd (functionWith (Writing.cell n) v) P) :
    Writes w odd (value (Writing.cell (n + 1)) v) P := by
  obtain ⟨r, o, fields, rfl, hr, -, -⟩ := hv
  have hclass : w.classOf (.ref r) = k.className := by simp [World.classOf, hr]
  rw [value, Writing.cell]
  refine .bind_result (result_get w) ?_
  simp only [World.cell?, hr, hclass, ho.isRegistered, if_true]
  exact hwritten

/-- Writing a value with cells that are followed far enough. -/
theorem writes_value (hw : w.Stocked) (hodd : ∀ t, odd t → t.IsForeign) {t : Datum}
    (hkept : Kept odd t) : ∀ {v : Value} {n : Nat}, w.Holds t v → Made w t → t.depth ≤ n →
      Writes w odd (value (Writing.cell n) v) (Returns d w · t) := by
  induction hkept with
  | odd h =>
    intro v n hv hmade hdepth
    obtain ⟨c, hc⟩ := refuses_foreign hv hmade (hodd _ h) hdepth
    exact .inl ⟨c, _, hc, h⟩
  | atom h =>
    intro v n hv hmade hdepth
    obtain rfl := hv
    exact writes_atom h
  | list h ih =>
    intro v n hv hmade hdepth
    obtain ⟨m, rfl⟩ := exists_eq_succ hdepth (Nat.succ_pos _)
    cases hmade with
    | list hmades =>
      exact writes_list hv fun t ht x hx => ih t ht hx (hmades t ht)
        (Nat.le_trans (depth_of_mem ht) (Nat.le_of_succ_le_succ hdepth))
  | @dict ts hnodup hclass htype h ih =>
    intro v n hv hmade hdepth
    obtain ⟨m, rfl⟩ := exists_eq_succ hdepth (Nat.succ_pos _)
    cases hmade with
    | dict hkeys hmades =>
      refine writes_dict hv hnodup hclass htype fun t ht x hx => ?_
      have hmem : ((.atom (.str t.1), t.2) : Datum × Datum) ∈
          ts.map fun t => (Datum.atom (.str t.1), t.2) := List.mem_map.mpr ⟨t, ht, rfl⟩
      exact ih t ht hx (hmades _ hmem)
        (Nat.le_trans (depth_of_mem_entries hmem) (Nat.le_of_succ_le_succ hdepth))
  | @function k as hk hnone hlist hdict h ih =>
    intro v n hv hmade hdepth
    obtain ⟨m, rfl⟩ := exists_eq_succ hdepth (Nat.succ_pos _)
    obtain ⟨⟨arg, has⟩, hmades⟩ := hmade.of_function hw hk
    have hcells : WritesProperties d w odd (Writing.cell m) k as :=
      writes_properties hw hk has hmades (Nat.le_of_succ_le_succ hdepth)
        fun p hp t ht hrec v hv => ih p hp t ht hrec hv
    have hwritten := writes_functionWith hw hk hv has ⟨hnone, hlist, hdict, h⟩ hodd hcells
    exact writes_nested (hw k hk) hv (hwritten.imp fun doc hdoc => hdoc.1)

end Writing

end FunctionObjects
