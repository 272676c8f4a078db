import FunctionObjects.Proofs.Construction.Checking
/-!
# Constructors that replace what they are given

Texts become expressions or classes; expressions and classes stay what they are.  With these, every
constructor of the library has the attributes that are stated for it.
-/

namespace FunctionObjects

open Run World LibraryClass

variable {w v : World} {r : Ref} {c : ClassName} {t : Datum} {x : Value}

namespace Construction

variable (d : Dispatch) {b : Binding} {arg : String → Datum}

theorem result_pattern (h : w.Holds t x) (v : World) :
    (∃ out, (Run.pattern x).result v = (.ok out, v) ∧
        t.compiled? = out.toOption.map fun p => .atom (.pattern p)) ∨
      (t.compiled? = none ∧ ∃ e, (Run.pattern x).result v = (.error e, v)) := by
  obtain ⟨a, rfl, rfl⟩ | ⟨ht, hx⟩ := h.atom_or
  · cases a with
    | pattern p => exact .inl ⟨.ok p, rfl, rfl⟩
    | str s => exact .inl ⟨_, rfl, rfl⟩
    | bytes bs => exact .inl ⟨_, rfl, rfl⟩
    | scalar s =>
      cases s with
      | str s => exact .inl ⟨_, rfl, rfl⟩
      | bytes bs => exact .inl ⟨_, rfl, rfl⟩
      | _ => exact .inr ⟨rfl, .wrongType, rfl⟩
    | _ => exact .inr ⟨rfl, .wrongType, rfl⟩
  · refine .inr ⟨?_, .wrongType, ?_⟩
    · cases t with
      | atom a => exact absurd rfl (ht a)
      | _ => rfl
    · cases x with
      | atom a => exact absurd rfl (hx a)
      | _ => rfl

/-- An expression is compiled as what holds it is. -/
theorem result_compile (h : w.Holds t x) (v : World) :
    (∃ p, t.compiled? = some (.atom (.pattern p)) ∧
        (Matching.compile x).result v = (.ok (.atom (.pattern p)), v)) ∨
      (t.compiled? = none ∧ ∃ e, (Matching.compile x).result v = (.error e, v)) := by
  obtain ⟨out, hres, ht⟩ | ⟨ht, e, hres⟩ := result_pattern h v
  · cases out with
    | ok p => exact .inl ⟨p, ht, by simp [Matching.compile, result_bind, hres]⟩
    | error m =>
      refine .inr ⟨ht, ?_⟩
      cases m <;> exact ⟨_, by simp [Matching.compile, result_bind, hres]; rfl⟩
  · exact .inr ⟨ht, e, by simp [Matching.compile, result_bind, hres]⟩

theorem makes_regex (h : Making w r c [] v) (hb : Given w .regex b arg) :
    Makes w r c (setUp d .regex (.ref r) b) v (attributesOf? w.zones .regex arg) := by
  have hheld := hb.holds "value"
  have hnone := hheld.isNone_eq
  cases hn : (arg "value").isNone with
  | true =>
    have hstored : Makes w r c (Run.setField (.ref r) "value" (b.value "value")) v
        (some [("value", arg "value")]) := .setField h "value" (by simp) (.of_holds hheld)
    simp only [attributesOf?, Datum.optionallyCompiled?, hn, if_true]
    rw [hn] at hnone
    simp only [setUp, Matching.setExpression, hnone, if_true]
    exact hstored
  | false =>
    rw [hn] at hnone
    simp only [attributesOf?, Datum.optionallyCompiled?, hn, Bool.false_eq_true, if_false]
    simp only [setUp, Matching.setExpression, hnone, Bool.false_eq_true, if_false]
    obtain ⟨p, hp, hres⟩ | ⟨hp, e, hres⟩ := result_compile hheld v
    · rw [hp]
      exact .bind hres (.setField h "value" (by simp) (.of_holds rfl))
    · rw [hp]
      exact .fail_bind hres

theorem result_compileAll {ts : List Datum} {xs : List Value} (h : w.HoldsAll ts xs) (v : World) :
    (∃ us ys, ts.mapM Datum.compiled? = some us ∧ (xs.mapM Matching.compile).result v = (.ok ys, v) ∧
        w.HoldsAll us ys) ∨
      (ts.mapM Datum.compiled? = none ∧ ∃ e, (xs.mapM Matching.compile).result v = (.error e, v)) := by
  induction ts generalizing xs with
  | nil =>
    cases xs with
    | nil => exact .inl ⟨[], [], rfl, rfl, trivial⟩
    | cons x xs => simp [HoldsAll] at h
  | cons t ts ih =>
    cases xs with
    | nil => simp [HoldsAll] at h
    | cons x xs =>
      obtain ⟨p, hp, hres⟩ | ⟨hp, e, hres⟩ := result_compile h.1 v
      · obtain ⟨us, ys, hus, hress, hys⟩ | ⟨hus, e, hress⟩ := ih h.2
        · exact .inl ⟨.atom (.pattern p) :: us, .atom (.pattern p) :: ys, by simp [hp, hus],
            by simp [result_bind, result_map, hres, hress], ⟨rfl, hys⟩⟩
        · exact .inr ⟨by simp [hp, hus], e, by simp [result_bind, result_map, hres, hress]⟩
      · exact .inr ⟨by simp [hp], e, by simp [result_bind, hres]⟩

theorem makes_multiRegex (h : Making w r c [] v) (hb : Given w .multiRegex b arg) :
    Makes w r c (setUp d .multiRegex (.ref r) b) v (attributesOf? w.zones .multiRegex arg) := by
  have htruth := d.result_truth h.grows (hb.holds "patterns") (hb.steady _ (by decide))
  have hstored : ∀ ts xs, w.HoldsAll ts xs →
      Makes w r c (do Run.setField (.ref r) "patterns" (← Run.newList (← xs.mapM Matching.compile))) v
        (do return [("patterns", .list (← ts.mapM Datum.compiled?))]) := by
    intro ts xs hxs
    obtain ⟨us, ys, hus, hres, hys⟩ | ⟨hus, e, hres⟩ := result_compileAll hxs v
    · obtain ⟨hm, -, hne⟩ := h.alloc (.list ys)
      rw [hus]
      exact .bind hres (.bind (result_newList ys v)
        (.setField hm "patterns" (by simp) (Ready.list hne (by simp) hys)))
    · rw [hus]
      exact .fail_bind hres
  have hset : setUp d .multiRegex (.ref r) b =
    Matching.setExpressions d (.ref r) (b.value "patterns") := rfl
  rw [hset, Matching.setExpressions]
  cases hn : (arg "patterns").truth with
  | false =>
    refine .bind htruth ?_
    simp only [attributesOf?, Datum.allCompiled?, hn, Bool.false_eq_true, if_false]
    exact hstored [] [] trivial
  | true =>
    refine .bind htruth ?_
    simp only [attributesOf?, Datum.allCompiled?, hn, if_true]
    obtain ⟨ts, xs, hts, hitems, hxs⟩ | ⟨hts, hitems⟩ :=
      d.result_items h.grows (hb.holds "patterns") (hb.steady _ (by decide))
    · rw [hts]
      refine .bind hitems ?_
      have hall := hstored ts xs hxs
      cases hus : ts.mapM Datum.compiled? <;> simpa [hus] using hall
    · rw [hts]
      exact .fail_bind hitems

/-- Whatever is no atom is kept where texts are replaced. -/
theorem kept_of_ne_atom {t : Datum} (ht : ∀ a, t ≠ .atom a) :
    t.loaded? = some t ∧ t.textCompiled? = some t := by
  cases t with
  | atom a => exact absurd rfl (ht a)
  | _ => exact ⟨rfl, rfl⟩

theorem makes_isA (h : Making w r c [] v) (hb : Given w .isA b arg) :
    Makes w r c (setUp d .isA (.ref r) b) v (attributesOf? w.zones .isA arg) := by
  have hheld := hb.holds "type_"
  have hstored : ∀ {t : Datum} {x : Value}, w.Holds t x →
      Makes w r c (Run.setField (.ref r) "type_" x) v (some [("type_", t)]) :=
    fun hx => .setField h "type_" (by simp) (.of_holds hx)
  have hset : setUp d .isA (.ref r) b = Membership.setType (.ref r) (b.value "type_") := rfl
  rw [hset]
  generalize b.value "type_" = x at hheld
  obtain ⟨a, ht, rfl⟩ | ⟨ht, hx⟩ := hheld.atom_or
  · rw [Membership.setType]
    simp only [attributesOf?, ht, Datum.loaded?]
    cases htext : a.text? with
    | none => exact hstored rfl
    | some name =>
      refine .bind (result_get v) ?_
      cases hload : typeNamed name with
      | ok u =>
        simp only [World.loadType, htext, hload]
        exact .bind (result_pure _ v) (hstored rfl)
      | error e =>
        simp only [World.loadType, htext, hload]
        exact .fail_bind (result_throw _ v)
  · simp only [attributesOf?, (kept_of_ne_atom ht).1]
    cases x with
    | atom a => exact absurd rfl (hx a)
    | _ => exact hstored hheld

theorem makes_stringRegexReplace (h : Making w r c [] v) (hb : Given w .stringRegexReplace b arg) :
    Makes w r c (setUp d .stringRegexReplace (.ref r) b) v
      (attributesOf? w.zones .stringRegexReplace arg) := by
  have hheld := hb.holds "regex"
  have hstored : ∀ {t : Datum} {x : Value}, w.Holds t x →
      Makes w r c (do
          Run.setField (.ref r) "regex" x
          Run.setField (.ref r) "replacement" (b.value "replacement")) v
        (some [("regex", t), ("replacement", arg "replacement")]) := by
    intro t x hx
    refine .setField_bind h "regex" (by simp) (.of_holds hx) fun v' hm _ => ?_
    exact .setField hm "replacement" (by simp) (.of_holds (hb.holds _))
  have hset : setUp d .stringRegexReplace (.ref r) b =
    Texts.setUp (.ref r) (b.value "regex") (b.value "replacement") := rfl
  rw [hset]
  generalize b.value "regex" = x at hheld
  obtain ⟨a, ht, rfl⟩ | ⟨ht, hx⟩ := hheld.atom_or
  · rw [Texts.setUp]
    cases htext : a.text?.isSome with
    | false =>
      simp only [attributesOf?, ht, Datum.textCompiled?, htext, Bool.false_eq_true, if_false]
      exact hstored rfl
    | true =>
      simp only [attributesOf?, ht, Datum.textCompiled?, htext, if_true]
      obtain ⟨out, hres, hout⟩ | ⟨hout, e, hres⟩ := result_pattern (w := w) (t := .atom a) rfl v
      · rw [hout]
        refine .bind hres ?_
        cases out with
        | ok p => exact .bind (result_pure _ v) (hstored rfl)
        | error m => exact .fail_bind (result_throw _ v)
      · rw [hout]
        exact .fail_bind hres
  · simp only [attributesOf?, (kept_of_ne_atom ht).2]
    cases x with
    | atom a => exact absurd rfl (hx a)
    | _ => exact hstored hheld

end Construction

end FunctionObjects
