import FunctionObjects.Proofs.Construction.SetUp
/-!
# Constructors that check what they are given

A reader of moments needs a unit and a known time zone, a divisor must not be zero, and a layout of
texts needs single characters and a first row that is not below zero.
-/

namespace FunctionObjects

open Run World LibraryClass

variable {w v : World} {r : Ref} {c : ClassName} {t : Datum} {x : Value}

namespace Construction

variable (d : Dispatch) {b : Binding} {arg : String → Datum}

theorem result_unitName (h : w.Holds t x) (v : World) :
    (∃ name, t.unit? = some (.atom (.str name)) ∧ (Dates.unitName x).result v = (.ok name, v)) ∨
      (t.unit? = none ∧ ∃ e, (Dates.unitName x).result v = (.error e, v)) := by
  obtain ⟨a, rfl, rfl⟩ | ⟨ht, hx⟩ := h.atom_or
  · cases htext : a.text? with
    | none => exact .inr ⟨by simp [Datum.unit?, htext], .noAttribute, by
        simp [Dates.unitName, result_bind, htext]⟩
    | some s =>
      cases hu : (Dates.units.lookup (Text.upper s)).isSome with
      | true => exact .inl ⟨Text.upper s, by simp [Datum.unit?, htext, hu], by
          simp [Dates.unitName, result_bind, htext, hu]⟩
      | false => exact .inr ⟨by simp [Datum.unit?, htext, hu], _, by
          simp [Dates.unitName, result_bind, htext, hu]; rfl⟩
  · refine .inr ⟨?_, .noAttribute, ?_⟩
    · cases t with
      | atom a => exact absurd rfl (ht a)
      | _ => rfl
    · cases x with
      | atom a => exact absurd rfl (hx a)
      | _ => rfl

theorem result_zone (h : w.Holds t x) (hn : t.isNone = false) (v : World) :
    (t.isZone v.zones = true ∧ ∃ z, (Dates.zone x).result v = (.ok z, v)) ∨
      (t.isZone v.zones = false ∧ ∃ e, (Dates.zone x).result v = (.error e, v)) := by
  obtain ⟨a, rfl, rfl⟩ | ⟨ht, hx⟩ := h.atom_or
  · have hzone : (Datum.atom a).isZone v.zones = (a.text?.bind v.zones).isSome := by
      cases a with
      | none => simp [Datum.isNone] at hn
      | _ => rfl
    rw [hzone]
    cases htext : a.text? with
    | none => exact .inr ⟨rfl, .wrongType, by simp [Dates.zone, result_bind, htext]⟩
    | some s =>
      cases hz : v.zones s with
      | none => exact .inr ⟨by simp [hz], .unknownTimeZone s, by
          simp [Dates.zone, result_bind, htext, hz]⟩
      | some z => exact .inl ⟨by simp [hz], z, by simp [Dates.zone, result_bind, htext, hz]⟩
  · refine .inr ⟨?_, .wrongType, ?_⟩
    · cases t with
      | atom a => exact absurd rfl (ht a)
      | _ => rfl
    · cases x with
      | atom a => exact absurd rfl (hx a)
      | _ => rfl

/-- Storing the parts of a reader of moments. -/
theorem makes_readerFields (h : Making w r c [] v) (hb : Given w .parseTime b arg) (name : String) :
    Makes w r c (do
        Run.setField (.ref r) "format" (b.value "format")
        Run.setField (.ref r) "time_zone" (b.value "time_zone")
        Run.setField (.ref r) "time_unit" (.str name)) v
      (some [("format", arg "format"), ("time_zone", arg "time_zone"),
        ("time_unit", .atom (.str name))]) := by
  refine .setField_bind h "format" (by simp) (.of_holds (hb.holds "format")) fun v₁ hm₁ _ => ?_
  refine .setField_bind hm₁ "time_zone" (by simp) (.of_holds (hb.holds "time_zone"))
    fun v₂ hm₂ _ => ?_
  exact .setField hm₂ "time_unit" (by simp) (.of_holds rfl)

theorem makes_parseTime (h : Making w r c [] v) (hb : Given w .parseTime b arg) :
    Makes w r c (setUp d .parseTime (.ref r) b) v (attributesOf? w.zones .parseTime arg) := by
  obtain ⟨name, hunit, hres⟩ | ⟨hunit, e, hres⟩ := result_unitName (hb.holds "time_unit") v
  · have hstored := makes_readerFields h hb name
    have hnone := (hb.holds "time_zone").isNone_eq
    cases hn : (arg "time_zone").isNone with
    | true =>
      have hzone : (arg "time_zone").isZone w.zones = true := by
        unfold Datum.isNone at hn
        split at hn <;> simp_all [Datum.isZone]
      simp only [attributesOf?, hunit, hzone]
      refine .bind hres ?_
      simp only [hnone, hn, Bool.not_true, Bool.false_eq_true, if_false]
      exact hstored
    | false =>
      have hfound := result_zone (hb.holds "time_zone") hn v
      rw [h.grows.zones] at hfound
      obtain ⟨hzone, z, hres'⟩ | ⟨hzone, e, hres'⟩ := hfound
      · simp only [attributesOf?, hunit, hzone]
        refine .bind hres ?_
        simp only [hnone, hn, Bool.not_false, if_true]
        exact .bind hres' hstored
      · simp only [attributesOf?, hunit, hzone]
        refine .bind hres ?_
        simp only [hnone, hn, Bool.not_false, if_true]
        exact .fail_bind hres'
  · simp only [attributesOf?, hunit]
    exact .fail_bind hres

theorem makes_divideBy (h : Making w r c [] v) (hb : Given w .divideBy b arg) :
    Makes w r c (setUp d .divideBy (.ref r) b) v (attributesOf? w.zones .divideBy arg) := by
  have hread : v.read (b.value "by") = arg "by" := read_of_holds (h.grows.holds (hb.holds "by"))
  have hzero : (Run.same (b.value "by") (.int 0)).result v =
      (.ok ((arg "by").same (.atom (.int 0))), v) := by
    rw [result_same, hread]
    rfl
  cases hs : (arg "by").same (.atom (.int 0)) with
  | true =>
    simp only [attributesOf?, hs]
    refine .bind hzero ?_
    rw [hs]
    exact .fail rfl
  | false =>
    simp only [attributesOf?, hs]
    have hstore : Makes w r c (Run.setField (.ref r) "by" (b.value "by")) v
        (some [("by", arg "by")]) := .setField h "by" (by simp) (.of_holds (hb.holds "by"))
    refine .bind hzero ?_
    simpa [hs] using hstore

/-- A delimiter or quote has a length exactly as what it holds. -/
theorem result_isSingle (h : Making w r c [] v) (hx : w.Holds t x) (hs : w.isSteady x = true) :
    (t.isSingle = true ∧ (d.length x).result v = (.ok 1, v)) ∨
      (t.isSingle = false ∧ ((∃ n, n ≠ 1 ∧ (d.length x).result v = (.ok n, v)) ∨
        ∃ e, (d.length x).result v = (.error e, v))) := by
  have hlen := d.result_length h.grows hx hs
  cases hitems : t.items? with
  | none =>
    refine .inr ⟨by simp [Datum.isSingle, hitems], .inr ⟨.wrongType, ?_⟩⟩
    rw [hlen, hitems]
    rfl
  | some ts =>
    rw [hitems] at hlen
    by_cases hone : ts.length = 1
    · exact .inl ⟨by simp [Datum.isSingle, hitems, hone], by rw [hlen, Option.map_some, hone]; rfl⟩
    · exact .inr ⟨by simp [Datum.isSingle, hitems, hone], .inl ⟨ts.length, hone, by rw [hlen]; rfl⟩⟩

theorem result_isNatural (h : w.Grows v) (hx : w.Holds t x) :
    (t.isNatural = true ∧ (Run.holds .lt x (.int 0)).result v = (.ok false, v)) ∨
      (t.isNatural = false ∧ ((Run.holds .lt x (.int 0)).result v = (.ok true, v) ∨
        ∃ e, (Run.holds .lt x (.int 0)).result v = (.error e, v))) := by
  have hread : v.read x = t := read_of_holds (h.holds hx)
  have hholds : (Run.holds .lt x (.int 0)).result v =
      (Run.lift (Datum.rel v.isSubclass .lt t (.atom (.int 0)))).result v := by
    simp only [Run.holds, result_bind, result_get, hread]
    rfl
  cases t with
  | atom a =>
    rw [hholds, Datum.rel]
    cases hrel : a.rel .lt (.int 0) with
    | error e => exact .inr ⟨by simp [Datum.isNatural, hrel], .inr ⟨e, rfl⟩⟩
    | ok b => cases b <;> simp [Datum.isNatural, hrel]
  | _ =>
    refine .inr ⟨rfl, .inr ⟨.wrongType, ?_⟩⟩
    rw [hholds, Datum.rel]
    · simp [Datum.members?, Datum.bytes?, Atom.bytes?]
      rfl
    all_goals simp

/-- Storing how a text is laid out. -/
theorem makes_layout (h : Making w r c [] v) (hb : Given w .csvOptions b arg) :
    Makes w r c (do
        Run.setField (.ref r) "header" (← d.listOf (b.value "header"))
        Run.setField (.ref r) "first_row" (b.value "first_row")
        Run.setField (.ref r) "delimiter" (b.value "delimiter")
        Run.setField (.ref r) "quoted" (b.value "quoted")
        Run.setField (.ref r) "quote_char" (b.value "quote_char")) v
      (do
        let header ← (arg "header").listed?
        return [("header", header), ("first_row", arg "first_row"),
          ("delimiter", arg "delimiter"), ("quoted", arg "quoted"),
          ("quote_char", arg "quote_char")]) := by
  obtain ⟨l, y, v', hl, hres, hm, -, hy⟩ | ⟨hl, e, hres⟩ :=
    h.listOf d (hb.holds "header") (hb.steady _ (by decide))
  · rw [hl]
    refine .bind hres (.setField_bind hm "header" (by simp) hy fun v₁ hm₁ _ => ?_)
    refine .setField_bind hm₁ "first_row" (by simp) (.of_holds (hb.holds _)) fun v₂ hm₂ _ => ?_
    refine .setField_bind hm₂ "delimiter" (by simp) (.of_holds (hb.holds _)) fun v₃ hm₃ _ => ?_
    refine .setField_bind hm₃ "quoted" (by simp) (.of_holds (hb.holds _)) fun v₄ hm₄ _ => ?_
    exact .setField hm₄ "quote_char" (by simp) (.of_holds (hb.holds _))
  · rw [hl]
    exact .fail_bind hres

theorem makes_csvOptions (h : Making w r c [] v) (hb : Given w .csvOptions b arg) :
    Makes w r c (setUp d .csvOptions (.ref r) b) v (attributesOf? w.zones .csvOptions arg) := by
  have hrefused : (arg "delimiter").isSingle = false ∨ (arg "quote_char").isSingle = false ∨
      (arg "first_row").isNatural = false → attributesOf? w.zones .csvOptions arg = none := by
    intro hfalse
    cases hl : (arg "header").listed? with
    | none => simp [attributesOf?, hl]
    | some l => rcases hfalse with hf | hf | hf <;> simp [attributesOf?, hl, hf]
  obtain ⟨hd, hdelimiter⟩ | ⟨hd, ⟨n, hn, hdelimiter⟩ | ⟨e, hdelimiter⟩⟩ :=
    result_isSingle d h (hb.holds "delimiter") (hb.steady _ (by decide))
  · obtain ⟨hq, hquote⟩ | ⟨hq, ⟨n, hn, hquote⟩ | ⟨e, hquote⟩⟩ :=
      result_isSingle d h (hb.holds "quote_char") (hb.steady _ (by decide))
    · obtain ⟨hf, hfirst⟩ | ⟨hf, hfirst | ⟨e, hfirst⟩⟩ :=
        result_isNatural h.grows (hb.holds "first_row")
      · have hstored := makes_layout d h hb
        have hattributes : attributesOf? w.zones .csvOptions arg = (do
            let header ← (arg "header").listed?
            return [("header", header), ("first_row", arg "first_row"),
              ("delimiter", arg "delimiter"), ("quoted", arg "quoted"),
              ("quote_char", arg "quote_char")]) := by
          simp [attributesOf?, hd, hq, hf]
        rw [hattributes]
        exact .bind hdelimiter (.bind hquote (.bind hfirst hstored))
      · rw [hrefused (.inr (.inr hf))]
        exact .bind hdelimiter (.bind hquote (.bind hfirst (.bind (result_plain _ v) (.fail rfl))))
      · rw [hrefused (.inr (.inr hf))]
        exact .bind hdelimiter (.bind hquote (.fail_bind hfirst))
    · rw [hrefused (.inr (.inl hq))]
      refine .bind hdelimiter (.bind hquote ?_)
      rw [if_pos (by simpa using hn)]
      exact .bind (result_shown _ v) (.fail rfl)
    · rw [hrefused (.inr (.inl hq))]
      exact .bind hdelimiter (.fail_bind hquote)
  · rw [hrefused (.inl hd)]
    refine .bind hdelimiter ?_
    rw [if_pos (by simpa using hn)]
    exact .bind (result_shown _ v) (.fail rfl)
  · rw [hrefused (.inl hd)]
    exact .fail_bind hdelimiter

end Construction

end FunctionObjects
