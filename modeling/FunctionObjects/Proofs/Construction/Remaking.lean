import FunctionObjects.Proofs.Construction.Arguments
import FunctionObjects.Proofs.Construction.Attributes
/-!
# Objects made of their own properties

What a constructor does to its parameters it does only once: given the properties of an object, it
makes an object with the same attributes.  A list of no items may be left out for it, and an
expression may be given as its text where the constructor compiles texts.
-/

namespace FunctionObjects

open LibraryClass

namespace Pattern

/-- An expression with exactly the flags that its text has by itself. -/
def IsPlain (p : Pattern) : Prop := read p.source p.binary 0 = .ok p

/-- The text or the bytes of an expression. -/
def spelled (p : Pattern) : Atom :=
  if p.binary then .bytes (p.source.toList.map Char.toNat) else .str p.source

end Pattern

namespace Datum

variable {t : Datum}

theorem listed?_list (ts : List Datum) : (Datum.list ts).listed? = some (.list ts) := by
  cases ts <;> rfl

/-- A listed datum is a list of its items. -/
theorem eq_list_of_listed {l : Datum} (h : t.listed? = some l) : ∃ ts, l = .list ts := by
  unfold listed? at h
  split at h
  · obtain ⟨ts, -, rfl⟩ := Option.map_eq_some_iff.mp h
    exact ⟨ts, rfl⟩
  · obtain rfl := Option.some.inj h
    exact ⟨[], rfl⟩

theorem compiled?_spelled {p : Pattern} (hp : p.IsPlain) :
    (Datum.atom p.spelled).compiled? = some (.atom (.pattern p)) := by
  rw [Pattern.IsPlain] at hp
  cases hb : p.binary with
  | false =>
    rw [hb] at hp
    simp [Pattern.spelled, hb, compiled?, Atom.text?, hp, Except.toOption]
  | true =>
    have hsource : String.ofList ((p.source.toList.map Char.toNat).map Char.ofNat) = p.source := by
      simp [Function.comp_def]
    rw [hb] at hp
    simp only [Pattern.spelled, hb, if_true, compiled?, Atom.text?, Atom.bytes?, hsource, hp]
    rfl

theorem isNone_spelled (p : Pattern) : (Datum.atom p.spelled).isNone = false := by
  unfold Pattern.spelled
  split <;> rfl

/-- What is compiled is an expression. -/
theorem eq_pattern_of_compiled {u : Datum} (h : t.compiled? = some u) :
    ∃ p, u = .atom (.pattern p) := by
  unfold compiled? at h
  split at h
  · exact ⟨_, (Option.some.inj h).symm⟩
  · split at h
    · obtain ⟨p, -, rfl⟩ := Option.map_eq_some_iff.mp h
      exact ⟨p, rfl⟩
    · obtain ⟨p, -, rfl⟩ := Option.map_eq_some_iff.mp h
      exact ⟨p, rfl⟩
    · simp at h
  · simp at h

theorem loaded?_loaded {u : Datum} (h : t.loaded? = some u) : u.loaded? = some u := by
  unfold loaded? at h
  split at h
  · split at h
    · obtain ⟨c, -, rfl⟩ := Option.map_eq_some_iff.mp h
      rfl
    · rename_i a htext
      obtain rfl := Option.some.inj h
      simp [loaded?, htext]
  · rename_i hatom
    obtain rfl := Option.some.inj h
    cases t with
    | atom a => exact absurd rfl (hatom a)
    | _ => rfl

theorem textCompiled?_textCompiled {u : Datum} (h : t.textCompiled? = some u) :
    u.textCompiled? = some u := by
  unfold textCompiled? at h
  split at h
  · split at h
    · obtain ⟨p, rfl⟩ := eq_pattern_of_compiled h
      rfl
    · rename_i a htext
      obtain rfl := Option.some.inj h
      simp [textCompiled?, htext]
  · rename_i hatom
    obtain rfl := Option.some.inj h
    cases t with
    | atom a => exact absurd rfl (hatom a)
    | _ => rfl

theorem optionallyCompiled?_compiled {u : Datum} (h : t.optionallyCompiled? = some u) :
    u.optionallyCompiled? = some u := by
  unfold optionallyCompiled? at h
  split at h
  · rename_i hnone
    obtain rfl := Option.some.inj h
    simp [optionallyCompiled?, hnone]
  · obtain ⟨p, rfl⟩ := eq_pattern_of_compiled h
    rfl

theorem allCompiled?_list {ts us : List Datum} (h : ts.mapM compiled? = some us) :
    (Datum.list ts).allCompiled? = some (.list us) := by
  cases ts with
  | nil =>
    obtain rfl : [] = us := by simpa using h
    rfl
  | cons t ts => simp [allCompiled?, truth, items?, h]

theorem mapM_compiled {ts us : List Datum} (h : ts.mapM compiled? = some us) :
    us.mapM compiled? = some us := by
  induction ts generalizing us with
  | nil =>
    obtain rfl : [] = us := by simpa using h
    rfl
  | cons t ts ih =>
    simp only [List.mapM_cons, Option.bind_eq_bind, Option.bind_eq_some_iff] at h
    obtain ⟨u, hu, us', hus, hcons⟩ := h
    obtain rfl : u :: us' = us := by simpa using hcons
    obtain ⟨p, rfl⟩ := eq_pattern_of_compiled hu
    simp [ih hus, compiled?]

theorem allCompiled?_compiled {u : Datum} (h : t.allCompiled? = some u) :
    u.allCompiled? = some u := by
  obtain ⟨ts, -, hts⟩ := Option.bind_eq_some_iff.mp h
  obtain ⟨us, hus, rfl⟩ := Option.map_eq_some_iff.mp hts
  exact allCompiled?_list (mapM_compiled hus)

theorem mapM_compiled_spelled {ps : List Pattern} (h : ∀ p ∈ ps, p.IsPlain) :
    (ps.map fun p => Datum.atom p.spelled).mapM compiled? =
      some (ps.map fun p => .atom (.pattern p)) := by
  induction ps with
  | nil => rfl
  | cons p ps ih =>
    have hp := compiled?_spelled (h p List.mem_cons_self)
    have hps := ih fun q hq => h q (List.mem_cons_of_mem p hq)
    simp only [List.map_cons, List.mapM_cons, hp, hps]
    rfl

theorem upper_units : ∀ e ∈ Dates.units, Text.upper e.1 = e.1 := by decide

theorem upper_unit {name : String} {n : Int} (h : Dates.units.lookup name = some n) :
    Text.upper name = name :=
  upper_units (name, n) (Binding.mem_of_lookup h)

theorem unit?_unit {u : Datum} (h : t.unit? = some u) : u.unit? = some u := by
  unfold unit? at h
  split at h
  · obtain ⟨s, -, h⟩ := Option.bind_eq_some_iff.mp h
    dsimp only at h
    split at h
    · rename_i hs
      obtain rfl := Option.some.inj h
      obtain ⟨n, hn⟩ := Option.isSome_iff_exists.mp hs
      generalize Text.upper s = name at hn hs
      simp [unit?, Atom.text?, upper_unit hn, hs]
    · simp at h
  · simp at h

end Datum

/-- Expressions that a constructor compiles again, with what is written for them. -/
inductive Recompiled : LibraryClass → String → Datum → Datum → Prop
  | value {p : Pattern} (h : p.IsPlain) :
    Recompiled .regex "value" (.atom (.pattern p)) (.atom p.spelled)
  | regex {p : Pattern} (h : p.IsPlain) (htext : p.binary = false) :
    Recompiled .stringRegexReplace "regex" (.atom (.pattern p)) (.atom p.spelled)
  | patterns {ps : List Pattern} (h : ∀ p ∈ ps, p.IsPlain) :
    Recompiled .multiRegex "patterns" (.list (ps.map fun p => .atom (.pattern p)))
      (.list (ps.map fun p => .atom p.spelled))

/-- Where expressions are compiled again. -/
def Recompiled.places : List (LibraryClass × String) :=
  [(.regex, "value"), (.stringRegexReplace, "regex"), (.multiRegex, "patterns")]

theorem Recompiled.place {owner : LibraryClass} {name : String} {t u : Datum}
    (h : Recompiled owner name t u) : (owner, name) ∈ places := by
  cases h <;> decide

theorem Recompiled.shape {owner : LibraryClass} {name : String} {t u : Datum}
    (h : Recompiled owner name t u) :
    (∃ p a, t = .atom (.pattern p) ∧ u = .atom a) ∨ ∃ ts us, t = .list ts ∧ u = .list us := by
  cases h with
  | value => exact .inl ⟨_, _, rfl, rfl⟩
  | regex => exact .inl ⟨_, _, rfl, rfl⟩
  | patterns => exact .inr ⟨_, _, rfl, rfl⟩

/-- What a parameter may be given for a property of an object, to make the object again. -/
inductive Again (owner : LibraryClass) (name : String) : Datum → Datum → Prop
  | kept (t : Datum) : Again owner name t t
  | empty (h : name ∈ owner.listed) : Again owner name (.list []) .none
  | recompiled {t u : Datum} (h : Recompiled owner name t u) : Again owner name t u

namespace Again

variable {owner : LibraryClass} {name : String} {t u l : Datum}

theorem eq_of_not_listed (h : Again owner name t u) (hw : name ∉ owner.listed)
    (hr : (owner, name) ∉ Recompiled.places) : u = t := by
  cases h with
  | kept => rfl
  | empty hlisted => exact absurd hlisted hw
  | recompiled hrec => exact absurd hrec.place hr

theorem listed (h : Again owner name l u) (hl : t.listed? = some l) (ho : owner ≠ .multiRegex) :
    u.listed? = some l := by
  obtain ⟨ts, rfl⟩ := Datum.eq_list_of_listed hl
  cases h with
  | kept => exact Datum.listed?_list ts
  | empty => rfl
  | recompiled hrec =>
    cases hrec with
    | patterns => exact absurd rfl ho

end Again

namespace LibraryClass

/-- What is set under a name on the adapter in a slot. -/
def onAdapter? (as : List (String × Datum)) (slot name : String) : Option Datum :=
  match as.lookup slot with
  | some (.object _ inner) => inner.lookup name
  | _ => none

/-- What a property of an object is: what is set under its name, or on one of its adapters. -/
def property? (k : LibraryClass) (as : List (String × Datum)) (name : String) : Option Datum :=
  match k.properties.lookup name with
  | some .selection => onAdapter? as "input_adapter" "selection"
  | some .foldProjection => onAdapter? as "output_fold" "projection"
  | _ => as.lookup name

variable {zones : Time.Zones} {owner : LibraryClass} {arg given : String → Datum} {as : List (String × Datum)}

theorem lookup_params {ps : List Param} (hnodup : (ps.map Param.name).Nodup) {p : Param}
    (hp : p ∈ ps) : (ps.map fun p => (p.name, arg p.name)).lookup p.name = some (arg p.name) := by
  induction ps with
  | nil => simp at hp
  | cons q ps ih =>
    rw [List.map_cons, List.nodup_cons] at hnodup
    rcases List.mem_cons.mp hp with rfl | hp
    · simp
    · have hne : p.name ≠ q.name := by
        intro heq
        exact hnodup.1 (heq ▸ List.mem_map.mpr ⟨p, hp, rfl⟩)
      rw [List.map_cons, List.lookup_cons, beq_eq_false_iff_ne.mpr hne]
      exact ih hnodup.2 hp

/-- An object that stores its parameters is made of them again. -/
theorem stored_again
    (hstored : ∀ arg, attributesOf? zones owner arg =
      some ((owner.parameters?.getD []).map fun p => (p.name, arg p.name)))
    (hnodup : ((owner.parameters?.getD []).map Param.name).Nodup)
    (hplain : ∀ p ∈ owner.parameters?.getD [], owner.properties.lookup p.name = none)
    (hlisted : owner.listed = [])
    (hrec : owner ∉ Recompiled.places.map (·.1))
    (h : attributesOf? zones owner arg = some as)
    (hagain : ∀ p ∈ owner.parameters?.getD [], ∃ t, owner.property? as p.name = some t ∧
      Again owner p.name t (given p.name)) : attributesOf? zones owner given = some as := by
  rw [hstored] at h ⊢
  obtain rfl := Option.some.inj h
  congr 1
  apply List.map_congr_left
  intro p hp
  obtain ⟨t, ht, ha⟩ := hagain p hp
  rw [property?, hplain p hp, lookup_params hnodup hp] at ht
  obtain rfl := Option.some.inj ht
  rw [ha.eq_of_not_listed (by simp [hlisted]) fun hplace => hrec (List.mem_map.mpr ⟨_, hplace, rfl⟩)]

/-- The parameters of an object are given again. -/
def GivenAgain (owner : LibraryClass) (as : List (String × Datum)) (arg : String → Datum) : Prop :=
  ∀ p ∈ owner.parameters?.getD [], ∃ t, owner.property? as p.name = some t ∧
    Again owner p.name t (arg p.name)

/-- One parameter that is given again. -/
theorem GivenAgain.get (h : GivenAgain owner as given) (name : String) {t : Datum}
    (hname : ∃ p ∈ owner.parameters?.getD [], p.name = name)
    (ht : owner.property? as name = some t) : Again owner name t (given name) := by
  obtain ⟨p, hp, rfl⟩ := hname
  obtain ⟨u, hu, ha⟩ := h p hp
  rw [ht] at hu
  obtain rfl := Option.some.inj hu
  exact ha

/-- One parameter that is given as it is. -/
theorem GivenAgain.same (h : GivenAgain owner as given) (name : String) {t : Datum}
    (hname : ∃ p ∈ owner.parameters?.getD [], p.name = name)
    (ht : owner.property? as name = some t) (hw : name ∉ owner.listed)
    (hr : (owner, name) ∉ Recompiled.places) : given name = t :=
  (h.get name hname ht).eq_of_not_listed hw hr

theorem slots_eq {slots : List (String × Datum)} (h : slotsOf? arg = some slots) :
    slots = [("input_adapter", arg "input_adapter"), ("output_adapter", arg "output_adapter"),
      ("output_fold", arg "output_fold")] := by
  obtain ⟨outputs, houtputs, hslots⟩ := Option.bind_eq_some_iff.mp h
  obtain rfl := Option.some.inj hslots
  unfold outputs? at houtputs
  split at houtputs
  · simp at houtputs
  · obtain rfl := Option.some.inj houtputs
    rfl

theorem slotsOf?_congr (hinput : given "input_adapter" = arg "input_adapter")
    (houtput : given "output_adapter" = arg "output_adapter")
    (hfold : given "output_fold" = arg "output_fold") : slotsOf? given = slotsOf? arg := by
  simp only [slotsOf?, hinput, houtput, hfold]

theorem listed_again (name : String) (hparams : ∃ p ∈ owner.parameters?.getD [], p.name = name)
    (hprop : owner.properties.lookup name = none) (ho : owner ≠ .multiRegex) {t : Datum}
    (h : (do return [(name, ← t.listed?)]) = some as) (hagain : GivenAgain owner as given) :
    (do return [(name, ← (given name).listed?)]) = some as := by
  obtain ⟨l, hl, has⟩ := Option.bind_eq_some_iff.mp h
  obtain rfl := Option.some.inj has
  have hget := hagain.get name hparams (t := l) (by simp [property?, hprop])
  obtain ⟨ts, rfl⟩ := Datum.eq_list_of_listed hl
  rw [hget.listed (Datum.listed?_list ts) ho]
  rfl

/-- Every object is made again of its own properties. -/
theorem attributesOf?_again (h : attributesOf? zones owner arg = some as)
    (hagain : GivenAgain owner as given) : attributesOf? zones owner given = some as := by
  cases owner with
  | functionComposite => exact listed_again "functions" (by decide) rfl (by decide) h hagain
  | predicateComposite => exact listed_again "predicates" (by decide) rfl (by decide) h hagain
  | tupleInputAdapter => exact listed_again "selection" (by decide) rfl (by decide) h hagain
  | tupleOutputAdapter => exact listed_again "projection" (by decide) rfl (by decide) h hagain
  | areIn => exact listed_again "values" (by decide) rfl (by decide) h hagain
  | outputAdapted =>
    simp only [attributesOf?, outputs?] at h
    split at h
    · simp at h
    · rename_i hclash
      obtain rfl := Option.some.inj h
      have hadapter := hagain.same "output_adapter" (by decide) rfl (by decide) (by decide)
      have hfold := hagain.same "output_fold" (by decide) rfl (by decide) (by decide)
      simp only [attributesOf?, outputs?, hadapter, hfold, if_neg hclash]
  | adapted =>
    have hslots := slots_eq h
    subst hslots
    have hinput := hagain.same "input_adapter" (by decide) rfl (by decide) (by decide)
    have houtput := hagain.same "output_adapter" (by decide) rfl (by decide) (by decide)
    have hfold := hagain.same "output_fold" (by decide) rfl (by decide) (by decide)
    rw [attributesOf?, slotsOf?_congr hinput houtput hfold]
    exact h
  | adaptedFunction =>
    obtain ⟨slots, hslots, has⟩ := Option.bind_eq_some_iff.mp h
    obtain rfl := slots_eq hslots
    obtain rfl := Option.some.inj has
    have hinput := hagain.same "input_adapter" (by decide) rfl (by decide) (by decide)
    have houtput := hagain.same "output_adapter" (by decide) rfl (by decide) (by decide)
    have hfold := hagain.same "output_fold" (by decide) rfl (by decide) (by decide)
    have hfunction := hagain.same "function" (by decide) rfl (by decide) (by decide)
    simp only [attributesOf?, slotsOf?_congr hinput houtput hfold, hslots, hfunction]
    rfl
  | adaptedBinaryOperator =>
    obtain ⟨slots, hslots, has⟩ := Option.bind_eq_some_iff.mp h
    obtain rfl := slots_eq hslots
    obtain rfl := Option.some.inj has
    have hinput := hagain.same "input_adapter" (by decide) rfl (by decide) (by decide)
    have houtput := hagain.same "output_adapter" (by decide) rfl (by decide) (by decide)
    have hfold := hagain.same "output_fold" (by decide) rfl (by decide) (by decide)
    have hoperator := hagain.same "binary_operator" (by decide) rfl (by decide) (by decide)
    simp only [attributesOf?, slotsOf?_congr hinput houtput hfold, hslots, hoperator]
    rfl
  | adaptedPredicate =>
    obtain rfl := Option.some.inj h
    have hinput := hagain.same "input_adapter" (by decide) rfl (by decide) (by decide)
    have hpredicate := hagain.same "predicate" (by decide) rfl (by decide) (by decide)
    simp only [attributesOf?, hinput, hpredicate]
  | tupleAdaptedFunction =>
    obtain ⟨selection, hselection, h⟩ := Option.bind_eq_some_iff.mp h
    obtain ⟨projection, hprojection, h⟩ := Option.bind_eq_some_iff.mp h
    obtain rfl := Option.some.inj h
    obtain ⟨ss, rfl⟩ := Datum.eq_list_of_listed hselection
    obtain ⟨ps, rfl⟩ := Datum.eq_list_of_listed hprojection
    have hfunction := hagain.same "function" (by decide) rfl (by decide) (by decide)
    have hs := hagain.get "selection" (by decide) (t := .list ss) rfl
    have hp := hagain.get "projection" (by decide) (t := .list ps) rfl
    simp only [attributesOf?, hs.listed (Datum.listed?_list ss) (by decide),
      hp.listed (Datum.listed?_list ps) (by decide), hfunction]
    rfl
  | tupleAdaptedPredicate =>
    obtain ⟨selection, hselection, h⟩ := Option.bind_eq_some_iff.mp h
    obtain rfl := Option.some.inj h
    obtain ⟨ss, rfl⟩ := Datum.eq_list_of_listed hselection
    have hpredicate := hagain.same "predicate" (by decide) rfl (by decide) (by decide)
    have hs := hagain.get "selection" (by decide) (t := .list ss) rfl
    simp only [attributesOf?, hs.listed (Datum.listed?_list ss) (by decide), hpredicate]
    rfl
  | parseTime =>
    obtain ⟨unit, hunit, h⟩ := Option.bind_eq_some_iff.mp h
    split at h
    · rename_i hzone
      obtain rfl := Option.some.inj h
      have hformat := hagain.same "format" (by decide) rfl (by decide) (by decide)
      have hz := hagain.same "time_zone" (by decide) rfl (by decide) (by decide)
      have hu := hagain.same "time_unit" (by decide) rfl (by decide) (by decide)
      simp only [attributesOf?, hu, Datum.unit?_unit hunit, hz, hzone, hformat]
      rfl
    · simp at h
  | csvOptions =>
    obtain ⟨header, hheader, h⟩ := Option.bind_eq_some_iff.mp h
    split at h
    · rename_i hchecks
      obtain rfl := Option.some.inj h
      obtain ⟨names, rfl⟩ := Datum.eq_list_of_listed hheader
      have hh := hagain.get "header" (by decide) (t := .list names) rfl
      have hfirst := hagain.same "first_row" (by decide) rfl (by decide) (by decide)
      have hdelimiter := hagain.same "delimiter" (by decide) rfl (by decide) (by decide)
      have hquoted := hagain.same "quoted" (by decide) rfl (by decide) (by decide)
      have hquote := hagain.same "quote_char" (by decide) rfl (by decide) (by decide)
      simp only [attributesOf?, hh.listed (Datum.listed?_list names) (by decide), hfirst, hdelimiter,
        hquoted, hquote, hchecks]
      rfl
    · simp at h
  | divideBy =>
    simp only [attributesOf?] at h
    split at h
    · simp at h
    · rename_i hzero
      obtain rfl := Option.some.inj h
      have hby := hagain.same "by" (by decide) rfl (by decide) (by decide)
      simp only [attributesOf?, hby, if_neg hzero]
  | stringRegexReplace =>
    obtain ⟨u, hu, h⟩ := Option.bind_eq_some_iff.mp h
    obtain rfl := Option.some.inj h
    have hreplacement := hagain.same "replacement" (by decide) rfl (by decide) (by decide)
    have hregex : (given "regex").textCompiled? = some u := by
      generalize harg : given "regex" = u'
      have hget := hagain.get "regex" (by decide) (t := u) rfl
      rw [harg] at hget
      cases hget with
      | kept => exact Datum.textCompiled?_textCompiled hu
      | empty hw => exact absurd hw (by decide)
      | recompiled hr =>
        cases hr with
        | regex hp htext =>
          have hspelled := Datum.compiled?_spelled hp
          simp only [Pattern.spelled, htext, Bool.false_eq_true, if_false] at hspelled ⊢
          exact hspelled
    simp only [attributesOf?, hregex, hreplacement]
    rfl
  | isA =>
    obtain ⟨u, hu, h⟩ := Option.bind_eq_some_iff.mp h
    obtain rfl := Option.some.inj h
    have htype := hagain.same "type_" (by decide) rfl (by decide) (by decide)
    simp only [attributesOf?, htype, Datum.loaded?_loaded hu]
    rfl
  | regex =>
    obtain ⟨u, hu, h⟩ := Option.bind_eq_some_iff.mp h
    obtain rfl := Option.some.inj h
    have hvalue : (given "value").optionallyCompiled? = some u := by
      generalize harg : given "value" = u'
      have hget := hagain.get "value" (by decide) (t := u) rfl
      rw [harg] at hget
      cases hget with
      | kept => exact Datum.optionallyCompiled?_compiled hu
      | empty hw => exact absurd hw (by decide)
      | recompiled hr =>
        cases hr with
        | value hp =>
          rw [Datum.optionallyCompiled?, Datum.isNone_spelled]
          exact Datum.compiled?_spelled hp
    simp only [attributesOf?, hvalue]
    rfl
  | multiRegex =>
    obtain ⟨u, hu, h⟩ := Option.bind_eq_some_iff.mp h
    obtain rfl := Option.some.inj h
    have hpatterns : (given "patterns").allCompiled? = some u := by
      generalize harg : given "patterns" = u'
      have hget := hagain.get "patterns" (by decide) (t := u) rfl
      rw [harg] at hget
      cases hget with
      | kept => exact Datum.allCompiled?_compiled hu
      | empty => rfl
      | recompiled hr =>
        cases hr with
        | patterns hps => exact Datum.allCompiled?_list (Datum.mapM_compiled_spelled hps)
    simp only [attributesOf?, hpatterns]
    rfl
  | _ => exact stored_again (fun _ => rfl) (by decide) (by decide) rfl (by decide) h hagain

end LibraryClass

end FunctionObjects
