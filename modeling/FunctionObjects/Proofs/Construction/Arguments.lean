import FunctionObjects.Call.Construction
/-!
# What parameters are bound to

A parameter stands for an argument or for its default, and arguments by name alone fill exactly the
parameters of their names.
-/

namespace FunctionObjects

/-- The atoms that parameters have for their defaults. -/
def Atom.isPlain : Atom → Bool
  | .none => true
  | .bool _ => true
  | .int _ => true
  | .str _ => true
  | _ => false

namespace Param

/-- A parameter that can be given by position or by name and that has a plain atom for its default. -/
def isPreset (p : Param) : Bool :=
  match p.default with
  | some (.atom a) => a.isPlain && p.kind == .standard
  | _ => false

variable {p : Param}

theorem isPreset_iff : p.isPreset = true ↔
    ∃ a, p.default = some (.atom a) ∧ a.isPlain = true ∧ p.kind = .standard := by
  unfold isPreset
  split
  · rename_i a ha
    simp [ha]
  · rename_i hdefault
    simp only [Bool.false_eq_true, false_iff, not_exists, not_and]
    intro a ha
    exact absurd ha (hdefault a)

theorem kind_of_isPreset (h : p.isPreset = true) : p.kind = .standard := by
  obtain ⟨a, -, -, hkind⟩ := isPreset_iff.mp h
  exact hkind

theorem default_of_isPreset (h : p.isPreset = true) :
    ∃ a, p.default = some (.atom a) ∧ a.isPlain = true := by
  obtain ⟨a, ha, hplain, -⟩ := isPreset_iff.mp h
  exact ⟨a, ha, hplain⟩

theorem isNamed_of_isPreset (h : p.isPreset = true) : p.isNamed = true := by
  simp [isNamed, kind_of_isPreset h]

end Param

namespace Binding

variable {ps : List Param} {args : Arguments} {b : Binding}

/-- Where the value of a parameter comes from. -/
def IsSource (args : Arguments) (p : Param) (v : Value) : Prop :=
  v ∈ args.positional ∨ v ∈ args.named.map (·.2) ∨ p.default = some v

theorem mem_of_lookup {α : Type} {es : List (String × α)} {n : String} {v : α}
    (h : es.lookup n = some v) : (n, v) ∈ es := by
  induction es with
  | nil => simp at h
  | cons e es ih =>
    obtain ⟨m, u⟩ := e
    simp only [List.lookup_cons] at h
    split at h
    · rename_i heq
      obtain rfl : n = m := by simpa using heq
      obtain rfl := Option.some.inj h
      exact List.mem_cons_self
    · exact List.mem_cons_of_mem _ (ih h)

theorem isSource_of_valueOf {given : List (String × Value)} {p : Param} {e : Param × Value}
    (hgiven : ∀ n v, (n, v) ∈ given → v ∈ args.positional)
    (h : valueOf given args.named p = some e) : e.1 = p ∧ IsSource args p e.2 := by
  simp only [valueOf] at h
  split at h
  · simp at h
  · rename_i v hv _
    obtain rfl := Option.some.inj h
    exact ⟨rfl, .inl (hgiven _ _ (mem_of_lookup hv))⟩
  · rename_i v _ hv
    obtain rfl := Option.some.inj h
    split at hv
    · exact ⟨rfl, .inr (.inl (List.mem_map.mpr ⟨_, mem_of_lookup hv, rfl⟩))⟩
    · simp at hv
  · obtain ⟨v, hv, rfl⟩ := Option.map_eq_some_iff.mp h
    exact ⟨rfl, .inr (.inr hv)⟩

theorem mapM_valueOf {given : List (String × Value)} {es : List (Param × Value)}
    (hgiven : ∀ n v, (n, v) ∈ given → v ∈ args.positional)
    (h : ps.mapM (valueOf given args.named) = some es) :
    es.map (·.1) = ps ∧ ∀ e ∈ es, IsSource args e.1 e.2 := by
  induction ps generalizing es with
  | nil =>
    obtain rfl : [] = es := by simpa using h
    simp
  | cons p ps ih =>
    simp only [List.mapM_cons, Option.bind_eq_bind, Option.bind_eq_some_iff] at h
    obtain ⟨e, he, es', hes, hcons⟩ := h
    obtain rfl : e :: es' = es := by simpa using hcons
    obtain ⟨hp, hsource⟩ := isSource_of_valueOf hgiven he
    obtain ⟨hps, hrest⟩ := ih hes
    refine ⟨by simp [hp, hps], ?_⟩
    intro e' he'
    rcases List.mem_cons.mp he' with rfl | he'
    · rwa [hp]
    · exact hrest e' he'

/-- Every parameter is bound, to an argument or to its default. -/
theorem of_ok (hps : ∀ p ∈ ps, p.isPreset = true) (h : of ps args = .ok b) :
    b.values.map (·.1) = ps ∧ ∀ e ∈ b.values, IsSource args e.1 e.2 := by
  have hsingle : (ps.filter fun p => p.kind != .rest && p.kind != .keywords) = ps := by
    rw [List.filter_eq_self]
    intro p hp
    simp [Param.kind_of_isPreset (hps p hp)]
  have hgiven : ∀ n v, (n, v) ∈ ((ps.filter Param.isPositional).map (·.name)).zip args.positional →
      v ∈ args.positional := fun n v hv => (List.of_mem_zip hv).2
  simp only [of, hsingle] at h
  cases hes : ps.mapM (valueOf (((ps.filter Param.isPositional).map (·.name)).zip args.positional)
      args.named) with
  | none =>
    rw [hes] at h
    simp only [bind, Except.bind] at h
    split at h <;> simp at h
    split at h <;> simp at h
  | some es =>
    rw [hes] at h
    have hb : b.values = es := by
      simp only [bind, Except.bind] at h
      split at h
      · simp at h
      · split at h
        · simp at h
        · simp [pure, Except.pure] at h
          rw [← h]
    rw [hb]
    exact mapM_valueOf hgiven hes

/-- What a parameter stands for if arguments are given by name only. -/
def named (args : List (String × Value)) (p : Param) : Value :=
  (args.lookup p.name).getD (p.default.getD .none)

/-- Arguments by name fill the parameters of their names, all others are at their defaults. -/
theorem of_named {args : List (String × Value)} (hps : ∀ p ∈ ps, p.isPreset = true)
    (hargs : ∀ e ∈ args, ∃ p ∈ ps, p.name = e.1) :
    of ps ⟨[], args⟩ = .ok ⟨ps.map fun p => (p, named args p), [], []⟩ := by
  have hsingle : (ps.filter fun p => p.kind != .rest && p.kind != .keywords) = ps := by
    rw [List.filter_eq_self]
    intro p hp
    simp [Param.kind_of_isPreset (hps p hp)]
  have hextra : (args.filter fun e => !ps.any fun p => p.isNamed && p.name == e.1) = [] := by
    rw [List.filter_eq_nil_iff]
    intro e he
    obtain ⟨p, hp, hname⟩ := hargs e he
    simp only [Bool.not_eq_true, Bool.not_eq_false', List.any_eq_true]
    exact ⟨p, hp, by simp [hname, Param.isNamed_of_isPreset (hps p hp)]⟩
  have hvalues : ps.mapM (valueOf [] args) = some (ps.map fun p => (p, named args p)) := by
    clear hsingle hextra hargs
    induction ps with
    | nil => rfl
    | cons p ps ih =>
      have hp := hps p List.mem_cons_self
      obtain ⟨a, ha, -⟩ := Param.default_of_isPreset hp
      have hvalue : valueOf [] args p = some (p, named args p) := by
        simp only [valueOf, Param.isNamed_of_isPreset hp, if_true, List.lookup_nil, named]
        cases args.lookup p.name <;> simp [ha]
      rw [List.mapM_cons, hvalue, ih fun q hq => hps q (List.mem_cons_of_mem p hq)]
      rfl
  simp [of, hsingle, hextra, hvalues]
  rfl

theorem value_map (f : Param → Value) (name : String) :
    value ⟨ps.map fun p => (p, f p), [], []⟩ name =
      ((ps.find? fun p => p.name == name).map f).getD .none := by
  simp only [value]
  rw [List.find?_map]
  simp [Function.comp_def]

end Binding

end FunctionObjects
