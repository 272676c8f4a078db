import Mathlib.Data.List.Forall2
import FunctionObjects.Document.Spec
/-!
# What the entries of a dictionary specify

A specification that is found among the entries of a dictionary names the class that stands there and has
the other entries for its properties.  The state counts only for how problems are reported, and what the
entries hold is not looked at, the name of the class excepted.
-/

namespace FunctionObjects

variable {α β : Type} {w : World}

namespace Document

theorem lookup?_map (f : α → β) (es : List (Value × α)) (name : String) :
    lookup? (es.map fun e => (e.1, f e.2)) name = (lookup? es name).map f := by
  rw [lookup?, lookup?, List.find?_map, Option.map_map, Option.map_map]
  rfl

end Document

namespace Spec

variable {doc : α → Document} {es : List (Value × α)} {s : Spec α}

/-- The entries that do not name the class. -/
def others (es : List (Value × α)) : List (Value × α) :=
  es.filter fun e => (nameKey? es).isNone || Document.textOf? e.1 != nameKey? es

theorem ofEntries_eq (w : World) (doc : α → Document) (es : List (Value × α)) : ofEntries w doc es =
    match name doc es, problems ((others es).map (property w)) with
    | .ok n, [] => .ok ⟨n, ((others es).map (property w)).filterMap Except.toOption⟩
    | .ok _, ps => .error ps
    | .error e, ps => .error (e :: ps) := rfl

/-- A property that an entry gives. -/
def IsProperty (e : Value × α) (p : String × α) : Prop := asText? e.1 = .ok p.1 ∧ e.2 = p.2

theorem property_eq_ok_iff {e : Value × α} {p : String × α} :
    property w e = .ok p ↔ IsProperty e p := by
  obtain ⟨n, a⟩ := p
  rw [property, IsProperty]
  cases asText? e.1 with
  | error q => simp [throw, throwThe, MonadExceptOf.throw]
  | ok m => simp [pure, Except.pure]

/-- Without problems, every entry gives its property. -/
theorem problems_eq_nil_iff (ps : List (String × α)) :
    problems (es.map (property w)) = [] ∧ (es.map (property w)).filterMap Except.toOption = ps ↔
      List.Forall₂ IsProperty es ps := by
  induction es generalizing ps with
  | nil => simp [problems, eq_comm]
  | cons e es ih =>
    rw [List.forall₂_cons_left_iff]
    cases hproperty : property w e with
    | error d =>
      have hnone : ∀ p, ¬ IsProperty e p := fun p hp => by
        rw [← property_eq_ok_iff (w := w), hproperty] at hp
        cases hp
      simp [problems, hproperty, hnone]
    | ok p =>
      have honly : ∀ q, IsProperty e q ↔ q = p := fun q => by
        rw [← property_eq_ok_iff (w := w), hproperty, Except.ok.injEq, eq_comm]
      have hproblems : problems ((e :: es).map (property w)) = problems (es.map (property w)) := by
        simp [problems, hproperty]
      have hkept : ((e :: es).map (property w)).filterMap Except.toOption =
          p :: (es.map (property w)).filterMap Except.toOption := by
        rw [List.map_cons, List.filterMap_cons, hproperty]
        rfl
      simp only [hproblems, hkept, honly, ← ih]
      constructor
      · rintro ⟨hnil, rfl⟩
        exact ⟨p, _, rfl, ⟨hnil, rfl⟩, rfl⟩
      · rintro ⟨_, _, rfl, ⟨hnil, rfl⟩, rfl⟩
        exact ⟨hnil, rfl⟩

/-- What is specified: the class that is named, with the properties that all other entries give. -/
theorem ofEntries_eq_ok_iff : ofEntries w doc es = .ok s ↔
    name doc es = .ok s.className ∧ List.Forall₂ IsProperty (others es) s.properties := by
  rw [ofEntries_eq, ← problems_eq_nil_iff (w := w)]
  cases name doc es with
  | error e => simp
  | ok n =>
    cases problems ((others es).map (property w)) with
    | cons p ps => simp
    | nil =>
      simp only [Except.ok.injEq, true_and]
      constructor
      · rintro rfl
        exact ⟨rfl, rfl⟩
      · rintro ⟨rfl, hkept⟩
        rw [hkept]

/-- The state does not count for what is specified. -/
theorem ofEntries_of_ok (h : ofEntries w doc es = .ok s) (v : World) : ofEntries v doc es = .ok s :=
  ofEntries_eq_ok_iff.mpr (ofEntries_eq_ok_iff.mp h)

/-- What the properties give stands among the entries. -/
theorem mem_of_ofEntries (h : ofEntries w doc es = .ok s) {p : String × α} (hp : p ∈ s.properties) :
    ∃ e ∈ es, e.2 = p.2 := by
  have hall := (ofEntries_eq_ok_iff.mp h).2
  have hsub : ∀ e ∈ others es, e ∈ es := fun e he => List.mem_of_mem_filter he
  generalize others es = es', s.properties = ps at hall hsub hp
  induction hall with
  | nil => simp at hp
  | @cons e q es' ps he _ ih =>
    rcases List.mem_cons.mp hp with rfl | hp
    · exact ⟨e, hsub e List.mem_cons_self, he.2⟩
    · exact ih (fun e he => hsub e (List.mem_cons_of_mem _ he)) hp

theorem property_map (f : α → β) (e : Value × α) :
    property w (e.1, f e.2) = (property w e).map fun p => (p.1, f p.2) := by
  rw [property, property]
  cases asText? e.1 <;> rfl

theorem problems_map (f : α → β) (rs : List (Except Detail α)) :
    problems (rs.map (Except.map f)) = problems rs := by
  rw [problems, problems, List.filterMap_map]
  congr 1
  funext r
  cases r <;> rfl

theorem filterMap_toOption_map (f : α → β) (rs : List (Except Detail α)) :
    (rs.map (Except.map f)).filterMap Except.toOption = (rs.filterMap Except.toOption).map f := by
  rw [List.filterMap_map, List.map_filterMap]
  congr 1
  funext r
  cases r <;> rfl

/-- What the entries hold goes along. -/
theorem ofEntries_map (doc : β → Document) (f : α → β) :
    ofEntries w doc (es.map fun e => (e.1, f e.2)) = (ofEntries w (doc ∘ f) es).map (map f) := by
  have hkey : nameKey? (es.map fun e => (e.1, f e.2)) = nameKey? es := by
    simp only [nameKey?, Document.lookup?_map, Option.isSome_map]
  have hothers : others (es.map fun e => (e.1, f e.2)) = (others es).map fun e => (e.1, f e.2) := by
    rw [others, others, hkey, List.filter_map]
    rfl
  have hname : name doc (es.map fun e => (e.1, f e.2)) = name (doc ∘ f) es := by
    rw [name, name, hkey]
    cases nameKey? es with
    | none => rfl
    | some k =>
      simp only [Document.lookup?_map]
      cases Document.lookup? es k <;> rfl
  have hproperties : (others (es.map fun e => (e.1, f e.2))).map (property w) =
      ((others es).map (property w)).map (Except.map fun p => (p.1, f p.2)) := by
    rw [hothers, List.map_map, List.map_map]
    exact List.map_congr_left fun e _ => property_map f e
  rw [ofEntries_eq, ofEntries_eq, hname, hproperties, problems_map, filterMap_toOption_map]
  cases name (doc ∘ f) es with
  | error e => rfl
  | ok n => cases problems ((others es).map (property w)) <;> rfl

end Spec

end FunctionObjects
