import FunctionObjects.Proofs.Construction.Objects
import FunctionObjects.Proofs.Construction.Remaking
/-!
# Values built by calls

Values that come about by making atoms, collections and cells, and by calling the classes of the
library on values built before.  Whatever a built value is made of can be read, and every function
object in it has the attributes that its constructor calls for.
-/

namespace FunctionObjects

open Run World LibraryClass

variable {w v : World}

/-- The values that are read with a cell. -/
def World.parts (w : World) : Cell → List Value
  | .list vs => vs
  | .dict es => es.map (·.1) ++ es.map (·.2)
  | .set vs => vs
  | .slots _ _ vs => vs
  | .fields _ _ es => es.map (·.1) ++ es.map (·.2)
  | .object c _ as => if w.isStructural c then (visible as).map (·.2) else []
  | .keys vs => vs
  | _ => []

/-- Values built in a state.  A cell of any kind is as it is read, unless its class is registered.
Function objects come about by calls; where a constructor goes through the items of a parameter, that
is a core collection.  An object with attributes that its constructor leaves counts as built however it
came by them, through the items of an iterator for example. -/
inductive Built (d : Dispatch) : World → Value → Prop
  | atom {w : World} (a : Atom) : Built d w (.atom a)
  | tuple {w : World} {vs : List Value} (h : ∀ v ∈ vs, Built d w v) : Built d w (.tuple vs)
  | frozenset {w : World} {vs : List Value} (h : ∀ v ∈ vs, Built d w v) : Built d w (.frozenset vs)
  | cell {w : World} {r : Ref} {c : Cell} (hr : w.heap[r]? = some c)
    (hclass : w.registry.isRegistered (w.classOf (.ref r)) = false)
    (h : ∀ v ∈ w.parts c, Built d w v) : Built d w (.ref r)
  | call {w w' : World} {k : LibraryClass} {args : Arguments} {v : Value} (hw : w.Stocked)
    (hk : k ∈ Registry.shipped) (hpositional : ∀ v ∈ args.positional, Built d w v)
    (hnamed : ∀ v ∈ args.named.map (·.2), Built d w v)
    (hsteady : ∀ b, Binding.of k.params args = .ok b →
      ∀ name ∈ k.source.walked, w.isSteady (b.value name) = true)
    (hmake : (Construction.make d k.className args).result w = (.ok v, w')) : Built d w' v
  | object {w : World} {r : Ref} {k : LibraryClass} {o : Option Ty} {fields : List (String × Value)}
    {arg : String → Datum} {as : List (String × Datum)} (hk : k ∈ Registry.shipped)
    (hr : w.heap[r]? = some (.object k.className o fields))
    (hstructural : w.isStructural k.className = true) (has : attributes? w.zones k arg = some as)
    (hfields : w.HoldsFields as (visible fields))
    (h : ∀ v ∈ (visible fields).map (·.2), Built d w v) : Built d w (.ref r)
  | later {w w' : World} {v : Value} (h : Built d w v) (hg : w.Grows w') : Built d w' v

/-- Data whose function objects are as their constructors leave them. -/
inductive Made (w : World) : Datum → Prop
  | atom (a : Atom) : Made w (.atom a)
  | tuple {ts : List Datum} (h : ∀ t ∈ ts, Made w t) : Made w (.tuple ts)
  | frozenset {ts : List Datum} (h : ∀ t ∈ ts, Made w t) : Made w (.frozenset ts)
  | list {ts : List Datum} (h : ∀ t ∈ ts, Made w t) : Made w (.list ts)
  | dict {es : List (Datum × Datum)} (hkeys : ∀ e ∈ es, Made w e.1) (h : ∀ e ∈ es, Made w e.2) :
    Made w (.dict es)
  | set {ts : List Datum} (h : ∀ t ∈ ts, Made w t) : Made w (.set ts)
  | keys {ts : List Datum} (hc : w.registry.isRegistered (.core "dict_keys") = false)
    (h : ∀ t ∈ ts, Made w t) : Made w (.keys ts)
  | bytearray {bs : List Nat} (hc : w.registry.isRegistered (.core "bytearray") = false) :
    Made w (.bytearray bs)
  | slots {c : ClassName} {ts : List Datum} (hc : w.registry.isRegistered c = false) :
    Made w (.slots c ts)
  | fields {c : ClassName} {es : List (Datum × Datum)} (hc : w.registry.isRegistered c = false) :
    Made w (.fields c es)
  | handle {r : Ref} {c : ClassName} {s : String} (hc : w.registry.isRegistered c = false) :
    Made w (.handle r c s)
  | object {c : ClassName} {as : List (String × Datum)} (hc : w.registry.isRegistered c = false) :
    Made w (.object c as)
  | function {k : LibraryClass} {arg : String → Datum} {as : List (String × Datum)}
    (hk : k ∈ Registry.shipped) (has : attributes? w.zones k arg = some as) (h : ∀ e ∈ as, Made w e.2) :
    Made w (.object k.className as)

namespace Made

variable {t : Datum}

theorem later (h : Made w t) (hg : w.Grows v) : Made v t := by
  have hr := hg.registry
  induction h with
  | atom a => exact .atom a
  | tuple _ ih => exact .tuple ih
  | frozenset _ ih => exact .frozenset ih
  | list _ ih => exact .list ih
  | dict _ _ ihkeys ih => exact .dict ihkeys ih
  | set _ ih => exact .set ih
  | keys hc _ ih => exact .keys (by rwa [hr]) ih
  | bytearray hc => exact .bytearray (by rwa [hr])
  | slots hc => exact .slots (by rwa [hr])
  | fields hc => exact .fields (by rwa [hr])
  | handle hc => exact .handle (by rwa [hr])
  | object hc => exact .object (by rwa [hr])
  | function hk has _ ih => exact .function hk (by rwa [hg.zones]) ih

/-- The items of a made datum are made. -/
theorem items {ts : List Datum} (h : Made w t) (ht : t.items? = some ts) : ∀ u ∈ ts, Made w u := by
  cases h with
  | atom a =>
    have hatoms : ∀ u ∈ ts, ∃ b, u = .atom b := by
      simp only [Datum.items?] at ht
      split at ht <;> simp only [Option.some.injEq, reduceCtorEq] at ht
      all_goals
        subst ht
        intro u hu
        obtain ⟨_, -, rfl⟩ := List.mem_map.mp hu
        exact ⟨_, rfl⟩
    intro u hu
    obtain ⟨b, rfl⟩ := hatoms u hu
    exact .atom b
  | tuple h => obtain rfl := Option.some.inj ht; exact h
  | frozenset h => obtain rfl := Option.some.inj ht; exact h
  | list h => obtain rfl := Option.some.inj ht; exact h
  | set h => obtain rfl := Option.some.inj ht; exact h
  | keys _ h => obtain rfl := Option.some.inj ht; exact h
  | dict hkeys _ =>
    obtain rfl := Option.some.inj ht
    intro u hu
    obtain ⟨e, he, rfl⟩ := List.mem_map.mp hu
    exact hkeys e he
  | bytearray =>
    obtain rfl := Option.some.inj ht
    intro u hu
    obtain ⟨_, -, rfl⟩ := List.mem_map.mp hu
    exact .atom _
  | slots => simp [Datum.items?] at ht
  | fields => simp [Datum.items?] at ht
  | handle => simp [Datum.items?] at ht
  | object => simp [Datum.items?] at ht
  | function => simp [Datum.items?] at ht

theorem listed {l : Datum} (h : Made w t) (hl : t.listed? = some l) : Made w l := by
  unfold Datum.listed? at hl
  split at hl
  · obtain ⟨ts, hts, rfl⟩ := Option.map_eq_some_iff.mp hl
    exact .list (h.items hts)
  · obtain rfl := Option.some.inj hl
    exact .list (by simp)

theorem compiled {u : Datum} (hu : t.compiled? = some u) : Made w u := by
  obtain ⟨p, rfl⟩ := Datum.eq_pattern_of_compiled hu
  exact .atom _

theorem optionallyCompiled {u : Datum} (h : Made w t) (hu : t.optionallyCompiled? = some u) :
    Made w u := by
  unfold Datum.optionallyCompiled? at hu
  split at hu
  · obtain rfl := Option.some.inj hu
    exact h
  · exact compiled hu

theorem textCompiled {u : Datum} (h : Made w t) (hu : t.textCompiled? = some u) : Made w u := by
  unfold Datum.textCompiled? at hu
  split at hu
  · split at hu
    · exact compiled hu
    · obtain rfl := Option.some.inj hu
      exact h
  · obtain rfl := Option.some.inj hu
    exact h

theorem allCompiled {u : Datum} (hu : t.allCompiled? = some u) : Made w u := by
  obtain ⟨ts, -, hts⟩ := Option.bind_eq_some_iff.mp hu
  obtain ⟨us, hus, rfl⟩ := Option.map_eq_some_iff.mp hts
  refine .list ?_
  clear hu hts
  induction ts generalizing us with
  | nil =>
    obtain rfl : [] = us := by simpa using hus
    simp
  | cons t ts ih =>
    simp only [List.mapM_cons, Option.bind_eq_bind, Option.bind_eq_some_iff] at hus
    obtain ⟨u, hu, us', hus', hcons⟩ := hus
    obtain rfl : u :: us' = us := by simpa using hcons
    simp only [List.mem_cons, forall_eq_or_imp]
    exact ⟨compiled hu, ih us' hus'⟩

theorem loaded {u : Datum} (h : Made w t) (hu : t.loaded? = some u) : Made w u := by
  unfold Datum.loaded? at hu
  split at hu
  · split at hu
    · obtain ⟨c, -, rfl⟩ := Option.map_eq_some_iff.mp hu
      exact .atom _
    · obtain rfl := Option.some.inj hu
      exact h
  · obtain rfl := Option.some.inj hu
    exact h

theorem unit {u : Datum} (hu : t.unit? = some u) : Made w u := by
  unfold Datum.unit? at hu
  split at hu
  · obtain ⟨s, -, hu⟩ := Option.bind_eq_some_iff.mp hu
    dsimp only at hu
    split at hu
    · obtain rfl := Option.some.inj hu
      exact .atom _
    · simp at hu
  · simp at hu

/-- An adapter of a list is as its own constructor leaves it. -/
theorem inputAdapter {l : Datum} (h : Made w t) (hl : t.listed? = some l) :
    Made w (adapter .tupleInputAdapter "selection" l) := by
  obtain ⟨ts, rfl⟩ := Datum.eq_list_of_listed hl
  have has : attributes? w.zones .tupleInputAdapter (fun _ => .list ts) = some [("selection", .list ts)] := by
    simp [attributes?, source, owner?, parameters?, attributesOf?, Datum.listed?_list]
  exact .function (by decide) has (by simpa using h.listed hl)

theorem outputAdapter {l : Datum} (h : Made w t) (hl : t.listed? = some l) :
    Made w (adapter .tupleOutputAdapter "projection" l) := by
  obtain ⟨ts, rfl⟩ := Datum.eq_list_of_listed hl
  have has :
      attributes? w.zones .tupleOutputAdapter (fun _ => .list ts) = some [("projection", .list ts)] := by
    simp [attributes?, source, owner?, parameters?, attributesOf?, Datum.listed?_list]
  exact .function (by decide) has (by simpa using h.listed hl)

end Made

/-- Attributes that are made if there are any. -/
def MadeFields (w : World) (out : Option (List (String × Datum))) : Prop :=
  ∀ as, out = some as → ∀ e ∈ as, Made w e.2

namespace MadeFields

variable {out out' : Option (List (String × Datum))}

theorem none : MadeFields w none := by
  intro as h
  simp at h

theorem nil : MadeFields w (some []) := by
  rintro _ ⟨⟩
  simp

theorem cons {as : List (String × Datum)} {n : String} {t : Datum} (ht : Made w t)
    (h : MadeFields w (some as)) : MadeFields w (some ((n, t) :: as)) := by
  rintro _ ⟨⟩ e he
  rcases List.mem_cons.mp he with rfl | he
  · exact ht
  · exact h _ rfl e he

theorem bind {α : Type} {x : Option α} {f : α → Option (List (String × Datum))}
    (h : ∀ a, x = some a → MadeFields w (f a)) : MadeFields w (x >>= f) := by
  intro as has
  obtain ⟨a, hx, ha⟩ := Option.bind_eq_some_iff.mp has
  exact h a hx as ha

theorem ite {p : Prop} [Decidable p] (h : MadeFields w out) (h' : MadeFields w out') :
    MadeFields w (if p then out else out') := by
  split
  · exact h
  · exact h'

end MadeFields

/-- A constructor that is given made data leaves made attributes. -/
theorem madeFields_attributesOf {arg : String → Datum} (owner : LibraryClass)
    (h : ∀ name, Made w (arg name)) : MadeFields w (attributesOf? w.zones owner arg) := by
  have hslots : MadeFields w (slotsOf? arg) := by
    intro as has
    obtain rfl := slots_eq has
    exact MadeFields.cons (h _) (.cons (h _) (.cons (h _) .nil)) _ rfl
  have hslotsAnd : ∀ name, MadeFields w (do return (← slotsOf? arg) ++ [(name, arg name)]) := by
    intro name
    refine .bind fun slots has => ?_
    obtain rfl := slots_eq has
    exact .cons (h _) (.cons (h _) (.cons (h _) (.cons (h _) .nil)))
  cases owner with
  | functionComposite => exact .bind fun _ hl => .cons ((h _).listed hl) .nil
  | predicateComposite => exact .bind fun _ hl => .cons ((h _).listed hl) .nil
  | tupleInputAdapter => exact .bind fun _ hl => .cons ((h _).listed hl) .nil
  | tupleOutputAdapter => exact .bind fun _ hl => .cons ((h _).listed hl) .nil
  | areIn => exact .bind fun _ hl => .cons ((h _).listed hl) .nil
  | outputAdapted => exact .ite .none (.cons (h _) (.cons (h _) .nil))
  | adapted => exact hslots
  | adaptedFunction => exact hslotsAnd _
  | adaptedBinaryOperator => exact hslotsAnd _
  | adaptedPredicate => exact .cons (h _) (.cons (h _) .nil)
  | tupleAdaptedFunction =>
    exact .bind fun _ hs => .bind fun _ hp => .cons ((h _).inputAdapter hs)
      (.cons (.atom _) (.cons ((h _).outputAdapter hp) (.cons (h _) .nil)))
  | tupleAdaptedPredicate =>
    exact .bind fun _ hs => .cons ((h _).inputAdapter hs) (.cons (h _) .nil)
  | parseTime =>
    exact .bind fun _ hu => .ite (.cons (h _) (.cons (h _) (.cons (.unit hu) .nil))) .none
  | csvOptions =>
    exact .bind fun _ hl => .ite (.cons ((h _).listed hl)
      (.cons (h _) (.cons (h _) (.cons (h _) (.cons (h _) .nil))))) .none
  | divideBy => exact .ite .none (.cons (h _) .nil)
  | stringRegexReplace => exact .bind fun _ hu => .cons ((h _).textCompiled hu) (.cons (h _) .nil)
  | isA => exact .bind fun _ hu => .cons ((h _).loaded hu) .nil
  | regex => exact .bind fun _ hu => .cons ((h _).optionallyCompiled hu) .nil
  | multiRegex => exact .bind fun _ hu => .cons (.allCompiled hu) .nil
  | _ =>
    rintro _ ⟨⟩ e he
    obtain ⟨p, -, rfl⟩ := List.mem_map.mp he
    exact h _

theorem exists_holdsAll {vs : List Value} (h : ∀ v ∈ vs, ∃ t, w.Holds t v ∧ Made w t) :
    ∃ ts, w.HoldsAll ts vs ∧ ∀ t ∈ ts, Made w t := by
  induction vs with
  | nil => exact ⟨[], trivial, by simp⟩
  | cons v vs ih =>
    obtain ⟨t, ht, hmade⟩ := h v List.mem_cons_self
    obtain ⟨ts, hts, hmades⟩ := ih fun u hu => h u (List.mem_cons_of_mem v hu)
    refine ⟨t :: ts, ⟨ht, hts⟩, ?_⟩
    simpa using ⟨hmade, hmades⟩

theorem exists_holdsEntries {es : List (Value × Value)}
    (hkeys : ∀ v ∈ es.map (·.1), ∃ t, w.Holds t v ∧ Made w t)
    (h : ∀ v ∈ es.map (·.2), ∃ t, w.Holds t v ∧ Made w t) :
    ∃ ts, w.HoldsEntries ts es ∧ (∀ t ∈ ts, Made w t.1) ∧ ∀ t ∈ ts, Made w t.2 := by
  induction es with
  | nil => exact ⟨[], trivial, by simp, by simp⟩
  | cons e es ih =>
    obtain ⟨k, hk, hkmade⟩ := hkeys e.1 (by simp)
    obtain ⟨t, ht, hmade⟩ := h e.2 (by simp)
    obtain ⟨ts, hts, hkmades, hmades⟩ :=
      ih (fun u hu => hkeys u (List.mem_cons_of_mem _ hu)) fun u hu => h u (List.mem_cons_of_mem _ hu)
    refine ⟨(k, t) :: ts, ⟨hk, ht, hts⟩, ?_, ?_⟩
    · simpa using ⟨hkmade, fun k t => hkmades (k, t)⟩
    · simpa using ⟨hmade, fun k t => hmades (k, t)⟩

theorem exists_holdsFields {as : List (String × Value)}
    (h : ∀ v ∈ as.map (·.2), ∃ t, w.Holds t v ∧ Made w t) : ∃ ts, w.HoldsFields ts as := by
  induction as with
  | nil => exact ⟨[], trivial⟩
  | cons a as ih =>
    obtain ⟨t, ht, -⟩ := h a.2 (by simp)
    obtain ⟨ts, hts⟩ := ih fun u hu => h u (List.mem_cons_of_mem _ hu)
    exact ⟨(a.1, t) :: ts, rfl, ht, hts⟩

/-- What fields hold is made if some data that they hold are. -/
theorem made_of_holdsFields {ts : List (String × Datum)} {as : List (String × Value)}
    (hts : w.HoldsFields ts as) (h : ∀ v ∈ as.map (·.2), ∃ t, w.Holds t v ∧ Made w t) :
    ∀ e ∈ ts, Made w e.2 := by
  rw [holdsFields_iff] at hts
  induction hts with
  | nil => simp
  | cons ha _ ih =>
    obtain ⟨t, ht, hmade⟩ := h _ List.mem_cons_self
    obtain rfl := ha.2.unique ht
    exact List.forall_mem_cons.mpr ⟨hmade, ih fun v hv => h v (List.mem_cons_of_mem _ hv)⟩

/-- A cell holds a datum if its parts do. -/
theorem holds_cell {r : Ref} {c : Cell} (hr : w.heap[r]? = some c)
    (hclass : w.registry.isRegistered (w.classOf (.ref r)) = false)
    (h : ∀ v ∈ w.parts c, ∃ t, w.Holds t v ∧ Made w t) :
    ∃ t, w.Holds t (.ref r) ∧ Made w t := by
  simp only [World.classOf, hr] at hclass
  cases c with
  | list vs =>
    obtain ⟨ts, hts, hmade⟩ := exists_holdsAll h
    exact ⟨.list ts, ⟨r, vs, rfl, hr, hts⟩, .list hmade⟩
  | set vs =>
    obtain ⟨ts, hts, hmade⟩ := exists_holdsAll h
    exact ⟨.set ts, ⟨r, vs, rfl, hr, hts⟩, .set hmade⟩
  | keys vs =>
    obtain ⟨ts, hts, hmade⟩ := exists_holdsAll h
    exact ⟨.keys ts, ⟨r, vs, rfl, hr, hts⟩, .keys hclass hmade⟩
  | slots c o vs =>
    obtain ⟨ts, hts, -⟩ := exists_holdsAll h
    exact ⟨.slots c ts, ⟨r, o, vs, rfl, hr, hts⟩, .slots hclass⟩
  | dict es =>
    obtain ⟨ts, hts, hkeys, hmade⟩ := exists_holdsEntries
      (fun v hv => h v (List.mem_append_left _ hv)) fun v hv => h v (List.mem_append_right _ hv)
    exact ⟨.dict ts, ⟨r, es, rfl, hr, hts⟩, .dict hkeys hmade⟩
  | fields c o es =>
    obtain ⟨ts, hts, -, -⟩ := exists_holdsEntries
      (fun v hv => h v (List.mem_append_left _ hv)) fun v hv => h v (List.mem_append_right _ hv)
    exact ⟨.fields c ts, ⟨r, o, es, rfl, hr, hts⟩, .fields hclass⟩
  | bytearray bs => exact ⟨.bytearray bs, ⟨r, rfl, hr⟩, .bytearray hclass⟩
  | routine f => exact ⟨.handle r _ _, ⟨rfl, _, hr, rfl⟩, .handle hclass⟩
  | iterator c vs => exact ⟨.handle r _ _, ⟨rfl, _, hr, rfl⟩, .handle hclass⟩
  | object c o as =>
    cases hs : w.isStructural c with
    | true =>
      simp only [World.parts, hs, if_true] at h
      obtain ⟨ts, hts⟩ := exists_holdsFields h
      exact ⟨.object c ts, ⟨r, o, as, rfl, hr, hs, hts⟩, .object hclass⟩
    | false => exact ⟨.handle r _ _, ⟨rfl, _, hr, by simp [Cell.handle?, hs]; rfl⟩, .handle hclass⟩

/-- What a class of the library makes of arguments that hold data. -/
theorem holds_make (d : Dispatch) {w' : World} {k : LibraryClass} {args : Arguments} {v : Value}
    (hw : w.Stocked) (hk : k ∈ Registry.shipped)
    (hpositional : ∀ v ∈ args.positional, ∃ t, w.Holds t v ∧ Made w t)
    (hnamed : ∀ v ∈ args.named.map (·.2), ∃ t, w.Holds t v ∧ Made w t)
    (hsteady : ∀ b, Binding.of k.params args = .ok b →
      ∀ name ∈ k.source.walked, w.isSteady (b.value name) = true)
    (hmake : (Construction.make d k.className args).result w = (.ok v, w')) :
    w.Grows w' ∧ ∃ t, w'.Holds t v ∧ Made w' t := by
  cases hb : Binding.of k.params args with
  | error e => simp [Construction.result_make d hk (hw k hk), hb] at hmake
  | ok b =>
    obtain ⟨hparams, hsource⟩ := Binding.of_ok (Construction.params_isPreset k hk) hb
    have hvalue : ∀ name, ∃ t, w.Holds t (b.value name) ∧ Made w t := by
      intro name
      rw [Binding.value]
      cases hfind : b.values.find? fun e => e.1.name == name with
      | none => exact ⟨.none, rfl, .atom _⟩
      | some e =>
        have he := List.mem_of_find?_eq_some hfind
        obtain hv | hv | hdefault := hsource e he
        · exact hpositional _ hv
        · exact hnamed _ hv
        · have hp : e.1 ∈ k.params := hparams ▸ List.mem_map.mpr ⟨e, he, rfl⟩
          obtain ⟨a, ha, -⟩ := Param.default_of_isPreset (Construction.params_isPreset k hk _ hp)
          rw [ha] at hdefault
          exact ⟨.atom a, (Option.some.inj hdefault).symm, .atom a⟩
    have hread : ∀ name, w.Holds (w.read (b.value name)) (b.value name) ∧
        Made w (w.read (b.value name)) := by
      intro name
      obtain ⟨t, ht, hmade⟩ := hvalue name
      rw [read_of_holds ht]
      exact ⟨ht, hmade⟩
    have hgiven : Construction.Given w k.source b fun name => w.read (b.value name) :=
      ⟨hparams, fun name => (hread name).1, hsteady b hb⟩
    obtain ⟨as, v', has, hres, hm⟩ | ⟨-, e, v', hres⟩ :=
      Construction.result_make_of_given d hk (hw k hk) hw.equipped hb hgiven
    · rw [hres] at hmake
      obtain ⟨rfl, rfl⟩ : .ref w.heap.size = v ∧ v' = w' := by simpa using hmake
      have hmades := madeFields_attributesOf k.source (fun name => (hread name).2) as has
      exact ⟨hm.grows, _, Construction.holds_of_making (hw k hk) has hm,
        .function hk (by rwa [hm.grows.zones]) fun e he => (hmades e he).later hm.grows⟩
    · rw [hres] at hmake
      simp at hmake

/-- What is built can be read, and its function objects are as their constructors leave them. -/
theorem Built.holds {d : Dispatch} {x : Value} (h : Built d w x) : ∃ t, w.Holds t x ∧ Made w t := by
  induction h with
  | atom a => exact ⟨.atom a, rfl, .atom a⟩
  | tuple _ ih =>
    obtain ⟨ts, hts, hmade⟩ := exists_holdsAll ih
    exact ⟨.tuple ts, ⟨_, rfl, hts⟩, .tuple hmade⟩
  | frozenset _ ih =>
    obtain ⟨ts, hts, hmade⟩ := exists_holdsAll ih
    exact ⟨.frozenset ts, ⟨_, rfl, hts⟩, .frozenset hmade⟩
  | cell hr hclass _ ih => exact holds_cell hr hclass ih
  | call hw hk _ _ hsteady hmake ihp ihn => exact (holds_make d hw hk ihp ihn hsteady hmake).2
  | @object w r k o fields arg as hk hr hstructural has hfields _ ih =>
    exact ⟨.object k.className as, ⟨r, o, fields, rfl, hr, hstructural, hfields⟩,
      .function hk has (made_of_holdsFields hfields ih)⟩
  | later _ hg ih =>
    obtain ⟨t, ht, hmade⟩ := ih
    exact ⟨t, hg.holds ht, hmade.later hg⟩

end FunctionObjects
