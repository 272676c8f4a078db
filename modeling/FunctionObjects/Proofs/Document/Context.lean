import FunctionObjects.Proofs.Pipeline.Loading
import FunctionObjects.Proofs.Frame.Reading
import FunctionObjects.Proofs.State.Computing
/-!
# Documents with a place

A place in a document is a way down through lists and dictionaries.  What stands there is read when its turn
comes: after everything before it, and before everything behind it.
-/

namespace FunctionObjects

open Run World

namespace Document

/-- A document with a place for another one. -/
inductive Context where
  | here
  | item (before : List Document) (inner : Context) (after : List Document)
  | entry (before : List (Value × Document)) (key : Value) (inner : Context)
    (after : List (Value × Document))

/-- Whether an entry is a property, that is, does not name the class. -/
def isProperty (e : Value × Document) : Bool := textOf? e.1 != some classKey

/-- An entry of a dictionary, read and put back as a value. -/
def readEntry (d : Dispatch) (e : Value × Document) : Run (Value × Document) := do
  if isProperty e then return (e.1, .leaf (← Reading.value d e.2)) else return e

namespace Context

/-- The document with another one in its place. -/
def fill (doc : Document) : Context → Document
  | here => doc
  | item before p after => .list (before ++ p.fill doc :: after)
  | entry before k p after => .dict (before ++ (k, p.fill doc) :: after)

/-- Whether what stands in the place is read as a document: not where the name of a class or of a type is
to stand. -/
def IsRead : Context → Prop
  | here => True
  | item _ p _ => p.IsRead
  | entry before k p after => textOf? k ≠ some classKey ∧
    (before = [] → after = [] → textOf? k ≠ some typeKey) ∧ p.IsRead

/-- Reads everything before the place, and puts what was read back. -/
def decoded (d : Dispatch) : Context → Run Context
  | here => return here
  | item before p after => do
    let xs ← Reading.values d before
    return item (xs.map .leaf) (← p.decoded d) after
  | entry before k p after => do
    let es ← before.mapM (readEntry d)
    return entry es k (← p.decoded d) after

end Context

/-- Entries under the same keys, of which the same one names a class. -/
structure SameKeys (es fs : List (Value × Document)) : Prop where
  keys : es.map (·.1) = fs.map (·.1)
  named : lookup? es classKey = lookup? fs classKey

theorem SameKeys.cons {es fs : List (Value × Document)} {e f : Value × Document}
    (h : SameKeys es fs) (hkey : e.1 = f.1) (hnamed : textOf? e.1 = some classKey → e.2 = f.2) :
    SameKeys (e :: es) (f :: fs) := by
  refine ⟨by rw [List.map_cons, List.map_cons, hkey, h.keys], ?_⟩
  have hrest := h.named
  rw [lookup?, lookup?] at hrest
  rw [lookup?, lookup?, List.find?_cons, List.find?_cons, ← hkey]
  cases hclass : textOf? e.1 == some classKey with
  | true => exact congrArg some (hnamed (eq_of_beq hclass))
  | false => exact hrest

theorem SameKeys.symm {es fs : List (Value × Document)} (h : SameKeys es fs) : SameKeys fs es :=
  ⟨h.keys.symm, h.named.symm⟩

theorem SameKeys.refl (es : List (Value × Document)) : SameKeys es es := ⟨rfl, rfl⟩

/-- The same entries at the end. -/
theorem SameKeys.append {es fs : List (Value × Document)} (h : SameKeys es fs)
    {es' fs' : List (Value × Document)} (h' : SameKeys es' fs') :
    SameKeys (es ++ es') (fs ++ fs') := by
  have hnamed := h.named
  have hnamed' := h'.named
  rw [lookup?, lookup?] at hnamed hnamed'
  refine ⟨by rw [List.map_append, List.map_append, h.keys, h'.keys], ?_⟩
  rw [lookup?, lookup?, List.find?_append, List.find?_append, Option.map_or, Option.map_or, hnamed,
    hnamed']

end Document

namespace Reading

open Document

variable {d : Dispatch} {w v u : World} {es fs : List (Value × Document)} {β : Type}

/-- Reads the properties among some entries, each with a name for its key. -/
def properties (d : Dispatch) (name : Value → β) (es : List (Value × Document)) :
    Run (List (β × Value)) :=
  (es.filter isProperty).mapM fun e => do return (name e.1, ← value d e.2)

/-- Leaves are read without a change. -/
theorem result_values_leaf (xs : List Value) (v : World) :
    ((xs.map Document.leaf).mapM (value d)).result v = (.ok xs, v) := by
  induction xs with
  | nil => rfl
  | cons x xs ih =>
    rw [List.map_cons, List.mapM_cons]
    exact (result_bind_ok _ (by rfl)).trans (result_bind_ok _ ih)

/-- An entry that is read and put back: the first one of a list, and then the others. -/
theorem readEntry_cons {e : Value × Document}
    (h : ((e :: es).mapM (readEntry d)).result w = (.ok fs, u)) :
    ∃ f fs' w₀, (readEntry d e).result w = (.ok f, w₀) ∧
      (es.mapM (readEntry d)).result w₀ = (.ok fs', u) ∧ fs = f :: fs' := by
  rw [List.mapM_cons] at h
  obtain ⟨f, w₀, hf, hrest⟩ := result_bind_eq_ok.mp h
  obtain ⟨fs', _, hfs, hpure⟩ := result_bind_eq_ok.mp hrest
  cases hpure
  exact ⟨f, fs', w₀, hf, hfs, rfl⟩

/-- A property is read as its value, and every other entry stays what it is. -/
theorem readEntry_or {e f : Value × Document} (h : (readEntry d e).result w = (.ok f, u)) :
    (isProperty e = true ∧ ∃ x, (value d e.2).result w = (.ok x, u) ∧ f = (e.1, .leaf x)) ∨
      (isProperty e = false ∧ f = e ∧ w = u) := by
  rw [readEntry] at h
  split at h
  · rename_i hproperty
    obtain ⟨x, _, hx, hpure⟩ := result_bind_eq_ok.mp h
    cases hpure
    exact .inl ⟨hproperty, x, hx, rfl⟩
  · rename_i hproperty
    cases h
    exact .inr ⟨Bool.not_eq_true _ ▸ hproperty, rfl, rfl⟩

/-- Entries that have been read and put back stand under the same keys. -/
theorem sameKeys_readEntry (h : (es.mapM (readEntry d)).result w = (.ok fs, u)) :
    SameKeys es fs := by
  induction es generalizing w fs with
  | nil =>
    cases h
    exact ⟨rfl, rfl⟩
  | cons e es ih =>
    obtain ⟨f, fs', w₀, hf, hfs, rfl⟩ := readEntry_cons h
    obtain ⟨hproperty, x, -, rfl⟩ | ⟨-, rfl, -⟩ := readEntry_or hf
    · exact (ih hfs).cons rfl fun hkey => by simp [isProperty, hkey] at hproperty
    · exact (ih hfs).cons rfl fun _ => rfl

/-- Properties that have been read and put back are read again without a change. -/
theorem properties_readEntry (h : (es.mapM (readEntry d)).result w = (.ok fs, u))
    (name : Value → β) : ∃ ps, (properties d name es).result w = (.ok ps, u) ∧
      ∀ v, (properties d name fs).result v = (.ok ps, v) := by
  induction es generalizing w fs with
  | nil =>
    cases h
    exact ⟨[], rfl, fun _ => rfl⟩
  | cons e es ih =>
    obtain ⟨f, fs', w₀, hf, hfs, rfl⟩ := readEntry_cons h
    obtain ⟨ps, hps, hps'⟩ := ih hfs
    obtain ⟨hproperty, x, hx, rfl⟩ | ⟨hproperty, rfl, rfl⟩ := readEntry_or hf
    · have hproperty' : isProperty (e.1, .leaf x) = true := hproperty
      refine ⟨(name e.1, x) :: ps, ?_, fun v => ?_⟩
      · have hhead : (do return (name e.1, ← value d e.2) : Run (β × Value)).result w =
            (.ok (name e.1, x), w₀) := result_bind_ok _ hx
        rw [properties, List.filter_cons_of_pos hproperty, List.mapM_cons, result_bind_ok _ hhead]
        exact result_bind_ok _ hps
      · rw [properties, List.filter_cons_of_pos hproperty', List.mapM_cons]
        exact result_bind_ok _ (hps' v)
    · refine ⟨ps, ?_, fun v => ?_⟩
      · rw [properties, List.filter_cons_of_neg (by simp [hproperty])]
        exact hps
      · rw [properties, List.filter_cons_of_neg (by simp [hproperty])]
        exact hps' v

/-- One property is exchanged, and those before it have been read and put back. -/
theorem succeedAlike_properties {k : Value} {doc doc' : Document} {gs : List (Value × Document)}
    (h : (es.mapM (readEntry d)).result w = (.ok fs, u)) (hk : textOf? k ≠ some classKey)
    (hdoc : SucceedAlike u (value d doc) v (value d doc')) (name : Value → β) :
    SucceedAlike w (properties d name (es ++ (k, doc) :: gs))
      v (properties d name (fs ++ (k, doc') :: gs)) := by
  obtain ⟨ps, hps, hps'⟩ := properties_readEntry h name
  have hproperty : ∀ doc, isProperty (k, doc) = true := fun doc => by simp [isProperty, hk]
  rw [properties, properties, List.filter_append, List.filter_append,
    List.filter_cons_of_pos (hproperty doc), List.filter_cons_of_pos (hproperty doc')]
  exact .mapM hps (hps' v) (hdoc.bind fun x => pure (name k, x))

/-! ## Dictionaries -/

/-- The text of a key. -/
def keyText (k : Value) : String := (Spec.asText? k).toOption.getD ""

/-- The specification that a dictionary with the name of a class makes up. -/
def specified (name : String) (es : List (Value × Document)) : Spec Document :=
  ⟨name, (es.filter isProperty).map fun e => (keyText e.1, e.2)⟩

theorem nameKey?_of_isSome (hclass : (Document.lookup? es classKey).isSome = true) :
    Spec.nameKey? es = some classKey := by
  rw [classKey] at hclass
  simp [Spec.nameKey?, hclass, classKey]

theorem others_eq_filter (hclass : (Document.lookup? es classKey).isSome = true) :
    Spec.others es = es.filter isProperty := by
  rw [Spec.others, nameKey?_of_isSome hclass]
  rfl

/-- The keys of the properties are found among all keys. -/
theorem keys_filter (es : List (Value × Document)) : (es.filter isProperty).map (·.1) =
    (es.map (·.1)).filter fun k => textOf? k != some classKey := by
  rw [List.filter_map]
  rfl

theorem eq_map_of_isProperty {ps : List (String × Document)}
    (h : List.Forall₂ Spec.IsProperty es ps) :
    ps = es.map (fun e => (keyText e.1, e.2)) ∧ ∀ e ∈ es, Spec.asText? e.1 = .ok (keyText e.1) := by
  induction h with
  | nil => exact ⟨rfl, by simp⟩
  | @cons e p es ps he _ ih =>
    obtain ⟨htext, hdoc⟩ := he
    have hkey : keyText e.1 = p.1 := by rw [keyText, htext]; rfl
    refine ⟨by rw [List.map_cons, ← ih.1, hkey, hdoc], ?_⟩
    exact List.forall_mem_cons.mpr ⟨by rw [hkey, htext], ih.2⟩

/-- What is specified, if anything is, and that the same is specified by entries under the same keys. -/
theorem specified_of_ok {s : Spec Document} (hclass : (Document.lookup? es classKey).isSome = true)
    (h : Spec.ofEntries w id es = .ok s) : s = specified s.className es ∧
      ∀ fs u, SameKeys es fs → Spec.ofEntries u id fs = .ok (specified s.className fs) := by
  obtain ⟨hname, hproperties⟩ := Spec.ofEntries_eq_ok_iff.mp h
  rw [others_eq_filter hclass] at hproperties
  obtain ⟨hps, htexts⟩ := eq_map_of_isProperty hproperties
  refine ⟨by rw [specified, ← hps], fun fs u hfs => ?_⟩
  have hclass' : (Document.lookup? fs classKey).isSome = true := hfs.named ▸ hclass
  rw [Spec.ofEntries_eq_ok_iff, others_eq_filter hclass']
  constructor
  · refine Eq.trans ?_ hname
    rw [Spec.name, Spec.name, nameKey?_of_isSome hclass, nameKey?_of_isSome hclass']
    dsimp only
    rw [hfs.named]
  · rw [specified, List.forall₂_map_right_iff]
    refine List.forall₂_same.mpr fun e he => ⟨?_, rfl⟩
    have hmem : e.1 ∈ (es.filter isProperty).map (·.1) := by
      rw [keys_filter, hfs.keys, ← keys_filter]
      exact List.mem_map.mpr ⟨e, he, rfl⟩
    obtain ⟨e', he', hkey⟩ := List.mem_map.mp hmem
    rw [← hkey]
    exact htexts e' he'

/-- Making the object of a specification. -/
theorem succeedAlike_ofSpec {s t : Spec (Run Value)} (hregistry : v.registry = w.registry)
    (hclasses : w.SameClasses v) (hname : s.className = t.className)
    (hnames : s.properties.map (·.1) = t.properties.map (·.1))
    (h : SucceedAlike w (s.properties.mapM fun p => do return (p.1, ← p.2))
      v (t.properties.mapM fun p => do return (p.1, ← p.2))) :
    SucceedAlike w (ofSpec d s) v (ofSpec d t) := by
  have hunknown : ∀ c, unknown v c t = unknown w c s := fun c => by
    rw [unknown, unknown, World.properties, World.properties, hclasses.findConstructor?, hnames]
  refine .congr (result_bind_ok _ (result_get w)) (result_bind_ok _ (result_get v)) ?_
  rw [hregistry, ← hname]
  have hfails : ∀ f g : Fault, SucceedAlike w (throw f : Run Value) v (throw g) := fun f g x u => by
    simp
  cases w.registry.classNamed s.className with
  | error e => exact hfails e e
  | ok c =>
    refine .congr (result_bind_ok _ (result_lift_ok c w)) (result_bind_ok _ (result_lift_ok c v)) ?_
    dsimp only
    rw [hunknown]
    split
    · exact hfails _ _
    · exact h.bind _

/-- The properties of what is specified are read like those of the dictionary. -/
theorem properties_specified (d : Dispatch) (name : String) (es : List (Value × Document)) :
    (((specified name es).map (value d)).properties.mapM fun p => do return (p.1, ← p.2)) =
      properties d keyText es := by
  rw [Spec.map, specified, List.map_map, List.mapM_map]
  rfl

theorem names_specified (d : Dispatch) (name : String) (es : List (Value × Document)) :
    ((specified name es).map (value d)).properties.map (·.1) =
      ((es.filter isProperty).map (·.1)).map keyText := by
  rw [Spec.map, specified, List.map_map, List.map_map, List.map_map]
  rfl

/-- Objects that are specified under the same keys by properties that are read alike. -/
theorem succeedAlike_ofEntries (hregistry : v.registry = w.registry) (hclasses : w.SameClasses v)
    (hkeys : SameKeys es fs) (hclass : (Document.lookup? es classKey).isSome = true)
    (h : SucceedAlike w (properties d keyText es) v (properties d keyText fs)) :
    SucceedAlike w (ofEntries d (entries d es)) v (ofEntries d (entries d fs)) := by
  have hw := result_ofEntries d es w
  have hv := result_ofEntries d fs v
  cases hs : Spec.ofEntries w id es with
  | ok s =>
    obtain ⟨hspecified, hothers⟩ := specified_of_ok hclass hs
    rw [hs] at hw
    rw [hothers fs v hkeys] at hv
    refine .congr hw hv ?_
    rw [hspecified]
    refine succeedAlike_ofSpec hregistry hclasses rfl ?_ ?_
    · rw [names_specified, names_specified, keys_filter, keys_filter, hkeys.keys]
    · rwa [properties_specified, properties_specified]
  | error ps =>
    rw [hs] at hw
    cases ht : Spec.ofEntries v id fs with
    | ok t =>
      have hback := (specified_of_ok (hkeys.named ▸ hclass) ht).2 es w hkeys.symm
      rw [hs] at hback
      cases hback
    | error qs =>
      rw [ht] at hv
      exact fun x u => by simp [hw, hv]

/-- A dictionary that names neither a class nor a type stays one. -/
theorem plainEntries_eq (hclass : (Document.lookup? es classKey).isSome = false)
    (htype : ∀ k, es.map (·.1) = [k] → textOf? k ≠ some typeKey) :
    plainEntries (entries d es) = (do Run.alloc (.dict (← properties d id es))) := by
  have hentry : typeEntry? (entries d es) = none := by
    match es, htype with
    | [], _ => rfl
    | [(k, doc)], htype =>
      rw [entries_eq_map]
      exact if_neg fun hk => htype k rfl (eq_of_beq hk)
    | _ :: _ :: _, _ => rfl
  have hall : es.filter isProperty = es := by
    rw [List.filter_eq_self]
    intro e he
    rw [Document.lookup?, Option.isSome_map, Option.isSome_eq_false_iff, Option.isNone_iff_eq_none,
      List.find?_eq_none] at hclass
    simpa [isProperty] using hclass e he
  rw [plainEntries, hentry, properties, hall, entries_eq_map, List.mapM_map]
  rfl

/-- Dictionaries under the same keys whose properties are read alike. -/
theorem succeedAlike_dict (hregistry : v.registry = w.registry) (hclasses : w.SameClasses v)
    (hkeys : SameKeys es fs) (htype : ∀ k, es.map (·.1) = [k] → textOf? k ≠ some typeKey)
    (h : ∀ {β : Type} (name : Value → β),
      SucceedAlike w (properties d name es) v (properties d name fs)) :
    SucceedAlike w (value d (.dict es)) v (value d (.dict fs)) := by
  rw [value, value]
  cases hclass : (Document.lookup? es classKey).isSome with
  | true =>
    have hclass' : (Document.lookup? fs classKey).isSome = true := hkeys.named ▸ hclass
    simp only [hclass', if_true]
    exact succeedAlike_ofEntries hregistry hclasses hkeys hclass (h keyText)
  | false =>
    have hclass' : (Document.lookup? fs classKey).isSome = false := hkeys.named ▸ hclass
    simp only [hclass', Bool.false_eq_true, if_false]
    rw [plainEntries_eq hclass htype, plainEntries_eq hclass' fun k hk => htype k (hkeys.keys.trans hk)]
    exact (h id).bind _

end Reading

end FunctionObjects
