import FunctionObjects.Proofs.Document.Context
import FunctionObjects.Proofs.Frame.Calls
import FunctionObjects.Proofs.State.Initial
/-!
# Function objects in place

A specification that names its class under `"class"` is read in any place as it is read on its own: the
rest of the document is made with the object that it gives.  A specification that names its class under
`"class_name"` alone makes an object on its own only; in a place it stays a dictionary.
-/

namespace FunctionObjects

open Run World Document

variable {d : Dispatch} {w w₁ v : World} {P Q : Context} {m : Document} {g : Value}

namespace Document

/-- A dictionary with the name of a class, and with the place in one of its properties. -/
def Context.IsSpecification : Context → Prop
  | entry before _ _ after => (lookup? (before ++ after) classKey).isSome = true
  | _ => False

theorem lookup?_append_cons {k : Value} (doc : Document) (es fs : List (Value × Document))
    (hk : textOf? k ≠ some classKey) :
    lookup? (es ++ (k, doc) :: fs) classKey = lookup? (es ++ fs) classKey := by
  have hkey : (textOf? k == some classKey) = false := beq_eq_false_iff_ne.mpr hk
  rw [lookup?, lookup?, List.find?_append, List.find?_append, List.find?_cons, hkey]

theorem frames_decoded (hd : d.Framing) : ∀ (P : Context) (w : World), Frames w (P.decoded d)
  | .here, _ => .pure _
  | .item before p _, w => (Reading.frames_values hd before w).bind fun _ =>
    (frames_decoded hd p w).bind fun _ => .pure _
  | .entry before _ p _, w => by
    have hentry : ∀ e, Frames w (readEntry d e) := by
      intro e
      unfold readEntry
      split
      · exact (Reading.frames_value hd e.2 w).bind fun _ => .pure _
      · exact .pure _
    exact (Frames.mapM hentry before).bind fun _ => (frames_decoded hd p w).bind fun _ => .pure _


end Document

namespace Reading

/-- Whatever stands in a place is read as it is on its own once everything before it has been read. -/
theorem succeedAlike_fill (hd : d.Framing) (hP : P.IsRead)
    (hbefore : (P.decoded d).result w = (.ok Q, w₁)) (hm : (value d m).result w₁ = (.ok g, v)) :
    SucceedAlike w (value d (P.fill m)) v (value d (Q.fill (.leaf g))) := by
  induction P generalizing w Q with
  | here =>
    cases hbefore
    exact .of_result hm
  | item before p after ih =>
    obtain ⟨xs, w₀, hxs, hrest⟩ := result_bind_eq_ok.mp hbefore
    obtain ⟨q, _, hq, hpure⟩ := result_bind_eq_ok.mp hrest
    cases hpure
    rw [values_eq_mapM] at hxs
    rw [Context.fill, Context.fill, value, value, values_eq_mapM, values_eq_mapM]
    exact (SucceedAlike.mapM hxs (result_values_leaf xs v) (ih hP hq)).bind _
  | entry before k p after ih =>
    obtain ⟨es, w₀, hes, hrest⟩ := result_bind_eq_ok.mp hbefore
    obtain ⟨q, _, hq, hpure⟩ := result_bind_eq_ok.mp hrest
    cases hpure
    obtain ⟨hk, hlone, hinner⟩ := hP
    have hkeeps : w.Keeps v := by
      have hdecoded := frames_decoded hd (.entry before k p after) w w (.refl w)
      have hvalue := frames_value hd m w₁ w₁ (.refl w₁)
      rw [hbefore] at hdecoded
      rw [hm] at hvalue
      exact hdecoded.trans hvalue
    have hkeys : SameKeys (before ++ (k, p.fill m) :: after) (es ++ (k, q.fill (.leaf g)) :: after) :=
      (sameKeys_readEntry hes).append ((SameKeys.refl after).cons rfl fun hk' => absurd hk' hk)
    refine succeedAlike_dict (by rw [hkeeps.rest]) ⟨hkeeps.hierarchy, hkeeps.declarations⟩ hkeys ?_
      fun name => succeedAlike_properties hes hk (ih hinner hq) name
    intro k' hk'
    rw [List.map_append, List.map_cons, List.append_eq_singleton_iff] at hk'
    obtain ⟨hnil, hrest⟩ | ⟨-, hrest⟩ := hk'
    · obtain ⟨rfl, hnil'⟩ := List.cons.inj hrest
      exact hlone (List.map_eq_nil_iff.mp hnil) (List.map_eq_nil_iff.mp hnil')
    · cases hrest

/-- A dictionary with the name of a class is read as a function object. -/
theorem value_eq_function {es : List (Value × Document)}
    (hclass : (Document.lookup? es classKey).isSome = true) :
    value d (.dict es) = function d (.dict es) := by
  rw [value]
  exact if_pos hclass

/-- A dictionary without the name of a class, that does not name a type either, is read as one. -/
theorem dict_of_plain {es : List (Value × Document)} {x : Value} {u : World}
    (hclass : (Document.lookup? es classKey).isSome = false)
    (htype : ∀ k, es.map (·.1) = [k] → textOf? k ≠ some typeKey)
    (h : (value d (.dict es)).result w = (.ok x, u)) :
    ∃ l vs, x = .ref l ∧ u.heap[l]? = some (.dict vs) := by
  rw [value] at h
  simp only [hclass, Bool.false_eq_true, if_false] at h
  rw [plainEntries_eq hclass htype] at h
  obtain ⟨ps, u', -, halloc⟩ := result_bind_eq_ok.mp h
  cases halloc
  exact ⟨_, ps, rfl, by simp⟩

/-- A specification names its class under one key or the other one, so it names more than a type. -/
theorem not_type_of_function {es : List (Value × Document)}
    (h : (function d (.dict es)).result w = (.ok g, v)) (k : Value) (hk : es.map (·.1) = [k]) :
    textOf? k ≠ some typeKey := by
  intro htype
  obtain ⟨⟨k', doc⟩, rfl, hkey⟩ := List.map_eq_singleton_iff.mp hk
  obtain rfl : k' = k := hkey
  have hname : Spec.nameKey? [(k', doc)] = none := by
    simp [Spec.nameKey?, Document.lookup?, htype, typeKey]
  have hmissing : ∃ ps, Spec.ofEntries w id [(k', doc)] = .error ps := by
    rw [Spec.ofEntries_eq, Spec.name, hname]
    exact ⟨_, rfl⟩
  obtain ⟨ps, hps⟩ := hmissing
  have hresult := result_ofEntries d [(k', doc)] w
  rw [hps] at hresult
  cases hresult.symm.trans h

/-- A function object that is read on its own once everything before its place has been read: if its
specification names the class under `"class"`, the document around it is read with it in its place, and if
not, a dictionary stands there. -/
theorem function_in_place {es : List (Value × Document)} (hd : d.Framing) (hP : P.IsRead)
    (hbefore : (P.decoded d).result w = (.ok Q, w₁))
    (hm : (function d (.dict es)).result w₁ = (.ok g, v)) :
    ((Document.lookup? es classKey).isSome = true →
      SucceedAlike w (value d (P.fill (.dict es))) v (value d (Q.fill (.leaf g))) ∧
      (P.IsSpecification →
        SucceedAlike w (function d (P.fill (.dict es))) v (function d (Q.fill (.leaf g))))) ∧
    ((Document.lookup? es classKey).isSome = false → ∀ x u,
      (value d (.dict es)).result w₁ = (.ok x, u) →
        ∃ l vs, x = .ref l ∧ u.heap[l]? = some (.dict vs)) := by
  refine ⟨fun hclass => ?_, fun hclass x u hx =>
    dict_of_plain hclass (not_type_of_function hm) hx⟩
  have halike := succeedAlike_fill hd hP hbefore ((value_eq_function hclass).symm ▸ hm)
  refine ⟨halike, fun hwhole => ?_⟩
  cases P with
  | here => exact hwhole.elim
  | item before p after => exact hwhole.elim
  | entry before k p after =>
    obtain ⟨fs, w₀, hfs, hrest⟩ := result_bind_eq_ok.mp hbefore
    obtain ⟨q, _, -, hpure⟩ := result_bind_eq_ok.mp hrest
    cases hpure
    have hnamed : (Document.lookup? (fs ++ after) classKey).isSome = true :=
      ((sameKeys_readEntry hfs).append (.refl after)).named ▸ hwhole
    have hwhole' := lookup?_append_cons (p.fill (.dict es)) before after hP.1
    have hnamed' := lookup?_append_cons (q.fill (.leaf g)) fs after hP.1
    rw [Context.fill, Context.fill] at halike ⊢
    rwa [← value_eq_function (hwhole' ▸ hwhole), ← value_eq_function (hnamed' ▸ hnamed)]

end Reading

/-- A chain of one function, with a place for it. -/
def chainPlace : Context :=
  .entry [(.str classKey, .str "FunctionComposite")] (.str "functions") (.item [] .here []) []

/-- The identity, its class named under some key. -/
def identityNamed (key : String) : Document := .dict [(.str key, .str "Identity")]

/-- The object of the identity. -/
def identityDatum : Datum := .object LibraryClass.identity.className []

/-- A chain of one datum. -/
def chainDatum (t : Datum) : Datum :=
  .object LibraryClass.functionComposite.className [("functions", .list [t])]

namespace InPlace

theorem classNamed_initial {k : LibraryClass} (hk : k ∈ Registry.shipped) :
    initial.registry.classes.lookup k.className.name = some k.className :=
  (initial_tables.2.1 k hk).2.2.2.2.2.2

theorem decoded_chainPlace (d : Dispatch) (w : World) :
    (chainPlace.decoded d).result w = (.ok chainPlace, w) := rfl

/-- The identity is made by any specification that names it. -/
theorem gives_identity (d : Dispatch) : Gives initial (Reading.ofSpec d ⟨"Identity", []⟩)
    fun u x => u.Holds identityDatum x ∧ u.Direct x := by
  have hclass : initial.registry.classes.lookup "Identity" = some LibraryClass.identity.className :=
    classNamed_initial (k := .identity) (by decide)
  have hfields : CarriesFields d initial [] [] := .nil
  have hgives := gives_ofSpec (k := .identity) (by decide) initial_stocked hclass hfields (by simp)
    (fun n hn => by cases hn) rfl
  exact hgives

/-- The key that is not looked for in places names a class, too. -/
theorem result_identity (d : Dispatch) (w : World) :
    (Reading.function d (identityNamed "class_name")).result w =
      (Reading.ofSpec d ⟨"Identity", []⟩).result w := by
  have hspec : Spec.ofEntries w id [(Value.str "class_name", Document.str "Identity")] =
      .ok ⟨"Identity", []⟩ := rfl
  have hresult := Reading.result_ofEntries d [(Value.str "class_name", Document.str "Identity")] w
  rw [hspec] at hresult
  exact hresult

/-- A chain in a document carries a chain of what its function carries. -/
theorem carries_chain {doc : Document} {t : Datum} (hg : initial.Grows w)
    (h : Carries d w doc t) : Carries d w (chainPlace.fill doc) (chainDatum t) := by
  have hclass : w.registry.classes.lookup "FunctionComposite" =
      some LibraryClass.functionComposite.className := by
    rw [hg.registry]
    exact classNamed_initial (k := .functionComposite) (by decide)
  have hfields : CarriesFields d w [("functions", .list [doc])] [("functions", .list [t])] :=
    .cons ⟨rfl, carries_list (.cons h .nil)⟩ .nil
  -- Written out, since a document that is filled in does not show that it begins with the name of a class.
  have hchain : Carries d w (.ofNamed [(classKey, .str "FunctionComposite"), ("functions", .list [doc])])
      (chainDatum t) := by
    refine carries_function (by decide) (hg.stocked initial_stocked) (by decide) hclass hfields ?_
      (by simp [classKey]) ?_ rfl
    · intro e he
      obtain rfl := List.mem_singleton.mp he
      exact ⟨_, List.mem_cons_self, rfl⟩
    · intro n hn
      obtain rfl := List.mem_singleton.mp hn
      exact .inl (Option.some_ne_none _)
  exact hchain

/-- A chain is read from a document that has its function in place. -/
theorem result_chain {doc : Document} {t : Datum} (hg : initial.Grows w)
    (h : Carries d w doc t) : ∃ x u, (Reading.function d (chainPlace.fill doc)).result w = (.ok x, u) ∧
      u.read x = chainDatum t := by
  obtain ⟨x, u, hres, -, hx, -⟩ := carries_chain hg h w (.refl w)
  exact ⟨x, u, hres, read_of_holds hx⟩

end InPlace

/-- The identity in a chain: the chain is made with what the specification of the identity gives. -/
theorem identity_in_place : ∃ g v x u,
    (Reading.function .standard (identityNamed "class")).result initial = (.ok g, v) ∧
    (Reading.function .standard (chainPlace.fill (identityNamed "class"))).result initial =
      (.ok x, u) ∧
    (Reading.function .standard (chainPlace.fill (.leaf g))).result v = (.ok x, u) := by
  have hfields : CarriesFields .standard initial [] [] := .nil
  have hspec : Carries .standard initial (identityNamed "class") identityDatum :=
    carries_function (k := .identity) (by decide) initial_stocked (by decide)
      (InPlace.classNamed_initial (by decide)) hfields (by simp) (by simp)
      (fun n hn => by cases hn) rfl
  obtain ⟨g, v, hg, -⟩ := hspec initial (.refl initial)
  have hclass : (Document.lookup? [(Value.str "class", Document.str "Identity")] classKey).isSome =
      true := by decide
  rw [identityNamed, Reading.value_eq_function hclass] at hg
  obtain ⟨x, u, hx, -⟩ := InPlace.result_chain (.refl initial) hspec
  have hplace := Reading.function_in_place (P := chainPlace) Dispatch.framing_standard
    ⟨by decide, nofun, trivial⟩ (InPlace.decoded_chainPlace _ initial) hg
  obtain ⟨-, hwhole⟩ := hplace.1 hclass
  exact ⟨g, v, x, u, hg, hx, (hwhole rfl x u).mp hx⟩

/-- The identity, its class named under the other key, is made on its own.  In a chain a dictionary stands in
its place. -/
theorem not_function_in_place : ∃ g v x u y u',
    (Reading.function .standard (identityNamed "class_name")).result initial = (.ok g, v) ∧
    v.read g = identityDatum ∧
    (Reading.function .standard (chainPlace.fill (identityNamed "class_name"))).result initial =
      (.ok x, u) ∧
    (Reading.function .standard (chainPlace.fill (.leaf g))).result v = (.ok y, u') ∧
    (u.read x).same (u'.read y) = false := by
  obtain ⟨g, v, hmade, hgrows, hg, hdirect⟩ := InPlace.gives_identity .standard initial (.refl initial)
  have hown : (Reading.function .standard (identityNamed "class_name")).result initial = (.ok g, v) :=
    (InPlace.result_identity .standard initial).trans hmade
  have hfields : CarriesFields .standard initial [("class_name", .str "Identity")]
      [("class_name", .atom (.str "Identity"))] := .cons ⟨rfl, carries_atom _⟩ .nil
  have hdict : Carries .standard initial (identityNamed "class_name")
      (.dict [(.atom (.str "class_name"), .atom (.str "Identity"))]) :=
    carries_dict (by decide) (by decide) hfields
  have hobject : Carries .standard v (.leaf g) identityDatum := .pure fun u hu =>
    ⟨hu.holds hg, hdirect.later hu⟩
  obtain ⟨x, u, hx, hreadx⟩ := InPlace.result_chain (.refl initial) hdict
  obtain ⟨y, u', hy, hready⟩ := InPlace.result_chain hgrows hobject
  refine ⟨g, v, x, u, y, u', hown, read_of_holds hg, hx, hy, ?_⟩
  rw [hreadx, hready]
  decide

end FunctionObjects
