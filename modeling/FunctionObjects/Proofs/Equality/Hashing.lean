import FunctionObjects.Proofs.Equality.Freezing
import FunctionObjects.Proofs.State.Initial
import FunctionObjects.Tuple.Access
/-!
# Equal objects have one hash

The hash of an object comes from its class and its frozen attributes.  Equal objects have equal ones
where freezing keeps equality, and not beyond: keys that are equal and shown differently are enough to
give equal objects different hashes.
-/

namespace FunctionObjects

open Datum

variable {w : World} {x y : Value} {c d : ClassName} {as bs : List (String × Datum)}
  {K T : Datum → Prop}

/-- What defines an object's configuration: its attributes under their names. -/
def Datum.publicState (as : List (String × Datum)) : Datum :=
  .dict (as.map fun a => (.atom (.str a.1), a.2))

theorem Datum.freeze_publicState (as : List (String × Datum)) : (publicState as).freeze =
    .tuple ((sortPairs (as.map fun a => (Text.quoted a.1, a.2.freeze))).map pair) := by
  rw [publicState, freezes_freeze.dict, List.map_map]
  rfl

theorem Datum.sound_publicState (hnames : (as.map (·.1)).Nodup) (h : ∀ a ∈ as, a.2.Sound) :
    (publicState as).Sound := by
  refine .dict ?_ (fun e he => ?_) fun e he => ?_
  · rw [List.map_map]
    refine List.pairwise_map.mpr ((List.pairwise_map.mp hnames).imp fun hne hsame => hne ?_)
    exact (sameItem_str_iff _ _).mp hsame
  · obtain ⟨a, -, rfl⟩ := List.mem_map.mp he
    exact .atom trivial
  · obtain ⟨a, ha, rfl⟩ := List.mem_map.mp he
    exact h a ha

theorem Datum.textsIn_publicState (h : ∀ a ∈ as, a.2.TextsIn IsText T) :
    (publicState as).TextsIn IsText T := by
  refine .dict (fun e he => ?_) fun e he => ?_
  · obtain ⟨a, -, rfl⟩ := List.mem_map.mp he
    exact ⟨a.1, rfl⟩
  · obtain ⟨a, ha, rfl⟩ := List.mem_map.mp he
    exact h a ha

theorem TupleObject.result_sameHash {s t : Datum} (hx : (w.read x).hashKey? = some s)
    (hy : (w.read y).hashKey? = some t) :
    (TupleObject.sameHash x y).result w = (.ok (s.sameItem t), w) := by
  simp only [sameHash, Run.result_bind, Run.result_datum, hx, hy, Run.result_require_some]
  rfl

/-- A state with two objects that compare what they get with a dictionary. -/
def comparing (es fs : List (Value × Value)) : World := { World.initial with
  heap := #[.dict es, .object LibraryClass.isEqual.className none [("value", .ref 0)],
    .dict fs, .object LibraryClass.isEqual.className none [("value", .ref 2)], .list [.int 1],
    .list [.bool true]] }

theorem read_comparing (es fs : List (Value × Value)) (ts us : List (Datum × Datum))
    (hes : (comparing es fs).HoldsEntries ts es) (hfs : (comparing es fs).HoldsEntries us fs) :
    (comparing es fs).read (.ref 1) = .object LibraryClass.isEqual.className [("value", .dict ts)] ∧
      (comparing es fs).read (.ref 3) =
        .object LibraryClass.isEqual.className [("value", .dict us)] := by
  have hstructural : (comparing es fs).isStructural LibraryClass.isEqual.className = true :=
    (World.initial_stocked .isEqual (by decide)).structural
  have hvisible : ∀ v, World.visible [("value", v)] = [("value", v)] := by
    intro v
    simp [World.visible]
  constructor
  · refine World.read_of_holds ⟨1, none, _, rfl, rfl, hstructural, ?_⟩
    rw [hvisible]
    exact ⟨rfl, ⟨0, es, rfl, rfl, hes⟩, trivial⟩
  · refine World.read_of_holds ⟨3, none, _, rfl, rfl, hstructural, ?_⟩
    rw [hvisible]
    exact ⟨rfl, ⟨2, fs, rfl, rfl, hfs⟩, trivial⟩

/-- Two equal function objects, of whatever class and configuration, have equal frozen states and one
hash, if the keys of dictionaries in them are shown alike exactly when they are equal, and the tuples
whenever they are. -/
theorem World.equal_objects_hash_equal (hx : w.read x = .object c as) (hy : w.read y = .object d bs)
    (hsound : (w.read x).Sound) (hsound' : (w.read y).Sound) (hK : TellApart K) (hT : ShowAlike T)
    (htexts : (w.read x).TextsIn K T) (htexts' : (w.read y).TextsIn K T)
    (heq : (Run.same x y).result w = (.ok true, w)) :
    (publicState as).freeze.same (publicState bs).freeze = true ∧
      (TupleObject.sameHash x y).result w = (.ok true, w) := by
  have hsame : (w.read x).same (w.read y) = true := by simpa using heq
  rw [hx] at hsound htexts
  rw [hy] at hsound' htexts'
  rw [hx, hy] at hsame
  obtain ⟨bs, hbs, hattributes, hlen⟩ := object_same hsame
  cases hbs
  constructor
  · rw [freeze_publicState, freeze_publicState]
    cases htexts with | object has => ?_
    cases htexts' with | object hbs => ?_
    refine same_attributes hsound.of_object.1 hsound'.of_object.1 hlen fun a ha => ?_
    obtain ⟨b, hb, hname, hvalue⟩ := attributesIn_iff.mp hattributes a ha
    exact ⟨b, hb, hname, freezes_freeze.sameItem hK hT (has a ha) _ (hbs b hb)
      (hsound.of_object.2 a ha) (hsound'.of_object.2 b hb) hvalue⟩
  · rw [TupleObject.result_sameHash (congrArg hashKey? hx) (congrArg hashKey? hy)]
    have hdigest := freezes_digest.sameItem hK hT htexts _ htexts' hsound hsound'
      (sameItem_of_same hsame)
    rw [hdigest]

/-- The objects hold the same entries in another order, with a truth value for a number. -/
theorem reordered_objects_hash_equal :
    let w := comparing [(.str "a", .int 1), (.str "b", .ref 4)]
      [(.str "b", .ref 5), (.str "a", .bool true)]
    (Run.same (.ref 1) (.ref 3)).result w = (.ok true, w) ∧
      (TupleObject.sameHash (.ref 1) (.ref 3)).result w = (.ok true, w) := by
  intro w
  obtain ⟨hx, hy⟩ := read_comparing [(.str "a", .int 1), (.str "b", .ref 4)]
    [(.str "b", .ref 5), (.str "a", .bool true)]
    [(.atom (.str "a"), .atom (.int 1)), (.atom (.str "b"), .list [.atom (.int 1)])]
    [(.atom (.str "b"), .list [.atom (.bool true)]), (.atom (.str "a"), .atom (.bool true))]
    ⟨rfl, rfl, rfl, ⟨4, _, rfl, rfl, rfl, trivial⟩, trivial⟩
    ⟨rfl, ⟨5, _, rfl, rfl, rfl, trivial⟩, rfl, rfl, trivial⟩
  have hsame : (Run.same (.ref 1) (.ref 3)).result w = (.ok true, w) := by
    rw [Run.result_same, hx, hy]
    rfl
  let Plain (t : Datum) : Prop := t.Sound ∧ t.TextsIn IsText fun _ => False
  have hlist : ∀ t, Plain t → Plain (.list [t]) := fun t ht =>
    ⟨.list (List.forall_mem_singleton.mpr ht.1), .list (List.forall_mem_singleton.mpr ht.2)⟩
  have hobject : ∀ m n t u, m ≠ n → Plain t → Plain u →
      Plain (.object LibraryClass.isEqual.className [("value", publicState [(m, t), (n, u)])]) := by
    intro m n t u hne ht hu
    refine ⟨.object (List.nodup_singleton _) (List.forall_mem_singleton.mpr (sound_publicState ?_ ?_)),
      .object (List.forall_mem_singleton.mpr (textsIn_publicState ?_))⟩
    · simpa using hne
    · simpa using ⟨ht.1, hu.1⟩
    · simpa using ⟨ht.2, hu.2⟩
  have hatom : ∀ a : Atom, a.Sound → Plain (.atom a) := fun a ha => ⟨.atom ha, .atom a⟩
  have hone := hatom (.int 1) trivial
  have htrue := hatom (.bool true) trivial
  have hfirst := hobject "a" "b" _ _ (by decide) hone (hlist _ hone)
  have hsecond := hobject "b" "a" _ _ (by decide) (hlist _ htrue) htrue
  exact ⟨hsame, (World.equal_objects_hash_equal hx hy (hx ▸ hfirst.1) (hy ▸ hsecond.1) tellApart_texts
    (by rintro _ _ ⟨⟩) (hx ▸ hfirst.2) (hy ▸ hsecond.2) hsame).2⟩

/-- Objects with equal attributes that are frozen differently are equal, have frozen states that are not
equal, and have two hashes.  Dictionaries under keys that are shown differently are frozen differently,
and so are tuples that are shown differently. -/
theorem World.hashes_differ {n : String} {t u : Datum} (hx : w.read x = .object c [(n, t)])
    (hy : w.read y = .object c [(n, u)]) (hsame : t.sameItem u = true)
    (hfrozen : ∀ {deep : Bool} {F : Datum → Datum}, Freezes deep F → ¬ (F t).sameItem (F u) = true) :
    (Run.same x y).result w = (.ok true, w) ∧
      (publicState [(n, t)]).freeze.same (publicState [(n, u)]).freeze = false ∧
      (TupleObject.sameHash x y).result w = (.ok false, w) := by
  have hstate : ¬ (publicState [(n, t)]).freeze.sameItem (publicState [(n, u)]).freeze = true := by
    rw [freeze_publicState, freeze_publicState]
    exact fun h => hfrozen freezes_freeze ((sameItem_pair_iff _ _).mp h).2
  have hdigest :
      ¬ (Datum.object c [(n, t)]).digest.sameItem (Datum.object c [(n, u)]).digest = true := by
    rw [freezes_digest.object, freezes_digest.object, if_pos rfl, if_pos rfl, sameItem_tuple,
      sameAll_iff, List.forall₂_cons, List.forall₂_cons]
    exact fun h => hfrozen freezes_digest ((sameItem_pair_iff _ _).mp h.2.1).2
  refine ⟨?_, ?_, ?_⟩
  · rw [Run.result_same, hx, hy, same_object_object]
    simpa [attributesIn_iff] using hsame
  · exact Bool.eq_false_iff.mpr fun h => hstate (sameItem_of_same h)
  · rw [TupleObject.result_sameHash (congrArg hashKey? hx) (congrArg hashKey? hy)]
    exact congrArg (fun b => (Except.ok b, w)) (Bool.eq_false_iff.mpr hdigest)

/-- A whole number and a truth value are one key and are shown differently. -/
theorem not_equal_objects_hash_equal :
    let w := comparing [(.int 1, .str "x")] [(.bool true, .str "x")]
    let s := [("value", Datum.dict [(.atom (.int 1), .atom (.str "x"))])]
    let t := [("value", Datum.dict [(.atom (.bool true), .atom (.str "x"))])]
    w.read (.ref 1) = .object LibraryClass.isEqual.className s ∧
      w.read (.ref 3) = .object LibraryClass.isEqual.className t ∧
      (Run.same (.ref 1) (.ref 3)).result w = (.ok true, w) ∧
      (publicState s).freeze.same (publicState t).freeze = false ∧
      (TupleObject.sameHash (.ref 1) (.ref 3)).result w = (.ok false, w) := by
  intro w s t
  obtain ⟨hx, hy⟩ := read_comparing [(.int 1, .str "x")] [(.bool true, .str "x")]
    [(.atom (.int 1), .atom (.str "x"))] [(.atom (.bool true), .atom (.str "x"))]
    ⟨rfl, rfl, trivial⟩ ⟨rfl, rfl, trivial⟩
  have hshown : (Datum.atom (.int 1)).shown ≠ (Datum.atom (.bool true)).shown := by decide
  exact ⟨hx, hy, World.hashes_differ hx hy (by decide) fun hF h =>
    hshown ((hF.sameItem_one_iff _ _ _ _).mp h).1⟩

end FunctionObjects
