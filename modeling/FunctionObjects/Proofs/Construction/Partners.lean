import FunctionObjects.Proofs.Construction.Objects
import FunctionObjects.Proofs.State.Holding
/-!
# What new objects hold as their functions

A constructor sets the functions of a chain to a new list of what it is given, and the predicate of an
object to what it is given.  So an object that a class makes of what was made directly was made directly.
-/

namespace FunctionObjects

open Run World LibraryClass

variable {w u v : World} {r : Ref} {c : ClassName} {x : Value}

namespace Run

/-- What has been set under a name is found there. -/
theorem lookup_assign (fields : List (String × Value)) (name : String) (x : Value) :
    (assign fields name x).lookup name = some x := by
  induction fields with
  | nil => simp [assign]
  | cons e fields ih =>
    obtain ⟨n, y⟩ := e
    by_cases hn : n = name
    · subst hn
      simp [assign]
    · have hhead : assign ((n, y) :: fields) name x = (n, y) :: assign fields name x := by
        simp only [assign, List.any_cons, beq_eq_false_iff_ne.mpr hn, Bool.false_or, List.map_cons]
        split <;> simp
      rw [hhead, List.lookup_cons, beq_eq_false_iff_ne.mpr (Ne.symm hn)]
      exact ih

/-- What is set last is found on the object in the end. -/
theorem lookup_of_setField {α : Type} {m : Run α} {f : α → Value} {name : String} {o : Option Ty}
    {fields : List (String × Value)}
    (h : (do setField (.ref r) name (f (← m))).result u = (.ok (), v))
    (hcell : v.heap[r]? = some (.object c o fields)) :
    ∃ a u', m.result u = (.ok a, u') ∧ Beside r u' v ∧ fields.lookup name = some (f a) := by
  obtain ⟨a, u', hm, hset⟩ := result_bind_eq_ok.mp h
  refine ⟨a, u', hm, ?_⟩
  cases hr : u'.heap[r]? with
  | none => simp [setField, result_bind, hr] at hset
  | some cell =>
    cases cell with
    | object c' o' fields' =>
      rw [result_setField hr] at hset
      obtain ⟨-, rfl⟩ := Prod.mk.inj hset
      have hlt : r < u'.heap.size := lt_size_of_getElem? hr
      refine ⟨⟨fun hl hd => ?_⟩, ?_⟩
      · rwa [Array.getElem?_setIfInBounds_ne (Ne.symm hl)]
      · simp only [Array.getElem?_setIfInBounds_self, hlt, if_true] at hcell
        obtain ⟨-, -, rfl⟩ := Cell.object.inj (Option.some.inj hcell)
        exact lookup_assign _ _ _
    | _ => simp [setField, result_bind, hr] at hset

end Run

namespace World.Direct

/-- What lists out of what was made directly was made directly. -/
theorem of_plainCursor? {xs : List Value} (h : w.Direct x) (hx : w.plainCursor? x = some (.held xs)) :
    ∀ y ∈ xs, w.Direct y := by
  intro y hy
  cases h with
  | atom a =>
    have hatoms : ∀ z ∈ xs, ∃ b, z = .atom b := by
      simp only [plainCursor?] at hx
      split at hx <;> simp only [Option.some.injEq, Cursor.held.injEq, reduceCtorEq] at hx
      all_goals
        subst hx
        intro z hz
        obtain ⟨_, -, rfl⟩ := List.mem_map.mp hz
        exact ⟨_, rfl⟩
    obtain ⟨b, rfl⟩ := hatoms y hy
    exact .atom b
  | list hr h =>
    obtain rfl : _ = xs := by simpa [plainCursor?, cell?, hr] using hx
    exact h y hy
  | dict hr h =>
    obtain rfl : _ = xs := by simpa [plainCursor?, cell?, hr] using hx
    exact h y hy
  | object hr => simp [plainCursor?, cell?, hr] at hx

end World.Direct

namespace Construction

variable {d : Dispatch} {t : Datum}

/-- A new list of what was made directly. -/
theorem direct_listOf (hg : w.Grows u) (ht : w.Holds t x) (hs : w.isSteady x = true)
    (hx : w.Direct x) {y : Value} (h : (d.listOf x).result u = (.ok y, v)) :
    ∃ xs, y = .ref u.heap.size ∧ v.heap[u.heap.size]? = some (.list xs) ∧ ∀ x ∈ xs, w.Direct x := by
  have htruth := d.result_truth hg ht hs
  have hcursor : (d.cursor x).result u = (Run.require .wrongType (w.plainCursor? x)).result u := by
    simp [Dispatch.cursor, result_bind, hg.isTupleObject ht, isTupleObject_of_isSteady hs,
      hg.plainCursor? ht]
  have hnew : ∀ xs : List Value, (Run.newList xs).result u = (.ok y, v) → (∀ x ∈ xs, w.Direct x) →
      ∃ xs, y = .ref u.heap.size ∧ v.heap[u.heap.size]? = some (.list xs) ∧ ∀ x ∈ xs, w.Direct x := by
    intro xs hlist hxs
    obtain ⟨hy, rfl⟩ := Prod.mk.inj hlist
    exact ⟨xs, (Except.ok.inj hy).symm, by simp, hxs⟩
  rw [Dispatch.listOf, result_bind_ok _ htruth] at h
  cases htrue : t.truth with
  | false =>
    rw [htrue] at h
    exact hnew [] h (by simp)
  | true =>
    rw [htrue, if_pos rfl] at h
    obtain ⟨xs, u', hitems, hlist⟩ := result_bind_eq_ok.mp h
    obtain ⟨_, ys, -, hheld, -⟩ | ⟨-, hnone⟩ := plainCursor?_of_holds ht hs
    · rw [hheld] at hcursor
      rw [Dispatch.items, result_bind_ok _ hcursor] at hitems
      obtain ⟨hxs, rfl⟩ := Prod.mk.inj hitems
      obtain rfl := Except.ok.inj hxs
      exact hnew _ hlist (hx.of_plainCursor? hheld)
    · rw [hnone] at hcursor
      rw [Dispatch.items, result_bind_error _ hcursor] at hitems
      cases hitems

/-- The classes that set functions or a predicate on their objects. -/
theorem partner_sources : ∀ k ∈ Registry.shipped,
    ("functions" ∈ k.source.attributeNames → k.source = .functionComposite) ∧
    ("predicate" ∈ k.source.attributeNames →
      k.source = .adaptedPredicate ∨ k.source = .tupleAdaptedPredicate ∨ k.source = .firstValid ∨
        k.source = .iterableFilter ∨ k.source = .negation) := by
  decide

variable {k : LibraryClass} {b : Binding} {arg : String → Datum} {args : Arguments}
  {fields : List (String × Value)} {o : Option Ty}

/-- What the constructor does when an object is made, which starts without attributes. -/
theorem result_setUp_of_make (hk : k ∈ Registry.shipped) (ho : w.Offers k)
    (howner : k.owner?.isSome = true) (hargs : Binding.of k.params args = .ok b)
    (hmake : (make d k.className args).result w = (.ok x, v)) :
    (setUp d k.source (.ref w.heap.size) b).result
      { w with heap := w.heap.push (.object k.className none []) } = (.ok (), v) := by
  rw [result_make d hk ho, hargs] at hmake
  simp only [result_bind, result_alloc, howner, if_true] at hmake
  generalize (setUp d k.source (.ref w.heap.size) b).result _ = out at hmake ⊢
  obtain ⟨⟨⟩ | ⟨⟨⟩⟩, v'⟩ := out <;> simp_all

/-- The functions of a new chain are a new list of what it is given. -/
theorem direct_of_setUp_functions (hg : w.Grows u) (hgv : w.Grows v)
    (hb : Given w .functionComposite b arg) (hdirect : w.Direct (b.value "functions"))
    (hr : r < u.heap.size)
    (h : (setUp d .functionComposite (.ref r) b).result u = (.ok (), v))
    (hcell : v.heap[r]? = some (.object c o fields)) (hx : fields.lookup "functions" = some x) :
    v.Direct x := by
  obtain ⟨l, u', hlist, hbeside, hl⟩ := lookup_of_setField (f := id) h hcell
  obtain ⟨xs, rfl, hxs, hall⟩ :=
    direct_listOf hg (hb.holds _) (hb.steady _ (by decide)) hdirect hlist
  rw [hx] at hl
  obtain rfl := Option.some.inj hl
  exact .list (hbeside.cell (Nat.ne_of_gt hr) hxs) fun y hy => (hall y hy).later hgv

/-- The predicate of a new object is the one that it is given. -/
theorem lookup_predicate_of_setUp {owner : LibraryClass} (hb : Given w owner b arg)
    (howner : owner = .adaptedPredicate ∨ owner = .tupleAdaptedPredicate ∨ owner = .firstValid ∨
      owner = .iterableFilter ∨ owner = .negation)
    (h : (setUp d owner (.ref r) b).result u = (.ok (), v))
    (hcell : v.heap[r]? = some (.object c o fields)) :
    fields.lookup "predicate" = some (b.value "predicate") := by
  have hlast : ∀ {α : Type} {m : Run α},
      (do let _ ← m; setField (.ref r) "predicate" (b.value "predicate")).result u = (.ok (), v) →
        fields.lookup "predicate" = some (b.value "predicate") := by
    intro α m h
    obtain ⟨-, -, -, -, hl⟩ := lookup_of_setField (f := fun _ => b.value "predicate") h hcell
    exact hl
  have hstored : owner.parameters? = some [.optional "predicate"] →
      (storeAll (.ref r) b []).result u = (.ok (), v) →
        fields.lookup "predicate" = some (b.value "predicate") := by
    intro hparams h
    have hvalues := hb.params
    rw [hparams] at hvalues
    obtain ⟨⟨p, x⟩, hsingle, rfl⟩ := List.map_eq_singleton_iff.mp hvalues
    have hvalue : b.value "predicate" = x := by simp [Binding.value, hsingle, Param.optional]
    refine hlast (m := pure ()) ?_
    rw [storeAll, hsingle] at h
    rw [hvalue]
    simpa [Param.optional] using h
  obtain rfl | rfl | rfl | rfl | rfl := howner
  · exact hlast h
  · simp only [setUp, ← bind_assoc] at h
    exact hlast h
  all_goals exact hstored rfl h

/-- What a class makes of what was made directly was made directly. -/
theorem direct_of_make (hk : k ∈ Registry.shipped) (ho : w.Offers k)
    (hargs : Binding.of k.params args = .ok b) (hb : Given w k.source b arg)
    (hdirect : ∀ name, w.Direct (b.value name)) {as : List (String × Datum)}
    (has : attributes? w.zones k arg = some as)
    (hmake : (make d k.className args).result w = (.ok (.ref w.heap.size), v))
    (hm : Making w w.heap.size k.className as v) : v.Direct (.ref w.heap.size) := by
  obtain ⟨fields, hcell, hready⟩ := hm.cell
  refine .object hcell fun name hname y hy => ?_
  have hattribute : name ∈ k.source.attributeNames := by
    rw [← named_attributesOf _ _ _ has, ← hready.names]
    exact List.mem_map.mpr ⟨_, Binding.mem_of_lookup hy, rfl⟩
  have howner : k.owner?.isSome = true := by
    cases hnone : k.owner? with
    | some owner => rfl
    | none =>
      obtain rfl := Option.some.inj ((attributes_of_no_owner hnone).symm.trans has)
      rw [← named_attributesOf _ _ _ has] at hattribute
      simp at hattribute
  have hsetUp := result_setUp_of_make hk ho howner hargs hmake
  simp only [List.mem_cons, List.not_mem_nil, or_false] at hname
  obtain rfl | rfl := hname
  · rw [(partner_sources k hk).1 hattribute] at hsetUp hb
    exact direct_of_setUp_functions (Grows.push w _) hm.grows hb (hdirect _) (by simp) hsetUp hcell hy
  · have hlookup := lookup_predicate_of_setUp hb ((partner_sources k hk).2 hattribute) hsetUp hcell
    rw [hy] at hlookup
    obtain rfl := Option.some.inj hlookup
    exact (hdirect _).later hm.grows

end Construction

end FunctionObjects
