import FunctionObjects.Proofs.Predicate.Combining
/-!
# Filters one after the other

Filtering by one predicate after the other keeps what filtering by their conjunction keeps.  The filters
ask the next predicate about all items that are left, and the conjunction asks all predicates about the
next item, so that the first failure need not be the same; but there is one in both or in none of them.
-/

namespace FunctionObjects

open Run World

namespace Filtering

/-- The items that a test accepts; nothing if it fails on one of them. -/
def survivors (test : Value → Option Bool) : List Value → Option (List Value)
  | [] => some []
  | v :: vs => do
    if ← test v then return v :: (← survivors test vs) else survivors test vs

/-- Asks tests in turn as long as they accept. -/
def verdict (v : Value) : List (Value → Option Bool) → Option Bool
  | [] => some true
  | t :: ts => do if ← t v then verdict v ts else some false

/-- Applies tests in turn to all items that are left. -/
def staged : List (Value → Option Bool) → List Value → Option (List Value)
  | [], vs => some vs
  | t :: ts, vs => do staged ts (← survivors t vs)

theorem survivors_all (vs : List Value) : survivors (fun _ => some true) vs = some vs := by
  induction vs with
  | nil => rfl
  | cons v vs ih => simp [survivors, ih]

/-- Asking a second test only about what the first one accepts, item by item or afterwards. -/
theorem survivors_survivors (t t' : Value → Option Bool) (vs : List Value) :
    survivors (fun v => do if ← t v then t' v else some false) vs =
      (survivors t vs).bind (survivors t') := by
  induction vs with
  | nil => rfl
  | cons v vs ih =>
    rw [survivors, survivors, ih]
    cases t v with
    | none => rfl
    | some b =>
      cases b with
      | false => rfl
      | true =>
        cases survivors t vs with
        | none => cases t' v with
          | none => rfl
          | some b' => cases b' <;> rfl
        | some ys => rfl

theorem survivors_verdict (ts : List (Value → Option Bool)) (vs : List Value) :
    survivors (verdict · ts) vs = staged ts vs := by
  induction ts generalizing vs with
  | nil => exact survivors_all vs
  | cons t ts ih =>
    rw [staged]
    refine (survivors_survivors t (verdict · ts) vs).trans ?_
    exact bind_congr ih

theorem mem_of_survivors {test : Value → Option Bool} {vs ys : List Value}
    (h : survivors test vs = some ys) : ∀ v ∈ ys, v ∈ vs := by
  induction vs generalizing ys with
  | nil =>
    obtain rfl : [] = ys := Option.some.inj h
    exact nofun
  | cons v vs ih =>
    rw [survivors] at h
    cases ht : test v with
    | none => simp [ht] at h
    | some b =>
      cases b with
      | false => exact fun a ha => List.mem_cons_of_mem _ (ih (by simpa [ht] using h) a ha)
      | true =>
        obtain ⟨zs, hzs, rfl⟩ : ∃ zs, survivors test vs = some zs ∧ v :: zs = ys := by
          simpa [ht, Option.bind_eq_some_iff] using h
        exact fun a ha => by
          rcases List.mem_cons.mp ha with rfl | ha
          · exact List.mem_cons_self
          · exact List.mem_cons_of_mem _ (ih hzs a ha)

end Filtering

open Filtering

variable {r : Ref} {w u : World} {x F A G p : Value} {ps fs vs : List Value} {n : Nat}

/-- A walk with some items left, which an iterator in cell `r` may hold. -/
def Cursor.IsAt (c : Cursor) (r : Ref) (w : World) (vs : List Value) : Prop :=
  c = .held vs ∨ c = .shared r ∧ ∃ k, w.heap[r]? = some (.iterator k vs)

namespace Cursor.IsAt

variable {c : Cursor} {v : Value}

theorem grows (h : c.IsAt r w vs) (hg : w.Grows u) : c.IsAt r u vs := by
  obtain rfl | ⟨rfl, k, hcell⟩ := h
  · exact .inl rfl
  · exact .inr ⟨rfl, k, hg.heap hcell⟩

theorem rest (h : c.IsAt r w vs) : c.rest w = vs := by
  obtain rfl | ⟨rfl, k, hcell⟩ := h
  · rfl
  · simp [Cursor.rest, World.cell?, hcell]

/-- Taking an item changes the iterator at most. -/
theorem result_next_cons (h : c.IsAt r w (v :: vs)) : ∃ c' u,
    c.next.result w = (.ok (some (v, c')), u) ∧ Around r w u ∧ c'.IsAt r u vs := by
  obtain rfl | ⟨rfl, k, hcell⟩ := h
  · exact ⟨_, w, rfl, .refl r w, .inl rfl⟩
  · refine ⟨.shared r, { w with heap := w.heap.setIfInBounds r (.iterator k vs) }, ?_,
      .set hcell rfl, .inr ⟨rfl, k, ?_⟩⟩
    · simp [Cursor.next, result_bind, result_map, hcell]
    · simp [lt_size_of_getElem? hcell]

end Cursor.IsAt

namespace World

/-- A value that can be iterated over: whatever the depth from `n` on, the walk starts with the same items,
and only an iterator in cell `r` can change. -/
def Iterates (w : World) (r : Ref) (n : Nat) (x : Value) (vs : List Value) : Prop :=
  ∀ m, n ≤ m → ∃ c u, ((Dispatch.ofDepth m).cursor x).result w = (.ok c, u) ∧
    Around r w u ∧ c.IsAt r u vs

/-- A predicate without side effects on some items: whatever cell `r` holds, it answers or fails as a test
says, and adds cells at most. -/
def Judges (w : World) (r : Ref) (d : Dispatch) (vs : List Value) (p : Value)
    (test : Value → Option Bool) : Prop :=
  ∀ v ∈ vs, ∀ u, Around r w u →
    Computes u (d.accepts p v) (test v) fun b b' u' => b' = b ∧ u.Grows u'

/-- A list of some items. -/
def IsListOf (w : World) (ys : List Value) (y : Value) : Prop :=
  ∃ l, y = .ref l ∧ w.heap[l]? = some (.list ys)

/-- An object that filters by a predicate. -/
def Filters (w : World) (F p : Value) : Prop :=
  p.isNone = false ∧ w.HandsOn F .function "apply" .iterableFilter "predicate" p

/-- An object that applies functions in turn. -/
def Chains (w : World) (G : Value) (fs : List Value) : Prop :=
  ∃ l, w.heap[l]? = some (.list fs) ∧
    w.HandsOn G .function "apply" .functionComposite "functions" (.ref l)

theorem Judges.later {d : Dispatch} {test : Value → Option Bool} (h : w.Judges r d vs p test)
    (hu : Around r w u) : u.Judges r d vs p test := fun v hv u' hu' => h v hv u' (hu.trans hu')

theorem Judges.mono {d : Dispatch} {test : Value → Option Bool} {ys : List Value}
    (h : w.Judges r d vs p test) (hys : ∀ v ∈ ys, v ∈ vs) : w.Judges r d ys p test :=
  fun v hv => h v (hys v hv)

/-- What holds its items itself, or is an iterator, can be iterated over. -/
theorem iterates_of_plainCursor? {c : Cursor} (hx : w.isTupleObject x = false)
    (hc : w.plainCursor? x = some c) (hat : c.IsAt r w vs) (n : Nat) : w.Iterates r n x vs := by
  intro m _
  refine ⟨c, w, ?_, .refl r w, hat⟩
  simp [Dispatch.cursor, result_bind, hx, hc]

theorem IsListOf.iterates (h : w.IsListOf vs x) (r : Ref) (n : Nat) : w.Iterates r n x vs := by
  obtain ⟨l, rfl, hcell⟩ := h
  exact iterates_of_plainCursor? (c := .held vs) (by simp [isTupleObject, World.cell?, hcell])
    (by simp [plainCursor?, World.cell?, hcell]) (.inl rfl) n

/-- Tuples addressed by position can be iterated over. -/
theorem iterates_of_slots {l : Ref} {c : ClassName} {o : Option Ty}
    (hcell : w.heap[l]? = some (.slots c o vs))
    (hvalues : w.member? c "values" = some (.library .arrayTuple .method)) :
    w.Iterates r (n + 1) (.ref l) vs := by
  intro m hm
  obtain ⟨k, rfl⟩ : ∃ k, m = k + 1 := ⟨m - 1, by omega⟩
  have htuple : w.isTupleObject (.ref l) = true := by simp [isTupleObject, World.cell?, hcell]
  refine ⟨.held vs, _, ?_, .of_grows (.push w (.list vs)), .inl rfl⟩
  simp [Dispatch.cursor, result_bind, htuple, Dispatch.result_values_slots k hcell hvalues,
    plainCursor?, World.cell?]

theorem Iterates.isNone (h : w.Iterates r n x vs) : x.isNone = false := by
  obtain ⟨c, u, hcursor, -⟩ := h n (Nat.le_refl n)
  cases x with
  | atom a =>
    cases a with
    | none => cases hcursor
    | _ => rfl
  | _ => rfl

section

variable (hr : ∀ c, w.heap[r]? = some c → ∃ k vs, c = .iterator k vs) (hu : Around r w u)

include hr hu

/-- Advancing an iterator leaves objects and lists what they are. -/
theorem HandsOn.later {base k : LibraryClass} {method name : String} {v : Value}
    (h : w.HandsOn F base method k name v) : u.HandsOn F base method k name v := by
  obtain ⟨c, as, ⟨l, o, hF, hcell⟩, hname, hmethod, hmembers⟩ := h
  have hl : l ≠ r := by
    rintro rfl
    obtain ⟨_, _, ⟨⟩⟩ := hr _ hcell
  refine ⟨c, as, ⟨l, o, hF, hu.cell hl hcell⟩, hname, hmethod, ?_⟩
  simpa only [hu.sameClasses.member?] using hmembers

theorem list_later {l : Ref} (h : w.heap[l]? = some (.list vs)) : u.heap[l]? = some (.list vs) := by
  refine hu.cell ?_ h
  rintro rfl
  obtain ⟨_, _, ⟨⟩⟩ := hr _ h

theorem Filters.later (h : w.Filters F p) : u.Filters F p := ⟨h.1, h.2.later hr hu⟩

theorem Combines.later {b : Bool} (h : w.Combines b A ps) : u.Combines b A ps := by
  obtain ⟨l, hl, hA⟩ := h
  exact ⟨l, list_later hr hu hl, hA.later hr hu⟩

end

end World

namespace Cursor

/-- Filtering what is left of a walk gives the items that the test accepts. -/
theorem computes_filterFrom {test : Value → Run Bool} {t : Value → Option Bool} {c : Cursor}
    (hu : Around r w u) (hc : c.IsAt r u vs)
    (htest : ∀ v ∈ vs, ∀ u, Around r w u →
      Computes u (test v) (t v) fun b b' u' => b' = b ∧ u.Grows u') :
    Computes u (c.filterFrom test vs.length) (survivors t vs)
      fun ys ys' u' => ys' = ys ∧ Around r w u' := by
  induction vs generalizing c u with
  | nil => exact .pure ⟨rfl, hu⟩
  | cons v vs ih =>
    obtain ⟨c', u₁, hnext, hu₁, hc'⟩ := hc.result_next_cons
    rw [List.length_cons, filterFrom, survivors]
    refine .of_result (result_bind_ok _ hnext) ?_
    refine (htest v List.mem_cons_self u₁ (hu.trans hu₁)).bind fun b b' u₂ _ ⟨hb, hg⟩ => ?_
    subst hb
    have hrest := ih (hu.trans (hu₁.trans (.of_grows hg))) (hc'.grows hg)
      fun a ha => htest a (List.mem_cons_of_mem _ ha)
    cases b' with
    | false => exact hrest
    | true => exact hrest.bind fun ys ys' u' _ ⟨hys, hu'⟩ => .pure ⟨congrArg _ hys, hu'⟩

theorem computes_filter {test : Value → Run Bool} {t : Value → Option Bool} {c : Cursor}
    (hu : Around r w u) (hc : c.IsAt r u vs)
    (htest : ∀ v ∈ vs, ∀ u, Around r w u →
      Computes u (test v) (t v) fun b b' u' => b' = b ∧ u.Grows u') :
    Computes u (c.filter test) (survivors t vs) fun ys ys' u' => ys' = ys ∧ Around r w u' := by
  refine .of_result (result_bind_ok _ (result_get u)) ?_
  rw [hc.rest]
  exact computes_filterFrom hu hc htest

end Cursor

/-- Predicates without side effects are asked in turn as their tests are. -/
theorem Logical.computes_askAll {d : Dispatch} {tests : List (Value → Option Bool)} {v : Value}
    (hu : Around r w u) (hps : List.Forall₂ (w.Judges r d [v]) ps tests) :
    Computes u (askAll d v true ps) (verdict v tests) fun b b' u' => b' = b ∧ u.Grows u' := by
  induction hps generalizing u with
  | nil => exact .pure ⟨rfl, .refl u⟩
  | cons hp _ ih =>
    rw [askAll, verdict]
    refine (hp v (List.mem_singleton_self v) u hu).bind ?_
    rintro b' b u' - ⟨rfl, hg⟩
    cases b with
    | false => exact .pure ⟨rfl, hg⟩
    | true =>
      exact (ih (hu.trans (.of_grows hg))).imp fun _ _ _ h => ⟨h.1, hg.trans h.2⟩

namespace Filtering

variable {test : Value → Option Bool} {tests : List (Value → Option Bool)}

theorem result_call_filter (h : w.Filters F p) (x : Value) :
    ((Dispatch.ofDepth (n + 2)).call F [x]).result w =
      (if x.isNone then return x
        else do Run.newList (← (← (Dispatch.ofDepth n).cursor x).filter
          ((Dispatch.ofDepth n).accepts p)) : Run Value).result w := by
  obtain ⟨hp, hF⟩ := h
  rw [Dispatch.result_call_handed hF rfl]
  obtain ⟨c, as, ⟨l, o, rfl, hcell⟩, hname, -⟩ := hF
  exact result_bind_ok _ (result_optional_set hcell hname hp)

/-- A filter gives a new list of the items that its predicate accepts. -/
theorem computes_call_filter (hF : w.Filters F p) (hx : w.Iterates r n x vs)
    (hp : w.Judges r (.ofDepth n) vs p test) :
    Computes w ((Dispatch.ofDepth (n + 2)).call F [x]) (survivors test vs)
      fun ys y u => u.IsListOf ys y ∧ Around r w u := by
  refine .of_result (result_call_filter hF x) ?_
  rw [hx.isNone, if_neg Bool.false_ne_true]
  obtain ⟨c, u, hcursor, hu, hc⟩ := hx n (Nat.le_refl n)
  refine .of_result (result_bind_ok _ hcursor) ?_
  rw [← Option.map_id' (x := survivors test vs)]
  refine (Cursor.computes_filter hu hc hp).map fun ys ys' v ⟨hys, hv⟩ => ?_
  subst hys
  exact ⟨_, _, result_newList ys' v, ⟨_, rfl, by simp⟩, hv.trans (.of_grows (.push v _))⟩

/-- A filter by a conjunction asks the predicates two levels further down. -/
theorem computes_call_conjunction (hr : ∀ c, w.heap[r]? = some c → ∃ k vs, c = .iterator k vs)
    (hF : w.Filters F A) (hA : w.Combines true A ps) (hx : w.Iterates r n x vs)
    (hps : List.Forall₂ (w.Judges r (.ofDepth n) vs) ps tests) :
    Computes w ((Dispatch.ofDepth (n + 4)).call F [x]) (survivors (verdict · tests) vs)
      fun ys y u => u.IsListOf ys y ∧ Around r w u := by
  refine computes_call_filter hF (fun m hm => hx m (by omega)) fun v hv u hu => ?_
  have haccepts := Dispatch.result_accepts_bool
    (Dispatch.result_call_combined (n := n) (hA.later hr hu) v)
  exact .of_result haccepts (Logical.computes_askAll hu
    (hps.imp fun _ _ hp => hp.mono fun a ha => (List.mem_singleton.mp ha) ▸ hv))

/-- What filters make of a list one after the other. -/
theorem computes_through (hr : ∀ c, w.heap[r]? = some c → ∃ k vs, c = .iterator k vs)
    (hfs : List.Forall₂ w.Filters fs ps)
    (hps : List.Forall₂ (w.Judges r (.ofDepth n) vs) ps tests) (hu : Around r w u)
    (hx : u.IsListOf vs x) :
    Computes u (Chain.through (.ofDepth (n + 2)) x fs) (staged tests vs)
      fun ys y u => u.IsListOf ys y ∧ Around r w u := by
  induction hfs generalizing tests u vs x with
  | nil =>
    cases hps
    exact .pure ⟨hx, hu⟩
  | cons hF _ ih =>
    cases hps with
    | cons hp hps =>
      rw [Chain.through, List.foldlM_cons, staged]
      refine (computes_call_filter (hF.later hr hu) (hx.iterates r n) (hp.later hu)).bind
        fun ys y u' hys ⟨hy, hu'⟩ => ?_
      exact ih (hps.imp fun _ _ h => h.mono (mem_of_survivors hys)) (hu.trans hu') hy

theorem result_call_chain (h : w.Chains G fs) (x : Value) :
    ((Dispatch.ofDepth (n + 2)).call G [x]).result w = (Chain.through (.ofDepth n) x fs).result w := by
  obtain ⟨l, hlist, hG⟩ := h
  rw [Dispatch.result_call_handed hG rfl]
  obtain ⟨c, as, hobject, hname, -⟩ := hG
  exact result_bind_ok _ (Fields.result_itemsOf hobject hname hlist)

theorem result_through_none (hfs : List.Forall₂ w.Filters fs ps) :
    (Chain.through (.ofDepth (n + 2)) .none fs).result w = (.ok .none, w) := by
  induction hfs with
  | nil => rfl
  | cons hF _ ih =>
    rw [Chain.through, List.foldlM_cons, result_bind_ok _ (result_call_filter hF .none)]
    exact ih

/-- A filter by a conjunction of one or more predicates without side effects, and the filters by these
predicates one after the other, give nothing for nothing.  For anything that can be iterated over both give
a list of the items that all predicates accept, asked in turn, unless one of them fails on an item that the
ones before it accept: then both fail. -/
theorem filters_fuse (hr : ∀ c, w.heap[r]? = some c → ∃ k vs, c = .iterator k vs)
    (hnonempty : ps ≠ []) (hF : w.Filters F A) (hA : w.Combines true A ps) (hG : w.Chains G fs)
    (hfs : List.Forall₂ w.Filters fs ps) :
    ((Dispatch.ofDepth (n + 4)).call F [.none]).result w = (.ok .none, w) ∧
    ((Dispatch.ofDepth (n + 4)).call G [.none]).result w = (.ok .none, w) ∧
    ∀ x vs tests, w.Iterates r n x vs → List.Forall₂ (w.Judges r (.ofDepth n) vs) ps tests →
      Computes w ((Dispatch.ofDepth (n + 4)).call F [x]) (survivors (verdict · tests) vs)
        (fun ys y u => u.IsListOf ys y) ∧
      Computes w ((Dispatch.ofDepth (n + 4)).call G [x]) (survivors (verdict · tests) vs)
        (fun ys y u => u.IsListOf ys y) := by
  refine ⟨result_call_filter hF .none, ?_, fun x vs tests hx hps => ⟨?_, ?_⟩⟩
  · rw [result_call_chain hG, result_through_none hfs]
  · exact (computes_call_conjunction hr hF hA hx hps).imp fun _ _ _ h => h.1
  · refine .of_result (result_call_chain hG x) ?_
    rw [survivors_verdict]
    cases hps with
    | nil => exact absurd rfl hnonempty
    | cons hp hps =>
      cases hfs with
      | cons hf hfs =>
        rw [Chain.through, List.foldlM_cons, staged]
        refine (computes_call_filter hf hx hp).bind fun ys y u hys ⟨hy, hu⟩ => ?_
        exact (computes_through hr hfs
          (hps.imp fun _ _ h => h.mono (mem_of_survivors hys)) hu hy).imp fun _ _ _ h => h.1

/-- Which of the items of a tuple of numbers are not zero. -/
def truths : Value → Option (List Bool)
  | .tuple vs => some (vs.map fun v => match v with | .atom (.int n) => n != 0 | _ => false)
  | _ => none

/-- An iterator over tuples, and filters by whether some or all of their numbers count as true: by both at
once, and by one after the other. -/
def fusing : World := { World.initial with
  heap := #[.iterator (.core "list_iterator") [.tuple [.int 1, .int 0], .tuple [.int 1], .tuple []],
    .list [.atom (.builtin .any), .atom (.builtin .all)],
    .object LibraryClass.conjunction.className none [("predicates", .ref 1)],
    .object LibraryClass.iterableFilter.className none [("predicate", .ref 2)],
    .object LibraryClass.iterableFilter.className none [("predicate", .atom (.builtin .any))],
    .object LibraryClass.iterableFilter.className none [("predicate", .atom (.builtin .all))],
    .list [.ref 4, .ref 5],
    .object LibraryClass.functionComposite.className none [("functions", .ref 6)]] }

theorem judges_fusing (n : Nat) : ∀ vs ∈ [[Value.tuple [.int 1, .int 0], .tuple [.int 1], .tuple []],
      [.tuple [.int 1], .int 5]],
    List.Forall₂ (fusing.Judges 0 (.ofDepth (n + 1)) vs)
      [.atom (.builtin .any), .atom (.builtin .all)]
      [fun v => (truths v).map (·.any id), fun v => (truths v).map (·.all id)] := by
  have hsome : ∀ {b : Bool} {m : Run Bool} {u : World}, m.result u = (.ok b, u) →
      Computes u m (some b) fun b b' u' => b' = b ∧ u.Grows u' := fun h => ⟨_, _, h, rfl, .refl _⟩
  simp only [List.forall_mem_cons]
  refine ⟨.cons ?_ (.cons ?_ .nil), .cons ?_ (.cons ?_ .nil), nofun⟩ <;>
    simp only [World.Judges, List.forall_mem_cons]
  · exact ⟨fun _ _ => hsome rfl, fun _ _ => hsome rfl, fun _ _ => hsome rfl, nofun⟩
  · exact ⟨fun _ _ => hsome rfl, fun _ _ => hsome rfl, fun _ _ => hsome rfl, nofun⟩
  · exact ⟨fun _ _ => hsome rfl, fun u _ => ⟨_, u, rfl⟩, nofun⟩
  · exact ⟨fun _ _ => hsome rfl, fun u _ => ⟨_, u, rfl⟩, nofun⟩

/-- From the iterator only the second tuple is kept, in both ways; and both fail on a number, which has no
items. -/
theorem fusing_filters :
    ((∃ y u, (Dispatch.standard.call (.ref 3) [.ref 0]).result fusing = (.ok y, u) ∧
        u.IsListOf [.tuple [.int 1]] y) ∧
      ∃ y u, (Dispatch.standard.call (.ref 7) [.ref 0]).result fusing = (.ok y, u) ∧
        u.IsListOf [.tuple [.int 1]] y) ∧
    (∃ e u, (Dispatch.standard.call (.ref 3) [.tuple [.tuple [.int 1], .int 5]]).result fusing =
      (.error e, u)) ∧
    ∃ e u, (Dispatch.standard.call (.ref 7) [.tuple [.tuple [.int 1], .int 5]]).result fusing =
      (.error e, u) := by
  have hmethods := methods_around (w := fusing) ⟨rfl, rfl⟩
  simp only [answeringAround, List.forall_mem_cons] at hmethods
  obtain ⟨-, -, hcallAnd, htestAnd, -, -, hcallFilter, happlyFilter, hcallChain, happlyChain, -⟩ :=
    hmethods
  have hfilters : List.Forall₂ fusing.Filters [.ref 3, .ref 4, .ref 5]
      [.ref 2, .atom (.builtin .any), .atom (.builtin .all)] :=
    .cons ⟨rfl, _, _, ⟨3, none, rfl, rfl⟩, rfl, rfl, hcallFilter, happlyFilter⟩ <|
    .cons ⟨rfl, _, _, ⟨4, none, rfl, rfl⟩, rfl, rfl, hcallFilter, happlyFilter⟩ <|
    .cons ⟨rfl, _, _, ⟨5, none, rfl, rfl⟩, rfl, rfl, hcallFilter, happlyFilter⟩ .nil
  have hr : ∀ c, fusing.heap[0]? = some c → ∃ k vs, c = .iterator k vs := fun c hc =>
    ⟨_, _, (Option.some.inj hc).symm⟩
  obtain ⟨-, -, hfuse⟩ := filters_fuse (n := 996) hr (by simp) (List.forall₂_cons.mp hfilters).1
    ⟨1, rfl, _, _, ⟨2, none, rfl, rfl⟩, rfl, rfl, hcallAnd, htestAnd⟩
    ⟨6, rfl, _, _, ⟨7, none, rfl, rfl⟩, rfl, rfl, hcallChain, happlyChain⟩
    (List.forall₂_cons.mp hfilters).2
  have hiterator := hfuse (.ref 0) _ _
    (iterates_of_plainCursor? rfl rfl (.inr ⟨rfl, _, rfl⟩) 996) (judges_fusing 995 _ (by simp))
  have htuple := hfuse (.tuple [.tuple [.int 1], .int 5]) _ _
    (iterates_of_plainCursor? rfl rfl (.inl rfl) 996) (judges_fusing 995 _ (by simp))
  exact ⟨hiterator, htuple⟩

end Filtering

end FunctionObjects
