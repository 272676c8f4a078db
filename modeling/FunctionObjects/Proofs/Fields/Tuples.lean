import FunctionObjects.Proofs.Chain.Unpacking
import FunctionObjects.Proofs.Construction.Making
import FunctionObjects.Proofs.Fields.Contents
import FunctionObjects.Proofs.Keyed.Standing
import FunctionObjects.Proofs.State.Computing
/-!
# Reading and writing tuples

A tuple object is a cell whose values stand for some contents.  Reading and writing it do on the cell
what they do on the contents, and change nothing else.
-/

namespace FunctionObjects

open Run World

variable {α : Type} {r : Ref} {M : Meaning r α} {K : Datum → Prop} {c : ClassName} {w u v : World}
  {x y : Value} {ρ : Datum} {a : α} {t : Contents α} {n : Nat}

/-- The class of the library that says how such contents are read and written. -/
def Contents.owner : Contents α → LibraryClass
  | .slots _ => .arrayTuple
  | .fields _ => .mapTuple

/-- What cell `r` has to be for its values to stand for some contents. -/
def Meaning.HoldsContents (M : Meaning r α) (K : Datum → Prop) (c : ClassName) (w : World) :
    Contents α → Prop
  | .slots as => ∃ o vs, w.heap[r]? = some (.slots c o vs) ∧ List.Forall₂ (M.stands w) as vs
  | .fields es => ∃ o vs, w.heap[r]? = some (.fields c o vs) ∧ M.StandForEntries K w es vs

/-- Cell `r` is a tuple of a class that leaves reading and writing to the library, and its values stand
for some contents. -/
structure Meaning.IsTuple (M : Meaning r α) (K : Datum → Prop) (c : ClassName) (w : World)
    (t : Contents α) : Prop where
  get : w.member? c "get" = some (.library t.owner .method)
  put : w.member? c "put" = some (.library t.owner .method)
  cell : M.HoldsContents K c w t

namespace Meaning.IsTuple

/-- A tuple with other contents of the same form. -/
theorem set {t' : Contents α} (h : M.IsTuple K c w t) (hu : Around r w u)
    (howner : t'.owner = t.owner) (hcell : M.HoldsContents K c u t') : M.IsTuple K c u t' where
  get := by rw [hu.sameClasses.member?, howner]; exact h.get
  put := by rw [hu.sameClasses.member?, howner]; exact h.put
  cell := hcell

theorem grows (h : M.IsTuple K c w t) (hg : w.Grows u) : M.IsTuple K c u t := by
  refine h.set (.of_grows hg) rfl ?_
  cases t with
  | slots as =>
    obtain ⟨o, vs, hcell, hvs⟩ := h.cell
    exact ⟨o, vs, hg.heap hcell, hvs.imp fun _ _ => M.later (.of_grows hg)⟩
  | fields es =>
    obtain ⟨o, vs, hcell, hvs⟩ := h.cell
    exact ⟨o, vs, hg.heap hcell, Keyed.later hvs (.of_grows hg)⟩

theorem within (h : M.IsTuple K c w t) : t.Within K := by
  cases t with
  | slots as => trivial
  | fields es =>
    obtain ⟨o, vs, -, hvs⟩ := h.cell
    exact Keyed.keys hvs

/-- The cell of a tuple. -/
theorem cell_or (h : M.IsTuple K c w t) : ∃ o, (∃ vs, w.heap[r]? = some (.slots c o vs)) ∨
    ∃ vs, w.heap[r]? = some (.fields c o vs) := by
  cases t with
  | slots as =>
    obtain ⟨o, vs, hcell, -⟩ := h.cell
    exact ⟨o, .inl ⟨vs, hcell⟩⟩
  | fields es =>
    obtain ⟨o, vs, hcell, -⟩ := h.cell
    exact ⟨o, .inr ⟨vs, hcell⟩⟩

theorem classOf (h : M.IsTuple K c w t) : w.classOf (.ref r) = c := by
  obtain ⟨o, ⟨vs, hcell⟩ | ⟨vs, hcell⟩⟩ := h.cell_or <;> simp [World.classOf, hcell]

theorem isObject (h : M.IsTuple K c w t) : Method.isObject w (.ref r) = true := by
  obtain ⟨o, ⟨vs, hcell⟩ | ⟨vs, hcell⟩⟩ := h.cell_or <;> simp [Method.isObject, World.cell?, hcell]

/-- Nothing is set on a tuple. -/
theorem attributes (h : M.IsTuple K c w t) : w.attributes (.ref r) = [] := by
  obtain ⟨o, ⟨vs, hcell⟩ | ⟨vs, hcell⟩⟩ := h.cell_or <;>
    simp [World.attributes, World.cell?, hcell]

/-- The cells of objects and lists are other cells. -/
theorem ne_of_cell (h : M.IsTuple K c w t) {l : Ref} {d : Cell} (hl : w.heap[l]? = some d)
    (hslots : ∀ b o vs, d ≠ .slots b o vs) (hfields : ∀ b o vs, d ≠ .fields b o vs) : l ≠ r := by
  rintro rfl
  obtain ⟨o, ⟨vs, hcell⟩ | ⟨vs, hcell⟩⟩ := h.cell_or
  · exact hslots _ _ _ (Option.some.inj (hl.symm.trans hcell))
  · exact hfields _ _ _ (Option.some.inj (hl.symm.trans hcell))

end Meaning.IsTuple

/-- A method that the library defines for the class of an object. -/
theorem Dispatch.result_method_library {x : Value} {k : LibraryClass} {name : String}
    {args : List Value} (n : Nat) (hobject : Method.isObject w x = true)
    (hname : w.member? (w.classOf x) name = some (.library k .method))
    (hattributes : w.attributes x = []) :
    ((Dispatch.ofDepth (n + 1)).method x name args).result w =
      (Method.ofLibrary (.ofDepth n) k name x args).result w := by
  obtain ⟨⟨m, rest⟩, hm, rfl⟩ := Option.map_eq_some_iff.mp hname
  change (Method.call (.ofDepth n) x name args).result w = _
  rw [Method.call, result_bind_ok _ (result_get w)]
  cases x with
  | ref l =>
    simp only [hobject, hname, hattributes, List.lookup_nil]
    exact Method.result_inClasses hm
  | _ => cases hobject

section

variable {l : Ref} {o : Option Ty} {ys : List Value} (n : Nat)
  (hcell : w.heap[l]? = some (.slots c o ys))
  (hvalues : w.member? c "values" = some (.library .arrayTuple .method))

include hcell hvalues

/-- The values of a tuple addressed by position are copied into a new list. -/
theorem Dispatch.result_values_slots :
    ((Dispatch.ofDepth (n + 1)).method (.ref l) "values" []).result w =
      (.ok (.ref w.heap.size), { w with heap := w.heap.push (.list ys) }) := by
  have hobject : Method.isObject w (.ref l) = true := by simp [Method.isObject, World.cell?, hcell]
  have hclass : w.classOf (.ref l) = c := by simp [World.classOf, hcell]
  have hattributes : w.attributes (.ref l) = [] := by simp [World.attributes, World.cell?, hcell]
  have hcontents : (PositionalTuple.contents (.ref l)).result w = (.ok (l, c, o, ys), w) := by
    simp [PositionalTuple.contents, result_bind, hcell]
  exact (Dispatch.result_method_library n hobject (hclass ▸ hvalues) hattributes).trans
    (result_bind_ok _ hcontents)

/-- The items of a tuple addressed by position are read from that list. -/
theorem Dispatch.result_items_slots : ((Dispatch.ofDepth (n + 1)).items (.ref l)).result w =
    (.ok ys, { w with heap := w.heap.push (.list ys) }) := by
  have htuple : w.isTupleObject (.ref l) = true := by simp [isTupleObject, World.cell?, hcell]
  simp [Dispatch.items, Dispatch.cursor, result_bind, htuple,
    Dispatch.result_values_slots n hcell hvalues, plainCursor?, World.cell?, Cursor.drain]

end

namespace Keyed

variable {es : List (Datum × α)} {vs : List (Value × Value)}

/-- A key that cannot be hashed is refused. -/
theorem result_key_refused (hx : M.key u ρ x) (hρ : ρ.hashable = false) :
    (Run.key x).result u = (.error .wrongType, u) := by
  simp [Run.key, result_bind, read_key hx, hρ]

variable (hK : Datum.AreKeys K) (hvs : M.StandForEntries K u es vs) (hx : M.key u ρ x)
  (hρ : ρ.hashable = true → K ρ)

include hK hvs hx hρ

theorem computes_lookup? : Computes u (Run.lookup? vs x)
    (if ρ.hashable then some (value? es ρ) else none)
    fun o o' v => v = u ∧ M.stands u (o.getD M.nothing) (o'.getD .none) := by
  split
  · rename_i hhash
    obtain ⟨o, hlookup, ho⟩ := result_lookup? hK hvs (hρ hhash) hx
    exact ⟨o, u, hlookup, rfl, ho⟩
  · rename_i hhash
    refine ⟨.wrongType, u, ?_⟩
    rw [Run.lookup?, result_bind_ok _ (result_get u),
      result_bind_error _ (result_key_refused hx (Bool.not_eq_true _ ▸ hhash))]

theorem computes_insert (hy : M.stands u a y) : Computes u (Run.insert vs x y)
    (if ρ.hashable then some (put es ρ a) else none)
    fun fs us v => v = u ∧ M.StandForEntries K u fs us := by
  split
  · rename_i hhash
    obtain ⟨us, hinsert, hus⟩ := result_insert hK hvs (hρ hhash) hx hy
    exact ⟨us, u, hinsert, rfl, hus⟩
  · rename_i hhash
    refine ⟨.wrongType, u, ?_⟩
    rw [Run.insert, result_bind_ok _ (result_get u),
      result_bind_error _ (result_key_refused hx (Bool.not_eq_true _ ▸ hhash))]

end Keyed

namespace Fields

variable {as : List α} {vs : List Value}

/-- The position that a value stands for is that of the reference that it holds. -/
theorem computes_index (count : Nat) (hx : u.Holds ρ x) :
    Computes u (PositionalTuple.index count x) (Contents.position? count ρ) fun i j v =>
      v = u ∧ j = i := by
  obtain ⟨a, rfl, rfl⟩ | ⟨hρ, hx'⟩ := hx.atom_or
  · cases a with
    | int i =>
      rw [PositionalTuple.index, Contents.position?]
      split
      · exact .pure ⟨rfl, rfl⟩
      · exact ⟨_, u, rfl⟩
    | _ => exact ⟨_, u, rfl⟩
  · have hnone : Contents.position? count ρ = none := by
      cases ρ with
      | atom a => exact absurd rfl (hρ a)
      | _ => rfl
    rw [hnone]
    cases x with
    | atom a => exact absurd rfl (hx' a)
    | _ => exact ⟨_, u, rfl⟩

/-- What is at a position stands for what is there on data. -/
theorem computes_item (e : Fault) (h : List.Forall₂ (M.stands u) as vs) (i : Nat) :
    Computes u (Run.require e vs[i]?) as[i]? fun a y v => v = u ∧ M.stands u a y := by
  induction h generalizing i with
  | nil => exact ⟨e, u, rfl⟩
  | cons hy _ ih =>
    cases i with
    | zero => exact .pure ⟨rfl, hy⟩
    | succ i => exact ih i

theorem stands_set (h : List.Forall₂ (M.stands u) as vs) (i : Nat) (hy : M.stands u a y) :
    List.Forall₂ (M.stands u) (as.set i a) (vs.set i y) := by
  induction h generalizing i with
  | nil => exact .nil
  | cons hx hrest ih =>
    cases i with
    | zero => exact .cons hy hrest
    | succ i => exact .cons hx (ih i)

section

variable (hK : Datum.AreKeys K) (ht : M.IsTuple K c u t) (hx : M.key u ρ x)
  (hρ : ρ.hashable = true → K ρ)

include hK ht hx hρ

/-- Reading gives what stands for the value that is read, and leaves everything as it is. -/
theorem computes_get (n : Nat) :
    Computes u ((Dispatch.ofDepth (n + 1)).method (.ref r) "get" [x]) (t.get M.nothing ρ)
      fun a y v => v = u ∧ M.stands u a y := by
  refine .of_result (Dispatch.result_method_library n ht.isObject (ht.classOf ▸ ht.get)
    ht.attributes) ?_
  cases t with
  | slots as =>
    obtain ⟨o, vs, hcell, hvs⟩ := ht.cell
    have hcontents : (PositionalTuple.contents (.ref r)).result u = (.ok (r, c, o, vs), u) := by
      simp [PositionalTuple.contents, result_bind, hcell]
    refine .of_result (result_bind_ok _ hcontents) ?_
    rw [Contents.get, hvs.length_eq]
    refine .bind (computes_index vs.length (M.holds hx)) ?_
    rintro i j v - ⟨rfl, rfl⟩
    exact computes_item _ hvs _
  | fields es =>
    obtain ⟨o, vs, hcell, hvs⟩ := ht.cell
    have hcontents : (NamedTuple.contents (.ref r)).result u = (.ok (r, c, o, vs), u) := by
      simp [NamedTuple.contents, result_bind, hcell]
    refine .of_result (result_bind_ok _ hcontents) ?_
    have hget : (Contents.fields es).get M.nothing ρ =
        (if ρ.hashable then some (Keyed.value? es ρ) else none).map (·.getD M.nothing) := by
      rw [Contents.get, apply_ite (Option.map _)]
      rfl
    rw [hget]
    refine (Keyed.computes_lookup? hK hvs hx hρ).map ?_
    rintro o o' v ⟨rfl, ho⟩
    exact .pure ⟨rfl, ho⟩

/-- Writing puts a value where it goes on data, and changes nothing around the tuple. -/
theorem computes_put (n : Nat) (hy : M.stands u a y) :
    Computes u ((Dispatch.ofDepth (n + 1)).method (.ref r) "put" [x, y]) (t.put ρ a)
      fun t' _ v => Around r u v ∧ M.IsTuple K c v t' := by
  refine .of_result (Dispatch.result_method_library n ht.isObject (ht.classOf ▸ ht.put)
    ht.attributes) ?_
  cases t with
  | slots as =>
    obtain ⟨o, vs, hcell, hvs⟩ := ht.cell
    have hcontents : (PositionalTuple.contents (.ref r)).result u = (.ok (r, c, o, vs), u) := by
      simp [PositionalTuple.contents, result_bind, hcell]
    refine .of_result (result_bind_ok _ hcontents) ?_
    rw [Contents.put, hvs.length_eq]
    refine .map (computes_index vs.length (M.holds hx)) ?_
    rintro i j v ⟨rfl, rfl⟩
    have hset : Around r v { v with heap := v.heap.setIfInBounds r (.slots c o (vs.set j y)) } :=
      .set hcell rfl
    exact ⟨.none, _, rfl, hset, ht.set hset rfl ⟨o, _, by simp [lt_size_of_getElem? hcell],
      (stands_set hvs j hy).imp fun _ _ => M.later hset⟩⟩
  | fields es =>
    obtain ⟨o, vs, hcell, hvs⟩ := ht.cell
    have hcontents : (NamedTuple.contents (.ref r)).result u = (.ok (r, c, o, vs), u) := by
      simp [NamedTuple.contents, result_bind, hcell]
    refine .of_result (result_bind_ok _ hcontents) ?_
    have hput : (Contents.fields es).put ρ a =
        (if ρ.hashable then some (Keyed.put es ρ a) else none).map .fields := by
      rw [Contents.put, apply_ite (Option.map _)]
      rfl
    rw [hput]
    refine .map (Keyed.computes_insert hK hvs hx hρ hy) ?_
    rintro fs us v ⟨rfl, hus⟩
    have hset : Around r v { v with heap := v.heap.setIfInBounds r (.fields c o us) } :=
      .set hcell rfl
    exact ⟨.none, _, rfl, hset, ht.set hset rfl ⟨o, us, by simp [lt_size_of_getElem? hcell],
      Keyed.later hus hset⟩⟩

end

/-- Values are written one after the other where they go on data. -/
theorem computes_store (hK : Datum.AreKeys K) {ps : List (Datum × α)} {qs : List (Value × Value)}
    (n : Nat) (hps : ∀ p ∈ ps, p.1.hashable = true → K p.1)
    (h : List.Forall₂ (fun p q => M.key w p.1 q.1 ∧ M.stands w p.2 q.2) ps qs)
    (hu : Around r w u) (ht : M.IsTuple K c u t) :
    Computes u (store (.ofDepth (n + 1)) (.ref r) qs) (t.putAll ps)
      fun t' _ v => Around r u v ∧ M.IsTuple K c v t' := by
  induction h generalizing u t with
  | nil => exact .pure ⟨.refl r u, ht⟩
  | @cons p q ps qs hq _ ih =>
    rw [List.forall_mem_cons] at hps
    have hput : Computes u (do let _ ← (Dispatch.ofDepth (n + 1)).method (.ref r) "put" [q.1, q.2])
        (t.put p.1 p.2) fun t' _ v => Around r u v ∧ M.IsTuple K c v t' :=
      (computes_put hK ht (M.key_later hu hq.1) hps.1 n (M.later hu hq.2)).bind_pure
        fun _ _ _ hput => hput
    refine hput.bind fun t' _ v _ ⟨hv, ht'⟩ => ?_
    exact (ih hps.2 (hu.trans hv) ht').imp fun _ _ _ ⟨hv', ht''⟩ => ⟨hv.trans hv', ht''⟩

end Fields

end FunctionObjects
