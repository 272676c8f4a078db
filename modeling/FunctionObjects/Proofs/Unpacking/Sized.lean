import FunctionObjects.Proofs.Fields.Tuples
import FunctionObjects.Proofs.Hierarchy.Library
import FunctionObjects.Tuple.Access
/-!
# Tuples keep their number of values

The number of values of a tuple is set when it is made, and a class that fixes it makes no tuple of
another one.  After that a value can be stored at a position that there is, which keeps the number, and
what is read are copies: lists that can be edited and iterators that can be used up.
-/

namespace FunctionObjects

open Run Relation

namespace World

/-- What the class of a tuple has for its number of values: a constant, or what each tuple computes. -/
def sizeMember : Option Nat → Member
  | none => .library .arrayTuple (.property .size)
  | some n => .arity n

/-- The class of the library that makes tuples, of a number of values that is fixed or not. -/
def tupleMaker : Option Nat → LibraryClass
  | none => .arrayTuple
  | some _ => .fixedTuple

/-- A class of tuples addressed by position that leaves making, reading and writing them to the
library. -/
structure LeavesTuples (w : World) (c : ClassName) (maker : LibraryClass) : Prop where
  own : Construction.isOwn w c = true
  plain : c ≠ LibraryClass.adapterKind.className
  positional : LibraryClass.arrayTuple.className ∈ w.hierarchy.mro c
  maker : w.findConstructor? c = some (.library maker [⟨"values", .rest, none, none⟩])
  access : ∀ name ∈ ["get", "put", "values", "__getitem__"],
    w.member? c name = some (.library .arrayTuple .method)
  iter : w.member? c "__iter__" = some (.library .tuple .method)

/-- A class of tuples that fixes their number of values, or does not, and leaves all else to the
library. -/
structure SizedClass (w : World) (c : ClassName) (size : Option Nat) : Prop
    extends w.LeavesTuples c (tupleMaker size) where
  arity : w.member? c "arity" = some (sizeMember size)

/-- Cell `r` is a tuple of a class, with as many values as the class fixes. -/
def IsSizedTuple (w : World) (r : Ref) (c : ClassName) (size : Option Nat) : Prop :=
  ∃ o vs, w.heap[r]? = some (.slots c o vs) ∧ ∀ n ∈ size, vs.length = n

end World

/-- How a program uses a tuple that it has. -/
inductive TupleUse where
  | get (i : Value)
  /-- Reads in brackets. -/
  | item (i : Value)
  | put (i v : Value)
  | values
  | iterate
  /-- Takes the next item from an iterator, such as one over the tuple. -/
  | advance (l : Ref)
  /-- Changes a list, such as one that has been read from the tuple. -/
  | edit (l : Ref) (change : List Value → List Value)

/-- Uses a tuple. -/
def TupleUse.run (d : Dispatch) (t : Value) : TupleUse → Run Unit
  | get i => do let _ ← d.method t "get" [i]
  | item i => do let _ ← d.method t "__getitem__" [i]
  | put i v => do let _ ← d.method t "put" [i, v]
  | values => do let _ ← d.method t "values" []
  | iterate => do let _ ← d.method t "__iter__" []
  | advance l => do let _ ← (Cursor.shared l).next
  | edit l change => do
    match ← Run.cell? l with
    | some (.list vs) => Run.write l (.list (change vs))
    | _ => throw .noAttribute

namespace World

/-- Whether classes of tuples are what they were, whatever has been declared besides. -/
def KeepsTupleClasses (w u : World) : Prop := ∀ c size, w.SizedClass c size → u.SizedClass c size

/-- One step of a program that has the tuple in cell `r`: it uses the tuple, successfully or not and
however deep in other calls, or it does something else that leaves the tuple and its class alone. -/
inductive TupleStep (r : Ref) : World → World → Prop
  | use (w : World) (n : Nat) (s : TupleUse) : TupleStep r w ((s.run (.ofDepth n) (.ref r)).result w).2
  | elsewhere {w u : World} : w.KeepsTupleClasses u → u.heap[r]? = w.heap[r]? → TupleStep r w u

end World

/-- How a program comes by a tuple. -/
inductive TupleMaking where
  | ofClass (c : ClassName) (vs : List Value)
  /-- Through a class with arguments behind it. -/
  | ofForm (c : ClassName) (ts : List Ty) (vs : List Value)
  /-- Of so many positions without values. -/
  | ofSize (size : Value)
  /-- Of the class that goes with a number of values. -/
  | ofValues (vs : List Value)

namespace TupleMaking

/-- The class of the tuple that is made. -/
def className : TupleMaking → ClassName
  | ofClass c _ => c
  | ofForm c _ _ => c
  | ofSize _ => LibraryClass.arrayTuple.className
  | ofValues vs => ((PositionalTuple.fixedClass? vs.length).getD .arrayTuple).className

/-- Makes a tuple. -/
def run (d : Dispatch) : TupleMaking → Run Value
  | ofClass c vs => d.call (.atom (.type (.cls c))) vs
  | ofForm c ts vs => d.call (.atom (.type (.app (.cls c) ts))) vs
  | ofSize size => TupleObject.ofSize size
  | ofValues vs => PositionalTuple.ofValues vs

end TupleMaking

namespace World

variable {w u v : World} {c : ClassName} {size : Option Nat} {r : Ref}

theorem SameClasses.trans (h : w.SameClasses u) (h' : u.SameClasses v) : w.SameClasses v :=
  ⟨h'.hierarchy.trans h.hierarchy, h'.declarations.trans h.declarations⟩

theorem SizedClass.of_same (h : w.SizedClass c size) (hu : w.SameClasses u) : u.SizedClass c size where
  own := by
    have hown := h.own
    rwa [Construction.isOwn, declaration?, ← hu.declarations] at hown
  plain := h.plain
  positional := by rw [hu.hierarchy]; exact h.positional
  maker := by rw [hu.findConstructor?]; exact h.maker
  access name hname := by rw [hu.member?]; exact h.access name hname
  iter := by rw [hu.member?]; exact h.iter
  arity := by rw [hu.member?]; exact h.arity

theorem SameClasses.keepsTupleClasses (h : w.SameClasses u) : w.KeepsTupleClasses u :=
  fun _ _ hclass => hclass.of_same h

/-- A tuple of such a class counts as one addressed by position. -/
theorem LeavesTuples.sub {maker : LibraryClass} (h : w.LeavesTuples c maker) :
    w.hierarchy.sub c LibraryClass.arrayTuple.className = true := by
  simp [Hierarchy.sub, h.positional]

/-! ### What a step changes -/

/-- A later state in which classes of tuples are what they were, and the tuple in cell `r` is of the same
class and has as many values. -/
structure KeepsTuple (r : Ref) (w u : World) : Prop where
  classes : w.KeepsTupleClasses u
  cell : ∀ {c : ClassName} {o : Option Ty} {vs : List Value}, w.heap[r]? = some (.slots c o vs) →
    ∃ us, u.heap[r]? = some (.slots c o us) ∧ us.length = vs.length

namespace KeepsTuple

theorem of_cell (hclasses : w.KeepsTupleClasses u) (hcell : u.heap[r]? = w.heap[r]?) : KeepsTuple r w u :=
  ⟨hclasses, fun h => ⟨_, hcell.trans h, rfl⟩⟩

theorem refl (r : Ref) (w : World) : KeepsTuple r w w := of_cell (fun _ _ h => h) rfl

theorem trans (h : KeepsTuple r w u) (h' : KeepsTuple r u v) : KeepsTuple r w v where
  classes c size hclass := h'.classes c size (h.classes c size hclass)
  cell hcell := by
    obtain ⟨us, hus, hlen⟩ := h.cell hcell
    obtain ⟨us', hus', hlen'⟩ := h'.cell hus
    exact ⟨us', hus', hlen'.trans hlen⟩

/-- A new cell. -/
theorem push (r : Ref) (w : World) (d : Cell) : KeepsTuple r w { w with heap := w.heap.push d } where
  classes := SameClasses.keepsTupleClasses ⟨rfl, rfl⟩
  cell hcell := ⟨_, (Grows.push w d).heap hcell, rfl⟩

/-- Other contents for a cell that is no tuple. -/
theorem set_other {l : Ref} {d d' : Cell} (hl : w.heap[l]? = some d)
    (hd : ∀ c o vs, d ≠ .slots c o vs) :
    KeepsTuple r w { w with heap := w.heap.setIfInBounds l d' } where
  classes := SameClasses.keepsTupleClasses ⟨rfl, rfl⟩
  cell {c o vs} hcell := by
    have hne : l ≠ r := by
      rintro rfl
      exact hd c o vs (Option.some.inj (hl.symm.trans hcell))
    exact ⟨vs, by rwa [Array.getElem?_setIfInBounds_ne hne], rfl⟩

/-- Other values for the tuple, equally many. -/
theorem set_values {o : Option Ty} {vs us : List Value} (hcell : w.heap[r]? = some (.slots c o vs))
    (hlen : us.length = vs.length) :
    KeepsTuple r w { w with heap := w.heap.setIfInBounds r (.slots c o us) } where
  classes := SameClasses.keepsTupleClasses ⟨rfl, rfl⟩
  cell {c' o' vs'} hcell' := by
    obtain ⟨rfl, rfl, rfl⟩ := Cell.slots.inj (Option.some.inj (hcell.symm.trans hcell'))
    exact ⟨us, by simp [lt_size_of_getElem? hcell], hlen⟩

theorem isSizedTuple (h : KeepsTuple r w u) (ht : w.IsSizedTuple r c size) : u.IsSizedTuple r c size := by
  obtain ⟨o, vs, hcell, hsize⟩ := ht
  obtain ⟨us, hus, hlen⟩ := h.cell hcell
  exact ⟨o, us, hus, fun n hn => hlen.trans (hsize n hn)⟩

end KeepsTuple

/-- Whether an operation keeps the tuple in cell `r`, whether it succeeds or fails. -/
def Spares (r : Ref) {α : Type} (w : World) (m : Run α) : Prop := KeepsTuple r w (m.result w).2

namespace Spares

variable {α β : Type} {m : Run α} {f : α → Run β}

theorem of_result {m' : Run α} (h : m.result w = m'.result w) (hm : Spares r w m') : Spares r w m := by
  rw [Spares, h]
  exact hm

/-- An operation that changes nothing. -/
theorem of_state (h : (m.result w).2 = w) : Spares r w m := by
  rw [Spares, h]
  exact .refl r w

theorem bind (hm : Spares r w m) (hf : ∀ a u, m.result w = (.ok a, u) → Spares r u (f a)) :
    Spares r w (m >>= f) := by
  rw [Spares] at hm ⊢
  rw [result_bind]
  cases h : m.result w with
  | mk e u =>
    rw [h] at hm
    cases e with
    | error e => exact hm
    | ok a => exact hm.trans (hf a u h)

theorem pure (a : α) : Spares r w (Pure.pure a) := .refl r w

theorem throw (e : Fault) : Spares r w (throw e : Run α) := .refl r w

theorem require (e : Fault) (o : Option α) : Spares r w (Run.require e o) := by
  cases o with
  | none => exact throw e
  | some a => exact pure a

theorem alloc (d : Cell) : Spares r w (Run.alloc d) := .push r w d

end Spares

/-- Finding out a position changes nothing. -/
theorem state_index (count : Nat) (x : Value) : ((PositionalTuple.index count x).result w).2 = w := by
  unfold PositionalTuple.index
  split
  · split <;> rfl
  · rfl

section

variable {o : Option Ty} {vs : List Value} (hcell : w.heap[r]? = some (.slots c o vs))

include hcell

theorem result_contents : (PositionalTuple.contents (.ref r)).result w = (.ok (r, c, o, vs), w) := by
  simp [PositionalTuple.contents, result_bind, hcell]

/-- Nothing is set on a tuple, so its class says what its methods do. -/
theorem result_method_tuple {k : LibraryClass} {name : String} {args : List Value} (n : Nat)
    (hname : w.member? c name = some (.library k .method)) :
    ((Dispatch.ofDepth (n + 1)).method (.ref r) name args).result w =
      (Method.ofLibrary (.ofDepth n) k name (.ref r) args).result w := by
  have hobject : Method.isObject w (.ref r) = true := by simp [Method.isObject, World.cell?, hcell]
  have hattributes : w.attributes (.ref r) = [] := by simp [World.attributes, World.cell?, hcell]
  have hclass : w.classOf (.ref r) = c := by simp [World.classOf, hcell]
  exact Dispatch.result_method_library n hobject (hclass ▸ hname) hattributes

theorem result_get_tuple (hclass : w.SizedClass c size) (n : Nat) (x : Value) :
    ((Dispatch.ofDepth (n + 1)).method (.ref r) "get" [x]).result w =
      (do Run.require .noIndex vs[← PositionalTuple.index vs.length x]?).result w :=
  (result_method_tuple hcell n (hclass.access "get" (by simp))).trans
    (result_bind_ok _ (result_contents hcell))

theorem result_put_tuple (hclass : w.SizedClass c size) (n : Nat) (x y : Value) :
    ((Dispatch.ofDepth (n + 1)).method (.ref r) "put" [x, y]).result w =
      (do
        let i ← PositionalTuple.index vs.length x
        Run.write r (.slots c o (vs.set i y))
        return Value.none).result w :=
  (result_method_tuple hcell n (hclass.access "put" (by simp))).trans
    (result_bind_ok _ (result_contents hcell))

theorem spares_method {k : LibraryClass} {name : String} {args : List Value} (n : Nat)
    (hname : w.member? c name = some (.library k .method))
    (h : ∀ m, Spares r w (Method.ofLibrary (.ofDepth m) k name (.ref r) args)) :
    Spares r w ((Dispatch.ofDepth n).method (.ref r) name args) := by
  cases n with
  | zero => exact .throw _
  | succ n => exact .of_result (result_method_tuple hcell n hname) (h n)

theorem spares_get (hclass : w.SizedClass c size) (n : Nat) (x : Value) :
    Spares r w ((Dispatch.ofDepth n).method (.ref r) "get" [x]) := by
  cases n with
  | zero => exact .throw _
  | succ n =>
    refine .of_result (result_get_tuple hcell hclass n x) ?_
    exact .bind (.of_state (state_index _ _)) fun _ _ _ => .require _ _

/-- Storing a value at a position keeps the number of values. -/
theorem spares_put (hclass : w.SizedClass c size) (n : Nat) (x y : Value) :
    Spares r w ((Dispatch.ofDepth n).method (.ref r) "put" [x, y]) := by
  cases n with
  | zero => exact .throw _
  | succ n =>
    refine .of_result (result_put_tuple hcell hclass n x y) ?_
    refine .bind (.of_state (state_index _ _)) fun i u hi => ?_
    obtain rfl : u = w := (congrArg Prod.snd hi).symm.trans (state_index _ _)
    exact KeepsTuple.set_values hcell List.length_set

theorem spares_values (hclass : w.SizedClass c size) (n : Nat) :
    Spares r w ((Dispatch.ofDepth n).method (.ref r) "values" []) := by
  refine spares_method hcell n (hclass.access "values" (by simp)) fun m => ?_
  refine .of_result (result_bind_ok _ (result_contents hcell)) ?_
  exact .alloc _

theorem spares_item (hclass : w.SizedClass c size) (n : Nat) (x : Value) :
    Spares r w ((Dispatch.ofDepth n).method (.ref r) "__getitem__" [x]) :=
  spares_method hcell n (hclass.access "__getitem__" (by simp)) fun m => spares_get hcell hclass m x

/-- An iterator over a tuple is one over a copy of its values. -/
theorem spares_iterate (hclass : w.SizedClass c size) (n : Nat) :
    Spares r w ((Dispatch.ofDepth n).method (.ref r) "__iter__" []) := by
  refine spares_method hcell n hclass.iter fun m => ?_
  refine .bind ?_ fun _ _ _ => .alloc _
  cases m with
  | zero =>
    have htuple : w.isTupleObject (.ref r) = true := by simp [isTupleObject, World.cell?, hcell]
    have hitems : ((Dispatch.ofDepth 0).items (.ref r)).result w = (.error .tooDeep, w) := by
      simp [Dispatch.items, Dispatch.cursor, result_bind, htuple, Dispatch.ofDepth]
    rw [Spares, hitems]
    exact .refl r w
  | succ m =>
    rw [Spares, Dispatch.result_items_slots m hcell (hclass.access "values" (by simp))]
    exact .push r w _

omit hcell in
theorem spares_advance (l : Ref) : Spares r w (Cursor.shared l).next := by
  refine .bind (.refl r w) fun o u ho => ?_
  obtain ⟨rfl, rfl⟩ : w.heap[l]? = o ∧ w = u := by simpa using ho
  split
  · rename_i d y ys hl
    exact .bind (KeepsTuple.set_other hl fun _ _ _ => Cell.noConfusion) fun _ _ _ => .pure _
  · exact .pure _

omit hcell in
/-- A list that is edited is no tuple, whatever it has been read from. -/
theorem spares_edit (l : Ref) (change : List Value → List Value) :
    Spares r w ((TupleUse.edit l change).run (.ofDepth 0) (.ref r)) := by
  refine .bind (.refl r w) fun o u ho => ?_
  obtain ⟨rfl, rfl⟩ : w.heap[l]? = o ∧ w = u := by simpa using ho
  split
  · rename_i ys hl
    exact KeepsTuple.set_other hl fun _ _ _ => Cell.noConfusion
  · exact .throw _

theorem spares_use (hclass : w.SizedClass c size) (n : Nat) (s : TupleUse) :
    Spares r w (s.run (.ofDepth n) (.ref r)) := by
  cases s with
  | get x => exact .bind (spares_get hcell hclass n x) fun _ _ _ => .pure _
  | item x => exact .bind (spares_item hcell hclass n x) fun _ _ _ => .pure _
  | put x y => exact .bind (spares_put hcell hclass n x y) fun _ _ _ => .pure _
  | values => exact .bind (spares_values hcell hclass n) fun _ _ _ => .pure _
  | iterate => exact .bind (spares_iterate hcell hclass n) fun _ _ _ => .pure _
  | advance l => exact .bind (spares_advance l) fun _ _ _ => .pure _
  | edit l change => exact spares_edit l change

end

theorem spares_step (hclass : w.SizedClass c size) (ht : w.IsSizedTuple r c size)
    (h : TupleStep r w u) : KeepsTuple r w u := by
  obtain ⟨o, vs, hcell, -⟩ := ht
  cases h with
  | use n s => exact spares_use hcell hclass n s
  | elsewhere hclasses hkept => exact .of_cell hclasses hkept

/-- However a program goes on, a tuple keeps its class and its number of values. -/
theorem keepsTuple_of_steps (hclass : w.SizedClass c size) (ht : w.IsSizedTuple r c size)
    (h : ReflTransGen (TupleStep r) w u) : KeepsTuple r w u := by
  induction h with
  | refl => exact .refl r w
  | tail _ hstep ih =>
    exact ih.trans (spares_step (ih.classes _ _ hclass) (ih.isSizedTuple ht) hstep)

/-! ### The classes of tuples -/

/-- What classes of the library define under a name, in an order of search that starts with them. -/
theorem memberIn?_of_order {ks : List LibraryClass} {name : String} {m : Member} (hname : name ≠ "arity")
    (hm : ks.findSome? (fun k => (k.member? name).map (Member.library k)) = some m)
    (rest : List ClassName) :
    (w.memberIn? name (ks.map LibraryClass.className ++ rest)).map (·.1) = some m := by
  induction ks with
  | nil => cases hm
  | cons k ks ih =>
    rw [List.map_cons, List.cons_append, memberIn?, ownMember?, LibraryClass.ofClassName?_className]
    rw [List.findSome?_cons] at hm
    cases hk : k.member? name with
    | none =>
      rw [hk] at hm
      simpa [hk, ownMember?.arity?, hname] using ih hm
    | some d =>
      rw [hk] at hm
      simpa [hk] using hm

theorem member?_of_order {ks : List LibraryClass} {rest : List ClassName} {name : String} {m : Member}
    (hmro : w.hierarchy.mro c = ks.map LibraryClass.className ++ rest) (hname : name ≠ "arity")
    (hm : ks.findSome? (fun k => (k.member? name).map (Member.library k)) = some m) :
    w.member? c name = some m := by
  rw [member?, hmro, memberIn?_of_order hname hm]

/-- The number of values that a class of the library defines itself. -/
theorem ownMember?_arity {k : LibraryClass} (hk : k.member? "arity" = none) :
    w.ownMember? k.className "arity" = ((w.hierarchy.info k.className).arity.bind id).map .arity := by
  rw [ownMember?, LibraryClass.ofClassName?_className]
  simp only [hk, ownMember?.arity?]
  rcases (w.hierarchy.info k.className).arity with _ | _ | n <;> rfl

theorem findConstructor?_of_order {ks : List LibraryClass} {rest : List ClassName} {b : Constructor}
    (hmro : w.hierarchy.mro c = ks.map LibraryClass.className ++ rest)
    (hb : ks.findSome? (fun k => k.parameters?.map (Constructor.library k)) = some b) :
    w.findConstructor? c = some b := by
  have hown : w.ownConstructor? ∘ LibraryClass.className =
      fun k => k.parameters?.map (Constructor.library k) := by
    funext k
    simp [ownConstructor?, LibraryClass.ofClassName?_className]
  rw [findConstructor?, hmro, List.findSome?_append, List.findSome?_map, hown, hb, Option.some_or]

/-- In which order classes are searched at the start: those of tuples addressed by position, what is behind
these, and those of functions of two values.  The class of nothing is none of them. -/
theorem initial_orders :
    let behind : List ClassName := [⟨"abc", "ABC"⟩, ClassTable.generic, .object]
    let order (k : LibraryClass) : Option (List ClassName × Option (Option Nat)) :=
      (Hierarchy.initial.table.find? k.className).map fun i => (i.mro, i.arity)
    (order .arrayTuple =
        some ([LibraryClass.arrayTuple, .tuple].map LibraryClass.className ++ behind, some none) ∧
      order .fixedTuple =
        some ([LibraryClass.fixedTuple, .arrayTuple, .tuple].map LibraryClass.className ++ behind, none) ∧
      ∀ k ∈ [LibraryClass.tuple1, .tuple2, .tuple3, .tuple4, .tuple5], order k =
        some ([k, .fixedTuple, .arrayTuple, .tuple].map LibraryClass.className ++ behind, k.arity)) ∧
    (∀ c ∈ LibraryClass.arrayTuple.className :: LibraryClass.tuple.className :: behind,
      (Hierarchy.initial.table.find? c).any
        (fun i => !i.mro.contains LibraryClass.fixedTuple.className) = true) ∧
    (order .concat = some ([LibraryClass.concat, .function2, .functionN, .function, .structural,
        .signatureChecks].map LibraryClass.className ++ behind, none) ∧
      order .function2 = some ([LibraryClass.function2, .functionN, .function, .structural,
        .signatureChecks].map LibraryClass.className ++ behind, some (some 2))) ∧
    initial.hierarchy.sub .noneType LibraryClass.arrayTuple.className = false := by
  decide +kernel

/-- A class of the library is searched in the order of the start. -/
theorem IsExtended.mro_of_initial {k : LibraryClass} {mro : List ClassName} {n : Option (Option Nat)}
    (hw : w.IsExtended)
    (h : (Hierarchy.initial.table.find? k.className).map (fun i => (i.mro, i.arity)) = some (mro, n)) :
    w.hierarchy.mro k.className = mro ∧ (w.hierarchy.info k.className).arity = n := by
  obtain ⟨i, hfind, hi⟩ := Option.map_eq_some_iff.mp h
  obtain ⟨rfl, rfl⟩ := Prod.mk.inj hi
  rw [Hierarchy.mro, ClassTable.mro, Hierarchy.info, ClassTable.find?_of_prefix hw hfind]
  exact ⟨rfl, rfl⟩

theorem leavesTuples_of_order {ks : List LibraryClass} {rest : List ClassName} {k maker : LibraryClass}
    (hmro : w.hierarchy.mro k.className = ks.map LibraryClass.className ++ rest)
    (hplain : k ≠ .adapterKind) (hmem : .arrayTuple ∈ ks)
    (hmaker : ks.findSome? (fun k => k.parameters?.map (Constructor.library k)) =
      some (.library maker [⟨"values", .rest, none, none⟩]))
    (haccess : ∀ name ∈ ["get", "put", "values", "__getitem__"],
      ks.findSome? (fun k => (k.member? name).map (Member.library k)) = some (.library .arrayTuple .method))
    (hiter : ks.findSome? (fun k => (k.member? "__iter__").map (Member.library k)) =
      some (.library .tuple .method)) : w.LeavesTuples k.className maker where
  own := by simp [Construction.isOwn, LibraryClass.ofClassName?_className]
  plain h := by
    have hk := LibraryClass.ofClassName?_className k
    rw [h, LibraryClass.ofClassName?_className] at hk
    exact hplain (Option.some.inj hk).symm
  positional := by
    rw [hmro]
    exact List.mem_append_left _ (List.mem_map_of_mem hmem)
  maker := findConstructor?_of_order hmro hmaker
  access name hname := by
    refine member?_of_order hmro ?_ (haccess name hname)
    rintro rfl
    simp at hname
  iter := member?_of_order hmro (by decide) hiter

/-- Tuples of any number of values compute it. -/
theorem IsExtended.sizedClass_any (hw : w.IsExtended) :
    w.SizedClass LibraryClass.arrayTuple.className none := by
  obtain ⟨hmro, -⟩ := hw.mro_of_initial initial_orders.1.1
  refine ⟨leavesTuples_of_order hmro (by decide) (by decide) rfl ?_ rfl, ?_⟩
  · simp only [List.forall_mem_cons]
    exact ⟨rfl, rfl, rfl, rfl, fun _ h => absurd h List.not_mem_nil⟩
  · rw [member?, hmro, List.map_cons, List.cons_append, memberIn?, ownMember?,
      LibraryClass.ofClassName?_className]
    rfl

/-- The classes of one to five values fix their number, whatever callers have declared. -/
theorem IsExtended.sizedClass_fixed {n : Nat} {k : LibraryClass} (hw : w.IsExtended)
    (hk : PositionalTuple.fixedClass? n = some k) : w.SizedClass k.className (some n) := by
  obtain ⟨hmem, harity⟩ := PositionalTuple.arity_of_fixedClass? hk
  obtain ⟨hmro, hinfo⟩ := hw.mro_of_initial (initial_orders.1.2.2 k hmem)
  simp only [List.mem_cons, List.not_mem_nil, or_false] at hmem
  refine ⟨leavesTuples_of_order hmro ?_ (by simp) ?_ ?_ ?_, ?_⟩
  · rintro rfl
    simp at hmem
  · rcases hmem with rfl | rfl | rfl | rfl | rfl <;> rfl
  · simp only [List.forall_mem_cons]
    rcases hmem with rfl | rfl | rfl | rfl | rfl <;>
      exact ⟨rfl, rfl, rfl, rfl, fun _ h => absurd h List.not_mem_nil⟩
  · rcases hmem with rfl | rfl | rfl | rfl | rfl <;> rfl
  · have hown : k.member? "arity" = none := by
      rcases hmem with rfl | rfl | rfl | rfl | rfl <;> rfl
    rw [member?, hmro, List.map_cons, List.cons_append, memberIn?, ownMember?_arity hown, hinfo, harity]
    rfl

/-- A class that a caller derives from one of tuples, and that defines nothing but perhaps the number of
values. -/
structure OnlySizes (w : World) (c b : ClassName) : Prop where
  mro : w.hierarchy.mro c = c :: w.hierarchy.mro b
  new : LibraryClass.ofClassName? c = none
  declared : ∃ d, w.declaration? c = some d ∧ d.methods = [] ∧ d.init = none

namespace OnlySizes

variable {b : ClassName} {maker : LibraryClass}

theorem member? (h : w.OnlySizes c b) {name : String}
    (hname : name ∉ ["arity", "input_types", "output_types"]) : w.member? c name = w.member? b name := by
  obtain ⟨d, hd, hmethods, -⟩ := h.declared
  simp only [List.mem_cons, List.not_mem_nil, or_false, not_or] at hname
  obtain ⟨harity, hinput, houtput⟩ := hname
  have hown : w.ownMember? c name = none := by
    simp [ownMember?, ownMember?.arity?, h.new, hd, hmethods, harity, hinput, houtput]
  rw [World.member?, h.mro, memberIn?, hown]
  rfl

theorem leavesTuples (h : w.OnlySizes c b) (hb : w.LeavesTuples b maker) : w.LeavesTuples c maker := by
  obtain ⟨d, hd, -, hinit⟩ := h.declared
  refine ⟨?_, ?_, ?_, ?_, ?_, ?_⟩
  · simp [Construction.isOwn, hd]
  · rintro rfl
    have hnew := h.new
    rw [LibraryClass.ofClassName?_className] at hnew
    cases hnew
  · rw [h.mro]
    exact List.mem_cons_of_mem _ hb.positional
  · have hown : w.ownConstructor? c = none := by simp [ownConstructor?, h.new, hd, hinit]
    rw [World.findConstructor?, h.mro, List.findSome?_cons, hown]
    exact hb.maker
  · intro name hname
    rw [h.member? ?_]
    · exact hb.access name hname
    · revert name
      decide
  · rw [h.member? (by decide)]
    exact hb.iter

theorem arity (h : w.OnlySizes c b) {n : Nat} (hn : (w.hierarchy.info c).arity = some (some n)) :
    w.member? c "arity" = some (.arity n) := by
  obtain ⟨d, hd, hmethods, -⟩ := h.declared
  rw [World.member?, h.mro, memberIn?, ownMember?, h.new]
  simp [ownMember?.arity?, hd, hmethods, hn]

/-- Such a class fixes the number that it defines. -/
theorem sizedClass (h : w.OnlySizes c b) {n : Nat} (hb : w.LeavesTuples b .fixedTuple)
    (hn : (w.hierarchy.info c).arity = some (some n)) : w.SizedClass c (some n) :=
  ⟨h.leavesTuples hb, h.arity hn⟩

/-- Or it has that of the class behind it. -/
theorem sizedClass_inherited (h : w.OnlySizes c b) (hb : w.SizedClass b size)
    (hn : (w.hierarchy.info c).arity = none) : w.SizedClass c size := by
  refine ⟨h.leavesTuples hb.toLeavesTuples, ?_⟩
  obtain ⟨d, hd, hmethods, -⟩ := h.declared
  have hown : w.ownMember? c "arity" = none := by
    simp [ownMember?, ownMember?.arity?, h.new, hd, hmethods, hn]
  rw [World.member?, h.mro, memberIn?, hown]
  exact hb.arity

end OnlySizes

/-- The class of tuples of a number that it does not fix. -/
theorem IsExtended.leavesTuples_fixed (hw : w.IsExtended) :
    w.LeavesTuples LibraryClass.fixedTuple.className .fixedTuple := by
  obtain ⟨hmro, -⟩ := hw.mro_of_initial initial_orders.1.2.1
  refine leavesTuples_of_order hmro (by decide) (by decide) rfl ?_ rfl
  simp only [List.forall_mem_cons]
  exact ⟨rfl, rfl, rfl, rfl, fun _ h => absurd h List.not_mem_nil⟩

/-- The classes of tuples that the library has, and those that callers derive from them to fix a number of
values and for nothing else. -/
inductive TupleClass (w : World) : ClassName → Option Nat → Prop
  | any : TupleClass w LibraryClass.arrayTuple.className none
  | fixed {n : Nat} {k : LibraryClass} : PositionalTuple.fixedClass? n = some k →
      TupleClass w k.className (some n)
  | sized {c : ClassName} {n : Nat} : w.OnlySizes c LibraryClass.fixedTuple.className →
      (w.hierarchy.info c).arity = some (some n) → TupleClass w c (some n)
  | resized {c b : ClassName} {m n : Nat} : w.OnlySizes c b → TupleClass w b (some m) →
      (w.hierarchy.info c).arity = some (some n) → TupleClass w c (some n)
  | inherited {c b : ClassName} {size : Option Nat} : w.OnlySizes c b → TupleClass w b size →
      (w.hierarchy.info c).arity = none → TupleClass w c size

theorem TupleClass.sizedClass (hw : w.IsExtended) (h : w.TupleClass c size) : w.SizedClass c size := by
  induction h with
  | any => exact hw.sizedClass_any
  | fixed hk => exact hw.sizedClass_fixed hk
  | sized hc hn => exact hc.sizedClass hw.leavesTuples_fixed hn
  | resized hc _ hn ih => exact hc.sizedClass ih.toLeavesTuples hn
  | inherited hc _ hn ih => exact hc.sizedClass_inherited ih hn

/-! ### Making -/

theorem binding_rest (vs : List Value) :
    Binding.of [⟨"values", .rest, none, none⟩] (.ofList vs) = .ok ⟨[], vs, []⟩ := by
  cases vs <;> rfl

/-- What a class of tuples makes has the values that it is given, as many as the class fixes. -/
theorem result_make_sized {d : Dispatch} {vs : List Value} {x : Value} (hclass : w.SizedClass c size)
    (h : (Construction.make d c (.ofList vs)).result w = (.ok x, u)) :
    (.ok (.ref w.heap.size), { w with heap := w.heap.push (.slots c none vs) }) =
        ((.ok x, u) : Except Fault Value × World) ∧ ∀ n ∈ size, vs.length = n := by
  have hplain : (c == LibraryClass.adapterKind.className) = false := by
    rw [beq_eq_false_iff_ne]
    exact hclass.plain
  rw [Construction.make, result_bind_ok _ (result_get w), hplain, hclass.own] at h
  simp only [Bool.false_eq_true, if_false, if_true] at h
  rw [Construction.object, result_bind_ok _ (result_get w)] at h
  cases habstract : w.isAbstract c with
  | true => simp [habstract] at h
  | false =>
    simp only [habstract, hclass.maker, Constructor.params, binding_rest] at h
    cases size with
    | none => exact ⟨h, by simp⟩
    | some n =>
      have hfixed : (Construction.fixedArity c).result w = (.ok n, w) := by
        rw [Construction.fixedArity, result_bind_ok _ (result_get w), hclass.arity]
        rfl
      by_cases hlen : vs.length = n
      · exact ⟨by simpa [tupleMaker, result_bind, hfixed, hlen] using h, by simpa using hlen⟩
      · simp [tupleMaker, result_bind, hfixed, hlen] at h

theorem SizedClass.size_unique {size' : Option Nat} (h : w.SizedClass c size)
    (h' : w.SizedClass c size') : size = size' := by
  have hmember : sizeMember size = sizeMember size' := Option.some.inj (h.arity.symm.trans h'.arity)
  cases size <;> cases size' <;> simp_all [sizeMember]

/-- A new cell is a tuple of its class. -/
theorem isSizedTuple_push {vs : List Value} {x : Value} (hsize : ∀ n ∈ size, vs.length = n)
    (h : (.ok (.ref w.heap.size), { w with heap := w.heap.push (.slots c none vs) }) =
      ((.ok x, u) : Except Fault Value × World)) :
    ∃ r, x = .ref r ∧ w.SameClasses u ∧ u.IsSizedTuple r c size := by
  obtain ⟨hx, rfl⟩ := Prod.mk.inj h
  exact ⟨_, (Except.ok.inj hx).symm, ⟨rfl, rfl⟩, none, vs, by simp, hsize⟩

/-- What is noted on a tuple leaves its values as they are. -/
theorem isSizedTuple_mark {t : Ty} {x y : Value} (ht : w.IsSizedTuple r c size)
    (h : (do Construction.mark t (.ref r); return y).result w = (.ok x, u)) :
    x = y ∧ w.SameClasses u ∧ u.IsSizedTuple r c size := by
  obtain ⟨o, vs, hcell, hsize⟩ := ht
  have hmarked : (.ok y, { w with heap := w.heap.setIfInBounds r (.slots c (some t) vs) }) =
      ((.ok x, u) : Except Fault Value × World) := by
    simpa [Construction.mark, result_bind, result_map, hcell] using h
  obtain ⟨hx, rfl⟩ := Prod.mk.inj hmarked
  exact ⟨(Except.ok.inj hx).symm, ⟨rfl, rfl⟩, some t, vs, by simp [lt_size_of_getElem? hcell], hsize⟩

/-- A new tuple has as many values as its class fixes. -/
theorem isSizedTuple_of_making {n : Nat} {mk : TupleMaking} {x : Value} (hw : w.IsExtended)
    (hclass : w.SizedClass mk.className size) (h : (mk.run (.ofDepth n)).result w = (.ok x, u)) :
    ∃ r, x = .ref r ∧ w.SameClasses u ∧ u.IsSizedTuple r mk.className size := by
  cases mk with
  | ofClass c vs =>
    cases n with
    | zero => cases h
    | succ n =>
      obtain ⟨hmade, hsize⟩ := result_make_sized hclass h
      exact isSizedTuple_push hsize hmade
  | ofForm c ts vs =>
    cases n with
    | zero => cases h
    | succ n =>
      obtain ⟨y, v, hmake, hmark⟩ := result_bind_eq_ok.mp h
      obtain ⟨hmade, hsize⟩ := result_make_sized hclass hmake
      obtain ⟨r, rfl, hv, ht⟩ := isSizedTuple_push hsize hmade
      obtain ⟨rfl, hu, ht⟩ := isSizedTuple_mark ht hmark
      exact ⟨r, rfl, hv.trans hu, ht⟩
  | ofSize count =>
    obtain rfl : size = none := hclass.size_unique hw.sizedClass_any
    cases count with
    | atom a =>
      cases hi : a.index? with
      | none => simp [TupleMaking.run, TupleObject.ofSize, Run.atom, result_bind, hi] at h
      | some i =>
        have hsize : ∀ n ∈ none, (List.replicate i.toNat Value.none).length = n := by simp
        refine isSizedTuple_push hsize ?_
        simpa [TupleMaking.run, TupleObject.ofSize, TupleMaking.className, Run.atom, result_bind, hi]
          using h
    | _ => cases h
  | ofValues vs =>
    refine isSizedTuple_push ?_ h
    cases hk : PositionalTuple.fixedClass? vs.length with
    | none =>
      have hany : w.SizedClass LibraryClass.arrayTuple.className size := by
        simpa [TupleMaking.className, hk] using hclass
      obtain rfl : size = none := hany.size_unique hw.sizedClass_any
      simp
    | some k =>
      have hfixed : w.SizedClass k.className size := by
        simpa [TupleMaking.className, hk] using hclass
      obtain rfl : size = some vs.length := hfixed.size_unique (hw.sizedClass_fixed hk)
      simp

end World

end FunctionObjects
