import FunctionObjects.Proofs.Unpacking.Sized
/-!
# Calls with exactly the values of a tuple

A function or predicate of several values reads the number of values of its input before it reads the
values.  For a tuple that keeps its number the two agree, so what the method of the class is given is
neither cut off nor filled up: it is called once with the values that are stored at the time of the
call, or not at all.
-/

namespace FunctionObjects

open Run Relation

/-- What is called with the values of a tuple. -/
inductive NaryKind where
  | function | predicate

namespace NaryKind

/-- The class of the library that unpacks the tuple. -/
def owner : NaryKind → LibraryClass
  | function => .functionN
  | predicate => .predicateN

/-- The method that unpacks the tuple. -/
def delegate : NaryKind → String
  | function => "delegate_apply"
  | predicate => "delegate_test"

/-- The method that takes the values. -/
def body : NaryKind → String
  | function => "apply"
  | predicate => "test"

/-- What is done with the outcome. -/
def finish : NaryKind → Value → Value → Run Value
  | function, self, y => Unpacked.repack self y
  | predicate, _, y => pure y

end NaryKind

namespace World

/-- Cell `f` is an object of a class that takes `n` values and leaves it to the library to unpack them. -/
structure IsNary (w : World) (k : NaryKind) (f : Ref) (c : ClassName) (n : Nat) : Prop where
  call : w.member? c "__call__" = some (.library k.owner .method)
  delegate : w.member? c k.delegate = some (.library k.owner .method)
  arity : w.member? c "arity" = some (.arity n)
  /-- Nothing that is set on the object itself comes before its class. -/
  cell : ∃ o as, w.heap[f]? = some (.object c o as) ∧ as.lookup k.delegate = none ∧
    as.lookup "arity" = none

variable {w : World} {c : ClassName} {size : Option Nat} {r f : Ref} {o : Option Ty} {vs : List Value}
  {k : NaryKind} {d : ClassName} {n : Nat}

theorem IsNary.classOf (hf : w.IsNary k f d n) : w.classOf (.ref f) = d := by
  obtain ⟨o, as, hcell, -⟩ := hf.cell
  simp [World.classOf, hcell]

/-- An object of several values unpacks its input and hands the values to the method of its class. -/
theorem IsNary.result_call (hf : w.IsNary k f d n) (m : Nat) (x : Value) :
    ((Dispatch.ofDepth (m + 2)).call (.ref f) [x]).result w =
      (do
        let vs ← Unpacked.unpack (.ofDepth m) (.ref f) x
        let y ← (Dispatch.ofDepth m).method (.ref f) k.body vs
        k.finish (.ref f) y).result w := by
  obtain ⟨o, as, hcell, has, -⟩ := hf.cell
  cases k with
  | function => exact Unpacked.result_call_function m hcell hf.call hf.delegate has
  | predicate =>
    rw [Unpacked.result_call_predicate m hcell hf.call hf.delegate has, Unpacked.delegateTest]
    exact congrArg (Run.result · w) (bind_congr fun _ => (bind_pure _).symm)

/-- The number that a tuple tells is that of its values. -/
theorem result_arity_sized (hclass : w.SizedClass c size) (hcell : w.heap[r]? = some (.slots c o vs))
    (hsize : ∀ n ∈ size, vs.length = n) :
    (Unpacked.arity (.ref r)).result w = (.ok (vs.length : Int), w) := by
  have hclassOf : w.classOf (.ref r) = c := by simp [World.classOf, hcell]
  rw [Unpacked.arity, result_bind_ok _ (result_get w), hclassOf, hclass.arity]
  cases size with
  | none => exact result_bind_ok _ (result_contents hcell)
  | some n =>
    rw [hsize n rfl]
    rfl

/-- What is unpacked are the values that are stored, if they are as many as are to be unpacked. -/
theorem result_unpack_sized (m : Nat) (hf : w.IsNary k f d n) (hclass : w.SizedClass c size)
    (hcell : w.heap[r]? = some (.slots c o vs)) (hsize : ∀ n ∈ size, vs.length = n) :
    (Unpacked.unpack (.ofDepth (m + 1)) (.ref f) (.ref r)).result w =
      if vs.length = n then (.ok vs, { w with heap := w.heap.push (.list vs) })
      else (.error (.arity d.name n (.count vs.length)), w) := by
  have hclassOf : w.classOf (.ref r) = c := by simp [World.classOf, hcell]
  have hpositional : (Unpacked.isPositional (.ref r)).result w = (.ok true, w) := by
    rw [Unpacked.result_isPositional, hclassOf, hclass.sub]
  rw [Unpacked.unpack, result_bind_ok _ (Unpacked.result_arity (hf.classOf ▸ hf.arity)),
    result_bind_ok _ hpositional, if_pos rfl, result_bind_ok _ (result_arity_sized hclass hcell hsize)]
  simp only [Int.natCast_inj]
  split
  · rw [result_bind_ok _ (Dispatch.result_values_slots m hcell (hclass.access "values" (by simp)))]
    simp [Dispatch.items, Dispatch.cursor, result_bind, isTupleObject, plainCursor?, World.cell?,
      Cursor.drain]
  · rw [← hf.classOf]
    rfl

/-- What is no tuple addressed by position is refused. -/
theorem result_unpack_other (e : Dispatch) (hf : w.IsNary k f d n) {x : Value}
    (hx : w.hierarchy.sub (w.classOf x) LibraryClass.arrayTuple.className = false) :
    (Unpacked.unpack e (.ref f) x).result w =
      (.error (.arity d.name n (.instance' (w.classOf x).name)), w) := by
  rw [Unpacked.unpack, result_bind_ok _ (Unpacked.result_arity (hf.classOf ▸ hf.arity)),
    result_bind_ok _ (Unpacked.result_isPositional x), hx, ← hf.classOf]
  rfl

/-- A call hands on the values that are stored, or refuses their number. -/
theorem IsNary.result_call_sized (hf : w.IsNary k f d n) (hclass : w.SizedClass c size)
    (hcell : w.heap[r]? = some (.slots c o vs)) (hsize : ∀ n ∈ size, vs.length = n) (m : Nat) :
    ((Dispatch.ofDepth (m + 3)).call (.ref f) [.ref r]).result w =
      if vs.length = n then
        (do
          let y ← (Dispatch.ofDepth (m + 1)).method (.ref f) k.body vs
          k.finish (.ref f) y).result { w with heap := w.heap.push (.list vs) }
      else (.error (.arity d.name n (.count vs.length)), w) := by
  have hunpack := result_unpack_sized m hf hclass hcell hsize
  rw [hf.result_call (m + 1)]
  split
  · rename_i hlen
    rw [if_pos hlen] at hunpack
    exact result_bind_ok _ hunpack
  · rename_i hlen
    rw [if_neg hlen] at hunpack
    exact result_bind_error _ hunpack

/-- A function or predicate of `n` values is called with a tuple, however the tuple was made and used
before: the method of its class is called once with the values that are stored then, in their order, if
they are `n`, and not at all otherwise.  Nor is it called with anything that is no such tuple. -/
theorem call_exact {u v : World} {mk : TupleMaking} {t : Ref} (hw : w.IsExtended)
    (hclass : w.SizedClass mk.className size) {l : Nat}
    (hmade : (mk.run (.ofDepth l)).result w = (.ok (.ref t), v))
    (hused : ReflTransGen (TupleStep t) v u) (hf : u.IsNary k f d n) (m : Nat) :
    (∃ o vs, u.heap[t]? = some (.slots mk.className o vs) ∧
      ((Dispatch.ofDepth (m + 3)).call (.ref f) [.ref t]).result u =
        if vs.length = n then
          (do
            let y ← (Dispatch.ofDepth (m + 1)).method (.ref f) k.body vs
            k.finish (.ref f) y).result { u with heap := u.heap.push (.list vs) }
        else (.error (.arity d.name n (.count vs.length)), u)) ∧
    ∀ x, u.hierarchy.sub (u.classOf x) LibraryClass.arrayTuple.className = false →
      ((Dispatch.ofDepth (m + 3)).call (.ref f) [x]).result u =
        (.error (.arity d.name n (.instance' (u.classOf x).name)), u) := by
  obtain ⟨r, ⟨⟩, hv, ht⟩ := isSizedTuple_of_making hw hclass hmade
  have hkept := keepsTuple_of_steps (hclass.of_same hv) ht hused
  obtain ⟨o, vs, hcell, hsize⟩ := hkept.isSizedTuple ht
  have hclass' : u.SizedClass mk.className size := hkept.classes _ _ (hclass.of_same hv)
  refine ⟨⟨o, vs, hcell, hf.result_call_sized hclass' hcell hsize m⟩, fun x hx => ?_⟩
  rw [hf.result_call (m + 1)]
  exact result_bind_error _ (result_unpack_other _ hf hx)

/-- What joins two texts. -/
def joining : World :=
  { initial with heap := #[.object LibraryClass.concat.className none [("separator", .str ",")]] }

/-- The class of functions of two values fixes their number. -/
theorem IsExtended.ownMember?_function2 (hw : w.IsExtended) :
    w.ownMember? LibraryClass.function2.className "arity" = some (.arity 2) := by
  obtain ⟨-, -, ⟨-, hsecond⟩, -⟩ := initial_orders
  rw [ownMember?_arity rfl, (hw.mro_of_initial hsecond).2]
  rfl

theorem isNary_concat (hw : w.IsExtended) {o : Option Ty} {as : List (String × Value)}
    (hcell : w.heap[f]? = some (.object LibraryClass.concat.className o as))
    (has : as.lookup "delegate_apply" = none ∧ as.lookup "arity" = none) :
    w.IsNary .function f LibraryClass.concat.className 2 := by
  obtain ⟨-, -, ⟨hfirst, -⟩, -⟩ := initial_orders
  obtain ⟨hmro, hown⟩ := hw.mro_of_initial hfirst
  refine ⟨member?_of_order hmro (by decide) rfl, member?_of_order hmro (by decide) rfl, ?_, o, as, hcell,
    has⟩
  rw [member?, hmro, List.map_cons, List.map_cons, List.cons_append, List.cons_append, memberIn?,
    ownMember?_arity rfl, hown, memberIn?, hw.ownMember?_function2]
  rfl

/-- Reading a place that there is not changes nothing. -/
theorem state_get {e : Dispatch} {t i : Value} {err : Fault}
    (h : (e.method t "get" [i]).result w = (.error err, w)) :
    (((TupleUse.get i).run e t).result w).2 = w := by
  rw [TupleUse.run, result_bind_error _ h]

/-- Two texts are joined once a third one has been stored in the place of the second, and reading another
place has failed; nothing at all is refused. -/
theorem call_joining :
    let made := ((PositionalTuple.ofValues [.str "a", .str "b"]).result joining).2
    let stored := (((TupleUse.put (.int 1) (.str "c")).run (.ofDepth 1) (.ref 1)).result made).2
    let u := (((TupleUse.get (.int 2)).run (.ofDepth 1) (.ref 1)).result stored).2
    ((Dispatch.ofDepth 3).call (.ref 0) [.ref 1]).result u =
      (do
        let y ← (Dispatch.ofDepth 1).method (.ref 0) "apply" [.str "a", .str "c"]
        Unpacked.repack (.ref 0) y).result
          { u with heap := u.heap.push (.list [.str "a", .str "c"]) } ∧
      ((Dispatch.ofDepth 3).call (.ref 0) [.none]).result u =
        (.error (.arity "Concat" 2 (.instance' ClassName.noneType.name)), u) := by
  intro made stored u
  have hw : joining.IsExtended := isExtended_initial
  have hclass : joining.SizedClass (TupleMaking.ofValues [.str "a", .str "b"]).className (some 2) :=
    (TupleClass.fixed (n := 2) rfl).sizedClass hw
  have hmade : ((TupleMaking.ofValues [.str "a", .str "b"]).run (.ofDepth 0)).result joining =
      (.ok (.ref 1), made) := rfl
  have hfirst : made.heap[1]? = some (.slots LibraryClass.tuple2.className none [.str "a", .str "b"]) := rfl
  have hput : ((Dispatch.ofDepth 1).method (.ref 1) "put" [.int 1, .str "c"]).result made =
      (.ok .none, { made with
        heap := made.heap.setIfInBounds 1 (.slots LibraryClass.tuple2.className none [.str "a", .str "c"]) }) :=
    result_put_tuple hfirst (hclass.of_same ⟨rfl, rfl⟩) 0 _ _
  have hstored : stored = { made with
      heap := made.heap.setIfInBounds 1 (.slots LibraryClass.tuple2.className none [.str "a", .str "c"]) } :=
    congrArg Prod.snd (result_bind_ok _ hput)
  have hcell : stored.heap[1]? = some (.slots LibraryClass.tuple2.className none [.str "a", .str "c"]) := by
    rw [hstored]
    rfl
  have hu : u = stored := by
    have hsame : joining.SameClasses stored := by
      rw [hstored]
      exact ⟨rfl, rfl⟩
    have hget : ((Dispatch.ofDepth 1).method (.ref 1) "get" [.int 2]).result stored =
        (.error (.tupleIndexRange 2 2), stored) := result_get_tuple hcell (hclass.of_same hsame) 0 _
    exact state_get hget
  have hused : ReflTransGen (TupleStep 1) made u :=
    (ReflTransGen.single (.use made 1 _)).tail (.use stored 1 _)
  have hf : u.IsNary .function 0 LibraryClass.concat.className 2 := by
    have hconcat : u.heap[0]? =
        some (.object LibraryClass.concat.className none [("separator", .str ",")]) := by
      rw [hu, hstored]
      rfl
    refine isNary_concat ?_ hconcat ⟨rfl, rfl⟩
    rw [hu, hstored]
    exact hw
  obtain ⟨⟨o, vs, hvs, hcall⟩, hother⟩ := call_exact hw hclass hmade hused hf 0
  obtain ⟨-, rfl, rfl⟩ := Cell.slots.inj (Option.some.inj ((hu ▸ hcell).symm.trans hvs))
  refine ⟨hcall.trans (if_pos rfl), hother .none ?_⟩
  obtain ⟨-, -, -, hnothing⟩ := initial_orders
  rw [hu, hstored]
  exact hnothing

end World

end FunctionObjects
