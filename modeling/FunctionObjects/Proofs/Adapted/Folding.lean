import FunctionObjects.Proofs.Fields.Stepping
import FunctionObjects.Proofs.Keyed.Sparing
/-!
# Folds of adapted operators

An adapted operator adapts the state again in every step of a fold.  If that undoes what adapting the output
did, the fold is the fold of the operator inside over the adapted inputs, as long as a step leaves unchanged
what the next inputs are adapted to.
-/

namespace FunctionObjects

open Run World

section

variable {w v : World} {F f a b g t x : Value} {n : Nat}

namespace Adapted

/-- Adapts a value; without an adapter it passes through. -/
def adapt (d : Dispatch) (a x : Value) : Run Value := if a.isNone then return x else d.call a [x]

/-- Adapts an output, by folding it into a state if there is an adapter for that. -/
def release (d : Dispatch) (b g y t : Value) : Run Value :=
  if g.isNone then adapt d b y else d.call g [t, y]

end Adapted

/-- An object of a class that leaves it to the library to adapt an operator, with its adapters. -/
structure World.AdaptsOperator (w : World) (F f a b g : Value) : Prop where
  isSet : f.isNone = false
  object : ∃ c as, w.IsObjectWith F c as ∧
    as.lookup "binary_operator" = some f ∧ as.lookup "input_adapter" = some a ∧
    as.lookup "output_adapter" = some b ∧ as.lookup "output_fold" = some g ∧
    as.lookup "apply" = none ∧ as.lookup "adapt_input" = none ∧ as.lookup "adapt_output" = none ∧
    w.member? c "__call__" = some (.library .binaryOperator .method) ∧
    w.member? c "apply" = some (.library .adaptedBinaryOperator .method) ∧
    w.member? c "adapt_input" = some (.library .inputAdapted .method) ∧
    w.member? c "adapt_output" = some (.library .outputAdapted .method)

namespace World.AdaptsOperator

variable (h : w.AdaptsOperator F f a b g)

include h

theorem result_call (t x : Value) : ((Dispatch.ofDepth (n + 2)).call F [t, x]).result w =
    (Adapted.applyOperator (.ofDepth n) F t x).result w := by
  obtain ⟨c, as, ⟨l, o, rfl, hcell⟩, -, -, -, -, happly, -, -, hcall, hmember, -⟩ := h.object
  rw [Dispatch.result_call_object (n + 1) hcell hcall]
  exact Dispatch.result_method_object n hcell hmember happly

theorem result_inner :
    (Adapted.inner F "binary_operator" .operator).result w = (.ok f, w) := by
  obtain ⟨c, as, ⟨l, o, rfl, hcell⟩, hf, -⟩ := h.object
  exact result_bind_ok _ (result_optional_set hcell hf h.isSet)

theorem result_adapt_input (x : Value) :
    ((Dispatch.ofDepth (n + 1)).method F "adapt_input" [x]).result w =
      (Adapted.adapt (.ofDepth n) a x).result w := by
  obtain ⟨c, as, ⟨l, o, rfl, hcell⟩, -, ha, -, -, -, hattribute, -, -, -, hmember, -⟩ := h.object
  rw [Dispatch.result_method_object n hcell hmember hattribute]
  change (Adapted.adaptInput (.ofDepth n) (.ref l) x).result w = _
  rw [Adapted.adaptInput, result_bind_ok _ (result_optional hcell ha), Adapted.adapt]
  cases a.isNone <;> rfl

theorem result_adapt_output (y t : Value) :
    ((Dispatch.ofDepth (n + 1)).method F "adapt_output" [y, t]).result w =
      (Adapted.release (.ofDepth n) b g y t).result w := by
  obtain ⟨c, as, ⟨l, o, rfl, hcell⟩, -, -, hb, hg, -, -, hattribute, -, -, -, hmember⟩ := h.object
  rw [Dispatch.result_method_object n hcell hmember hattribute]
  change (Adapted.adaptOutput (.ofDepth n) (.ref l) y t).result w = _
  have hkind : (Adapted.outputKind (.ref l)).result w =
      (.ok (if g.isNone then if b.isNone then .identity else .map else .fold), w) := by
    rw [Adapted.outputKind, result_bind_ok _ (result_optional hcell hg)]
    cases g.isNone with
    | false => rfl
    | true =>
      refine (result_bind_ok _ (result_optional hcell hb)).trans ?_
      cases b.isNone <;> rfl
  rw [Adapted.adaptOutput, result_bind_ok _ hkind, Adapted.release, Adapted.adapt]
  cases g.isNone with
  | false => exact result_bind_ok _ (result_field hcell hg)
  | true =>
    cases b.isNone with
    | false => exact result_bind_ok _ (result_field hcell hb)
    | true => rfl

/-- A step whose adapters leave the state as it is. -/
theorem result_step {s y z : Value} (h' : v.AdaptsOperator F f a b g)
    (hs : (Adapted.adapt (.ofDepth n) a t).result w = (.ok s, w))
    (hy : (Adapted.adapt (.ofDepth n) a x).result w = (.ok y, w))
    (hcall : ((Dispatch.ofDepth (n + 1)).call f [s, y]).result w = (.ok z, v)) :
    ((Dispatch.ofDepth (n + 3)).call F [t, x]).result w =
      (Adapted.release (.ofDepth n) b g z t).result v := by
  rw [h.result_call, Adapted.applyOperator, result_bind_ok _ h.result_inner,
    result_bind_ok _ ((h.result_adapt_input t).trans hs),
    result_bind_ok _ ((h.result_adapt_input x).trans hy), result_bind_ok _ hcall,
    h'.result_adapt_output]

end World.AdaptsOperator

end

variable {α β : Type}

/-- How the values inside are known while a fold runs: states, inputs and the states outside.  Adapting makes
`quiet` changes only, which keep a state inside what it is; the operator and the output may make `later` ones,
which keep inputs and states outside what they are. -/
structure Passage (α β : Type) where
  state : World → α → Value → Prop
  input : World → β → Value → Prop
  outer : World → Value → Prop
  quiet : World → World → Prop
  later : World → World → Prop
  refl : ∀ w, later w w
  trans : ∀ {u v w}, later u v → later v w → later u w
  of_quiet : ∀ {u v}, quiet u v → later u v
  state_quiet : ∀ {u v s x}, quiet u v → state u s x → state v s x
  input_later : ∀ {u v b x}, later u v → input u b x → input v b x
  outer_later : ∀ {u v t}, later u v → outer u t → outer v t

namespace Passage

variable (S : Passage α β) (n : Nat) (w : World) (F f a b g : Value) (op : α → β → Option α)

/-- What adapting a state outside gives. -/
def Image (u : World) (t : Value) (o : Option α) : Prop :=
  Computes u (Adapted.adapt (.ofDepth n) a t) o fun s x v => S.state v s x ∧ S.quiet u v

/-- An input that is adapted to the same whenever the fold gets to it. -/
def Adapts (o : Option β) (x : Value) : Prop :=
  ∀ u, S.later w u → Computes u (Adapted.adapt (.ofDepth n) a x) o
    fun i y v => S.input v i y ∧ S.quiet u v

/-- An object that adapts an operator to which the values inside are known, and whose adapted outputs are
adapted back to what they come from. -/
structure Transports : Prop where
  object : ∀ u, S.later w u → u.AdaptsOperator F f a b g
  call : ∀ {u s i x y}, S.later w u → S.state u s x → S.input u i y →
    Computes u ((Dispatch.ofDepth (n + 1)).call f [x, y]) (op s i)
      fun s' z v => S.state v s' z ∧ S.later u v
  output : ∀ {u s z t}, S.later w u → S.state u s z → S.outer u t →
    ∃ y v, (Adapted.release (.ofDepth n) b g z t).result u = (.ok y, v) ∧ S.later u v ∧
      S.outer v y ∧ S.Image n a v y (some s)

/-- Where a fold has got to: a state outside that is adapted to a state inside, from which it was made if
outputs are not folded into states. -/
def Reached (s : α) (y : Value) (u : World) : Prop :=
  S.later w u ∧ S.outer u y ∧ S.Image n a u y (some s) ∧
    (g.isNone = true → ∃ z v, S.later w v ∧ S.state v s z ∧
      (Adapted.adapt (.ofDepth n) b z).result v = (.ok y, u))

end Passage

namespace Adapted

/-- The fold inside: all inputs are adapted before it starts. -/
def inside (d e : Dispatch) (f a s : Value) (xs : List Value) : Run Value := do
  let x ← adapt e a s
  ByKey.fold d f x (← xs.mapM (adapt e a))

/-- The same on what the values stand for. -/
def insideOf (op : α → β → Option α) (o : Option α) (os : List (Option β)) : Option α := do
  let s ← o
  (← os.mapM id).foldlM op s

/-- An input that cannot be adapted makes the fold fail, whether it is adapted at the start or when its turn
comes. -/
theorem foldlM_mapM (op : α → β → Option α) (s : α) (os : List (Option β)) :
    (do (← os.mapM id).foldlM op s) = os.foldlM (fun s o => do op s (← o)) s := by
  induction os generalizing s with
  | nil => rfl
  | cons o os ih =>
    rw [List.mapM_cons, List.foldlM_cons]
    cases o with
    | none => rfl
    | some i =>
      simp only [id, Option.pure_def, Option.bind_eq_bind, Option.bind_some] at ih ⊢
      simp only [← ih]
      cases os.mapM id with
      | none => cases op s i <;> rfl
      | some bs => rfl

end Adapted

namespace Passage

variable {S : Passage α β} {n : Nat} {w u : World} {F f a b g t x : Value} {op : α → β → Option α}
  {o : Option α} {i : Option β} {xs : List Value} {os : List (Option β)}

/-- One step outside is one step inside. -/
theorem computes_step (h : S.Transports n w F f a b g op) (hu : S.later w u) (houter : S.outer u t)
    (ht : S.Image n a u t o) (hx : S.Adapts n w a i x) :
    Computes u ((Dispatch.ofDepth (n + 3)).call F [t, x]) (do op (← o) (← i))
      (S.Reached n w a b g) := by
  refine .of_result ((h.object u hu).result_call t x) ?_
  rw [Adapted.applyOperator]
  refine .of_result (result_bind_ok _ (h.object u hu).result_inner) ?_
  refine (Computes.of_result ((h.object u hu).result_adapt_input t) ht).bind
    fun s y v _ ⟨hs, hquiet⟩ => ?_
  have hv := S.trans hu (S.of_quiet hquiet)
  refine (Computes.of_result ((h.object v hv).result_adapt_input x) (hx v hv)).bind
    fun j z v' _ ⟨hj, hquiet'⟩ => ?_
  have hv' := S.trans hv (S.of_quiet hquiet')
  rw [← Option.bind_fun_some (x := op s j)]
  refine (h.call hv' (S.state_quiet hquiet' hs) hj).bind fun s' z' u' _ ⟨hs', hlater⟩ => ?_
  have hu' := S.trans hv' hlater
  have houter' : S.outer u' t := S.outer_later
    (S.trans (S.of_quiet hquiet) (S.trans (S.of_quiet hquiet') hlater)) houter
  obtain ⟨y', w', hrelease, hlater', houter'', himage⟩ := h.output hu' hs' houter'
  refine ⟨y', w', ((h.object u' hu').result_adapt_output z' t).trans hrelease,
    S.trans hu' hlater', houter'', himage, fun hg => ⟨z', u', hu', hs', ?_⟩⟩
  rwa [Adapted.release, if_pos hg] at hrelease

/-- Once the first step is done, the fold outside goes on as the fold inside. -/
theorem computes_rest (h : S.Transports n w F f a b g op)
    (hxs : List.Forall₂ (S.Adapts n w a) os xs) {s : α} (ht : S.Reached n w a b g s t u) :
    Computes u (ByKey.fold (.ofDepth (n + 3)) F t xs)
      (os.foldlM (fun s o => do op s (← o)) s) (S.Reached n w a b g) := by
  induction hxs generalizing s t u with
  | nil => exact .pure ht
  | cons hx _ ih =>
    obtain ⟨hu, houter, himage, -⟩ := ht
    rw [ByKey.fold, List.foldlM_cons, List.foldlM_cons]
    exact (computes_step h hu houter himage hx).bind fun s' y v _ hy => ih hy

/-- Adapting inputs leaves a state inside what it is. -/
theorem computes_mapM (hxs : List.Forall₂ (S.Adapts n w a) os xs) {s : α} {y : Value}
    (hu : S.later w u) (hs : S.state u s y) :
    Computes u (xs.mapM (Adapted.adapt (.ofDepth n) a)) (os.mapM id) fun is zs v =>
      S.later u v ∧ S.state v s y ∧ List.Forall₂ (S.input v) is zs := by
  induction hxs generalizing u with
  | nil => exact .pure ⟨S.refl u, hs, .nil⟩
  | cons hx _ ih =>
    rw [List.mapM_cons, List.mapM_cons]
    refine (hx u hu).bind fun j z v _ ⟨hj, hquiet⟩ => ?_
    have hv := S.of_quiet hquiet
    refine (ih (S.trans hu hv) (S.state_quiet hquiet hs)).bind fun js zs v' _ ⟨hv', hs', hjs⟩ => ?_
    exact .pure ⟨S.trans hv hv', hs', .cons (S.input_later hv' hj) hjs⟩

/-- The fold inside over inputs that have been adapted. -/
theorem computes_fold (h : S.Transports n w F f a b g op) {js : List β} {zs : List Value}
    {s : α} {y : Value} (hu : S.later w u) (hs : S.state u s y)
    (hzs : List.Forall₂ (S.input u) js zs) :
    Computes u (ByKey.fold (.ofDepth (n + 1)) f y zs) (js.foldlM op s)
      fun s z v => S.state v s z := by
  induction js generalizing zs s y u with
  | nil =>
    cases hzs
    exact .pure hs
  | cons j js ih =>
    cases hzs with
    | cons hj hjs =>
      rw [ByKey.fold, List.foldlM_cons, List.foldlM_cons]
      refine (h.call hu hs hj).bind ?_
      rintro s' z v - ⟨hs', hv⟩
      exact ih (S.trans hu hv) hs' (hjs.imp fun _ _ => S.input_later hv)

/-- A fold of an adapted operator over one or more inputs is the fold of the operator inside over the
adapted inputs, and fails if that does.  It ends in a state that is adapted to the end of the fold inside; if
outputs are not folded into states, it is what the end of the fold inside is adapted to. -/
theorem fold_transported (h : S.Transports n w F f a b g op) (hnonempty : xs ≠ [])
    (houter : S.outer w t) (ht : S.Image n a w t o) (hxs : List.Forall₂ (S.Adapts n w a) os xs) :
    Computes w (ByKey.fold (.ofDepth (n + 3)) F t xs) (Adapted.insideOf op o os)
      (fun s y u => S.Image n a u y (some s) ∧ (g.isNone = true → ∃ z v, S.later w v ∧
        S.state v s z ∧ (Adapted.adapt (.ofDepth n) b z).result v = (.ok y, u))) ∧
    Computes w (Adapted.inside (.ofDepth (n + 1)) (.ofDepth n) f a t xs) (Adapted.insideOf op o os)
      fun s z u => S.state u s z := by
  constructor
  · have hfold : Adapted.insideOf op o os =
        (do os.foldlM (fun s o => do op s (← o)) (← o)) := by
      simp only [Adapted.insideOf, Adapted.foldlM_mapM]
    rw [hfold]
    cases hxs with
    | nil => exact absurd rfl hnonempty
    | cons hx hxs =>
      have hsteps := (computes_step h (S.refl w) houter ht hx).bind fun s y v _ hy =>
        computes_rest h hxs hy
      rw [bind_assoc] at hsteps
      exact hsteps.imp fun s y u hy => hy.2.2
  · refine ht.bind fun s y u _ ⟨hs, hquiet⟩ => ?_
    have hu := S.of_quiet hquiet
    refine (computes_mapM hxs hu hs).bind fun js zs v _ ⟨hv, hs', hjs⟩ => ?_
    exact computes_fold h (S.trans hu hv) hs' hjs

/-- Numbers that stand for themselves, in a state that nothing changes. -/
def numbers : Passage Int Int where
  state _ k x := x = .int k
  input _ k x := x = .int k
  outer _ _ := True
  quiet := Eq
  later := Eq
  refl _ := rfl
  trans := Eq.trans
  of_quiet := id
  state_quiet _ h := h
  input_later _ h := h
  outer_later _ h := h

/-- A function that puts a value into a tuple. -/
def wrapping : Routine := ⟨"wrap", [⟨"y", .standard, none, none⟩], none, .allTuple, none⟩

/-- An operator that adds numbers, adapted to tuples: the sum of a tuple goes in, and a tuple of one number
comes out. -/
def adding : World := { World.initial with
  heap := #[.routine wrapping,
    .routine ⟨"plus", ["s", "x"].map fun n => ⟨n, .standard, none, none⟩, none, .add, none⟩,
    .object LibraryClass.adaptedBinaryOperator.className none
      [("input_adapter", .atom (.builtin .sum)), ("output_adapter", .ref 0),
        ("output_fold", .none), ("binary_operator", .ref 1)]] }

theorem result_sum (n : Nat) (k : Int) :
    (Adapted.adapt (.ofDepth (n + 1)) (.atom (.builtin .sum)) (.tuple [.int k])).result adding =
      (.ok (.int k), adding) := by
  have h : (Adapted.adapt (.ofDepth (n + 1)) (.atom (.builtin .sum)) (.tuple [.int k])).result adding =
      (.ok (.int (0 + k)), adding) := rfl
  rwa [Int.zero_add] at h

theorem transports_adding (n : Nat) : numbers.Transports (n + 1) adding (.ref 2) (.ref 1)
    (.atom (.builtin .sum)) (.ref 0) .none fun k l => some (k + l) where
  object := by
    rintro u rfl
    have hmethods := methods_around (w := adding) ⟨rfl, rfl⟩
    simp only [answeringAround, List.forall_mem_cons] at hmethods
    obtain ⟨-, -, -, -, -, -, -, -, -, -, hcall, happly, hinput, houtput, -⟩ := hmethods
    exact ⟨rfl, _, _, ⟨2, none, rfl, rfl⟩, rfl, rfl, rfl, rfl, rfl, rfl, rfl, hcall, happly, hinput,
      houtput⟩
  call := by
    rintro u k l x y rfl rfl rfl
    exact ⟨.int (k + l), adding, rfl, rfl, rfl⟩
  output := by
    rintro u k z t rfl rfl -
    exact ⟨.tuple [.int k], adding, rfl, rfl, trivial, _, adding, result_sum n k, rfl, rfl⟩

/-- `(2,)` and `(3, 5)` folded into `(1,)`. -/
theorem adding_transported : ∃ u,
    (ByKey.fold .standard (.ref 2) (.tuple [.int 1])
      [.tuple [.int 2], .tuple [.int 3, .int 5]]).result adding = (.ok (.tuple [.int 11]), u) := by
  have hinputs : List.Forall₂ (numbers.Adapts 997 adding (.atom (.builtin .sum))) [some 2, some 8]
      [.tuple [.int 2], .tuple [.int 3, .int 5]] :=
    .cons (fun u _ => ⟨_, u, rfl, rfl, rfl⟩) (.cons (fun u _ => ⟨_, u, rfl, rfl, rfl⟩) .nil)
  have hstart : numbers.Image 997 (.atom (.builtin .sum)) adding (.tuple [.int 1]) (some 1) :=
    ⟨_, adding, result_sum 996 1, rfl, rfl⟩
  obtain ⟨⟨y, u, hfold, -, hout⟩, -⟩ := fold_transported (transports_adding 996)
    (List.cons_ne_nil _ _) trivial hstart hinputs
  obtain ⟨z, v, rfl, rfl, hrelease⟩ := hout rfl
  obtain rfl : .tuple [.int 11] = y := Except.ok.inj (congrArg Prod.fst hrelease)
  exact ⟨u, hfold⟩

end Passage

namespace Adapted

open Passage

/-- Three lists, and an operator that takes items into a list, adapted to tuples: the greatest list of a
tuple goes in, and a tuple of one list comes out. -/
def sharing (items : List Value) : World := { World.initial with
  heap := #[.list items, .list [.int 9], .list [.int 5], .routine wrapping,
    .object LibraryClass.collectionConcat.className none [],
    .object LibraryClass.adaptedBinaryOperator.className none
      [("input_adapter", .atom (.builtin .max)), ("output_adapter", .ref 3),
        ("output_fold", .none), ("binary_operator", .ref 4)]] }

theorem adapts_sharing (items : List Value) : (sharing items).AdaptsOperator (.ref 5) (.ref 4)
    (.atom (.builtin .max)) (.ref 3) .none := by
  have hmethods := methods_around (w := sharing items) ⟨rfl, rfl⟩
  simp only [answeringAround, List.forall_mem_cons] at hmethods
  obtain ⟨-, -, -, -, -, -, -, -, -, -, hcall, happly, hinput, houtput, -⟩ := hmethods
  exact ⟨rfl, _, _, ⟨5, none, rfl, rfl⟩, rfl, rfl, rfl, rfl, rfl, rfl, rfl, hcall, happly, hinput,
    houtput⟩

/-- The first list takes the items of another one in. -/
theorem result_take_in {items more : List Value} {l : Ref}
    (hl : (sharing items).heap[l]? = some (.list more)) (n : Nat) :
    ((Dispatch.ofDepth (n + 3)).call (.ref 4) [.ref 0, .ref l]).result (sharing items) =
      (.ok (.ref 0), sharing (items ++ more)) := by
  have hmethods := methods_of_sameClasses (w := sharing items) ⟨rfl, rfl⟩
  have hcall := hmethods (.collectionConcat, "__call__", .binaryOperator) (by simp [answering])
  have happly := hmethods (.collectionConcat, "apply", .binaryOperator) (by simp [answering])
  have hjoin := hmethods (.collectionConcat, "_apply", .collectionConcat) (by simp [answering])
  have hdelegates : (sharing items).Delegates (.ref 4) [("__call__", .binaryOperator),
      ("apply", .binaryOperator), ("_apply", .collectionConcat)] := by
    refine ⟨4, _, none, _, rfl, rfl, ?_⟩
    simp only [List.forall_mem_cons]
    exact ⟨⟨rfl, hcall⟩, ⟨rfl, happly⟩, ⟨rfl, hjoin⟩, by simp⟩
  have hheap : (sharing items).heap.setIfInBounds 0 (.list (items ++ more)) =
      (sharing (items ++ more)).heap := rfl
  rw [result_join hdelegates rfl hl n, hheap]
  simp only [sharing]

/-- The greater one of the first list and the third one. -/
theorem result_greatest {items : List Value} {b : Bool} (n : Nat)
    (h : Datum.rel (sharing items).isSubclass .gt ((sharing items).read (.ref 0))
      (.list [.atom (.int 5)]) = .ok b) :
    (adapt (.ofDepth (n + 1)) (.atom (.builtin .max)) (.tuple [.ref 2, .ref 0])).result
      (sharing items) = (.ok (if b then .ref 0 else .ref 2), sharing items) := by
  have hholds : (Run.holds .gt (.ref 0) (.ref 2)).result (sharing items) =
      (.ok b, sharing items) := by
    have hread : (sharing items).read (.ref 2) = .list [.atom (.int 5)] := rfl
    rw [Run.holds, result_bind_ok _ (result_get _), hread, h, result_lift_ok]
  have hitems : ((Dispatch.ofDepth n).items (.tuple [.ref 2, .ref 0])).result (sharing items) =
      (.ok [.ref 2, .ref 0], sharing items) := rfl
  refine (result_bind_ok (Builtin.extreme .gt) hitems).trans ?_
  rw [Builtin.extreme, List.foldlM_cons, bind_assoc, result_bind_ok _ hholds]
  cases b <;> rfl

/-- The greatest list of the last input is another one once the list of the state has taken items in.  So
the fold does not end in what the fold inside, over the inputs as they are adapted before it, is adapted to,
although adapting an output always leads back to it. -/
theorem not_fold_transported :
    (sharing []).AdaptsOperator (.ref 5) (.ref 4) (.atom (.builtin .max)) (.ref 3) .none ∧
    (∀ (u : World) (n : Nat) (y : Value), u.heap[3]? = some (.routine wrapping) →
      (do
        let z ← release (.ofDepth (n + 1)) (.ref 3) .none y .none
        adapt (.ofDepth (n + 1)) (.atom (.builtin .max)) z : Run Value).result u = (.ok y, u)) ∧
    (∃ u, (ByKey.fold .standard (.ref 5) (.tuple [.ref 0])
        [.tuple [.ref 1], .tuple [.ref 2, .ref 0]]).result (sharing []) = (.ok (.tuple [.ref 0]), u) ∧
      u.read (.tuple [.ref 0]) = .tuple [.list [.atom (.int 9), .atom (.int 9)]]) ∧
    ∃ u, (do
        let z ← inside (.ofDepth 998) (.ofDepth 997) (.ref 4) (.atom (.builtin .max))
          (.tuple [.ref 0]) [.tuple [.ref 1], .tuple [.ref 2, .ref 0]]
        release (.ofDepth 997) (.ref 3) .none z (.tuple [.ref 0]) : Run Value).result (sharing []) =
          (.ok (.tuple [.ref 0]), u) ∧
      u.read (.tuple [.ref 0]) = .tuple [.list [.atom (.int 9), .atom (.int 5)]] := by
  have hwrap : ∀ (u : World) (n : Nat) (y t : Value), u.heap[3]? = some (.routine wrapping) →
      (release (.ofDepth (n + 1)) (.ref 3) .none y t).result u = (.ok (.tuple [y]), u) := by
    intro u n y t hcell
    change (callValue (.ofDepth n) (.ref 3) [y]).result u = _
    simp only [callValue, result_bind, result_cell?, hcell]
    rfl
  have hone : ∀ (u : World) (n : Nat) (y : Value),
      (adapt (.ofDepth (n + 1)) (.atom (.builtin .max)) (.tuple [y])).result u = (.ok y, u) :=
    fun _ _ _ => rfl
  have hlate : Datum.rel (sharing [.int 9]).isSubclass .gt ((sharing [.int 9]).read (.ref 0))
      (.list [.atom (.int 5)]) = .ok true := by
    have hread : (sharing [.int 9]).read (.ref 0) = .list [.atom (.int 9)] := rfl
    rw [hread, Datum.rel, Datum.relAll, if_neg (by decide), Datum.rel]
    rfl
  have hearly : Datum.rel (sharing []).isSubclass .gt ((sharing []).read (.ref 0))
      (.list [.atom (.int 5)]) = .ok false := by
    have hread : (sharing []).read (.ref 0) = .list [] := rfl
    rw [hread, Datum.rel, Datum.relAll]
    rfl
  refine ⟨adapts_sharing [], fun u n y hcell => ?_, ⟨sharing [.int 9, .int 9], ?_, rfl⟩,
    sharing [.int 9, .int 5], ?_, rfl⟩
  · rw [result_bind_ok _ (hwrap u n y .none hcell)]
    exact hone u n y
  · have hfirst := (adapts_sharing []).result_step (n := 997) (adapts_sharing [.int 9])
      (hone _ 996 (.ref 0)) (hone _ 996 (.ref 1)) (result_take_in rfl 995)
    have hsecond := (adapts_sharing [.int 9]).result_step (n := 997) (adapts_sharing [.int 9, .int 9])
      (hone _ 996 (.ref 0)) (result_greatest 996 hlate) (result_take_in rfl 995)
    rw [hwrap _ 996 _ _ rfl] at hfirst hsecond
    exact (result_bind_ok _ hfirst).trans ((result_bind_ok _ hsecond).trans rfl)
  · have hinputs : ([.tuple [.ref 1], .tuple [.ref 2, .ref 0]].mapM
        (adapt (.ofDepth 997) (.atom (.builtin .max)))).result (sharing []) =
          (.ok [.ref 1, .ref 2], sharing []) := by
      rw [List.mapM_cons, result_bind_ok _ (hone _ 996 (.ref 1)), List.mapM_cons, bind_assoc,
        result_bind_ok _ (result_greatest 996 hearly)]
      rfl
    have hfold : (ByKey.fold (.ofDepth 998) (.ref 4) (.ref 0) [.ref 1, .ref 2]).result (sharing []) =
        (.ok (.ref 0), sharing [.int 9, .int 5]) :=
      (result_bind_ok _ (result_take_in rfl 995)).trans
        ((result_bind_ok _ (result_take_in rfl 995)).trans rfl)
    have hinside : (inside (.ofDepth 998) (.ofDepth 997) (.ref 4) (.atom (.builtin .max))
        (.tuple [.ref 0]) [.tuple [.ref 1], .tuple [.ref 2, .ref 0]]).result (sharing []) =
          (.ok (.ref 0), sharing [.int 9, .int 5]) := by
      rw [inside, result_bind_ok _ (hone _ 996 (.ref 0)), result_bind_ok _ hinputs, hfold]
    rw [result_bind_ok _ hinside]
    exact hwrap _ 996 _ _ rfl

end Adapted

end FunctionObjects
