import FunctionObjects.Proofs.Keyed.Combining
import FunctionObjects.Proofs.Pipeline.Building
import FunctionObjects.Proofs.State.Adding
import FunctionObjects.Proofs.State.Initial
/-!
# Inputs of an aggregation stay as they are

A dictionary of the result is a new one, and so is a dictionary in it that an operator inside combines
into; nothing else is written to.  New dictionaries are told by how many levels of operators update
what is in them: one of level zero holds any values, which no operator touches.
-/

namespace FunctionObjects

open Run World

variable {α β : Type} {w u v : World} {m f : Value} {n : Nat}

/-- The new dictionaries by their cells, each with its level. -/
abbrev Levels := Ref → Option Nat

namespace Levels

variable {σ τ ρ : Levels}

/-- Dictionaries stay new ones of their level. -/
def Extends (σ τ : Levels) : Prop := ∀ r n, σ r = some n → τ r = some n

theorem Extends.refl (σ : Levels) : σ.Extends σ := fun _ _ h => h

theorem Extends.trans (h : σ.Extends τ) (h' : τ.Extends ρ) : σ.Extends ρ :=
  fun r n hr => h' r n (h r n hr)

/-- A value that an operator of some level can combine into: at level zero any, and above nothing or a
new dictionary of the level below. -/
def Fits (σ : Levels) : Nat → Value → Prop
  | 0, _ => True
  | n + 1, x => x = .none ∨ ∃ r, x = .ref r ∧ σ r = some n

theorem fits_none (σ : Levels) (n : Nat) : σ.Fits n .none := by
  cases n with
  | zero => trivial
  | succ n => exact .inl rfl

theorem Fits.later {x : Value} (h : σ.Fits n x) (hτ : σ.Extends τ) : τ.Fits n x := by
  cases n with
  | zero => trivial
  | succ n => exact h.imp_right fun ⟨r, hx, hr⟩ => ⟨r, hx, hτ r n hr⟩

/-- One more new dictionary. -/
def withNew (σ : Levels) (r : Ref) (n : Nat) : Levels := fun s => if s = r then some n else σ s

theorem withNew_self (σ : Levels) (r : Ref) (n : Nat) : σ.withNew r n r = some n := if_pos rfl

end Levels

open Levels

variable {σ τ : Levels}

/-- A state with new dictionaries: everything is as it was in the first state, and what is in the new
ones fits their levels. -/
structure World.Owns (w : World) (σ : Levels) (u : World) : Prop where
  grows : w.Grows u
  new : ∀ r n, σ r = some n → w.heap.size ≤ r
  dict : ∀ r n, σ r = some n → ∃ es, u.heap[r]? = some (.dict es) ∧ ∀ e ∈ es, σ.Fits n e.2

namespace World.Owns

theorem start (w : World) : w.Owns (fun _ => none) w := ⟨.refl w, by simp, by simp⟩

theorem later (h : w.Owns σ u) (hg : u.Grows v) : w.Owns σ v where
  grows := h.grows.trans hg
  new := h.new
  dict r n hr := by
    obtain ⟨es, hes, hfits⟩ := h.dict r n hr
    exact ⟨es, hg.heap hes, hfits⟩

/-- A dictionary in the next cell. -/
theorem alloc (h : w.Owns σ u) (n : Nat) : σ.Extends (σ.withNew u.heap.size n) ∧
    w.Owns (σ.withNew u.heap.size n) { u with heap := u.heap.push (.dict []) } := by
  have hne : ∀ r k, σ r = some k → r ≠ u.heap.size := by
    intro r k hr
    obtain ⟨es, hes, -⟩ := h.dict r k hr
    exact Nat.ne_of_lt (lt_size_of_getElem? hes)
  have hext : σ.Extends (σ.withNew u.heap.size n) := fun r k hr => (if_neg (hne r k hr)).trans hr
  have hpush := Grows.push u (.dict [])
  refine ⟨hext, h.grows.trans hpush, ?_, ?_⟩
  · intro r k hr
    by_cases hrs : r = u.heap.size
    · exact hrs ▸ h.grows.size_le
    · exact h.new r k (by simpa [withNew, hrs] using hr)
  · intro r k hr
    by_cases hrs : r = u.heap.size
    · exact ⟨[], by simp [hrs], by simp⟩
    · obtain ⟨es, hes, hfits⟩ := h.dict r k (by simpa [withNew, hrs] using hr)
      exact ⟨es, hpush.heap hes, fun e he => (hfits e he).later hext⟩

/-- Other entries for a new dictionary. -/
theorem write (h : w.Owns σ u) {r : Ref} (hr : σ r = some n) {es : List (Value × Value)}
    (hes : ∀ e ∈ es, σ.Fits n e.2) :
    w.Owns σ { u with heap := u.heap.setIfInBounds r (.dict es) } := by
  obtain ⟨old, hold, -⟩ := h.dict r n hr
  have hset : Around r u { u with heap := u.heap.setIfInBounds r (.dict es) } := .set hold rfl
  refine ⟨hset.grows_of_fresh h.grows (h.new r n hr), h.new, ?_⟩
  intro s k hs
  by_cases hsr : s = r
  · subst hsr
    obtain rfl := Option.some.inj (hs.symm.trans hr)
    exact ⟨es, by simp [lt_size_of_getElem? hold], hes⟩
  · obtain ⟨fs, hfs, hfits⟩ := h.dict s k hs
    exact ⟨fs, hset.cell hsr hfs, hfits⟩

end World.Owns

/-- From a state with some new dictionaries an operation leads to one with these and maybe more, whether
it succeeds or fails; what it gives is as promised. -/
def Spares (w : World) (σ : Levels) (m : Run α) (P : Levels → α → Prop) : Prop :=
  ∀ u, w.Owns σ u → ∃ τ, σ.Extends τ ∧ w.Owns τ (m.result u).2 ∧
    ∀ a, (m.result u).1 = .ok a → P τ a

namespace Spares

variable {o : Run α} {g : α → Run β} {P : Levels → α → Prop} {Q : Levels → β → Prop}

theorem pure {a : α} (h : P σ a) : Spares w σ (Pure.pure a) P := by
  intro u hu
  refine ⟨σ, .refl σ, hu, fun b hb => ?_⟩
  obtain rfl := Except.ok.inj hb
  exact h

theorem throw (e : Fault) : Spares w σ (throw e : Run α) P := by
  intro u hu
  exact ⟨σ, .refl σ, hu, fun a ha => by cases ha⟩

theorem bind (ho : Spares w σ o P) (hg : ∀ τ a, σ.Extends τ → P τ a → Spares w τ (g a) Q) :
    Spares w σ (o >>= g) Q := by
  intro u hu
  obtain ⟨τ, hτ, hv, hP⟩ := ho u hu
  rw [result_bind]
  generalize o.result u = out at hv hP ⊢
  obtain ⟨r, v⟩ := out
  cases r with
  | error e => exact ⟨τ, hτ, hv, fun b hb => by cases hb⟩
  | ok a =>
    obtain ⟨ρ, hρ, hv', hQ⟩ := hg τ a hτ (hP a rfl) v hv
    exact ⟨ρ, hτ.trans hρ, hv', hQ⟩

/-- What only adds cells leaves the new dictionaries as they are. -/
theorem of_adds (h : Adds w o) (hP : ∀ u, w.Owns σ u → ∀ a, (o.result u).1 = .ok a → P σ a) :
    Spares w σ o P :=
  fun u hu => ⟨σ, .refl σ, hu.later (h u hu.grows), hP u hu⟩

end Spares

namespace Run

@[grind ←] theorem adds_key (x : Value) : Adds w (key x) := by unfold key; grind

theorem adds_lookup? (es : List (Value × Value)) (x : Value) : Adds w (lookup? es x) := by
  unfold lookup?; grind

theorem adds_insert (es : List (Value × Value)) (x y : Value) : Adds w (insert es x y) := by
  unfold insert; grind

/-- What is found under a key is the value of an entry. -/
theorem mem_of_lookup? {es : List (Value × Value)} {x y : Value}
    (h : ((lookup? es x).result u).1 = .ok (some y)) : ∃ e ∈ es, e.2 = y := by
  rw [lookup?, result_bind_ok _ (result_get u), result_bind] at h
  split at h
  · simp only [result_pure, Except.ok.injEq] at h
    obtain ⟨e, he, hy⟩ := Option.map_eq_some_iff.mp h
    exact ⟨e, List.mem_of_find?_eq_some he, hy⟩
  · cases h

/-- What is put in is all that an entry can have for a new value. -/
theorem mem_of_insert {es fs : List (Value × Value)} {x y : Value}
    (h : ((insert es x y).result u).1 = .ok fs) : ∀ f ∈ fs, f.2 = y ∨ ∃ e ∈ es, e.2 = f.2 := by
  rw [insert, result_bind_ok _ (result_get u), result_bind] at h
  split at h
  · split at h
    · simp only [result_pure, Except.ok.injEq] at h
      subst h
      intro f hf
      obtain ⟨e, he, rfl⟩ := List.mem_map.mp hf
      split
      · exact .inl rfl
      · exact .inr ⟨e, he, rfl⟩
    · simp only [result_pure, Except.ok.injEq] at h
      subst h
      intro f hf
      rcases List.mem_append.mp hf with hf | hf
      · exact .inr ⟨f, hf, rfl⟩
      · exact .inl (by rw [List.mem_singleton.mp hf])
  · cases h

end Run

/-- An operator of a level: called with a state that fits the level it gives one again, and it writes to
new dictionaries at most. -/
def World.Sparing (w : World) (n : Nat) (f : Value) : Prop :=
  ∀ depth σ s x, σ.Fits n s →
    Spares w σ ((Dispatch.ofDepth depth).call f [s, x]) fun τ y => τ.Fits n y

/-- An operator that only adds cells is of level zero. -/
theorem World.sparing_of_adds (h : ∀ depth s x, Adds w ((Dispatch.ofDepth depth).call f [s, x])) :
    w.Sparing 0 f :=
  fun depth _ s x _ => .of_adds (h depth s x) fun _ _ _ _ => trivial

namespace ByKey

variable {depth : Nat} {r : Ref}

/-- What a new dictionary has under a key fits its level. -/
theorem spares_current (hr : σ r = some n) (x : Value) :
    Spares w σ (current (.ofDepth depth) (.ref r) x) fun τ y => τ.Fits n y := by
  cases depth with
  | zero => exact .throw _
  | succ depth =>
    intro u hu
    obtain ⟨es, hes, hfits⟩ := hu.dict r n hr
    rw [result_current hes]
    refine Spares.bind (.of_adds (P := fun τ o => ∀ y, o = some y → τ.Fits n y)
      (adds_lookup? es x) fun u' _ o ho y hy => ?_) (fun τ o _ ho => .pure ?_) u hu
    · subst hy
      obtain ⟨e, he, rfl⟩ := mem_of_lookup? ho
      exact hfits e he
    · cases o with
      | none => exact fits_none τ n
      | some y => exact ho y rfl

theorem spares_store (hr : σ r = some n) (x : Value) {y : Value} (hy : σ.Fits n y) :
    Spares w σ (store (.ref r) x y) fun _ _ => True := by
  intro u hu
  obtain ⟨es, hes, hfits⟩ := hu.dict r n hr
  have hstore : (store (.ref r) x y).result u =
      (do Run.write r (.dict (← Run.insert es x y)) : Run Unit).result u := by
    rw [store, result_bind_ok _ (result_cell? r u), hes]
  rw [hstore]
  refine Spares.bind (.of_adds (P := fun _ fs => ∀ f ∈ fs, σ.Fits n f.2) (adds_insert es x y)
    fun u' _ fs hfs f hf => ?_) (fun τ fs hτ hfs u' hu' => ?_) u hu
  · obtain hfy | ⟨e, he, hef⟩ := mem_of_insert hfs f hf
    · exact hfy ▸ hy
    · exact hef ▸ hfits e he
  · exact ⟨τ, .refl τ, hu'.write (hτ r n hr) fun f hf => (hfs f hf).later hτ, fun _ _ => trivial⟩

/-- Combining an entry writes to the dictionary that is combined into, and to what the operator inside
writes to. -/
theorem spares_step (hf : w.Sparing n f) (hr : σ r = some n) (e : Value × Value) :
    Spares w σ (step (.ofDepth depth) f (.ref r) e) fun _ _ => True := by
  rw [step]
  refine (spares_current hr e.1).bind fun τ x hτ hx => ?_
  refine (hf depth τ x e.2 hx).bind fun ρ y hρ hy => ?_
  exact spares_store (hρ r n (hτ r n hr)) e.1 hy

theorem spares_forM (hf : w.Sparing n f) (hr : σ r = some n) (es : List (Value × Value)) :
    Spares w σ (es.forM (step (.ofDepth depth) f (.ref r))) fun _ _ => True := by
  induction es generalizing σ with
  | nil => exact .pure trivial
  | cons e es ih =>
    change Spares w σ (step _ f _ e >>= fun _ => es.forM (step _ f _)) _
    exact (spares_step hf hr e).bind fun τ _ hτ _ => ih (hτ r n hr)

theorem adds_entries (x : Value) : Adds w (entries x) := by unfold entries; grind

/-- The key-by-key combination by an operator of a level is an operator of the next one. -/
theorem sparing_map (h : w.CombinesBy m f) (hf : w.Sparing n f) : w.Sparing (n + 1) m := by
  intro depth σ s x hs
  have hcombine : ∀ (k : Nat) (τ : Levels) (r : Ref), τ r = some n →
      Spares w τ ((Dispatch.ofDepth k).method m "_apply" [.ref r, x]) fun τ y => τ.Fits (n + 1) y := by
    intro k τ r hr
    cases k with
    | zero => exact .throw _
    | succ k =>
      intro u hu
      rw [result_combine (h.grows hu.grows)]
      refine Spares.bind (.of_adds (P := fun _ _ => True) (adds_entries x) fun _ _ _ _ => trivial)
        (fun ρ es hρ _ => ?_) u hu
      refine (spares_forM hf (hρ r n hr) es).bind fun ρ' _ hρ' _ => .pure ?_
      exact .inr ⟨r, rfl, hρ' r n (hρ r n hr)⟩
  -- a call reaches the combination only from two levels above it
  obtain _ | _ | depth := depth
  · exact .throw _
  · intro u hu
    obtain ⟨l, c, o, as, rfl, hcell, -, -, -, hcall, -⟩ := (h.grows hu.grows).object
    rw [Dispatch.result_call_object 0 hcell hcall]
    exact ⟨σ, .refl σ, hu, fun a ha => by cases ha⟩
  · intro u hu
    rw [result_call (h.grows hu.grows), apply]
    by_cases hx : x.isNone = true
    · rw [if_pos hx]
      exact Spares.pure (P := fun τ y => τ.Fits (n + 1) y) hs u hu
    · rw [if_neg hx]
      rcases hs with rfl | ⟨r, rfl, hr⟩
      · obtain ⟨hext, hnew⟩ := hu.alloc n
        obtain ⟨τ, hτ, hv, hy⟩ := hcombine depth _ u.heap.size (σ.withNew_self _ n) _ hnew
        exact ⟨τ, hext.trans hτ, hv, hy⟩
      · exact hcombine depth σ r hr u hu

theorem spares_fold (hm : w.Sparing n m) (depth : Nat) {s : Value} (hs : σ.Fits n s)
    (xs : List Value) :
    Spares w σ (fold (.ofDepth depth) m s xs) fun τ y => τ.Fits n y := by
  induction xs generalizing σ s with
  | nil => exact .pure hs
  | cons x xs ih =>
    rw [fold, List.foldlM_cons]
    exact (hm depth σ s x hs).bind fun τ y _ hy => ih hy

end ByKey

/-- The library's operators that change nothing that is there before, and their levels: aggregations of
numbers, joined texts, what is adapted by functions that only add cells, and all of these key by key. -/
inductive World.Operates (w : World) : Nat → Value → Prop
  | numbers {f : Value} {k : LibraryClass}
    (hk : k ∈ [LibraryClass.sum, .product, .greatest, .least])
    (h : w.Delegates f [("__call__", .binaryOperator), ("apply", .binaryOperator),
      ("_apply", .numericAggregateFunction), ("_aggregate", k)]) : Operates w 0 f
  | texts {f : Value}
    (h : w.Delegates f [("__call__", .binaryOperator), ("apply", .binaryOperator),
      ("_apply", .stringConcat)]) : Operates w 0 f
  | adapted {f : Value}
    (h : w.Delegates f [("__call__", .binaryOperator), ("apply", .adaptedBinaryOperator),
      ("adapt_input", .inputAdapted), ("adapt_output", .outputAdapted)])
    (hparts : ∀ name g, (w.attributes f).lookup name = some g →
      ∀ depth args, Adds w ((Dispatch.ofDepth depth).call g args)) : Operates w 0 f
  | byKey {m f : Value} {n : Nat} (h : w.CombinesBy m f) (hf : Operates w n f) :
    Operates w (n + 1) m

namespace World.Operates

/-- An operator hands two values to its method only if both are there. -/
theorem adds_operator {methods : List (String × LibraryClass)} {k : LibraryClass}
    (h : w.Delegates f methods) (hcall : ("__call__", .binaryOperator) ∈ methods)
    (happly : ("apply", .binaryOperator) ∈ methods) (hk : ("_apply", k) ∈ methods)
    (hadds : ∀ n s x, Adds w (Method.ofLibrary (.ofDepth n) k "_apply" f [s, x]))
    (n : Nat) (s x : Value) : Adds w ((Dispatch.ofDepth n).call f [s, x]) := by
  refine h.adds_call hcall (fun n => ?_) n
  change Adds w ((Dispatch.ofDepth n).method f "apply" [s, x])
  refine h.adds_method happly (fun n => ?_) n
  change Adds w (applyOperator (.ofDepth n) f s x)
  rw [applyOperator]
  split
  · exact .pure x
  · split
    · exact .pure s
    · exact h.adds_method hk (fun n => hadds n s x) n

theorem adds_aggregate {k : LibraryClass} (hk : k ∈ [LibraryClass.sum, .product, .greatest, .least])
    (d : Dispatch) (s x : Value) : Adds w (Method.ofLibrary d k "_aggregate" f [s, x]) := by
  simp only [List.mem_cons, List.not_mem_nil, or_false] at hk
  rcases hk with rfl | rfl | rfl | rfl
  · exact adds_add s x
  · exact adds_mul s x
  · change Adds w (Aggregation.greatest s x)
    unfold Aggregation.greatest
    grind
  · change Adds w (Aggregation.least s x)
    unfold Aggregation.least
    grind

/-- An adapted operator does no more than what it is made of. -/
theorem adds_adapted
    (h : w.Delegates f [("__call__", .binaryOperator), ("apply", .adaptedBinaryOperator),
      ("adapt_input", .inputAdapted), ("adapt_output", .outputAdapted)])
    (hparts : ∀ name g, (w.attributes f).lookup name = some g →
      ∀ depth args, Adds w ((Dispatch.ofDepth depth).call g args)) (n : Nat) (s x : Value) :
    Adds w ((Dispatch.ofDepth n).method f "apply" [s, x]) := by
  have hinput : ∀ n y, Adds w ((Dispatch.ofDepth n).method f "adapt_input" [y]) := by
    intro n y
    refine h.adds_method (k := .inputAdapted) (by simp) (fun n => ?_) n
    change Adds w (Adapted.adaptInput (.ofDepth n) f y)
    refine Adds.bind_of (adds_optional f _) fun u o hu ho => ?_
    cases o with
    | none => exact .pure y
    | some g => exact hparts _ g (h.lookup_of_optional hu ho) n [y]
  have houtput : ∀ n y z, Adds w ((Dispatch.ofDepth n).method f "adapt_output" [y, z]) := by
    intro n y z
    refine h.adds_method (k := .outputAdapted) (by simp) (fun n => ?_) n
    change Adds w (Adapted.adaptOutput (.ofDepth n) f y z)
    have hkind : Adds w (Adapted.outputKind f) := by
      unfold Adapted.outputKind
      grind
    refine hkind.bind fun kind => ?_
    cases kind with
    | fold => exact Adds.bind_of (adds_field f _) fun u g hu hg =>
        hparts _ g (h.lookup_of_field hu hg) n [z, y]
    | map => exact Adds.bind_of (adds_field f _) fun u g hu hg =>
        hparts _ g (h.lookup_of_field hu hg) n [y]
    | identity => exact .pure y
  refine h.adds_method (k := .adaptedBinaryOperator) (by simp) (fun n => ?_) n
  change Adds w (Adapted.applyOperator (.ofDepth n) f s x)
  have hinner : Adds w (Adapted.inner f "binary_operator" .operator) := by
    unfold Adapted.inner
    grind
  refine hinner.bind_of fun u g hu hg => ?_
  have hlookup : (w.attributes f).lookup "binary_operator" = some g := by
    rw [Adapted.inner, result_bind] at hg
    split at hg
    · rename_i o v ho
      cases o with
      | none => simp [result_bind, typeName] at hg
      | some g' =>
        obtain rfl := Except.ok.inj hg
        exact h.lookup_of_optional hu (congrArg Prod.fst ho)
    · cases hg
  refine (hinput n s).bind fun s' => (hinput n x).bind fun x' => ?_
  exact (hparts _ g hlookup n [s', x']).bind fun y => houtput n y s

theorem sparing (h : w.Operates n f) : w.Sparing n f := by
  induction h with
  | @numbers f k hk h =>
    refine sparing_of_adds (adds_operator h (by simp) (by simp) (k := .numericAggregateFunction)
      (by simp) fun n s x => ?_)
    change Adds w (Aggregation.apply (.ofDepth n) f s x)
    have hnumber : ∀ y, Adds w (Aggregation.requireNumber f y) := by
      intro y
      unfold Aggregation.requireNumber
      grind
    rw [Aggregation.apply]
    refine (hnumber s).bind fun _ => (hnumber x).bind fun _ => ?_
    exact h.adds_method (k := k) (by simp) (fun n => adds_aggregate hk (.ofDepth n) s x) n
  | texts h =>
    refine sparing_of_adds (adds_operator h (by simp) (by simp) (k := .stringConcat) (by simp)
      fun n s x => ?_)
    change Adds w (Concatenation.joinTexts _ s x)
    unfold Concatenation.joinTexts
    grind
  | adapted h hparts =>
    refine sparing_of_adds fun n s x => ?_
    refine h.adds_call (k := .binaryOperator) (by simp) (fun n => ?_) n
    exact adds_adapted h hparts n s x
  | byKey h _ ih => exact ByKey.sparing_map h ih

end World.Operates

namespace ByKey

/-- Folding by a shipped operator that does not take items in leaves everything as it was before, also
if it fails: every value holds the same data afterwards, that of the inputs among them. -/
theorem fold_keeps (h : w.CombinesBy m f) (hf : w.Operates n f) (depth : Nat) (xs : List Value) :
    ∀ t x, w.Holds t x → ((fold (.ofDepth depth) m .none xs).result w).2.read x = t := by
  have hm := sparing_map h hf.sparing
  obtain ⟨τ, -, hv, -⟩ := spares_fold hm depth (fits_none _ _) xs w (.start w)
  exact fun t x hx => read_of_holds (hv.grows.holds hx)

end ByKey

/-- Sums of numbers in dictionaries in dictionaries, and two of these. -/
def nesting : World := { World.initial with
  heap := #[.object LibraryClass.sum.className none [],
    .object LibraryClass.binaryOperatorMap.className none [("binary_operator", .ref 0)],
    .object LibraryClass.binaryOperatorMap.className none [("binary_operator", .ref 1)],
    .dict [(.str "x", .int 1)], .dict [(.str "a", .ref 3)],
    .dict [(.str "x", .int 2)], .dict [(.str "a", .ref 5)]] }

theorem operates_nesting : nesting.CombinesBy (.ref 2) (.ref 1) ∧ nesting.Operates 1 (.ref 1) := by
  have hmethods := methods_of_sameClasses (w := nesting) ⟨rfl, rfl⟩
  simp only [answering, List.forall_mem_cons] at hmethods
  obtain ⟨hcall, happly, hcombine, hsumCall, hsumApply, hsumCombine, hsumAggregate, -⟩ := hmethods
  have hsum : nesting.Operates 0 (.ref 0) := by
    refine .numbers (k := .sum) (by simp) ⟨0, _, none, _, rfl, rfl, ?_⟩
    simp only [List.forall_mem_cons]
    exact ⟨⟨rfl, hsumCall⟩, ⟨rfl, hsumApply⟩, ⟨rfl, hsumCombine⟩, ⟨rfl, hsumAggregate⟩, by simp⟩
  exact ⟨⟨rfl, 2, _, none, _, rfl, rfl, rfl, rfl, rfl, hcall, happly, hcombine⟩,
    .byKey ⟨rfl, 1, _, none, _, rfl, rfl, rfl, rfl, rfl, hcall, happly, hcombine⟩ hsum⟩

/-- `{"a": {"x": 1}}` is the same after `{"a": {"x": 2}}` was folded in. -/
theorem nesting_fold_keeps :
    ((ByKey.fold .standard (.ref 2) .none [.ref 4, .ref 6]).result nesting).2.read (.ref 4) =
      .dict [(.atom (.str "a"), .dict [(.atom (.str "x"), .atom (.int 1))])] :=
  ByKey.fold_keeps operates_nesting.1 operates_nesting.2 Dispatch.depthLimit [.ref 4, .ref 6] _ _
    ⟨4, _, rfl, rfl, rfl, ⟨3, _, rfl, rfl, rfl, rfl, trivial⟩, trivial⟩

/-- An operator that takes items in, the same key by key, a list in a dictionary, and another one. -/
def joining (items : List Value) : World := { World.initial with
  heap := #[.object LibraryClass.collectionConcat.className none [],
    .object LibraryClass.binaryOperatorMap.className none [("binary_operator", .ref 0)],
    .list items, .dict [(.str "a", .ref 2)], .list [.int 2], .dict [(.str "a", .ref 4)]] }

/-- The same with a dictionary that the others are combined into. -/
def joined (items : List Value) (es : List (Value × Value)) : World :=
  { joining items with heap := (joining items).heap.push (.dict es) }

theorem set_joined (items : List Value) (es fs : List (Value × Value)) :
    ({ joined items es with heap := (joined items es).heap.setIfInBounds 6 (.dict fs) } : World) =
      joined items fs := by
  have hheap : (joined items es).heap.setIfInBounds 6 (.dict fs) = (joined items fs).heap := rfl
  rw [hheap]
  simp only [joined]

theorem set_joining (items more : List Value) (es : List (Value × Value)) :
    ({ joined items es with heap := (joined items es).heap.setIfInBounds 2 (.list more) } : World) =
      joined more es := by
  have hheap : (joined items es).heap.setIfInBounds 2 (.list more) = (joined more es).heap := rfl
  rw [hheap]
  simp only [joined, joining]

theorem operates_joining (items : List Value) : (joining items).CombinesBy (.ref 1) (.ref 0) ∧
    (joining items).Delegates (.ref 0) [("__call__", .binaryOperator), ("apply", .binaryOperator),
      ("_apply", .collectionConcat)] := by
  have hmethods := methods_of_sameClasses (w := joining items) ⟨rfl, rfl⟩
  have hjoinCall := hmethods (.collectionConcat, "__call__", .binaryOperator) (by simp [answering])
  have hjoinApply := hmethods (.collectionConcat, "apply", .binaryOperator) (by simp [answering])
  have hjoin := hmethods (.collectionConcat, "_apply", .collectionConcat) (by simp [answering])
  simp only [answering, List.forall_mem_cons] at hmethods
  obtain ⟨hcall, happly, hcombine, -⟩ := hmethods
  refine ⟨⟨rfl, 1, _, none, _, rfl, rfl, rfl, rfl, rfl, hcall, happly, hcombine⟩,
    ⟨0, _, none, _, rfl, rfl, ?_⟩⟩
  simp only [List.forall_mem_cons]
  exact ⟨⟨rfl, hjoinCall⟩, ⟨rfl, hjoinApply⟩, ⟨rfl, hjoin⟩, by simp⟩

/-- A list takes the items of another one in where it is. -/
theorem result_join (h : w.Delegates f [("__call__", .binaryOperator), ("apply", .binaryOperator),
      ("_apply", .collectionConcat)]) {r l : Ref} {vs xs : List Value}
    (hr : w.heap[r]? = some (.list vs)) (hl : w.heap[l]? = some (.list xs)) (n : Nat) :
    ((Dispatch.ofDepth (n + 3)).call f [.ref r, .ref l]).result w =
      (.ok (.ref r), { w with heap := w.heap.setIfInBounds r (.list (vs ++ xs)) }) := by
  obtain ⟨k, c, o, as, rfl, hcell, hmethods⟩ := h.object
  simp only [List.forall_mem_cons] at hmethods
  obtain ⟨⟨-, hcall⟩, ⟨hnoApply, happly⟩, ⟨hnoJoin, hjoin⟩, -⟩ := hmethods
  rw [Dispatch.result_call_object (n + 2) hcell hcall]
  change ((Dispatch.ofDepth (n + 2)).method (.ref k) "apply" [.ref r, .ref l]).result w = _
  rw [Dispatch.result_method_object (n + 1) hcell happly hnoApply]
  change ((Dispatch.ofDepth (n + 1)).method (.ref k) "_apply" [.ref r, .ref l]).result w = _
  rw [Dispatch.result_method_object n hcell hjoin hnoJoin]
  change (Concatenation.extend (.ofDepth n) (.ref r) (.ref l)).result w = _
  rw [Concatenation.extend, result_bind_ok _ (result_cell? r w), hr,
    result_bind_ok _ (Dispatch.result_items_list hl)]
  rfl

/-- Without a state the operator gives the input itself. -/
theorem result_join_nothing (h : w.Delegates f [("__call__", .binaryOperator),
      ("apply", .binaryOperator), ("_apply", .collectionConcat)]) (x : Value) (n : Nat) :
    ((Dispatch.ofDepth (n + 2)).call f [.none, x]).result w = (.ok x, w) := by
  obtain ⟨k, c, o, as, rfl, hcell, hmethods⟩ := h.object
  simp only [List.forall_mem_cons] at hmethods
  obtain ⟨⟨-, hcall⟩, ⟨hnoApply, happly⟩, -⟩ := hmethods
  rw [Dispatch.result_call_object (n + 1) hcell hcall]
  exact Dispatch.result_method_object n hcell happly hnoApply

/-- Combining a single entry, given what the operator gives. -/
theorem ByKey.result_forM_one (r : Ref) (es fs : List (Value × Value)) (o : Option Value) (k : Value)
    {x z : Value} (hes : u.heap[r]? = some (.dict es)) (ho : (Run.lookup? es k).result u = (.ok o, u))
    (hcall : ((Dispatch.ofDepth (n + 1)).call f [o.getD .none, x]).result u = (.ok z, v))
    (hfs : v.heap[r]? = some (.dict es)) (hinsert : (Run.insert es k z).result v = (.ok fs, v)) :
    ([(k, x)].forM (step (.ofDepth (n + 1)) f (.ref r))).result u =
      (.ok (), { v with heap := v.heap.setIfInBounds r (.dict fs) }) := by
  have hcurrent : (current (.ofDepth (n + 1)) (.ref r) k).result u = (.ok (o.getD .none), u) := by
    rw [result_current hes, result_bind_ok _ ho]
    rfl
  have hstep : (step (.ofDepth (n + 1)) f (.ref r) (k, x)).result u =
      (.ok (), { v with heap := v.heap.setIfInBounds r (.dict fs) }) := by
    rw [step, result_bind_ok _ hcurrent, result_bind_ok _ hcall, store,
      result_bind_ok _ (result_cell? r v), hfs, result_bind_ok _ hinsert, result_write]
  exact (result_bind_ok _ hstep).trans rfl

/-- Key by key, an operator that takes items in changes the first dictionary: its list is handed on as
it is, and takes in the items of the next one. -/
theorem not_fold_keeps : (joining [.int 1]).CombinesBy (.ref 1) (.ref 0) ∧
    (joining [.int 1]).Delegates (.ref 0) [("__call__", .binaryOperator),
      ("apply", .binaryOperator), ("_apply", .collectionConcat)] ∧
    ∃ v, (ByKey.fold .standard (.ref 1) .none [.ref 3, .ref 5]).result (joining [.int 1]) =
        (.ok (.ref 6), v) ∧
      (joining [.int 1]).read (.ref 3) = .dict [(.atom (.str "a"), .list [.atom (.int 1)])] ∧
      v.read (.ref 3) = .dict [(.atom (.str "a"), .list [.atom (.int 1), .atom (.int 2)])] := by
  obtain ⟨hmap, hjoins⟩ := operates_joining [.int 1]
  have hgrows : ∀ es, (joining [.int 1]).Grows (joined [.int 1] es) := fun es => .push _ _
  have hfirst : ∀ n, ((Dispatch.ofDepth (n + 6)).call (.ref 1) [.none, .ref 3]).result
      (joining [.int 1]) = (.ok (.ref 6), joined [.int 1] [(.str "a", .ref 2)]) := by
    intro n
    have halloc : (alloc (.dict [])).result (joining [.int 1]) = (.ok (.ref 6), joined [.int 1] []) :=
      rfl
    have hjoin := result_join_nothing (hjoins.later (hgrows [])) (.ref 2) (n + 1)
    have hloop := ByKey.result_forM_one (n := n + 2) 6 [] [(.str "a", .ref 2)] none (.str "a")
      rfl rfl hjoin rfl rfl
    have hentries : (ByKey.entries (.ref 3)).result (joined [.int 1] []) =
        (.ok [(.str "a", .ref 2)], joined [.int 1] []) := ByKey.result_entries rfl
    rw [ByKey.result_call hmap]
    change ((do
      let state ← alloc (.dict [])
      (Dispatch.ofDepth (n + 4)).method (.ref 1) "_apply" [state, .ref 3] : Run Value)).result _ = _
    rw [result_bind_ok _ halloc, ByKey.result_combine (hmap.grows (hgrows [])),
      result_bind_ok _ hentries,
      result_bind_ok _ hloop, set_joined]
    rfl
  have hsecond : ∀ n, ((Dispatch.ofDepth (n + 6)).call (.ref 1) [.ref 6, .ref 5]).result
      (joined [.int 1] [(.str "a", .ref 2)]) =
        (.ok (.ref 6), joined [.int 1, .int 2] [(.str "a", .ref 2)]) := by
    intro n
    have hjoin := result_join (hjoins.later (hgrows [(.str "a", .ref 2)])) (r := 2) (l := 4) rfl rfl n
    rw [set_joining] at hjoin
    have hloop := ByKey.result_forM_one (n := n + 2) 6 [(.str "a", .ref 2)] [(.str "a", .ref 2)]
      (some (.ref 2)) (.str "a") rfl rfl hjoin rfl rfl
    have hentries : (ByKey.entries (.ref 5)).result (joined [.int 1] [(.str "a", .ref 2)]) =
        (.ok [(.str "a", .ref 4)], joined [.int 1] [(.str "a", .ref 2)]) := ByKey.result_entries rfl
    rw [ByKey.result_call (hmap.grows (hgrows _))]
    change ((Dispatch.ofDepth (n + 4)).method (.ref 1) "_apply" [.ref 6, .ref 5]).result _ = _
    rw [ByKey.result_combine (hmap.grows (hgrows _)),
      result_bind_ok _ hentries,
      result_bind_ok _ hloop, set_joined]
    rfl
  refine ⟨hmap, hjoins, joined [.int 1, .int 2] [(.str "a", .ref 2)], ?_, rfl, rfl⟩
  change (ByKey.fold (.ofDepth (994 + 6)) _ _ _).result _ = _
  rw [ByKey.fold, List.foldlM_cons, result_bind_ok _ (hfirst 994), List.foldlM_cons,
    result_bind_ok _ (hsecond 994)]
  rfl

end FunctionObjects
