import FunctionObjects.Proofs.Document.Equality
import FunctionObjects.Proofs.Fields.Stepping
import FunctionObjects.Proofs.State.Initial
/-!
# Steps in either order

Two adapted functions of which neither writes what the other one reads or writes can be applied to a
tuple in either order.  The functions inside must be pure, and what they are given must not involve the
tuple itself: a tuple that contains itself can hand itself on, and then a step writes what the whole tuple
has at that moment.
-/

namespace FunctionObjects

open Run World

namespace Contents

variable {r : Ref} {K : Datum → Prop} {c : ClassName} {w : World} {t t' : Contents Datum}

/-- The datum of a tuple of a class. -/
def datum (c : ClassName) : Contents Datum → Datum
  | slots ts => .slots c ts
  | fields es => .fields c es

/-- The data in a tuple. -/
def data : Contents Datum → List Datum
  | slots ts => ts
  | fields es => es.flatMap fun e => [e.1, e.2]

theorem read_tuple (h : (Meaning.data r).IsTuple K c w t) : w.read (.ref r) = t.datum c := by
  cases t with
  | slots ts =>
    obtain ⟨o, vs, hcell, hvs⟩ := h.cell
    exact read_of_holds (t := .slots c ts)
      ⟨r, o, vs, rfl, hcell, holdsAll_iff.mpr (hvs.imp fun _ _ hx => hx.holds)⟩
  | fields es =>
    obtain ⟨o, vs, hcell, hvs⟩ := h.cell
    exact read_of_holds (t := .fields c es) ⟨r, o, vs, rfl, hcell,
      holdsEntries_iff.mpr (hvs.imp fun _ _ he => ⟨he.key.holds, he.value.holds⟩)⟩

/-- Tuples with alike contents are equal for the program. -/
theorem Alike.same (h : Alike t t') (hself : ∀ d ∈ t.data, d.EqualsItself) :
    (t.datum c).same (t'.datum c) = true := by
  cases h with
  | slots ts => exact Datum.sameAll_self hself
  | @fields es fs h =>
    have hentries : Datum.entriesIn es fs = true := by
      refine Datum.entriesIn_of_subset (fun e he => h.mem_iff.mp he) fun e he => ?_
      have hmem : ∀ d ∈ [e.1, e.2], d.EqualsItself := fun d hd =>
        hself d (List.mem_flatMap.mpr ⟨e, he, hd⟩)
      exact ⟨hmem _ (by simp), hmem _ (by simp)⟩
    change (Datum.entriesIn es fs && es.length == fs.length) = true
    rw [hentries, h.length_eq, beq_self_eq_true, Bool.and_true]

/-- Cells whose values hold alike contents are equal tuples for the program. -/
theorem same_of_alike {v : World} (h : (Meaning.data r).IsTuple K c w t)
    (h' : (Meaning.data r).IsTuple K c v t') (halike : Alike t t')
    (hself : ∀ d ∈ t.data, d.EqualsItself) : (w.read (.ref r)).same (v.read (.ref r)) = true := by
  rw [read_tuple h, read_tuple h']
  exact halike.same hself

end Contents

namespace Fields

variable {α : Type} {r : Ref} {M : Meaning r α} {K : Datum → Prop} {c : ClassName} {w v : World}
  {F G y : Value} {t : Contents α} {f g : TupleStep α} {n : Nat}

/-- Applies one function to what another one gives. -/
def inTurn (d : Dispatch) (F G x : Value) : Run Value := do d.call G [← d.call F [x]]

/-- The references that a step writes are others than some references. -/
def Apart (ρs σs : List Datum) : Prop := ∀ ρ ∈ ρs, ∀ σ ∈ σs, ρ.sameItem σ = false

instance (ρs σs : List Datum) : Decidable (Apart ρs σs) :=
  inferInstanceAs (Decidable (∀ ρ ∈ ρs, ∀ σ ∈ σs, ρ.sameItem σ = false))

variable (hK : Datum.AreKeys K) (ht : M.IsTuple K c w t) (hF : M.Performs K n w t F f)
  (hG : M.Performs K n w t G g)

include hK ht hF hG

/-- Two calls in turn do what the two steps do in turn on data. -/
theorem computes_inTurn (hFG : Apart f.projection g.selection) :
    Computes w (inTurn (.ofDepth (n + 6)) F G (.ref r))
      (do g.run M.nothing (← f.run M.nothing t))
      fun t' y v => y = .ref r ∧ M.IsTuple K c v t' := by
  refine (computes_call hK ht hF).bind fun t' y v ht' ⟨hy, hv, htuple⟩ => ?_
  subst hy
  have hread := TupleStep.select_run hK ht.within hF.within hG.within hFG ht'
  exact (computes_call hK htuple (hG.later ht hv hread)).imp
    fun _ _ _ ⟨hy, _, htuple'⟩ => ⟨hy, htuple'⟩

/-- If two steps succeed one after the other, and neither writes what the other one reads or writes, they
succeed in the other order too, and the tuple has the same values by position, or the same entries. -/
theorem steps_commute (hFG : Apart f.projection (g.selection ++ g.projection))
    (hGF : Apart g.projection f.selection)
    (h : (inTurn (.ofDepth (n + 6)) F G (.ref r)).result w = (.ok y, v)) :
    y = .ref r ∧ ∃ v' e e', (inTurn (.ofDepth (n + 6)) G F (.ref r)).result w = (.ok (.ref r), v') ∧
      M.IsTuple K c v e ∧ M.IsTuple K c v' e' ∧ Contents.Alike e e' := by
  have hread : Apart f.projection g.selection := fun ρ hρ σ hσ =>
    hFG ρ hρ σ (List.mem_append_left _ hσ)
  obtain ⟨e, he, rfl, hv⟩ := (computes_inTurn hK ht hF hG hread).exists_of_ok h
  obtain ⟨d, hd, hde⟩ := Option.bind_eq_some_iff.mp he
  obtain ⟨d', e', hd', he', halike⟩ :=
    TupleStep.run_run hK ht.within hF.within hG.within hFG hGF hd hde
  have hother := computes_inTurn hK ht hG hF hGF
  rw [hd'] at hother
  change Computes w _ (f.run M.nothing d') _ at hother
  rw [he'] at hother
  obtain ⟨_, v', hcalls, rfl, hv'⟩ := hother
  exact ⟨rfl, v', e, e', hcalls, hv, hv', halike⟩

end Fields

/-- A tuple of some values, and two functions for it that hand on what they select: one selects position 0
and writes four values to positions 0, 0, 1 and 1, the other one selects position 2 and writes to
position 3. -/
def stepping (vs : List Value) : World := { World.initial with
  heap := #[.slots LibraryClass.arrayTuple.className none vs,
    .object LibraryClass.identity.className none [],
    .list [.int 0], .object LibraryClass.tupleInputAdapter.className none [("selection", .ref 2)],
    .list [.int 0, .int 0, .int 1, .int 1],
    .object LibraryClass.tupleOutputAdapter.className none [("projection", .ref 4)],
    .object LibraryClass.tupleAdaptedFunction.className none [("input_adapter", .ref 3),
      ("output_adapter", .none), ("output_fold", .ref 5), ("function", .ref 1)],
    .list [.int 2], .object LibraryClass.tupleInputAdapter.className none [("selection", .ref 7)],
    .list [.int 3], .object LibraryClass.tupleOutputAdapter.className none [("projection", .ref 9)],
    .object LibraryClass.tupleAdaptedFunction.className none [("input_adapter", .ref 8),
      ("output_adapter", .none), ("output_fold", .ref 10), ("function", .ref 1)]] }

/-- Positions as references. -/
def positions (is : List Int) : List Datum := is.map fun i => .atom (.int i)

namespace Stepping

open Fields

variable {vs : List Value} {u : World} {x : Value}

theorem key_positions (u : World) (is : List Int) :
    List.Forall₂ ((Meaning.itself 0).key u) (positions is) (is.map .int) := by
  rw [positions, List.forall₂_map_left_iff, List.forall₂_map_right_iff]
  exact List.forall₂_same.mpr fun i _ => .atom 0 (.int i)

theorem within_positions {step : TupleStep Value} {is js : List Int}
    (hselection : step.selection = positions is) (hprojection : step.projection = positions js) :
    step.Within Datum.IsPlainKey := by
  intro ρ hρ _
  rw [hselection, hprojection, positions, positions, ← List.map_append] at hρ
  obtain ⟨i, -, rfl⟩ := List.mem_map.mp hρ
  exact ⟨.int i, rfl, rfl⟩

theorem adaptsTuple (vs : List Value) :
    (stepping vs).AdaptsTuple (.ref 6) [.int 0] (.ref 1) [.int 0, .int 0, .int 1, .int 1] ∧
      (stepping vs).AdaptsTuple (.ref 11) [.int 2] (.ref 1) [.int 3] := by
  have hmethods := methods_of_sameClasses (w := stepping vs) ⟨rfl, rfl⟩
  simp only [answering, List.forall_mem_cons] at hmethods
  obtain ⟨-, -, -, -, -, -, -, hcall, happly, hinput, houtput, hselect, hselects, hproject, -⟩ :=
    hmethods
  exact ⟨⟨_, _, .ref 3, .ref 5, ⟨6, none, rfl, rfl⟩,
      ⟨_, _, 2, ⟨3, none, rfl, rfl⟩, rfl, rfl, rfl, hselect, hselects⟩,
      ⟨_, _, 4, ⟨5, none, rfl, rfl⟩, rfl, rfl, hproject⟩,
      rfl, rfl, rfl, rfl, rfl, rfl, rfl, hcall, happly, hinput, houtput⟩,
    ⟨_, _, .ref 8, .ref 10, ⟨11, none, rfl, rfl⟩,
      ⟨_, _, 7, ⟨8, none, rfl, rfl⟩, rfl, rfl, rfl, hselect, hselects⟩,
      ⟨_, _, 9, ⟨10, none, rfl, rfl⟩, rfl, rfl, hproject⟩,
      rfl, rfl, rfl, rfl, rfl, rfl, rfl, hcall, happly, hinput, houtput⟩⟩

theorem isTuple (vs : List Value) :
    (Meaning.itself 0).IsTuple Datum.IsPlainKey LibraryClass.arrayTuple.className (stepping vs)
      (.slots vs) := by
  have hmethods := methods_of_sameClasses (w := stepping vs) ⟨rfl, rfl⟩
  simp only [answering, List.forall_mem_cons] at hmethods
  obtain ⟨-, -, -, -, -, -, -, -, -, -, -, -, -, -, hget, hput, -⟩ := hmethods
  exact ⟨hget, hput, none, vs, rfl, List.forall₂_same.mpr fun _ _ => rfl⟩

/-- The function that gives what it is given. -/
theorem result_call_identity {l : Ref} {o : Option Ty} (hclasses : World.initial.SameClasses u)
    (hcell : u.heap[l]? = some (.object LibraryClass.identity.className o [])) (x : Value) (n : Nat) :
    ((Dispatch.ofDepth (n + 2)).call (.ref l) [x]).result u = (.ok x, u) := by
  have hmethods := methods_of_sameClasses hclasses
  simp only [answering, List.forall_mem_cons] at hmethods
  obtain ⟨-, -, -, -, -, -, -, -, -, -, -, -, -, -, -, -, -, -, -, hcall, happly, -⟩ := hmethods
  rw [Dispatch.result_call_object (n + 1) hcell hcall]
  exact Dispatch.result_method_object n hcell happly rfl

/-- The function inside hands on a single value. -/
theorem result_handOn (hu : Around 0 (stepping vs) u) (x : Value) (n : Nat) :
    (handOn (.ofDepth (n + 2)) (.ref 1) [x]).result u = (.ok x, u) :=
  result_call_identity ⟨hu.hierarchy, hu.declarations⟩ (hu.cell (by decide) rfl) x n

/-- On a value that can be unpacked without a change the function inside is pure. -/
theorem delivers {count n : Nat} {ys : List Value}
    (hunpack : ∀ u, (unpack (.ofDepth (n + 2)) count x).result u = (.ok ys, u)) :
    (Meaning.itself 0).Delivers n (stepping vs) (.ref 1) count [x] (some ys) where
  grows hu hxs h := by
    obtain rfl := List.forall₂_eq_eq_eq ▸ hxs
    cases (result_handOn hu x (n + 2)).symm.trans h
    exact .refl _
  delivers hu hxs := by
    obtain rfl := List.forall₂_eq_eq_eq ▸ hxs
    refine ⟨ys, _, ?_, .refl _, List.forall₂_same.mpr fun _ _ => rfl⟩
    rw [deliver, result_bind_ok _ (result_handOn hu x (n + 2)), hunpack]

end Stepping

/-- The step of the first function for a tuple of the language core at position 0. -/
def spreading : TupleStep Value where
  selection := positions [0]
  apply as := as.head?.bind fun a => match a with
    | .tuple ys => some ys
    | _ => none
  projection := positions [0, 0, 1, 1]

/-- The step of the second function. -/
def copying : TupleStep Value := ⟨positions [2], some, positions [3]⟩

theorem performs_spreading (ys : List Value) (x y z : Value) (n : Nat) :
    (Meaning.itself 0).Performs Datum.IsPlainKey n (stepping [.tuple ys, x, y, z])
      (.slots [.tuple ys, x, y, z]) (.ref 6) spreading where
  within := Stepping.within_positions rfl rfl
  adapts := by
    refine ⟨_, _, _, (Stepping.adaptsTuple _).1, Stepping.key_positions _ [0],
      Stepping.key_positions _ [0, 0, 1, 1], ?_⟩
    intro as has
    obtain rfl : [.tuple ys] = as := Option.some.inj has
    exact Stepping.delivers fun u => rfl

theorem performs_copying (a x y z : Value) (n : Nat) :
    (Meaning.itself 0).Performs Datum.IsPlainKey n (stepping [a, x, y, z]) (.slots [a, x, y, z])
      (.ref 11) copying where
  within := Stepping.within_positions rfl rfl
  adapts := by
    refine ⟨_, _, _, (Stepping.adaptsTuple _).2, Stepping.key_positions _ [2],
      Stepping.key_positions _ [3], ?_⟩
    intro as has
    obtain rfl : [y] = as := Option.some.inj has
    exact Stepping.delivers fun u => rfl

/-- The two functions on `((1, 2, 3, 4), 10, 20, 30)`. -/
theorem stepping_steps_commute :
    ∃ w v v' e e', w = stepping [.tuple [.int 1, .int 2, .int 3, .int 4], .int 10, .int 20, .int 30] ∧
      (Fields.inTurn .standard (.ref 6) (.ref 11) (.ref 0)).result w = (.ok (.ref 0), v) ∧
      (Fields.inTurn .standard (.ref 11) (.ref 6) (.ref 0)).result w = (.ok (.ref 0), v') ∧
      (Meaning.itself 0).IsTuple Datum.IsPlainKey LibraryClass.arrayTuple.className v e ∧
      (Meaning.itself 0).IsTuple Datum.IsPlainKey LibraryClass.arrayTuple.className v' e' ∧
      Contents.Alike e e' := by
  have hfirst := performs_spreading [.int 1, .int 2, .int 3, .int 4] (.int 10) (.int 20) (.int 30) 994
  have hsecond := performs_copying (.tuple [.int 1, .int 2, .int 3, .int 4]) (.int 10) (.int 20)
    (.int 30) 994
  have hapart : Fields.Apart spreading.projection (copying.selection ++ copying.projection) := by
    decide
  have hapart' : Fields.Apart copying.projection spreading.selection := by decide
  obtain ⟨_, v, hcalls, rfl, -⟩ := Fields.computes_inTurn Datum.areKeys_plain (Stepping.isTuple _)
    hfirst hsecond fun ρ hρ σ hσ => hapart ρ hρ σ (List.mem_append_left _ hσ)
  obtain ⟨-, v', e, e', hcalls', he, he', halike⟩ := Fields.steps_commute Datum.areKeys_plain
    (Stepping.isTuple _) hfirst hsecond hapart hapart' hcalls
  exact ⟨_, v, v', e, e', rfl, hcalls, hcalls', he, he', halike⟩

namespace Stepping

open Fields

variable {vs : List Value} {u : World} {x y z : Value}

/-- The items of a tuple are read into a new list. -/
theorem result_items (hu : Around 0 (stepping vs) u) {ys : List Value}
    (ht : (Meaning.itself 0).IsTuple Datum.IsPlainKey LibraryClass.arrayTuple.className u (.slots ys))
    (n : Nat) : ((Dispatch.ofDepth (n + 1)).items (.ref 0)).result u =
      (.ok ys, { u with heap := u.heap.push (.list ys) }) := by
  have hmethods := methods_of_sameClasses (w := u) ⟨hu.hierarchy, hu.declarations⟩
  simp only [answering, List.forall_mem_cons] at hmethods
  obtain ⟨-, -, -, -, -, -, -, -, -, -, -, -, -, -, -, -, hvalues, -⟩ := hmethods
  obtain ⟨o, us, hcell, hus⟩ := ht.cell
  obtain rfl : ys = us := List.forall₂_eq_eq_eq ▸ hus
  exact Dispatch.result_items_slots n hcell hvalues

/-- The first function on a tuple that contains itself writes what the tuple has at that moment. -/
theorem call_spreading (hu : Around 0 (stepping vs) u)
    (ht : (Meaning.itself 0).IsTuple Datum.IsPlainKey LibraryClass.arrayTuple.className u
      (.slots [.ref 0, x, y, z])) (n : Nat) :
    ∃ v, ((Dispatch.ofDepth (n + 6)).call (.ref 6) [.ref 0]).result u = (.ok (.ref 0), v) ∧
      Around 0 u v ∧ (Meaning.itself 0).IsTuple Datum.IsPlainKey LibraryClass.arrayTuple.className v
        (.slots [x, z, y, z]) := by
  have hadapts := (adaptsTuple vs).1.later (isTuple vs) hu
  have hwithin : spreading.Within Datum.IsPlainKey := within_positions rfl rfl
  obtain ⟨xs, v, hget, rfl, hlength, hxs⟩ := computes_select Datum.areKeys_plain ht
    (fun σ hσ => hwithin σ (List.mem_append_left _ hσ)) (key_positions _ [0]) n
  obtain rfl := List.forall₂_eq_eq_eq ▸ hxs
  have hhand := (result_bind_congr (fun a => (Dispatch.ofDepth (n + 4)).call (.ref 1) [a])
    (result_selected hget hlength)).trans (result_handOn hu (.ref 0) (n + 2))
  obtain ⟨g, hprojects, houtput⟩ := result_output hadapts (.ref 0) (.ref 0) (n + 2)
  have hunpack := result_items hu ht (n + 1)
  have hg := Grows.push v (.list [.ref 0, x, y, z])
  have hitems : List.Forall₂ Eq [.ref 0, x, y, z] [.ref 0, x, y, z] :=
    List.forall₂_same.mpr fun _ _ => rfl
  obtain ⟨_, v', hwrite, rfl, hv', htuple⟩ := computes_write Datum.areKeys_plain (ht.grows hg)
    (fun ρ hρ => hwithin ρ (List.mem_append_right _ hρ)) (by decide)
    (key_positions _ [0, 0, 1, 1]) hitems g (n + 1)
  refine ⟨v', ?_, (Around.of_grows hg).trans hv', htuple⟩
  refine (result_call hadapts rfl n).trans ((result_bind_ok _ hhand).trans (houtput.trans ?_))
  exact (result_call_project hprojects (by decide) (.ref 0) (n + 2)).trans
    ((result_bind_ok _ hunpack).trans hwrite)

end Stepping

/-- A tuple that contains itself at position 0. -/
def looped : World := stepping [.ref 0, .int 10, .int 20, .int 30]

/-- What the tuple has in a state if it has numbers only. -/
theorem read_numbers {v : World} (is : List Int) (h : (Meaning.itself 0).IsTuple Datum.IsPlainKey
    LibraryClass.arrayTuple.className v (.slots (is.map .int))) :
    v.read (.ref 0) = .slots LibraryClass.arrayTuple.className (positions is) := by
  obtain ⟨o, vs, hcell, hvs⟩ := h.cell
  obtain rfl := List.forall₂_eq_eq_eq ▸ hvs
  refine read_of_holds ⟨0, o, _, rfl, hcell, holdsAll_iff.mpr ?_⟩
  rw [positions, List.forall₂_map_left_iff, List.forall₂_map_right_iff]
  exact List.forall₂_same.mpr fun _ _ => rfl

/-- The two functions on a tuple that contains itself: neither writes what the other one reads or writes,
both orders succeed, and they leave different tuples. -/
theorem not_steps_commute :
    looped.AdaptsTuple (.ref 6) [.int 0] (.ref 1) [.int 0, .int 0, .int 1, .int 1] ∧
    looped.AdaptsTuple (.ref 11) [.int 2] (.ref 1) [.int 3] ∧
    looped.heap[1]? = some (.object LibraryClass.identity.className none []) ∧
    Fields.Apart (positions [0, 0, 1, 1]) (positions [2, 3]) ∧
    Fields.Apart (positions [3]) (positions [0]) ∧
    ∃ v v', (Fields.inTurn .standard (.ref 6) (.ref 11) (.ref 0)).result looped =
        (.ok (.ref 0), v) ∧
      (Fields.inTurn .standard (.ref 11) (.ref 6) (.ref 0)).result looped = (.ok (.ref 0), v') ∧
      (v.read (.ref 0)).same (v'.read (.ref 0)) = false := by
  refine ⟨(Stepping.adaptsTuple _).1, (Stepping.adaptsTuple _).2, rfl, by decide, by decide, ?_⟩
  have hcopying := performs_copying (.ref 0) (.int 10) (.int 20) (.int 30) 994
  -- the first order
  obtain ⟨v₁, hfirst, hu₁, ht₁⟩ := Stepping.call_spreading (.refl 0 looped) (Stepping.isTuple _) 994
  obtain ⟨_, v, hsecond, rfl, -, ht⟩ := Fields.computes_call Datum.areKeys_plain ht₁
    (hcopying.later (Stepping.isTuple _) hu₁ rfl)
  -- the second order
  obtain ⟨_, v₂, hfirst', rfl, hu₂, ht₂⟩ :=
    Fields.computes_call Datum.areKeys_plain (Stepping.isTuple _) hcopying
  obtain ⟨v', hsecond', -, ht'⟩ := Stepping.call_spreading hu₂ ht₂ 994
  refine ⟨v, v', (result_bind_ok _ hfirst).trans hsecond, (result_bind_ok _ hfirst').trans hsecond', ?_⟩
  rw [read_numbers [10, 30, 20, 20] ht, read_numbers [10, 20, 20, 20] ht']
  decide

end FunctionObjects
