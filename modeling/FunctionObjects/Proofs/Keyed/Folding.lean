import FunctionObjects.Call.Evaluate
import FunctionObjects.Proofs.Keyed.Combining
import FunctionObjects.Proofs.State.Initial
/-!
# Folding dictionaries key by key

The program folds input by input and updates one dictionary in place.  What it ends in can be told key
by key, as long as that dictionary is not one of the inputs.
-/

namespace FunctionObjects

open World Keyed

namespace ByKey

variable {α : Type} {r : Ref} {M : Meaning r α} {K : Datum → Prop} {w : World} {m f state : Value}
  {op : α → α → α} {start : List (Datum × α)} {inputs : List (Option (List (Datum × α)))}
  {xs : List Value} {n : Nat}

/-- Folding dictionaries by an operator that answers for all values, from nothing or from a dictionary
that is none of the inputs, ends in a dictionary: it has the keys of the start and then the new ones
in the order in which they first occur, and under each of them the fold of its values, in order, over
the value at the start. -/
theorem fold_per_key (hK : Datum.AreKeys K) (hm : w.CombinesBy m f)
    (hop : M.Answers (.ofDepth (n + 1)) w f op) (hstart : M.Starts K w state start)
    (hxs : List.Forall₂ (M.IsInput K w) inputs xs) (hsome : ∃ ts, some ts ∈ inputs) :
    ∃ v vs, (fold (.ofDepth (n + 4)) m state xs).result w = (.ok (.ref r), v) ∧
      v.heap[r]? = some (.dict vs) ∧
      M.StandForEntries K v (merged op M.nothing start (inputs.flatMap (·.getD []))) vs := by
  have hinputs : ∀ e ∈ inputs.flatMap (·.getD []), K e.1 := keys_inputs hxs
  cases hstart with
  | nothing hr =>
    obtain ⟨v, hfold, -, vs, hcell, hvs⟩ := result_fold_new hK hm hop hxs hr hsome
    rw [foldl_combine hK (by simp) .nil hinputs] at hvs
    exact ⟨v, vs, hfold, hcell, hvs⟩
  | dict hdict hdistinct =>
    obtain ⟨us, hcell, hus⟩ := hdict
    obtain ⟨v, hfold, -, vs, hcell', hvs⟩ := result_fold_dict hK hm hop hxs
      (fun c hc => ⟨us, Option.some.inj (hc.symm.trans hcell)⟩) (.refl r w) ⟨us, hcell, hus⟩
    rw [foldl_combine hK (Keyed.keys hus) hdistinct hinputs] at hvs
    exact ⟨v, vs, hfold, hcell', hvs⟩

end ByKey

/-- A function of two values that gives the pair of them. -/
def pairing : Routine :=
  ⟨"pair", ["s", "x"].map fun n => ⟨n, .standard, none, none⟩, none, .allTuple, none⟩

/-- A dictionary to start from, an aggregator of pairs, and two more dictionaries. -/
def collecting : World := { World.initial with
  heap := #[.dict [(.str "a", .int 1)], .routine pairing,
    .object LibraryClass.binaryOperatorMap.className none [("binary_operator", .ref 1)],
    .dict [(.str "a", .int 2), (.str "b", .int 3)], .dict [(.str "a", .int 4)]] }

theorem combinesBy_collecting : collecting.CombinesBy (.ref 2) (.ref 1) where
  isSet := rfl
  object := by
    have hmethods := methods_of_sameClasses (w := collecting) ⟨rfl, rfl⟩
    simp only [answering, List.forall_mem_cons] at hmethods
    obtain ⟨hcall, happly, hcombine, -⟩ := hmethods
    exact ⟨2, _, none, _, rfl, rfl, rfl, rfl, rfl, hcall, happly, hcombine⟩

theorem result_pairing {u : World} (hcell : u.heap[1]? = some (.routine pairing)) (n : Nat)
    (x y : Value) :
    ((Dispatch.ofDepth (n + 1)).call (.ref 1) [x, y]).result u = (.ok (.tuple [x, y]), u) := by
  change (callValue (.ofDepth n) (.ref 1) [x, y]).result u = _
  simp only [callValue, Run.result_bind, Run.result_cell?, hcell]
  rfl

/-- Whatever the dictionary in cell 0 holds, the pair of two values holds the pair of what they hold. -/
theorem answers_pairing (n : Nat) : (Meaning.data 0).Answers (.ofDepth (n + 1)) collecting (.ref 1)
    fun a b => .tuple [a, b] := by
  intro u hu a b x y hx hy
  exact ⟨.tuple [x, y], u, result_pairing (hu.cell (by decide) rfl) n x y, .refl u,
    fun v hv => ⟨[x, y], rfl, hx v hv, hy v hv, trivial⟩⟩

/-- The texts and numbers of a dictionary, as data. -/
def counts (es : List (String × Int)) : List (Datum × Datum) :=
  es.map fun e => (.atom (.str e.1), .atom (.int e.2))

theorem standForEntries_counts (u : World) (es : List (String × Int)) :
    (Meaning.data 0).StandForEntries Datum.IsPlainKey u (counts es)
      (es.map fun e => (.str e.1, .int e.2)) := by
  rw [counts, Meaning.StandForEntries, List.forall₂_map_left_iff, List.forall₂_map_right_iff]
  exact List.forall₂_same.mpr fun e _ => ⟨⟨.str e.1, rfl, rfl⟩, .atom 0 _, .atom 0 _⟩

/-- `{"a": 1}` with `{"a": 2, "b": 3}`, nothing and `{"a": 4}` folded into it. -/
theorem collecting_fold_per_key :
    ∃ v vs, (ByKey.fold .standard (.ref 2) (.ref 0) [.ref 3, .none, .ref 4]).result collecting =
        (.ok (.ref 0), v) ∧ v.heap[0]? = some (.dict vs) ∧
      (Meaning.data 0).StandForEntries Datum.IsPlainKey v
        [(.atom (.str "a"), .tuple [.tuple [.atom (.int 1), .atom (.int 2)], .atom (.int 4)]),
          (.atom (.str "b"), .tuple [.atom .none, .atom (.int 3)])] vs := by
  have hdict : (Meaning.data 0).IsDict Datum.IsPlainKey collecting (counts [("a", 1)]) :=
    ⟨_, rfl, standForEntries_counts _ [("a", 1)]⟩
  have hinputs : List.Forall₂ ((Meaning.data 0).IsInput Datum.IsPlainKey collecting)
      [some (counts [("a", 2), ("b", 3)]), none, some (counts [("a", 4)])]
      [.ref 3, .none, .ref 4] :=
    .cons ⟨3, _, rfl, by decide, rfl, standForEntries_counts _ [("a", 2), ("b", 3)]⟩ <|
    .cons rfl <|
    .cons ⟨4, _, rfl, by decide, rfl, standForEntries_counts _ [("a", 4)]⟩ .nil
  exact ByKey.fold_per_key (n := 996) Datum.areKeys_plain combinesBy_collecting
    (answers_pairing 996) (.dict hdict (List.pairwise_singleton _ _)) hinputs
    ⟨_, List.mem_cons_self⟩

/-- The same with another value in the dictionary to start from. -/
def holding (x : Value) : World :=
  { collecting with heap := collecting.heap.setIfInBounds 0 (.dict [(.str "a", x)]) }

theorem heap_holding (x : Value) : (holding x).heap[0]? = some (.dict [(.str "a", x)]) := rfl

theorem holding_start : holding (.int 1) = collecting := by
  have hheap : collecting.heap.setIfInBounds 0 (.dict [(.str "a", .int 1)]) = collecting.heap := rfl
  rw [holding, hheap]

/-- The dictionary to start from as an input: its value is paired with itself. -/
theorem result_call_holding (n : Nat) (x : Value) :
    ((Dispatch.ofDepth (n + 4)).call (.ref 2) [.ref 0, .ref 0]).result (holding x) =
      (.ok (.ref 0), holding (.tuple [x, x])) := by
  have hu : Around 0 collecting (holding x) := .set rfl rfl
  have hm : (holding x).CombinesBy (.ref 2) (.ref 1) :=
    combinesBy_collecting.later (fun c hc => ⟨_, (Option.some.inj hc).symm⟩) hu
  have hlookup : (Run.lookup? [(.str "a", x)] (.str "a")).result (holding x) =
      (.ok (some x), holding x) := rfl
  have hcurrent : (ByKey.current (.ofDepth (n + 1)) (.ref 0) (.str "a")).result (holding x) =
      (.ok x, holding x) := by
    rw [ByKey.result_current (heap_holding x), Run.result_bind_ok _ hlookup]
    rfl
  have hpair := result_pairing (u := holding x) rfl n x x
  have hstep : (ByKey.step (.ofDepth (n + 1)) (.ref 1) (.ref 0) (.str "a", x)).result (holding x) =
      (.ok (), holding (.tuple [x, x])) := by
    have hinsert : (Run.insert [(.str "a", x)] (.str "a") (.tuple [x, x])).result (holding x) =
        (.ok [(.str "a", .tuple [x, x])], holding x) := rfl
    rw [ByKey.step, Run.result_bind_ok _ hcurrent, Run.result_bind_ok _ hpair, ByKey.store,
      Run.result_bind_ok _ (Run.result_cell? 0 _), heap_holding, Run.result_bind_ok _ hinsert,
      Run.result_write]
    simp [holding]
  rw [ByKey.result_call hm]
  change ((Dispatch.ofDepth (n + 2)).method (.ref 2) "_apply" [.ref 0, .ref 0]).result _ = _
  rw [ByKey.result_combine hm, Run.result_bind_ok _ (ByKey.result_entries (heap_holding x))]
  exact Run.result_bind_ok _ ((Run.result_bind_ok _ hstep).trans rfl)

/-- The dictionary that is folded into is twice an input itself.  The second time its value is no longer
the one that it had, so it does not end in the fold over the values of the inputs. -/
theorem not_fold_per_key :
    collecting.CombinesBy (.ref 2) (.ref 1) ∧
    (Meaning.data 0).Answers (.ofDepth 997) collecting (.ref 1) (fun a b => .tuple [a, b]) ∧
    collecting.heap[0]? = some (.dict [(.str "a", .int 1)]) ∧
    (Meaning.data 0).StandForEntries Datum.IsPlainKey collecting (counts [("a", 1)])
      [(.str "a", .int 1)] ∧
    ¬ ∃ v vs, (ByKey.fold .standard (.ref 2) (.ref 0) [.ref 0, .ref 0]).result collecting =
        (.ok (.ref 0), v) ∧ v.heap[0]? = some (.dict vs) ∧
      (Meaning.data 0).StandForEntries Datum.IsPlainKey v
        (merged (fun a b => .tuple [a, b]) (.atom .none) (counts [("a", 1)])
          (counts [("a", 1)] ++ counts [("a", 1)])) vs := by
  refine ⟨combinesBy_collecting, answers_pairing 996, rfl, standForEntries_counts _ [("a", 1)], ?_⟩
  rintro ⟨v, vs, hfold, hcell, hvs⟩
  have hend : (ByKey.fold .standard (.ref 2) (.ref 0) [.ref 0, .ref 0]).result (holding (.int 1)) =
      (.ok (.ref 0), holding (.tuple [.tuple [.int 1, .int 1], .tuple [.int 1, .int 1]])) := by
    change (ByKey.fold (.ofDepth (996 + 4)) _ _ _).result _ = _
    rw [ByKey.fold, List.foldlM_cons, Run.result_bind_ok _ (result_call_holding 996 _),
      List.foldlM_cons, Run.result_bind_ok _ (result_call_holding 996 _)]
    rfl
  rw [← holding_start, hend] at hfold
  obtain rfl := (Prod.mk.inj hfold).2
  rw [heap_holding, Option.some.injEq, Cell.dict.injEq] at hcell
  subst hcell
  cases hvs with
  | cons hentry _ =>
    -- the last of the pair is the number 1 by the fold, and a pair in the dictionary
    obtain ⟨_, ⟨⟩, -, hlast, -⟩ : (holding _).Holds
      (.tuple [.tuple [.atom (.int 1), .atom (.int 1)], .atom (.int 1)]) _ := hentry.value.holds
    cases hlast

end FunctionObjects
