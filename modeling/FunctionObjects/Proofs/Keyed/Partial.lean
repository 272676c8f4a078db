import FunctionObjects.Proofs.Keyed.Combining
import FunctionObjects.Proofs.Keyed.Numbers
import FunctionObjects.Proofs.Keyed.Totals
import FunctionObjects.Proofs.State.Initial
/-!
# Aggregating in parts

Dictionaries of numbers can be aggregated in parts and in any order.  What is aggregated is told by a
summary: whether there was a dictionary at all, which keys there were, and the total under each.
-/

namespace FunctionObjects

open Run World Keyed

/-- A dictionary of numbers, or nothing. -/
abbrev Counts := Option (List (Datum × Option Int))

/-- A whole number or nothing, as a datum. -/
def Datum.number : Option Int → Datum
  | .none => .atom .none
  | some n => .atom (.int n)

/-- A dictionary of numbers or nothing, as a datum. -/
def Counts.datum : Counts → Datum
  | .none => .atom .none
  | .some es => .dict (es.map fun e => (e.1, .number e.2))

/-- All entries of some dictionaries. -/
def Counts.entries (ts : List Counts) : List (Datum × Option Int) := ts.flatMap (·.getD [])

/-- Numbers stand for themselves, and keys hold what they held in a state from which everything else
is added. -/
def Meaning.numbers (w : World) {r : Ref} (hr : w.heap.size ≤ r) : Meaning r (Option Int) where
  key u k x := w.Holds k x ∧ w.Grows u
  stands _ a x := x = .number a
  nothing := .none
  none _ := rfl
  holds h := h.2.holds h.1
  key_later hu h := ⟨h.1, hu.grows_of_fresh h.2 hr⟩
  later _ h := h

namespace World

variable {w u v : World} {f : Value} {g : Int → Int → Int}

/-- The keys and numbers of a dictionary, by what its keys hold in `w`. -/
def HoldsNumbers (w : World) (K : Datum → Prop) (es : List (Datum × Option Int))
    (vs : List (Value × Value)) : Prop :=
  List.Forall₂ (fun t e => K t.1 ∧ w.Holds t.1 e.1 ∧ e.2 = .number t.2) es vs

/-- A value that is nothing, or a dictionary of numbers in a state that comes from `w`. -/
def HoldsCounts (w : World) (K : Datum → Prop) (u : World) : Counts → Value → Prop
  | .none, x => x = .none
  | .some es, x => ∃ l vs, x = .ref l ∧ u.heap[l]? = some (.dict vs) ∧ w.HoldsNumbers K es vs

theorem HoldsCounts.later {K : Datum → Prop} {t : Counts} {x : Value} (h : w.HoldsCounts K u t x)
    (hg : u.Grows v) : w.HoldsCounts K v t x := by
  cases t with
  | none => exact h
  | some es =>
    obtain ⟨l, vs, hx, hcell, hvs⟩ := h
    exact ⟨l, vs, hx, hg.heap hcell, hvs⟩

theorem AggregatesBy.later (h : w.AggregatesBy f g) (hg : w.Grows u) : u.AggregatesBy f g where
  number := by
    change (!u.hierarchy.sub (.core "int") (.core "bool") &&
      u.hierarchy.sub (.core "int") ⟨"numbers", "Number"⟩) = true
    rw [hg.hierarchy]
    exact h.number
  object := by
    obtain ⟨k, l, c, o, as, hk, hf, hcell, hrest⟩ := h.object
    refine ⟨k, l, c, o, as, hk, hf, hg.heap hcell, ?_⟩
    simpa only [hg.sameClasses.member?] using hrest

end World

namespace Keyed

variable {w u v : World} {K : Datum → Prop} {t t' : Counts} {x y m f : Value} {r : Ref}
  {g : Int → Int → Int} {ts us : List Counts} {xs : List Value} {n : Nat}
  {es : List (Datum × Option Int)} {vs : List (Value × Value)} (hK : Datum.AreKeys K)

theorem standForEntries_numbers (hg : w.Grows u) (hr : w.heap.size ≤ r) :
    (Meaning.numbers w hr).StandForEntries K u es vs ↔ w.HoldsNumbers K es vs :=
  ⟨fun h => h.imp fun _ _ he => ⟨he.isKey, he.key.1, he.value⟩,
    fun h => h.imp fun _ _ he => ⟨he.1, ⟨he.2.1, hg⟩, he.2.2⟩⟩

theorem isInput_of_holdsCounts (h : w.HoldsCounts K u t x) (hg : w.Grows u) (hr : w.heap.size ≤ r)
    (hne : ∀ l, x = .ref l → l ≠ r) : (Meaning.numbers w hr).IsInput K u t x := by
  cases t with
  | none => exact h
  | some es =>
    obtain ⟨l, vs, rfl, hcell, hvs⟩ := h
    exact ⟨l, vs, rfl, hne l rfl, hcell, (standForEntries_numbers hg hr).mpr hvs⟩

theorem holdsCounts_of_isDict (hg : w.Grows u) (hr : w.heap.size ≤ r)
    (h : (Meaning.numbers w hr).IsDict K u es) : w.HoldsCounts K u (some es) (.ref r) := by
  obtain ⟨vs, hcell, hvs⟩ := h
  exact ⟨r, vs, rfl, hcell, (standForEntries_numbers hg hr).mp hvs⟩

/-- An operator on numbers answers for all numbers, whatever has been added. -/
theorem answers_numbers (hf : w.AggregatesBy f g) (hg : w.Grows u) (hr : w.heap.size ≤ r) :
    (Meaning.numbers w hr).Answers (.ofDepth (n + 4)) u f (Option.merge g) := by
  rintro v hv a b x y rfl rfl
  exact ⟨_, v, Aggregation.result_call_number (hf.later (hv.grows_of_fresh hg hr)) a b, .refl v, rfl⟩

/-- What has been aggregated of some dictionaries: whether there was one, the keys, and the totals. -/
structure Summary (K : Datum → Prop) (op : Option Int → Option Int → Option Int) (ts : List Counts)
    (t : Counts) : Prop where
  isSome : t.isSome = ts.any Option.isSome
  keys : ∀ e ∈ t.getD [], K e.1
  distinct : Distinct (t.getD [])
  agree : Agree K op none (t.getD []) (Counts.entries ts)

/-- The outcome of aggregating one outcome into another one. -/
def together (op : Option Int → Option Int → Option Int) : Counts → Counts → Counts
  | t, none => t
  | t, some es => some (es.foldl (combine op none) (t.getD []))

variable {op : Option Int → Option Int → Option Int} [Std.Associative op]
  [Std.LawfulIdentity op none]

include hK in
theorem Summary.together (h : Summary K op ts t) (h' : Summary K op us t') :
    Summary K op (ts ++ us) (together op t t') := by
  have hentries : Counts.entries (ts ++ us) = Counts.entries ts ++ Counts.entries us :=
    List.flatMap_append
  cases t' with
  | none =>
    have hnone : us.any Option.isSome = false := h'.isSome.symm
    refine ⟨?_, h.keys, h.distinct, ?_⟩
    · rw [List.any_append, hnone, Bool.or_false]
      exact h.isSome
    · rw [hentries, ← List.append_nil (Option.getD (Keyed.together op t none) [])]
      exact h.agree.append h'.agree
  | some es =>
    have hsome : us.any Option.isSome = true := h'.isSome.symm
    refine ⟨?_, forall_foldl_combine h.keys h'.keys, h.distinct.foldl_combine, ?_⟩
    · rw [List.any_append, hsome, Bool.or_true]
      rfl
    · rw [hentries]
      exact (agree_foldl_combine hK h.keys h.distinct h'.keys).trans (h.agree.append h'.agree)

section Runs

variable (hm : w.CombinesBy m f) (hf : w.AggregatesBy f g) (hg : w.Grows u)

include hK hm hf hg

omit hK hf in
/-- Without a dictionary among the inputs nothing comes of nothing. -/
theorem result_fold_nothing (hxs : List.Forall₂ (w.HoldsCounts K u) ts xs) (hts : ∀ t ∈ ts, t = none) :
    (ByKey.fold (.ofDepth (n + 2)) m .none xs).result u = (.ok .none, u) := by
  induction hxs with
  | nil => rfl
  | @cons t x ts xs hx _ ih =>
    obtain rfl := hts t List.mem_cons_self
    obtain rfl : x = .none := hx
    have hcall : ((Dispatch.ofDepth (n + 2)).call m [.none, .none]).result u = (.ok .none, u) := by
      rw [ByKey.result_call (hm.grows hg)]
      rfl
    rw [ByKey.fold, List.foldlM_cons, result_bind_ok _ hcall]
    exact ih fun t ht => hts t (List.mem_cons_of_mem _ ht)

/-- Aggregating dictionaries from nothing gives a summary of them, in a new dictionary if there is one
among them. -/
theorem result_fold (hxs : List.Forall₂ (w.HoldsCounts K u) ts xs) :
    ∃ v x t, (ByKey.fold (.ofDepth (n + 7)) m .none xs).result u = (.ok x, v) ∧ u.Grows v ∧
      w.HoldsCounts K v t x ∧ (∀ l, x = .ref l → u.heap.size ≤ l) ∧
      Summary K (Option.merge g) ts t := by
  have := hf.laws.1
  by_cases hsome : ∃ es, some es ∈ ts
  · have hr := hg.size_le
    have hinputs : List.Forall₂ ((Meaning.numbers w hr).IsInput K u) ts xs :=
      hxs.imp fun t x hx => isInput_of_holdsCounts hx hg hr fun l hl => by
        subst hl
        cases t with
        | none => cases hx
        | some es =>
          obtain ⟨_, _, ⟨⟩, hcell, -⟩ := hx
          exact Nat.ne_of_lt (lt_size_of_getElem? hcell)
    obtain ⟨v, hfold, hv, hdict⟩ := ByKey.result_fold_new (n := n + 3) hK (hm.grows hg)
      (answers_numbers hf hg hr) hinputs rfl hsome
    have hgv := hv.grows (Nat.le_refl _)
    have hkeys := ByKey.keys_inputs hinputs
    refine ⟨v, _, some _, hfold, hgv, holdsCounts_of_isDict (hg.trans hgv) hr hdict, ?_, ?_, ?_, ?_, ?_⟩
    · rintro l ⟨⟩
      exact Nat.le_refl _
    · obtain ⟨es, hes⟩ := hsome
      exact (List.any_eq_true.mpr ⟨_, hes, rfl⟩).symm
    · exact forall_foldl_combine (by simp) hkeys
    · exact Distinct.foldl_combine .nil
    · exact agree_foldl_combine hK (by simp) .nil hkeys
  · have hnone : ∀ t ∈ ts, t = none := fun t ht =>
      Option.eq_none_iff_forall_ne_some.mpr fun es hes => hsome ⟨es, hes ▸ ht⟩
    refine ⟨u, .none, none, result_fold_nothing hm hg hxs hnone, .refl u, rfl, nofun, ?_, ?_, ?_, ?_⟩
    · exact (List.any_eq_false.mpr fun t ht => by simp [hnone t ht]).symm
    · simp
    · exact .nil
    · have hentries : Counts.entries ts = [] :=
        List.flatMap_eq_nil_iff.mpr fun t ht => by simp [hnone t ht]
      rw [hentries]
      exact .refl []

/-- Aggregating one outcome into another one, which is a new dictionary if it is one. -/
theorem result_together (hx : w.HoldsCounts K u t x) (hy : w.HoldsCounts K u t' y)
    (hnew : ∀ l, x = .ref l → w.heap.size ≤ l) (hne : ∀ l, y = .ref l → x ≠ .ref l) :
    ∃ v z, ((Dispatch.ofDepth (n + 7)).call m [x, y]).result u = (.ok z, v) ∧ w.Grows v ∧
      w.HoldsCounts K v (together (Option.merge g) t t') z := by
  cases t' with
  | none =>
    obtain rfl : y = .none := hy
    refine ⟨u, x, ?_, hg, hx⟩
    rw [ByKey.result_call (hm.grows hg)]
    rfl
  | some es =>
    cases t with
    | none =>
      obtain rfl : x = .none := hx
      have hr := hg.size_le
      have hinput := isInput_of_holdsCounts hy hg hr fun l hl => by
        obtain ⟨_, _, rfl, hcell, -⟩ := hy
        cases hl
        exact Nat.ne_of_lt (lt_size_of_getElem? hcell)
      obtain ⟨v, hcall, hv, hdict⟩ := ByKey.result_call_new (n := n + 3) hK (hm.grows hg)
        (answers_numbers hf hg hr) rfl hinput
      have hgv := hv.grows_of_fresh hg hr
      exact ⟨v, _, hcall, hgv, holdsCounts_of_isDict hgv hr hdict⟩
    | some ds =>
      obtain ⟨r, vs, rfl, hcell, hvs⟩ := hx
      have hr := hnew r rfl
      have hinput := isInput_of_holdsCounts hy hg hr fun l hl hlr => hne l hl (hlr ▸ rfl)
      obtain ⟨v, hcall, hv, hdict⟩ := ByKey.result_call_dict (n := n + 3) hK (hm.grows hg)
        (answers_numbers hf hg hr) ⟨vs, hcell, (standForEntries_numbers hg hr).mpr hvs⟩ hinput
      have hgv := hv.grows_of_fresh hg hr
      exact ⟨v, _, hcall, hgv, holdsCounts_of_isDict hgv hr hdict⟩

end Runs

theorem equalsItself_number (a : Option Int) : (Datum.number a).EqualsItself := by
  cases a with
  | none => rfl
  | some n => exact Datum.equalsItself_atom (a := .int n) rfl

theorem holds_counts (hg : w.Grows u) (h : w.HoldsCounts K u t x) : u.Holds t.datum x := by
  cases t with
  | none => exact h
  | some es =>
    obtain ⟨l, vs, rfl, hcell, hvs⟩ := h
    refine ⟨l, vs, rfl, hcell, holdsEntries_iff.mpr ?_⟩
    rw [List.forall₂_map_left_iff]
    refine hvs.imp fun e y he => ⟨hg.holds he.2.1, ?_⟩
    rw [he.2.2]
    cases e.2 <;> rfl

omit [Std.Associative op] in
include hK in
/-- Outcomes with the same summary are equal. -/
theorem result_same_of_summaries (hg : w.Grows u) (hx : w.HoldsCounts K u t x)
    (hy : w.HoldsCounts K u t' y) (ht : Summary K op ts t) (ht' : Summary K op us t')
    (hsome : ts.any Option.isSome = us.any Option.isSome)
    (hagree : Agree K op none (Counts.entries ts) (Counts.entries us)) :
    (Run.same x y).result u = (.ok true, u) := by
  rw [Run.result_same, read_of_holds (holds_counts hg hx), read_of_holds (holds_counts hg hy)]
  have hisSome : t.isSome = t'.isSome := ht.isSome.trans (hsome.trans ht'.isSome.symm)
  have hall := ht.agree.trans (hagree.trans ht'.agree.symm)
  match t, t' with
  | none, none => rfl
  | some es, some fs =>
    have hequal := same_of_agree hK ht.keys equalsItself_number ht'.keys ht.distinct ht'.distinct hall
    simp only [Counts.datum]
    exact congrArg (fun b => (Except.ok b, u)) hequal

include hK in
/-- Aggregating dictionaries of whole numbers by a sum, a product, a maximum or a minimum: parts can be
aggregated by themselves and then together, and the order of the dictionaries does not count.  The
parts and the whole may be given by different copies. -/
theorem partial_aggregation_safe {xs ys zs : List Counts} {vs us vs' us' ws : List Value}
    (hm : w.CombinesBy m f) (hf : w.AggregatesBy f g)
    (hxs : List.Forall₂ (w.HoldsCounts K w) xs vs) (hys : List.Forall₂ (w.HoldsCounts K w) ys us)
    (hxs' : List.Forall₂ (w.HoldsCounts K w) xs vs') (hys' : List.Forall₂ (w.HoldsCounts K w) ys us')
    (hperm : xs.Perm zs) (hzs : List.Forall₂ (w.HoldsCounts K w) zs ws) :
    ((do
      let a ← ByKey.fold (.ofDepth (n + 7)) m .none vs
      let b ← ByKey.fold (.ofDepth (n + 7)) m .none us
      let c ← (Dispatch.ofDepth (n + 7)).call m [a, b]
      let e ← ByKey.fold (.ofDepth (n + 7)) m .none (vs' ++ us')
      Run.same c e : Run Bool).result w).1 = .ok true ∧
    ((do
      let a ← ByKey.fold (.ofDepth (n + 7)) m .none vs
      let b ← ByKey.fold (.ofDepth (n + 7)) m .none ws
      Run.same a b : Run Bool).result w).1 = .ok true := by
  obtain ⟨hassoc, hcomm⟩ := hf.laws
  have hlater : ∀ {ts : List Counts} {xs : List Value} {v : World}, w.Grows v →
      List.Forall₂ (w.HoldsCounts K w) ts xs → List.Forall₂ (w.HoldsCounts K v) ts xs :=
    fun hg h => h.imp fun _ _ hx => hx.later hg
  obtain ⟨w₁, a, ta, hfold, hw₁, ha, hnew, hta⟩ := result_fold (n := n) hK hm hf (.refl w) hxs
  constructor
  · obtain ⟨w₂, b, tb, hfold', hg, hb, hnew', htb⟩ :=
      result_fold (n := n) hK hm hf hw₁ (hlater hw₁ hys)
    have hw₂ := hw₁.trans hg
    -- the second part is a cell that was not there when the first one was done
    have hne : ∀ l, b = .ref l → a ≠ .ref l := by
      rintro l hl rfl
      have hla := (holds_counts hw₁ ha).lt_size
      exact Nat.not_lt.mpr (hnew' l hl) hla
    obtain ⟨w₃, c, hcall, hw₃, hc⟩ :=
      result_together (n := n) hK hm hf hw₂ (ha.later hg) hb hnew hne
    obtain ⟨w₄, e, te, hfold'', hg', he, -, hte⟩ := result_fold (n := n) hK hm hf hw₃
      (List.rel_append (hlater hw₃ hxs') (hlater hw₃ hys'))
    have hsame := result_same_of_summaries hK (hw₃.trans hg') (hc.later hg') he
      (hta.together hK htb) hte rfl (.refl _)
    rw [result_bind_ok _ hfold, result_bind_ok _ hfold', result_bind_ok _ hcall,
      result_bind_ok _ hfold'', hsame]
  · obtain ⟨w₂, b, tb, hfold', hg, hb, -, htb⟩ :=
      result_fold (n := n) hK hm hf hw₁ (hlater hw₁ hzs)
    have hsame := result_same_of_summaries hK (hw₁.trans hg) (ha.later hg) hb hta htb
      hperm.any_eq (.of_perm (hperm.flatMap_right _))
    rw [result_bind_ok _ hfold, result_bind_ok _ hfold', hsame]

end Keyed

/-- An aggregator of sums, and two dictionaries with a copy of each. -/
def tallying : World := { World.initial with
  heap := #[.object LibraryClass.sum.className none [],
    .object LibraryClass.binaryOperatorMap.className none [("binary_operator", .ref 0)],
    .dict [(.str "a", .int 1)], .dict [(.str "a", .none), (.str "b", .int 2)],
    .dict [(.str "a", .int 1)], .dict [(.str "a", .none), (.str "b", .int 2)]] }

theorem combinesBy_tallying : tallying.CombinesBy (.ref 1) (.ref 0) where
  isSet := rfl
  object := by
    have hmethods := methods_of_sameClasses (w := tallying) ⟨rfl, rfl⟩
    simp only [answering, List.forall_mem_cons] at hmethods
    obtain ⟨hcall, happly, hcombine, -⟩ := hmethods
    exact ⟨1, _, none, _, rfl, rfl, rfl, rfl, rfl, hcall, happly, hcombine⟩

theorem aggregatesBy_tallying : tallying.AggregatesBy (.ref 0) (· + ·) where
  number := by
    change (!World.initial.hierarchy.sub (.core "int") (.core "bool") &&
      World.initial.hierarchy.sub (.core "int") ⟨"numbers", "Number"⟩) = true
    rw [initial_tables.2.2.2.1, initial_tables.2.2.2.2]
    rfl
  object := by
    have hmethods := methods_of_sameClasses (w := tallying) ⟨rfl, rfl⟩
    simp only [answering, List.forall_mem_cons] at hmethods
    obtain ⟨-, -, -, hcall, happly, hcombine, haggregate, -⟩ := hmethods
    exact ⟨.sum, 0, _, none, _, rfl, rfl, rfl, rfl, rfl, rfl, hcall, happly, hcombine, haggregate⟩

/-- Sums of `{"a": 1}` with nothing, and of `{"a": None, "b": 2}`, taken together and in another order. -/
theorem tallying_partial_aggregation :
    ((do
      let a ← ByKey.fold .standard (.ref 1) .none [.ref 2, .none]
      let b ← ByKey.fold .standard (.ref 1) .none [.ref 3]
      let c ← Dispatch.standard.call (.ref 1) [a, b]
      let e ← ByKey.fold .standard (.ref 1) .none [.ref 4, .none, .ref 5]
      Run.same c e : Run Bool).result tallying).1 = .ok true ∧
    ((do
      let a ← ByKey.fold .standard (.ref 1) .none [.ref 2, .none]
      let b ← ByKey.fold .standard (.ref 1) .none [.none, .ref 4]
      Run.same a b : Run Bool).result tallying).1 = .ok true := by
  have hkey : ∀ s, Datum.IsPlainKey (.atom (.str s)) := fun s => ⟨.str s, rfl, rfl⟩
  have hone : ∀ l, tallying.heap[l]? = some (.dict [(.str "a", .int 1)]) →
      tallying.HoldsCounts Datum.IsPlainKey tallying (some [(.atom (.str "a"), some 1)]) (.ref l) :=
    fun l hl => ⟨l, _, rfl, hl, .cons ⟨hkey "a", rfl, rfl⟩ .nil⟩
  have htwo : ∀ l, tallying.heap[l]? = some (.dict [(.str "a", .none), (.str "b", .int 2)]) →
      tallying.HoldsCounts Datum.IsPlainKey tallying
        (some [(.atom (.str "a"), none), (.atom (.str "b"), some 2)]) (.ref l) :=
    fun l hl => ⟨l, _, rfl, hl, .cons ⟨hkey "a", rfl, rfl⟩ (.cons ⟨hkey "b", rfl, rfl⟩ .nil)⟩
  have hnothing : tallying.HoldsCounts Datum.IsPlainKey tallying none .none := rfl
  have h := Keyed.partial_aggregation_safe (n := 993) Datum.areKeys_plain combinesBy_tallying
    aggregatesBy_tallying (.cons (hone 2 rfl) (.cons hnothing .nil)) (.cons (htwo 3 rfl) .nil)
    (.cons (hone 4 rfl) (.cons hnothing .nil)) (.cons (htwo 5 rfl) .nil)
    (.swap none _ []) (.cons hnothing (.cons (hone 4 rfl) .nil))
  exact h

end FunctionObjects
