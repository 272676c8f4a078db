import FunctionObjects.Proofs.Chain.Unpacking
import FunctionObjects.Proofs.State.Around
/-!
# Operators on whole numbers

The operators that aggregate numbers give on whole numbers what the operation of their class says, and
leave one side if the other one is nothing.  They do not touch the state.
-/

namespace FunctionObjects

open Run World

/-- What the class of an operator does with two whole numbers. -/
def LibraryClass.aggregate? : LibraryClass → Option (Int → Int → Int)
  | .sum => some (· + ·)
  | .product => some (· * ·)
  | .greatest => some max
  | .least => some min
  | _ => none

/-- A whole number or nothing, as a value. -/
def Value.number : Option Int → Value
  | .none => .none
  | some n => .int n

/-- An object of a class that leaves everything to one of the library's operators on numbers, in a state
in which whole numbers are numbers. -/
structure World.AggregatesBy (w : World) (f : Value) (g : Int → Int → Int) : Prop where
  number : Aggregation.isNumber w (.int 0) = true
  object : ∃ k l c o as, LibraryClass.aggregate? k = some g ∧ f = .ref l ∧
    w.heap[l]? = some (.object c o as) ∧
    as.lookup "apply" = none ∧ as.lookup "_apply" = none ∧ as.lookup "_aggregate" = none ∧
    w.member? c "__call__" = some (.library .binaryOperator .method) ∧
    w.member? c "apply" = some (.library .binaryOperator .method) ∧
    w.member? c "_apply" = some (.library .numericAggregateFunction .method) ∧
    w.member? c "_aggregate" = some (.library k .method)

/-- The order in which whole numbers are aggregated does not count. -/
theorem World.AggregatesBy.laws {w : World} {f : Value} {g : Int → Int → Int}
    (h : w.AggregatesBy f g) : Std.Associative g ∧ Std.Commutative g := by
  obtain ⟨k, -, -, -, -, hk, -⟩ := h.object
  cases k with
  | sum =>
    obtain rfl := Option.some.inj hk
    exact ⟨⟨Int.add_assoc⟩, ⟨Int.add_comm⟩⟩
  | product =>
    obtain rfl := Option.some.inj hk
    exact ⟨⟨Int.mul_assoc⟩, ⟨Int.mul_comm⟩⟩
  | greatest =>
    obtain rfl := Option.some.inj hk
    exact ⟨⟨max_assoc⟩, ⟨max_comm⟩⟩
  | least =>
    obtain rfl := Option.some.inj hk
    exact ⟨⟨min_assoc⟩, ⟨min_comm⟩⟩
  | _ => cases hk

namespace Aggregation

variable {w : World} {f : Value} {g : Int → Int → Int} {n : Nat}

theorem accepts_lt (m n : Int) : Rel.lt.accepts (compare m n) = decide (m < n) := by
  rw [Rel.accepts, Bool.eq_iff_iff, beq_iff_eq, decide_eq_true_iff]
  exact compare_lt_iff_lt

theorem accepts_gt (m n : Int) : Rel.gt.accepts (compare m n) = decide (n < m) := by
  rw [Rel.accepts, Bool.eq_iff_iff, beq_iff_eq, decide_eq_true_iff]
  exact compare_gt_iff_gt

/-- Whole numbers are related by their order. -/
theorem rel_int (sub : ClassName → ClassName → Bool) (r : Rel) (m n : Int) :
    Datum.rel sub r (.atom (.int m)) (.atom (.int n)) = .ok (r.accepts (compare m n)) := by
  rw [Datum.rel]
  simp [Atom.rel, Atom.real?, Magnitude.ofInt, Magnitude.compare?]
  rfl

/-- What the class of an operator does with two whole numbers is the operation of its class. -/
theorem result_aggregate {k : LibraryClass} (hk : k.aggregate? = some g) (d : Dispatch) (self : Value)
    (m n : Int) :
    (Method.ofLibrary d k "_aggregate" self [.int m, .int n]).result w =
      (.ok (.int (g m n)), w) := by
  have hread : ∀ i : Int, w.read (.int i) = .atom (.int i) := fun _ => rfl
  have hholds : ∀ (r : Rel) (i j : Int),
      (Run.holds r (.int i) (.int j)).result w = (.ok (r.accepts (compare i j)), w) := by
    intro r i j
    rw [Run.holds, result_bind_ok _ (result_get w), hread, hread, rel_int]
    rfl
  cases k with
  | sum =>
    obtain rfl := Option.some.inj hk
    rfl
  | product =>
    obtain rfl := Option.some.inj hk
    rfl
  | greatest =>
    obtain rfl := Option.some.inj hk
    change (greatest (.int m) (.int n)).result w = _
    rw [greatest, result_bind_ok _ (hholds .gt n m), accepts_gt]
    by_cases h : m < n
    · simp [h, max_eq_right h.le]
    · simp [h, max_eq_left (not_lt.mp h)]
  | least =>
    obtain rfl := Option.some.inj hk
    change (least (.int m) (.int n)).result w = _
    rw [least, result_bind_ok _ (hholds .lt n m), accepts_lt]
    by_cases h : n < m
    · simp [h, min_eq_right h.le]
    · simp [h, min_eq_left (not_lt.mp h)]
  | _ => cases hk

/-- A number passes the check for numbers. -/
theorem result_requireNumber (h : isNumber w (.int 0) = true) (self : Value) (n : Int) :
    (requireNumber self (.int n)).result w = (.ok (), w) := by
  have hn : isNumber w (.int n) = true := h
  rw [requireNumber, result_bind_ok _ (result_get w), hn]
  rfl

/-- Called with numbers or nothing on either side, an operator gives the outcome of its class for two
numbers and the side that is there otherwise. -/
theorem result_call_number (h : w.AggregatesBy f g) (a b : Option Int) :
    ((Dispatch.ofDepth (n + 4)).call f [.number a, .number b]).result w =
      (.ok (.number (Option.merge g a b)), w) := by
  obtain ⟨k, l, c, o, as, hk, rfl, hcell, happly, happly', haggregate, hcall, hmember, hmember',
    hmember''⟩ := h.object
  rw [Dispatch.result_call_object (n + 3) hcell hcall]
  change ((Dispatch.ofDepth (n + 3)).method (.ref l) "apply" [.number a, .number b]).result w = _
  rw [Dispatch.result_method_object (n + 2) hcell hmember happly]
  change (applyOperator (.ofDepth (n + 2)) (.ref l) (.number a) (.number b)).result w = _
  match a, b with
  | .none, .none => rfl
  | .none, some _ => rfl
  | some _, .none => rfl
  | some x, some y =>
    change ((Dispatch.ofDepth (n + 2)).method (.ref l) "_apply" [.int x, .int y]).result w = _
    rw [Dispatch.result_method_object (n + 1) hcell hmember' happly']
    change (apply (.ofDepth (n + 1)) (.ref l) (.int x) (.int y)).result w = _
    rw [apply, result_bind_ok _ (result_requireNumber h.number _ x),
      result_bind_ok _ (result_requireNumber h.number _ y),
      Dispatch.result_method_object n hcell hmember'' haggregate, result_aggregate hk]
    rfl

end Aggregation

end FunctionObjects
