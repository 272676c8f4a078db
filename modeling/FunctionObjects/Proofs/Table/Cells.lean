import Mathlib.Data.List.DropRight
import FunctionObjects.Table.Delimited
/-!
# Cells of a table

The cells of a row that count are those up to its last one which is filled; the rows without a filled cell
make no record.  The reader of delimited text gives each row a cell for each column.
-/

namespace FunctionObjects.Table

/-! ## What is present in a row -/

/-- Whether a cell holds a text that is not empty. -/
def isFilled (c : Option String) : Bool := c.getD "" != ""

/-- The cells up to the last one that is filled are present, and a missing one before it is empty. -/
theorem present_append {front back : List (Option String)} {s : String} (hs : s ≠ "")
    (hback : ∀ c ∈ back, isFilled c = false) :
    present (front ++ some s :: back) = front.map (·.getD "") ++ [s] := by
  have hblank : ∀ c ∈ back.reverse, (c.getD "" == "") = true := fun c hc => by
    simpa [isFilled] using hback c (List.mem_reverse.mp hc)
  rw [present, List.reverse_append, List.reverse_cons, List.append_assoc,
    List.dropWhile_append_of_pos hblank, List.singleton_append,
    List.dropWhile_cons_of_neg (by simpa using hs)]
  simp

/-- A row with a filled cell ends with one and cells that are not filled. -/
theorem exists_last_filled {row : List (Option String)} (h : row.any isFilled = true) :
    ∃ front s back, row = front ++ some s :: back ∧ s ≠ "" ∧ ∀ c ∈ back, isFilled c = false := by
  induction row with
  | nil => cases h
  | cons c row ih =>
    by_cases hrow : row.any isFilled = true
    · obtain ⟨front, s, back, rfl, hs, hback⟩ := ih hrow
      exact ⟨c :: front, s, back, rfl, hs, hback⟩
    · have hc : isFilled c = true := by simpa [hrow] using h
      cases c with
      | none => cases hc
      | some s => exact ⟨[], s, row, rfl, by simpa [isFilled] using hc, by simpa using hrow⟩

/-- Nothing is present in a row without a filled cell. -/
theorem isEmpty_present (row : List (Option String)) :
    (present row).isEmpty = !row.any isFilled := by
  cases hrow : row.any isFilled with
  | true =>
    obtain ⟨front, s, back, rfl, hs, hback⟩ := exists_last_filled hrow
    simp [present_append hs hback]
  | false =>
    have hblank : ∀ c ∈ row.reverse, (c.getD "" == "") = true := by
      simpa [isFilled] using hrow
    rw [present, List.dropWhile_eq_nil_iff.mpr hblank]
    rfl

/-- The records of a table are what is present in the rows with a filled cell. -/
theorem records_eq (table : Grid) :
    table.records = (table.rows.filter (·.any isFilled)).map present := by
  rw [Grid.records, List.filter_map]
  refine congrArg _ (List.filter_congr fun row _ => ?_)
  rw [Function.comp_apply, isEmpty_present, Bool.not_not]

/-! ## Width -/

/-- A reader of tables all rows of which have a cell for each column. -/
def Rectangular (read : Layout → Nat → List Char → Option Grid) : Prop :=
  ∀ l skip cs table, read l skip cs = some table → ∀ row ∈ table.rows, row.length = table.columns

theorem length_of_fit? {columns : Nat} {cells : List Cell} {row : List (Option String)}
    (h : fit? columns cells = some row) : row.length = columns := by
  rw [fit?] at h
  split at h
  · obtain rfl := Option.some.inj h
    rw [List.length_append, List.length_map, List.length_replicate]
    omega
  · split at h
    · obtain rfl := Option.some.inj h
      rw [List.length_take, List.length_map]
      omega
    · cases h

theorem length_of_mapM_fit? {columns : Nat} {cells : List (List Cell)} {fitted : List (List (Option String))}
    (h : cells.mapM (fit? columns) = some fitted) : ∀ row ∈ fitted, row.length = columns := by
  induction cells generalizing fitted with
  | nil =>
    obtain rfl : [] = fitted := by simpa using h
    exact nofun
  | cons first cells ih =>
    simp only [List.mapM_cons, Option.bind_eq_bind, Option.bind_eq_some_iff] at h
    obtain ⟨row, hrow, rows, hrows, hcons⟩ := h
    obtain rfl : row :: rows = fitted := by simpa using hcons
    exact List.forall_mem_cons.mpr ⟨length_of_fit? hrow, ih hrows⟩

theorem rectangular_read? : Rectangular Grid.read? := by
  intro l skip cs table h
  obtain ⟨rows, -, h⟩ := Option.bind_eq_some_iff.mp h
  dsimp only at h
  cases hrows : rows.drop skip with
  | nil =>
    rw [hrows] at h
    obtain rfl := Option.some.inj h
    exact nofun
  | cons first rest =>
    rw [hrows] at h
    obtain ⟨fitted, hfitted, h⟩ := Option.bind_eq_some_iff.mp h
    obtain rfl := Option.some.inj h
    exact length_of_mapM_fit? hfitted

end FunctionObjects.Table
