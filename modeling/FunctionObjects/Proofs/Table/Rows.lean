import Mathlib.Data.List.DropRight
import FunctionObjects.Proofs.Table.Cells
/-!
# Reading rows back

Cells that hold neither delimiters nor line feeds are read back from the rows into which they are tableText.
The first row fixes the width of the table: a shorter row is filled up, and what is filled in is dropped
again when the cells that are present are taken, but a row that is longer makes the table unreadable.
-/

namespace FunctionObjects.Table

variable {d : Char} {cell rest tail : List Char} {row : List (List Char)} {rows : List (List (List Char))}
  {n : Nat}

/-- A cell as it is read where nothing is quoted. -/
def Cell.plain (s : List Char) : Cell := ⟨s, s.isEmpty⟩

/-- A cell that can be told from what stands around it. -/
def IsApart (d : Char) (cell : List Char) : Prop := d ∉ cell ∧ '\n' ∉ cell

instance (d : Char) (cell : List Char) : Decidable (IsApart d cell) :=
  inferInstanceAs (Decidable (_ ∧ _))

/-- A row of such cells that ends with one which is not empty, and not with a carriage return. -/
structure IsRow (d : Char) (row : List (List Char)) : Prop where
  apart : ∀ cell ∈ row, IsApart d cell
  ended : ∃ last c, row.getLast? = some last ∧ last.getLast? = some c ∧ c ≠ '\r'

/-- The line of a row. -/
def line (d : Char) (row : List (List Char)) : List Char := [d].intercalate row

/-- The text of rows. -/
def textOf (d : Char) (rows : List (List (List Char))) : List Char := ['\n'].intercalate (rows.map (line d))

/-! ## Cells -/

/-- A cell is read to its end. -/
theorem plainCell_append (hcell : IsApart d cell)
    (hend : rest.head? = some '\n' → cell.getLast? ≠ some '\r') :
    plainCell d (cell ++ rest) = (cell ++ (plainCell d rest).1, (plainCell d rest).2) := by
  induction cell with
  | nil => rfl
  | cons c cs ih =>
    obtain ⟨hd, hn⟩ := hcell
    rw [List.mem_cons, not_or] at hd hn
    have hreturn : (c == '\r' && (cs ++ rest).head? == some '\n') = false := by
      cases cs with
      | nil =>
        by_cases hc : c = '\r'
        · simpa [hc] using hend
        · simp [hc]
      | cons e cs =>
        have he : '\n' ≠ e := fun h => hn.2 (h ▸ List.mem_cons_self)
        simp [he.symm]
    have htail : rest.head? = some '\n' → cs.getLast? ≠ some '\r' := by
      intro h hlast
      refine hend h ?_
      cases cs with
      | nil => cases hlast
      | cons => exact hlast
    rw [List.cons_append, plainCell, if_neg (by simpa using Ne.symm hd.1),
      if_neg (by simpa using Ne.symm hn.1), hreturn, if_neg Bool.false_ne_true,
      ih ⟨hd.2, hn.2⟩ htail]
    rfl

theorem cell?_append (hcell : IsApart d cell)
    (hend : rest.head? = some '\n' → cell.getLast? ≠ some '\r') (hrest : (plainCell d rest).1 = []) :
    cell? ⟨d, none⟩ (cell ++ rest) = some (.plain cell, (plainCell d rest).2) := by
  simp only [cell?, plainCell_append hcell hend, hrest, List.append_nil]
  rfl

/-! ## Rows -/

/-- What follows a row: nothing, or the next line after a line feed. -/
def IsNext (tail : List Char) : Prop := tail = [] ∨ tail.head? = some '\n'

theorem plainCell_next (hd : d ≠ '\n') (h : IsNext tail) :
    (plainCell d tail).1 = [] ∧ (plainCell d tail).2.1 ≠ .delimiter ∧
      (plainCell d tail).2.2 = tail.drop 1 := by
  cases tail with
  | nil => exact ⟨rfl, nofun, rfl⟩
  | cons c cs =>
    obtain rfl : c = '\n' := by simpa [IsNext] using h
    rw [plainCell, if_neg (by simpa using hd.symm)]
    exact ⟨rfl, nofun, rfl⟩

/-- A row is read back from its line. -/
theorem row?_line (hd : d ≠ '\n') (hrow : IsRow d row) (htail : IsNext tail) (hn : row.length ≤ n) :
    row? ⟨d, none⟩ n (line d row ++ tail) = some (row.map .plain, tail.drop 1) := by
  obtain ⟨hempty, hstop, hdrop⟩ := plainCell_next hd htail
  induction row generalizing n with
  | nil =>
    obtain ⟨last, c, hlast, -⟩ := hrow.ended
    cases hlast
  | cons cell row ih =>
    obtain ⟨n, rfl⟩ : ∃ m, n = m + 1 := ⟨n - 1, by rw [List.length_cons] at hn; omega⟩
    have hcell := hrow.apart cell List.mem_cons_self
    cases row with
    | nil =>
      obtain ⟨last, c, hlast, hc, hreturn⟩ := hrow.ended
      obtain rfl : cell = last := Option.some.inj hlast
      have hend : cell.getLast? ≠ some '\r' := by simpa [hc] using hreturn
      rw [line, List.intercalate_singleton, row?, cell?_append hcell (fun _ => hend) hempty]
      generalize hrest : (plainCell d tail).2 = stopped at hstop hdrop
      obtain ⟨stop, rest⟩ := stopped
      cases stop with
      | delimiter => exact absurd rfl hstop
      | line | input => exact congrArg (fun r => some ([Cell.plain cell], r)) hdrop
    | cons next row =>
      have hrest : IsRow d (next :: row) :=
        ⟨fun cell h => hrow.apart cell (List.mem_cons_of_mem _ h), by simpa using hrow.ended⟩
      have hsplit : line d (cell :: next :: row) ++ tail = cell ++ d :: (line d (next :: row) ++ tail) := by
        simp [line, List.intercalate_cons_cons]
      have hread : cell? ⟨d, none⟩ (cell ++ d :: (line d (next :: row) ++ tail)) =
          some (.plain cell, .delimiter, line d (next :: row) ++ tail) := by
        refine (cell?_append hcell ?_ ?_).trans ?_
        · exact fun h => absurd (Option.some.inj h) hd
        · simp [plainCell]
        · simp [plainCell]
      rw [hsplit, row?, hread]
      have hmore := ih hrest (Nat.le_of_succ_le_succ hn)
      simp only [hmore, Option.bind_eq_bind, Option.bind_some]
      rfl

/-! ## Tables -/

theorem length_le_line (row : List (List Char)) : row.length ≤ (line d row).length + 1 := by
  induction row with
  | nil => exact Nat.zero_le _
  | cons cell row ih =>
    cases row with
    | nil => exact Nat.le_add_left _ _
    | cons next row =>
      simp only [line, List.intercalate_cons_cons, List.length_append, List.length_cons,
        List.length_nil] at ih ⊢
      omega

theorem IsRow.line_ne_nil (h : IsRow d row) : line d row ≠ [] := by
  obtain ⟨last, c, hlast, hc, -⟩ := h.ended
  cases row with
  | nil => cases hlast
  | cons cell row =>
    cases row with
    | nil =>
      obtain rfl : cell = last := Option.some.inj hlast
      rw [line, List.intercalate_singleton]
      rintro rfl
      cases hc
    | cons next row => simp [line, List.intercalate_cons_cons]

theorem textOf_cons (row : List (List Char)) (rows : List (List (List Char))) : ∃ tail,
    textOf d (row :: rows) = line d row ++ tail ∧ IsNext tail ∧ tail.drop 1 = textOf d rows := by
  cases rows with
  | nil => exact ⟨[], by simp [textOf], .inl rfl, rfl⟩
  | cons next rows =>
    exact ⟨'\n' :: textOf d (next :: rows), by simp [textOf, List.intercalate_cons_cons], .inr rfl, rfl⟩

/-- Each row takes a character at least. -/
theorem length_le_textOf (h : ∀ row ∈ rows, IsRow d row) : rows.length ≤ (textOf d rows).length := by
  induction rows with
  | nil => exact Nat.zero_le _
  | cons row rows ih =>
    obtain ⟨tail, htext, -, hdrop⟩ := textOf_cons (d := d) row rows
    have hline := List.length_pos_iff.mpr (h row List.mem_cons_self).line_ne_nil
    have hrest := ih fun row hr => h row (List.mem_cons_of_mem _ hr)
    rw [← hdrop, List.length_drop] at hrest
    rw [htext, List.length_append, List.length_cons]
    omega

/-- Rows are read back from their text. -/
theorem rows?_textOf (hd : d ≠ '\n') (h : ∀ row ∈ rows, IsRow d row) (hn : rows.length < n) :
    rows? ⟨d, none⟩ n (textOf d rows) = some (rows.map (·.map .plain)) := by
  induction rows generalizing n with
  | nil =>
    obtain ⟨n, rfl⟩ : ∃ m, n = m + 1 := ⟨n - 1, by omega⟩
    rfl
  | cons row rows ih =>
    obtain ⟨n, rfl⟩ : ∃ m, n = m + 1 := ⟨n - 1, by omega⟩
    obtain ⟨tail, htext, htail, hdrop⟩ := textOf_cons (d := d) row rows
    have hrow := h row List.mem_cons_self
    have hne : textOf d (row :: rows) ≠ [] := by
      rw [htext]
      exact List.append_ne_nil_of_left_ne_nil hrow.line_ne_nil _
    have hfuel : row.length ≤ (textOf d (row :: rows)).length + 1 := by
      have := length_le_line (d := d) row
      rw [htext, List.length_append]
      omega
    have hread : row? ⟨d, none⟩ ((textOf d (row :: rows)).length + 1) (textOf d (row :: rows)) =
        some (row.map .plain, textOf d rows) := by
      rw [← hdrop]
      generalize (textOf d (row :: rows)).length + 1 = m at hfuel ⊢
      rw [htext]
      exact row?_line hd hrow htail hfuel
    have hmore := ih (fun row hr => h row (List.mem_cons_of_mem _ hr)) (Nat.lt_of_succ_lt_succ hn)
    rw [rows?, hread]
    · simp only [hmore, Option.bind_eq_bind, Option.bind_some]
      rfl
    · exact hne

/-- A shorter row is filled up, and a longer one that ends with a cell does not fit. -/
theorem fit?_plain {columns : Nat} (h : IsRow d row) : fit? columns (row.map .plain) =
    if row.length ≤ columns then
      some (row.map (fun s => some (String.ofList s)) ++ List.replicate (columns - row.length) none)
    else none := by
  obtain ⟨last, c, hlast, hc, -⟩ := h.ended
  have hblank : last.isEmpty = false := by
    cases last with
    | nil => cases hc
    | cons => rfl
  have hfull : (row.map Cell.plain).getLast?.any (·.blank) = false := by
    rw [List.getLast?_map, hlast]
    exact hblank
  rw [fit?, hfull]
  simp [List.map_map, Function.comp_def, Cell.plain]

/-- Of a row that has been filled up, the cells of the row are present. -/
theorem present_filled {texts : List String} {last : String} (hlast : texts.getLast? = some last)
    (hne : last ≠ "") (k : Nat) : present (texts.map some ++ List.replicate k none) = texts := by
  obtain ⟨init, rfl⟩ := List.getLast?_eq_some_iff.mp hlast
  have hnone : ∀ c ∈ List.replicate k (none : Option String), isFilled c = false := fun c hc => by
    rw [List.eq_of_mem_replicate hc]
    rfl
  rw [List.map_append, List.map_singleton, List.append_assoc, List.singleton_append,
    present_append hne hnone, List.map_map]
  simp [Function.comp_def]

/-! ## Texts -/

/-- A record: its cells hold neither delimiters nor line feeds nor marks of byte order, and no white space at
their ends, and the last one is not empty. -/
structure IsRecord (d : Char) (record : List String) : Prop where
  apart : ∀ cell ∈ record, IsApart d cell.toList
  unmarked : ∀ cell ∈ record, '\ufeff' ∉ cell.toList
  stripped : ∀ cell ∈ record, Text.strip cell.toList = cell.toList
  ended : ∃ last, record.getLast? = some last ∧ last ≠ ""

/-- The text of records. -/
def tableText (d : Char) (records : List (List String)) : String :=
  String.intercalate "\n" (records.map (String.intercalate (String.singleton d)))

variable {first record : List String} {records : List (List String)}

theorem toList_tableText (records : List (List String)) :
    (tableText d records).toList = textOf d (records.map (·.map String.toList)) := by
  have hline : ∀ record : List String, (String.intercalate (String.singleton d) record).toList =
      line d (record.map String.toList) := fun record => by
    rw [String.toList_intercalate, String.toList_singleton, line]
  have hfeed : "\n".toList = ['\n'] := by decide
  rw [tableText, String.toList_intercalate, hfeed, textOf, List.map_map, List.map_map]
  exact congrArg _ (List.map_congr_left fun record _ => hline record)

/-- A text with a character that is not blank is not blank. -/
theorem strip_ne_nil {cs : List Char} {c : Char} (hmem : c ∈ cs) (hc : Text.isBlank c = false) :
    Text.strip cs ≠ [] := by
  intro hstrip
  have hall : ∀ e ∈ cs.dropWhile Text.isBlank, Text.isBlank e = true := List.rdropWhile_eq_nil_iff.mp hstrip
  by_cases hnil : cs.dropWhile Text.isBlank = []
  · simp [List.dropWhile_eq_nil_iff.mp hnil c hmem] at hc
  · have hhead := List.head_dropWhile_not Text.isBlank hnil
    simp [hall _ (List.head_mem hnil)] at hhead

/-- What has no white space at its ends does not end with it. -/
theorem not_isBlank_of_strip {cs : List Char} {c : Char} (h : Text.strip cs = cs)
    (hc : cs.getLast? = some c) : Text.isBlank c = false := by
  have hstrip : Text.strip cs = (cs.dropWhile Text.isBlank).rdropWhile Text.isBlank := rfl
  have hne : (cs.dropWhile Text.isBlank).rdropWhile Text.isBlank ≠ [] := by
    rintro hnil
    rw [← h, hstrip, hnil] at hc
    cases hc
  have hlast := List.rdropWhile_last_not Text.isBlank _ hne
  have hget : ((cs.dropWhile Text.isBlank).rdropWhile Text.isBlank).getLast? = some c := by
    rwa [← hstrip, h]
  rw [List.getLast?_eq_some_getLast hne, Option.some.injEq] at hget
  rw [hget] at hlast
  exact Bool.eq_false_iff.mpr hlast

theorem of_mem_line {c : Char} (h : c ∈ line d row) : c = d ∨ ∃ cell ∈ row, c ∈ cell := by
  induction row with
  | nil => cases h
  | cons cell row ih =>
    cases row with
    | nil =>
      rw [line, List.intercalate_singleton] at h
      exact .inr ⟨cell, List.mem_cons_self, h⟩
    | cons next row =>
      simp only [line, List.intercalate_cons_cons, List.mem_append, List.mem_singleton] at h ih
      obtain (h | h) | h := h
      · exact .inr ⟨cell, List.mem_cons_self, h⟩
      · exact .inl h
      · obtain h | ⟨e, he, h⟩ := ih h
        · exact .inl h
        · exact .inr ⟨e, List.mem_cons_of_mem _ he, h⟩

theorem mem_line {c : Char} (hcell : cell ∈ row) (hc : c ∈ cell) : c ∈ line d row := by
  induction row with
  | nil => cases hcell
  | cons e row ih =>
    cases row with
    | nil =>
      rw [line, List.intercalate_singleton]
      exact List.mem_singleton.mp hcell ▸ hc
    | cons next row =>
      simp only [line, List.intercalate_cons_cons, List.mem_append] at ih ⊢
      obtain rfl | hcell := List.mem_cons.mp hcell
      · exact .inl (.inl hc)
      · exact .inr (ih hcell)

namespace IsRecord

/-- The last cell of a record ends with a character that is not blank. -/
theorem last (h : IsRecord d record) : ∃ last c, record.getLast? = some last ∧
    last.toList.getLast? = some c ∧ Text.isBlank c = false := by
  obtain ⟨last, hlast, hne⟩ := h.ended
  cases hend : last.toList.getLast? with
  | none => exact absurd (String.toList_eq_nil_iff.mp (List.getLast?_eq_none_iff.mp hend)) hne
  | some c =>
    exact ⟨last, c, hlast, hend, not_isBlank_of_strip (h.stripped last (List.mem_of_getLast? hlast)) hend⟩

theorem isRow (h : IsRecord d record) : IsRow d (record.map String.toList) := by
  refine ⟨?_, ?_⟩
  · intro cell hcell
    obtain ⟨s, hs, rfl⟩ := List.mem_map.mp hcell
    exact h.apart s hs
  · obtain ⟨last, c, hlast, hc, hblank⟩ := h.last
    refine ⟨last.toList, c, by rw [List.getLast?_map, hlast]; rfl, hc, ?_⟩
    rintro rfl
    revert hblank
    decide

/-- A text that starts with a record is not blank. -/
theorem strip_tableText (h : IsRecord d record) :
    (Text.strip (tableText d (record :: records)).toList).isEmpty = false := by
  obtain ⟨last, c, hlast, hc, hblank⟩ := h.last
  obtain ⟨tail, htext, -⟩ := textOf_cons (d := d) (record.map String.toList)
    (records.map (·.map String.toList))
  have hmem : c ∈ (tableText d (record :: records)).toList := by
    rw [toList_tableText, List.map_cons, htext]
    exact List.mem_append_left _ (mem_line
      (List.mem_map_of_mem (List.mem_of_getLast? hlast)) (List.mem_of_getLast? hc))
  exact List.isEmpty_eq_false_iff.mpr (strip_ne_nil hmem hblank)

/-- A text that starts with a record does not start with a mark of byte order. -/
theorem head?_tableText (hascii : d.toNat < 128) (h : IsRecord d record) :
    ((tableText d (record :: records)).toList.head? == some '\ufeff') = false := by
  obtain ⟨tail, htext, -⟩ := textOf_cons (d := d) (record.map String.toList)
    (records.map (·.map String.toList))
  rw [toList_tableText, List.map_cons, htext, beq_eq_false_iff_ne]
  intro hhead
  have hmem : '\ufeff' ∈ line d (record.map String.toList) := by
    cases hline : line d (record.map String.toList) with
    | nil => exact absurd hline h.isRow.line_ne_nil
    | cons c cs =>
      rw [hline] at hhead
      exact Option.some.inj hhead ▸ List.mem_cons_self
  obtain rfl | ⟨cell, hcell, hmark⟩ := of_mem_line hmem
  · revert hascii
    decide
  · obtain ⟨s, hs, rfl⟩ := List.mem_map.mp hcell
    exact h.unmarked s hs hmark

end IsRecord

/-- The row of a table that a record fills up to the width of the table. -/
def filled (columns : Nat) (record : List String) : List (Option String) :=
  record.map some ++ List.replicate (columns - record.length) none

/-- The cells of a record as they are read. -/
def cellsOf (record : List String) : List Cell := (record.map String.toList).map .plain

theorem fit?_cellsOf {columns : Nat} (h : IsRecord d record) : fit? columns (cellsOf record) =
    if record.length ≤ columns then some (filled columns record) else none := by
  rw [cellsOf, fit?_plain h.isRow]
  simp [filled, List.map_map, Function.comp_def]

theorem mapM_fit? (h : ∀ record ∈ records, IsRecord d record) (columns : Nat) :
    (records.map cellsOf).mapM (fit? columns) =
      if ∀ record ∈ records, record.length ≤ columns then some (records.map (filled columns)) else none := by
  induction records with
  | nil => simp
  | cons record records ih =>
    have hrest := ih fun record hr => h record (List.mem_cons_of_mem _ hr)
    rw [List.map_cons, List.mapM_cons, fit?_cellsOf (h record List.mem_cons_self), hrest]
    simp only [List.forall_mem_cons]
    by_cases hfits : record.length ≤ columns
    · by_cases hall : ∀ record ∈ records, record.length ≤ columns
      · rw [if_pos hfits, if_pos hall, if_pos ⟨hfits, hall⟩]
        rfl
      · rw [if_pos hfits, if_neg hall, if_neg (mt And.right hall)]
        rfl
    · rw [if_neg hfits, if_neg (mt And.left hfits)]
      rfl

theorem records_filled (h : ∀ record ∈ records, IsRecord d record) (columns : Nat) :
    Grid.records ⟨columns, records.map (filled columns)⟩ = records := by
  have hpresent : ∀ record ∈ records, (present ∘ filled columns) record = id record := by
    intro record hr
    obtain ⟨last, hlast, hne⟩ := (h record hr).ended
    exact present_filled hlast hne _
  have hkept : ∀ record ∈ records, (!record.isEmpty) = true := by
    intro record hr
    obtain ⟨last, hlast, -⟩ := (h record hr).ended
    cases record with
    | nil => cases hlast
    | cons => rfl
  rw [Grid.records, List.map_map, List.map_congr_left hpresent, List.map_id,
    List.filter_eq_self.mpr hkept]

/-- Records are read from their text unless one of them is longer than the first one. -/
theorem read?_tableText (hd : d ≠ '\n') (hascii : d.toNat < 128)
    (h : ∀ record ∈ first :: records, IsRecord d record) :
    (Grid.read? ⟨d, none⟩ 0 (tableText d (first :: records)).toList).map (fun g => (g.columns, g.records)) =
      if ∀ record ∈ records, record.length ≤ first.length then
        some (first.length, first :: records)
      else none := by
  have hrows : rows? ⟨d, none⟩ ((tableText d (first :: records)).toList.length + 1)
      (tableText d (first :: records)).toList = some ((first :: records).map cellsOf) := by
    have hisRow : ∀ row ∈ (first :: records).map (·.map String.toList), IsRow d row := by
      intro row hrow
      obtain ⟨record, hr, rfl⟩ := List.mem_map.mp hrow
      exact (h record hr).isRow
    rw [toList_tableText, rows?_textOf hd hisRow (Nat.lt_succ_of_le (length_le_textOf hisRow)), List.map_map]
    rfl
  have hlength : (cellsOf first).length = first.length := by simp [cellsOf]
  have hmapM := mapM_fit? h first.length
  rw [Grid.read?, (h first List.mem_cons_self).head?_tableText hascii]
  simp only [Bool.false_eq_true, if_false, hrows, Option.bind_eq_bind, Option.bind_some, List.drop_zero,
    List.map_cons] at hmapM ⊢
  rw [hlength, hmapM]
  simp only [List.forall_mem_cons, le_refl, true_and]
  by_cases hall : ∀ record ∈ records, record.length ≤ first.length
  · rw [if_pos hall, if_pos hall]
    exact congrArg (fun rs => some (first.length, rs)) (records_filled h first.length)
  · rw [if_neg hall, if_neg hall]
    rfl

end FunctionObjects.Table
