import FunctionObjects.Proofs.Table.Records
/-!
# What readers of tables give and what they refuse

Whatever table is read of a text, every row with a filled cell becomes one dictionary, and no other row
does.  A dictionary goes up to the last filled cell of its row.

The constructors accept every character to tell cells apart by and every number of rows to skip, but what
reads the table does not.  What it refuses by itself is no refusal of the library; short of that, a reader
of tables gives a list or refuses a text as one that cannot be read.
-/

namespace FunctionObjects.Tables

open Run World Table

variable {w u : World} {F x y : Value} {k : LibraryClass} {header : List String} {skip n : Nat}
  {l : Layout} {r : Ref} {table : Grid} {e : Fault} {text : String} {read : Reader}

/-! ## Shapes -/

/-- The dictionary of a row with a filled cell: the first names of the header, up to the last such cell,
have as texts under them what is in the cells, and nothing where a cell is missing. -/
def IsDictOf (header : List String) (row : List (Option String)) (t : Datum) : Prop :=
  ∃ front s back es, row = front ++ some s :: back ∧ s ≠ "" ∧ (∀ c ∈ back, isFilled c = false) ∧
    front.length + 1 ≤ header.length ∧ t = .dict es ∧
    es.map (·.1) = (header.take (front.length + 1)).map (fun name => .atom (.str name)) ∧
    es.map (·.2) = (front.map (·.getD "") ++ [s]).map (fun cell => .atom (.str cell))

/-- A list of the dictionaries of the rows with a filled cell, in order. -/
def Shaped (u : World) (header : List String) (table : Grid) (y : Value) : Prop :=
  ∃ ts, u.Holds (.list ts) y ∧
    List.Forall₂ (IsDictOf header) (table.rows.filter (·.any isFilled)) ts

theorem isDictOf_present {row : List (Option String)} (hrow : row.any isFilled = true)
    (hwidth : row.length ≤ header.length) : IsDictOf header row (dictOf header (present row)) := by
  obtain ⟨front, s, back, rfl, hs, hback⟩ := exists_last_filled hrow
  have hfront : front.length + 1 ≤ header.length := by
    simp only [List.length_append, List.length_cons] at hwidth
    omega
  rw [present_append hs hback]
  generalize hcells : front.map (·.getD "") ++ [s] = cells
  have hlength : cells.length = front.length + 1 := by simp [← hcells]
  refine ⟨front, s, back, _, rfl, hs, hback, hfront, rfl, ?_, ?_⟩
  · have hkeys : (header.zip cells).map (·.1) = header.take cells.length := by
      rw [List.zip_eq_zip_take_min, List.map_fst_zip (by simp), Nat.min_eq_right (hlength ▸ hfront)]
    rw [← hlength, ← hkeys, List.map_map, List.map_map]
    rfl
  · have htexts : (header.zip cells).map (·.2) = cells := List.map_snd_zip (hlength ▸ hfront)
    rw [hcells]
    conv => rhs; rw [← htexts]
    rw [List.map_map, List.map_map]
    rfl

/-- Dictionaries are made of the rows with a filled cell only, and of all of them. -/
theorem shaped_of_dictionaries (hheader : header.Nodup)
    (hrows : ∀ row ∈ table.rows, row.length = table.columns)
    (h : (dictionaries header table).result w = (.ok y, u)) : Shaped u header table y := by
  by_cases hwidth : table.columns > header.length
  · rw [dictionaries, if_pos hwidth] at h
    cases h
  rw [dictionaries, if_neg hwidth] at h
  obtain ⟨z, v, hdicts, -, hholds⟩ := gives_dicts hheader table.records w (.refl w)
  cases hdicts.symm.trans h
  refine ⟨_, hholds, ?_⟩
  rw [records_eq, List.map_map, List.forall₂_map_right_iff, List.forall₂_same]
  intro row hrow
  obtain ⟨hmem, hfilled⟩ := List.mem_filter.mp hrow
  exact isDictOf_present hfilled (hrows row hmem ▸ Nat.le_of_not_gt hwidth)

theorem rows_of_tableOf? (hread : Rectangular read)
    (h : tableOf? read skip l text = some table) : ∀ row ∈ table.rows, row.length = table.columns := by
  rw [tableOf?] at h
  split at h
  · obtain rfl := Option.some.inj h
    exact List.forall_mem_nil _
  · exact hread _ _ _ _ h

/-- What a reader of tables makes of a text has the shape of the table that is read. -/
theorem shaped_of_outcome (hheader : header.Nodup) (hread : Rectangular read)
    (h : (outcome read header skip l text).result w = (.ok y, u)) :
    ∃ table, tableOf? read skip l text = some table ∧ Shaped u header table y := by
  rw [outcome] at h
  cases hrefusal : refusal? skip l text with
  | some e =>
    rw [hrefusal] at h
    cases h
  | none =>
    rw [hrefusal] at h
    cases htable : tableOf? read skip l text with
    | none =>
      rw [htable] at h
      cases h
    | some table =>
      rw [htable, result_bind_ok _ (result_require_some _ table w)] at h
      exact ⟨table, rfl, shaped_of_dictionaries hheader (rows_of_tableOf? hread htable) h⟩

/-- A reader of tables whose header names no column twice gives nothing for nothing, and else, where it
succeeds, a list of dictionaries that has the shape of the table which is read of the text or of the lines;
and so it does whatever takes the place of what reads the table, as long as each row has a cell for each
column.  Of what is handed to a reader of lines only an iterator may change as the lines are taken. -/
theorem shaped_of_call (hk : k = .csvToMaps ∨ k = .csvLinesToMaps) (hF : w.ReadsRows F k header skip l)
    (hheader : header.Nodup) (hr : ∀ c, w.heap[r]? = some c → ∃ k vs, c = .iterator k vs)
    (hx : k = .csvLinesToMaps → w.IsWalked r (n + 1) x) :
    (∀ y u, ((Dispatch.ofDepth (n + 3)).call F [x]).result w = (.ok y, u) →
      x.isNone = true ∧ y = .none ∨ ∃ text v table, Takes w (n + 1) x k text v ∧
        tableOf? Grid.read? skip l text = some table ∧ Shaped u header table y) ∧
    ∀ (d : Dispatch) (read : Reader) (text : String) (y : Value) (u : World), Rectangular read →
      (parseWith d read F text).result w = (.ok y, u) →
        ∃ table, tableOf? read skip l text = some table ∧ Shaped u header table y := by
  refine ⟨fun y u h => ?_, fun d read text y u hread h => ?_⟩
  · obtain hnone | ⟨text, v, htakes, houtcome⟩ := takes_of_call hk hr hF hx h
    · exact .inl hnone
    · obtain ⟨table, htable, hshaped⟩ := shaped_of_outcome hheader rectangular_read? houtcome
      exact .inr ⟨text, v, table, htakes, htable, hshaped⟩
  · rw [result_parseWith hF] at h
    exact shaped_of_outcome hheader hread h

/-- A row with an empty cell between two others, a line without cells, and a row that is shorter. -/
theorem shaped_of_call_short_row : ["a", "b", "c"].Nodup ∧ ∃ y u table,
    (Dispatch.standard.call (.ref 1) [.str "head\n1;;2\n\n3"]).result (reading 1 ⟨';', none⟩) = (.ok y, u) ∧
      table.rows = [[some "1", some "", some "2"], [some "", none, none], [some "3", none, none]] ∧
      Shaped u ["a", "b", "c"] table y := by
  have hheader : ["a", "b", "c"].Nodup := by decide
  have hread : (tableOf? Grid.read? 1 ⟨';', none⟩ "head\n1;;2\n\n3").map (fun g => (g.columns, g.rows)) =
      some (3, [[some "1", some "", some "2"], [some "", none, none], [some "3", none, none]]) := by
    decide
  obtain ⟨table, htable, hparts⟩ := Option.map_eq_some_iff.mp hread
  obtain ⟨hcolumns, hrows⟩ := Prod.mk.inj hparts
  have hrefusal : refusal? 1 ⟨';', none⟩ "head\n1;;2\n\n3" = none := by decide
  have hcall := result_call_reading 1 ⟨';', none⟩ "head\n1;;2\n\n3"
  rw [outcome, hrefusal, htable, result_bind_ok _ (result_require_some _ table _), dictionaries,
    if_neg (by rw [hcolumns]; decide)] at hcall
  obtain ⟨y, u, hdicts, -⟩ := gives_dicts hheader table.records _ (.refl (reading 1 ⟨';', none⟩))
  refine ⟨hheader, y, u, table, hcall.trans hdicts, hrows, ?_⟩
  obtain ⟨hshaped, -⟩ := shaped_of_call (.inl rfl) (readsRows_reading 1 ⟨';', none⟩) hheader
    (iterator_reading 1 ⟨';', none⟩) (fun h => by cases h)
  obtain ⟨hnone, -⟩ | ⟨text, v, table', htaken, htable', hshaped⟩ := hshaped y u (hcall.trans hdicts)
  · cases hnone
  · cases htaken with
    | text htext =>
      cases htext
      cases htable.symm.trans htable'
      exact hshaped

/-! ## Refusals -/

/-- An operation gives a list, or it is refused by the library itself. -/
def ListsOrRefuses (m : Run Value) (w : World) : Prop :=
  (∃ y u vs, m.result w = (.ok y, u) ∧ u.IsListOf vs y) ∨
    ∃ e u, m.result w = (.error e, u) ∧ e.kind = .validation

theorem ListsOrRefuses.of_result {m m' : Run Value} {v : World} (hm : m.result w = m'.result v)
    (h : ListsOrRefuses m' v) : ListsOrRefuses m w := by
  unfold ListsOrRefuses at h ⊢
  rwa [hm]

/-- A text can be put in as a key, whether it is there or not. -/
theorem exists_insert_text (es : List (Value × Value)) (name : String) (v : Value) (w : World) :
    ∃ es', (Run.insert es (.str name) v).result w = (.ok es', w) := by
  have hkey : (Run.key (.str name)).result w = (.ok (.atom (.str name)), w) := rfl
  rw [Run.insert, result_bind_ok _ (result_get w), result_bind_ok _ hkey]
  split
  · exact ⟨_, rfl⟩
  · exact ⟨_, rfl⟩

theorem exists_insertAll_texts (es : List (Value × Value)) (more : List (String × String)) (w : World) :
    ∃ es', (insertAll es (pairs more)).result w = (.ok es', w) := by
  induction more generalizing es with
  | nil => exact ⟨es, rfl⟩
  | cons e more ih =>
    obtain ⟨es', hes'⟩ := exists_insert_text es e.1 (.str e.2) w
    obtain ⟨es'', hmore⟩ := ih es'
    exact ⟨es'', (result_bind_ok _ hes').trans hmore⟩

/-- Every row makes a dictionary, also if the header names a column twice. -/
theorem gives_entries_of_texts (header cells : List String) :
    Gives w (entries (header.map .str) cells) fun _ _ => True := by
  rw [entries_eq]
  intro u _
  obtain ⟨es, hes⟩ := exists_insertAll_texts [] (header.zip cells) u
  exact ⟨_, _, result_bind_ok _ hes, .push u (.dict es), trivial⟩

theorem listsOrRefuses_dictionaries (header : List String) (table : Grid) (w : World) :
    ListsOrRefuses (dictionaries header table) w := by
  by_cases hwidth : table.columns > header.length
  · rw [dictionaries, if_pos hwidth]
    exact .inr ⟨.headerTooShort table.columns header.length, w, rfl, rfl⟩
  · have hdicts : Gives w (table.records.mapM (entries (header.map .str))) fun _ ys =>
        List.Forall₂ (fun _ _ => True) table.records ys := by
      refine .mapM (fun _ h => h) ?_
      exact List.forall₂_same.mpr fun cells _ => gives_entries_of_texts header cells
    obtain ⟨ys, u, hys, -⟩ := hdicts w (.refl w)
    rw [dictionaries, if_neg hwidth]
    refine .inl ⟨.ref u.heap.size, _, ys, (result_bind_ok _ hys).trans (result_newList ys u), ?_⟩
    exact ⟨_, rfl, by simp⟩

theorem listsOrRefuses_outcome (h : refusal? skip l text = none) (w : World) :
    ListsOrRefuses (outcome read header skip l text) w := by
  rw [outcome, h]
  cases tableOf? read skip l text with
  | none => exact .inr ⟨.unreadableTable, w, rfl, rfl⟩
  | some table =>
    exact .of_result (result_bind_ok _ (result_require_some _ table w))
      (listsOrRefuses_dictionaries header table w)

/-- What is refused before it is read is refused for a character or for the number of rows. -/
theorem refusal?_eq_some (h : refusal? skip l text = some e) :
    e = .wrongValue ∧ ¬isNarrow l ∨ e = .overflow ∧ rowLimit ≤ skip := by
  rw [refusal?] at h
  split at h
  · cases h
  · split at h
    · exact .inl ⟨(Option.some.inj h).symm, ‹_›⟩
    · split at h
      · exact .inr ⟨(Option.some.inj h).symm, ‹_›⟩
      · cases h

/-- A reader of tables gives a list or refuses a text, or the text of lines, if the text is blank or cells
are told apart by characters of one byte and the number of rows to skip fits a machine integer; and so it
does whatever takes the place of what reads the table.  If not, then another failure escapes from every call
with a text that is not blank. -/
theorem listsOrRefuses_call (hr : ∀ c, w.heap[r]? = some c → ∃ k vs, c = .iterator k vs)
    (hF : w.ReadsRows F k header skip l) {v : World} (hx : Takes w (n + 1) x k text v)
    (hv : Around r w v) :
    (isBlank text = true ∨ isNarrow l ∧ skip < rowLimit →
      ListsOrRefuses ((Dispatch.ofDepth (n + 3)).call F [x]) w ∧
      ∀ (d : Dispatch) (read : Reader), ListsOrRefuses (parseWith d read F text) w) ∧
    (¬(isBlank text = true ∨ isNarrow l ∧ skip < rowLimit) →
      ∃ e, ((Dispatch.ofDepth (n + 3)).call F [x]).result w = (.error e, v) ∧
        (e = .wrongValue ∧ ¬isNarrow l ∨ e = .overflow ∧ rowLimit ≤ skip)) := by
  have hcall := result_call_of_takes hr hF hx hv
  rw [← refusal?_eq_none_iff]
  constructor
  · intro hnone
    refine ⟨.of_result hcall (listsOrRefuses_outcome hnone v), fun d read => ?_⟩
    exact .of_result (result_parseWith hF d read text) (listsOrRefuses_outcome hnone w)
  · intro hsome
    obtain ⟨e, he⟩ := Option.ne_none_iff_exists'.mp hsome
    refine ⟨e, ?_, refusal?_eq_some he⟩
    rw [hcall, outcome, he, result_throw]

/-- A cell that is told apart by a character of one byte, and one that is not. -/
theorem listsOrRefuses_call_narrow :
    ListsOrRefuses (Dispatch.standard.call (.ref 1) [.str "1|2"]) (reading 0 ⟨'|', none⟩) ∧
      ∃ e, (Dispatch.standard.call (.ref 1) [.str "1é2"]).result (reading 0 ⟨'é', none⟩) =
        (.error e, reading 0 ⟨'é', none⟩) ∧ e.kind = .value := by
  have hnarrow : Takes (reading 0 ⟨'|', none⟩) 998 (.str "1|2") .csvToMaps "1|2"
    (reading 0 ⟨'|', none⟩) := .text rfl
  have hwide : Takes (reading 0 ⟨'é', none⟩) 998 (.str "1é2") .csvToMaps "1é2"
    (reading 0 ⟨'é', none⟩) := .text rfl
  obtain ⟨hlists, -⟩ := listsOrRefuses_call (iterator_reading 0 ⟨'|', none⟩)
    (readsRows_reading 0 ⟨'|', none⟩) hnarrow (.refl 2 _)
  obtain ⟨-, hfails⟩ := listsOrRefuses_call (iterator_reading 0 ⟨'é', none⟩)
    (readsRows_reading 0 ⟨'é', none⟩) hwide (.refl 2 _)
  obtain ⟨e, hcall, ⟨rfl, -⟩ | ⟨-, hskip⟩⟩ := hfails (by decide)
  · exact ⟨(hlists (.inr ⟨by decide, by decide⟩)).1, _, hcall, rfl⟩
  · exact absurd hskip (by decide)

/-- A character that the constructors accept and that takes two bytes lets another failure escape. -/
theorem not_listsOrRefuses_call : ¬∀ (w : World) (F : Value) (header : List String) (skip : Nat) (l : Layout)
    (text : String), w.ReadsRows F .csvToMaps header skip l →
      ListsOrRefuses (Dispatch.standard.call F [.str text]) w := by
  intro h
  have hrefusal : refusal? 0 ⟨'é', none⟩ "1é2" = some .wrongValue := by decide
  have hcall := result_call_reading 0 ⟨'é', none⟩ "1é2"
  rw [outcome, hrefusal, result_throw] at hcall
  obtain ⟨y, u, vs, hok, -⟩ | ⟨e, u, herror, hkind⟩ := h _ _ _ _ _ "1é2"
    (readsRows_reading 0 ⟨'é', none⟩)
  · cases hcall.symm.trans hok
  · cases hcall.symm.trans herror
    cases hkind

end FunctionObjects.Tables
