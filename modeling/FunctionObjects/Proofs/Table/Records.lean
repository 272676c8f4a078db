import FunctionObjects.Proofs.Equality.Freezing
import FunctionObjects.Proofs.Table.Readers
import FunctionObjects.Proofs.Table.Rows
/-!
# Records as dictionaries

A reader of tables makes a dictionary of each record of a text, or of lines, as long as no record is longer
than the first one; if one is, the text cannot be read.
-/

namespace FunctionObjects

open Run World Table

variable {w : World} {F G x : Value} {k : LibraryClass} {header cells : List String} {delimiter : Char}
  {first : List String} {records : List (List String)} {l : Ref} {n : Nat}

/-! ## Objects -/

namespace World

/-- An object of a class that leaves it to the library to read tables without quotes, of which no row is
skipped. -/
def ReadsTables (w : World) (F : Value) (k : LibraryClass) (header : List String) (delimiter : Char) :
    Prop :=
  ∃ c as s, w.IsObjectWith F c as ∧ as.lookup "header" = some (.ref s) ∧
    w.heap[s]? = some (.list (header.map .str)) ∧ as.lookup "first_row" = some (.int 0) ∧
    as.lookup "delimiter" = some (.str (String.singleton delimiter)) ∧
    as.lookup "quoted" = some (.bool false) ∧ as.lookup "apply" = none ∧ as.lookup "_parse" = none ∧
    w.member? c "__call__" = some (.library .function .method) ∧
    w.member? c "apply" = some (.library k .method) ∧
    w.member? c "_parse" = some (.library .csvOptions .method)

theorem readsTables_iff :
    w.ReadsTables F k header delimiter ↔ w.ReadsRows F k header 0 ⟨delimiter, none⟩ := by
  constructor
  · rintro ⟨c, as, s, hobject, hs, hlist, hfirst, hdelimiter, hquoted, happly, hparse, hcall, hmember, hmethod⟩
    exact ⟨c, as, hobject, ⟨s, hs, hlist⟩, hfirst, hdelimiter, hquoted, nofun, happly, hparse, hcall, hmember,
      hmethod⟩
  · rintro ⟨c, as, hobject, ⟨s, hs, hlist⟩, hfirst, hdelimiter, hquoted, -, happly, hparse, hcall, hmember, hmethod⟩
    exact ⟨c, as, s, hobject, hs, hlist, hfirst, hdelimiter, hquoted, happly, hparse, hcall, hmember, hmethod⟩

end World

namespace Tables

/-! ## Constructors -/

/-- What the constructors set on readers of tables without quotes. -/
def layout (header : List String) (delimiter : Char) (quote : Datum) : List (String × Datum) :=
  [("header", .list (header.map fun s => .atom (.str s))), ("first_row", .atom (.int 0)),
    ("delimiter", .atom (.str (String.singleton delimiter))), ("quoted", .atom (.bool false)),
    ("quote_char", quote)]

/-- An object on which a layout is set reads tables. -/
theorem readsTables_of_layout {r : Ref} {o : Option Ty} {as : List (String × Value)} {quote : Datum}
    (hw : initial.SameClasses w) (hk : k = .csvToMaps ∨ k = .csvLinesToMaps)
    (hcell : w.heap[r]? = some (.object k.className o as))
    (has : w.HoldsFields (layout header delimiter quote) as) :
    w.ReadsTables (.ref r) k header delimiter :=
  readsTables_iff.mpr (readsRows_of_settings hw hk hcell nofun has)

/-- The constructors make readers of tables. -/
theorem readsTables_of_make (d : Dispatch) {b : Binding} {args : Arguments} {arg : String → Datum}
    (hw : initial.SameClasses w) (hstocked : w.Stocked) (hk : k = .csvToMaps ∨ k = .csvLinesToMaps)
    (hargs : Binding.of k.params args = .ok b) (hb : Construction.Given w .csvOptions b arg)
    (hheader : (arg "header").listed? = some (.list (header.map fun s => .atom (.str s))))
    (hfirst : arg "first_row" = .atom (.int 0))
    (hdelimiter : arg "delimiter" = .atom (.str (String.singleton delimiter)))
    (hquoted : arg "quoted" = .atom (.bool false)) (hquote : (arg "quote_char").isSingle = true) :
    ∃ v, (Construction.make d k.className args).result w = (.ok (.ref w.heap.size), v) ∧
      v.ReadsTables (.ref w.heap.size) k header delimiter := by
  simp only [readsTables_iff]
  exact readsRows_of_make d hw hstocked hk hargs hb hheader hfirst hdelimiter hquoted hquote nofun

/-! ## Dictionaries -/

/-- The dictionary of a record, as far as the record goes. -/
def dictOf (header cells : List String) : Datum :=
  .dict ((header.zip cells).map fun e => (.atom (.str e.1), .atom (.str e.2)))

/-- Texts as keys with texts under them. -/
def pairs (es : List (String × String)) : List (Value × Value) := es.map fun e => (.str e.1, .str e.2)

/-- Under keys that are all different everything is put in at the end. -/
theorem result_insertAll (es more : List (String × String)) (h : ((es ++ more).map (·.1)).Nodup) :
    (insertAll (pairs es) (pairs more)).result w = (.ok (pairs (es ++ more)), w) := by
  induction more generalizing es with
  | nil => simp [insertAll, pairs]
  | cons e more ih =>
    have hfresh : ((pairs es).any fun f => (w.read f.1).sameItem (.atom (.str e.1))) = false := by
      rw [List.any_eq_false]
      intro f hf hsame
      obtain ⟨g, hg, rfl⟩ := List.mem_map.mp hf
      have hname : g.1 = e.1 := (Datum.sameItem_str_iff _ _).mp hsame
      rw [List.map_append, List.map_cons] at h
      exact (List.disjoint_of_nodup_append h) (List.mem_map_of_mem hg) (hname ▸ List.mem_cons_self)
    have hkey : (Run.key (.str e.1)).result w = (.ok (.atom (.str e.1)), w) := rfl
    have hinsert : (Run.insert (pairs es) (.str e.1) (.str e.2)).result w =
        (.ok (pairs (es ++ [e])), w) := by
      rw [Run.insert, result_bind_ok _ (result_get w), result_bind_ok _ hkey, hfresh]
      simp [pairs]
    have hmore := ih (es ++ [e]) (by simpa using h)
    rw [List.append_assoc, List.singleton_append] at hmore
    exact (result_bind_ok _ hinsert).trans hmore

theorem entries_eq (header cells : List String) : entries (header.map .str) cells =
    (do Run.alloc (.dict (← insertAll [] (pairs (header.zip cells)))) : Run Value) := by
  have hpairs : (header.map Value.str).zip (cells.map .str) = pairs (header.zip cells) := by
    rw [List.zip_map, pairs]
    rfl
  rw [entries, hpairs]

theorem gives_entries (hheader : header.Nodup) (cells : List String) :
    Gives w (entries (header.map .str) cells) fun u y => u.Holds (dictOf header cells) y := by
  have hnames : ((header.zip cells).map (·.1)).Nodup := by
    rw [List.zip_eq_zip_take_min, List.map_fst_zip (by simp)]
    exact hheader.sublist (List.take_sublist _ _)
  have hinsert : Gives w (insertAll [] (pairs (header.zip cells))) fun _ es =>
      es = pairs (header.zip cells) :=
    .of_result (fun u _ => result_insertAll [] (header.zip cells) hnames) fun _ _ => rfl
  rw [entries_eq]
  refine hinsert.bind fun u es _ hes => .alloc fun v r _ hr => ?_
  subst hes
  refine ⟨r, _, rfl, hr, holdsEntries_iff.mpr ?_⟩
  rw [pairs, List.forall₂_map_left_iff, List.forall₂_map_right_iff]
  exact List.forall₂_same.mpr fun e _ => ⟨rfl, rfl⟩

/-- The dictionaries of records, in order. -/
theorem gives_dicts (hheader : header.Nodup) (records : List (List String)) :
    Gives w (do Run.newList (← records.mapM (entries (header.map .str)))) fun u y =>
      u.Holds (.list (records.map (dictOf header))) y := by
  have hdicts : Gives w (records.mapM (entries (header.map .str))) fun u ys =>
      List.Forall₂ u.Holds (records.map (dictOf header)) ys := by
    refine .mapM (fun hg h => hg.holds h) ?_
    rw [List.forall₂_map_right_iff]
    exact List.forall₂_same.mpr fun cells _ => gives_entries hheader cells
  refine hdicts.bind fun u ys _ hys u' hg => ?_
  have hlast := Grows.push u' (.list ys)
  refine ⟨_, _, rfl, hlast, _, ys, rfl, by simp, holdsAll_iff.mpr ?_⟩
  exact hys.imp fun _ _ h => (hg.trans hlast).holds h

/-! ## Texts -/

/-- An operation gives the dictionaries of records. -/
def GivesDicts (m : Run Value) (w : World) (header : List String) (records : List (List String)) : Prop :=
  ∃ y u, m.result w = (.ok y, u) ∧ w.Grows u ∧ u.Holds (.list (records.map (dictOf header))) y

section

variable (hF : w.ReadsTables F k header delimiter) (hascii : delimiter.toNat < 128)

include hF hascii

/-- What a reader makes of a text of records. -/
theorem result_parseText (hrecord : IsRecord delimiter first) (d : Dispatch) :
    (parseText d F (tableText delimiter (first :: records))).result w =
      (do dictionaries header (← Run.require .unreadableTable
        (Grid.read? ⟨delimiter, none⟩ 0 (tableText delimiter (first :: records)).toList)) :
          Run Value).result w := by
  have hblank : isBlank (tableText delimiter (first :: records)) = false := hrecord.strip_tableText
  have hrefusal : refusal? 0 ⟨delimiter, none⟩ (tableText delimiter (first :: records)) = none :=
    refusal?_eq_none_iff.mpr (.inr ⟨by simpa [isNarrow] using hascii, by decide⟩)
  rw [parseText, result_parseWith (readsTables_iff.mp hF), outcome, hrefusal, tableOf?, hblank,
    if_neg Bool.false_ne_true]

variable (hline : delimiter ≠ '\n') (hrecords : ∀ record ∈ first :: records, IsRecord delimiter record)

include hline hrecords

/-- A text of records is read if none of them is longer than the first one. -/
theorem gives_parseText (hheader : header.Nodup) (hwidth : first.length ≤ header.length)
    (hfits : ∀ record ∈ records, record.length ≤ first.length) (d : Dispatch) :
    GivesDicts (parseText d F (tableText delimiter (first :: records))) w header (first :: records) := by
  have hread := read?_tableText hline hascii hrecords
  rw [if_pos hfits, Option.map_eq_some_iff] at hread
  obtain ⟨grid, hgrid, hread⟩ := hread
  obtain ⟨hcolumns, hrows⟩ := Prod.mk.inj hread
  obtain ⟨y, u, hdicts, hg, hholds⟩ := gives_dicts hheader (first :: records) w (.refl w)
  refine ⟨y, u, ?_, hg, hholds⟩
  rw [result_parseText hF hascii (hrecords first List.mem_cons_self), hgrid,
    result_bind_ok _ (result_require_some _ grid w), dictionaries, if_neg (by omega), hrows]
  exact hdicts

/-- A text of records cannot be read if one of them is longer than the first one. -/
theorem result_parseText_error (hlong : ¬∀ record ∈ records, record.length ≤ first.length)
    (d : Dispatch) : (parseText d F (tableText delimiter (first :: records))).result w =
      (.error .unreadableTable, w) := by
  have hread := read?_tableText hline hascii hrecords
  rw [if_neg hlong, Option.map_eq_none_iff] at hread
  rw [result_parseText hF hascii (hrecords first List.mem_cons_self), hread]
  rfl

end

/-! ## Calls -/

theorem result_call_text (hF : w.ReadsTables F .csvToMaps header delimiter) (text : String) (n : Nat) :
    ((Dispatch.ofDepth (n + 3)).call F [.str text]).result w =
      (parseText (.ofDepth n) F text).result w :=
  result_call_csvToMaps (readsTables_iff.mp hF) (.str text) n

theorem mapM_textOf?_str (lines : List String) : (lines.map Value.str).mapM textOf? = some lines := by
  induction lines with
  | nil => rfl
  | cons line lines ih =>
    rw [List.map_cons, List.mapM_cons, ih]
    rfl

theorem result_call_lines (hG : w.ReadsTables G .csvLinesToMaps header delimiter)
    {lines : List String} (hlines : w.heap[l]? = some (.list (lines.map .str))) (n : Nat) :
    ((Dispatch.ofDepth (n + 3)).call G [.ref l]).result w =
      (parseText (.ofDepth n) G (String.intercalate "\n" lines)).result w := by
  have htexts := result_texts (lines.map .str) w
  rw [mapM_textOf?_str, result_require_some] at htexts
  rw [result_call_csvLinesToMaps (readsTables_iff.mp hG)]
  refine (result_bind_ok _ (Dispatch.result_items_list hlines)).trans ?_
  refine (result_bind_ok _ htexts).trans ?_
  exact result_method_parse (readsTables_iff.mp hG) _ n

/-- The lines of records. -/
def linesOf (delimiter : Char) (records : List (List String)) : List String :=
  records.map (String.intercalate (String.singleton delimiter))

/-- Records that a header names all cells of are read from their text, and from their lines, as dictionaries
in order, if none of them is longer than the first one.  If one is, neither can be read, as the first record
fixes the width of the table. -/
theorem reads_records (hF : w.ReadsTables F .csvToMaps header delimiter)
    (hG : w.ReadsTables G .csvLinesToMaps header delimiter) (hheader : header.Nodup)
    (hascii : delimiter.toNat < 128) (hline : delimiter ≠ '\n')
    (hrecords : ∀ record ∈ first :: records,
      IsRecord delimiter record ∧ record.length ≤ header.length)
    (hlines : w.heap[l]? = some (.list ((linesOf delimiter (first :: records)).map .str))) (n : Nat) :
    ((∀ record ∈ records, record.length ≤ first.length) →
      GivesDicts ((Dispatch.ofDepth (n + 3)).call F [.str (tableText delimiter (first :: records))]) w header
        (first :: records) ∧
      GivesDicts ((Dispatch.ofDepth (n + 3)).call G [.ref l]) w header (first :: records)) ∧
    ((∃ record ∈ records, first.length < record.length) →
      ((Dispatch.ofDepth (n + 3)).call F [.str (tableText delimiter (first :: records))]).result w =
        (.error .unreadableTable, w) ∧
      ((Dispatch.ofDepth (n + 3)).call G [.ref l]).result w = (.error .unreadableTable, w)) := by
  have hall : ∀ record ∈ first :: records, IsRecord delimiter record := fun record hr =>
    (hrecords record hr).1
  have hwidth := (hrecords first List.mem_cons_self).2
  have htext := result_call_text hF (tableText delimiter (first :: records)) n
  have htexts : ((Dispatch.ofDepth (n + 3)).call G [.ref l]).result w =
      (parseText (.ofDepth n) G (tableText delimiter (first :: records))).result w :=
    result_call_lines hG hlines n
  unfold GivesDicts
  rw [htext, htexts]
  refine ⟨fun hfits => ?_, fun ⟨record, hr, hlong⟩ => ?_⟩
  · exact ⟨gives_parseText hF hascii hline hall hheader hwidth hfits _,
      gives_parseText hG hascii hline hall hheader hwidth hfits _⟩
  · have hnot : ¬∀ record ∈ records, record.length ≤ first.length := fun h =>
      absurd (h record hr) (Nat.not_le_of_gt hlong)
    exact ⟨result_parseText_error hF hascii hline hall hnot _,
      result_parseText_error hG hascii hline hall hnot _⟩

/-- Readers of tables with three columns, and lines that they read. -/
def tables (records : List (List String)) : World := { World.initial with
  heap := #[.list [.str "a", .str "b", .str "c"],
    .object LibraryClass.csvToMaps.className none [("header", .ref 0), ("first_row", .int 0),
      ("delimiter", .str ","), ("quoted", .bool false), ("quote_char", .str "\"")],
    .object LibraryClass.csvLinesToMaps.className none [("header", .ref 0), ("first_row", .int 0),
      ("delimiter", .str ","), ("quoted", .bool false), ("quote_char", .str "\"")],
    .list ((linesOf ',' records).map .str)] }

theorem readsTables_tables (records : List (List String)) :
    (tables records).ReadsTables (.ref 1) .csvToMaps ["a", "b", "c"] ',' ∧
      (tables records).ReadsTables (.ref 2) .csvLinesToMaps ["a", "b", "c"] ',' := by
  have has : (tables records).HoldsFields (layout ["a", "b", "c"] ',' (.atom (.str "\"")))
      [("header", .ref 0), ("first_row", .int 0), ("delimiter", .str ","), ("quoted", .bool false),
        ("quote_char", .str "\"")] :=
    ⟨rfl, ⟨0, _, rfl, rfl, rfl, rfl, rfl, trivial⟩, rfl, rfl, rfl, rfl, rfl, rfl, rfl, rfl, trivial⟩
  exact ⟨readsTables_of_layout ⟨rfl, rfl⟩ (.inl rfl) rfl has,
    readsTables_of_layout ⟨rfl, rfl⟩ (.inr rfl) rfl has⟩

theorem isRecord_tables : ∀ record ∈ [["1", "", "2"], ["3"]],
    IsRecord ',' record ∧ record.length ≤ ["a", "b", "c"].length := by
  simp only [List.forall_mem_cons]
  exact ⟨⟨⟨by decide, by decide, by decide, "2", rfl, by decide⟩, by decide⟩,
    ⟨⟨by decide, by decide, by decide, "3", rfl, by decide⟩, by decide⟩, nofun⟩

/-- A record with an empty cell and a shorter one are read in this order. -/
theorem reads_longer_record_first :
    GivesDicts (Dispatch.standard.call (.ref 1) [.str "1,,2\n3"]) (tables [["1", "", "2"], ["3"]])
      ["a", "b", "c"] [["1", "", "2"], ["3"]] ∧
    GivesDicts (Dispatch.standard.call (.ref 2) [.ref 3]) (tables [["1", "", "2"], ["3"]])
      ["a", "b", "c"] [["1", "", "2"], ["3"]] ∧
    (Dispatch.standard.call (.ref 1) [.str "3\n1,,2"]).result (tables [["3"], ["1", "", "2"]]) =
      (.error .unreadableTable, tables [["3"], ["1", "", "2"]]) := by
  have hlong : tableText ',' [["1", "", "2"], ["3"]] = "1,,2\n3" := by decide
  have hshort : tableText ',' [["3"], ["1", "", "2"]] = "3\n1,,2" := by decide
  obtain ⟨hF, hG⟩ := readsTables_tables [["1", "", "2"], ["3"]]
  obtain ⟨hF', hG'⟩ := readsTables_tables [["3"], ["1", "", "2"]]
  obtain ⟨hfits, -⟩ := reads_records hF hG (by decide) (by decide) (by decide) isRecord_tables
    (rfl : (tables _).heap[3]? = _) 997
  obtain ⟨-, hfails⟩ := reads_records hF' hG' (by decide) (by decide) (by decide)
    (fun record hr => isRecord_tables record (by simpa [or_comm] using hr))
    (rfl : (tables _).heap[3]? = _) 997
  rw [hlong] at hfits
  rw [hshort] at hfails
  obtain ⟨htext, hlines⟩ := hfits (by decide)
  exact ⟨htext, hlines, (hfails (by decide)).1⟩

/-- The first record of a text has a say in how the others are read: after a shorter one a record that the
header names all cells of is not read. -/
theorem not_reads_records : ¬∀ (w : World) (F : Value) (header : List String) (delimiter : Char)
    (first : List String) (records : List (List String)),
      w.ReadsTables F .csvToMaps header delimiter → header.Nodup → delimiter.toNat < 128 →
      delimiter ≠ '\n' →
      (∀ record ∈ first :: records, IsRecord delimiter record ∧ record.length ≤ header.length) →
      GivesDicts (Dispatch.standard.call F [.str (tableText delimiter (first :: records))]) w header
        (first :: records) := by
  intro h
  have hrecords : ∀ record ∈ [["3"], ["1", "", "2"]],
      IsRecord ',' record ∧ record.length ≤ ["a", "b", "c"].length :=
    fun record hr => isRecord_tables record (by simpa [or_comm] using hr)
  obtain ⟨hF, -⟩ := readsTables_tables []
  obtain ⟨y, u, hcall, -⟩ := h _ _ _ _ ["3"] [["1", "", "2"]] hF (by decide) (by decide) (by decide) hrecords
  have hfails := result_parseText_error hF (by decide) (by decide) (fun record hr => (hrecords record hr).1)
    (by decide) (.ofDepth 997)
  rw [← result_call_text hF] at hfails
  cases hcall.symm.trans hfails

end Tables

end FunctionObjects
