import FunctionObjects.Proofs.Construction.Objects
import FunctionObjects.Proofs.Filter.Fusing
/-!
# Readers of tables

What the objects that read tables make of a value, whatever they are told about cells and rows.  A text
that is not blank is refused first if its cells are told apart by a character that takes more than a byte,
then if there are more rows to skip than fit a machine integer; all else is up to what reads the table.
-/

namespace FunctionObjects

open Run World Table

variable {w u : World} {F x : Value} {k : LibraryClass} {header : List String} {skip n : Nat}
  {l : Layout} {r : Ref}

/-! ## Objects -/

namespace World

/-- What is set on an object that reads tables, and that its class leaves it to the library to do so. -/
structure IsReader (w : World) (k : LibraryClass) (header : List String) (skip : Nat) (l : Layout)
    (c : ClassName) (as : List (String × Value)) : Prop where
  header : ∃ s, as.lookup "header" = some (.ref s) ∧ w.heap[s]? = some (.list (header.map .str))
  firstRow : as.lookup "first_row" = some (.int skip)
  delimiter : as.lookup "delimiter" = some (.str (String.singleton l.delimiter))
  quoted : as.lookup "quoted" = some (.bool l.quote.isSome)
  quote : ∀ q ∈ l.quote, as.lookup "quote_char" = some (.str (String.singleton q))
  apply : as.lookup "apply" = none
  parse : as.lookup "_parse" = none
  calls : w.member? c "__call__" = some (.library .function .method)
  applies : w.member? c "apply" = some (.library k .method)
  parses : w.member? c "_parse" = some (.library .csvOptions .method)

/-- An object that reads tables. -/
def ReadsRows (w : World) (F : Value) (k : LibraryClass) (header : List String) (skip : Nat)
    (l : Layout) : Prop :=
  ∃ c as, w.IsObjectWith F c as ∧ w.IsReader k header skip l c as

/-- A value whose items are taken without a change to anything but an iterator in cell `r`. -/
def IsWalked (w : World) (r : Ref) (n : Nat) (x : Value) : Prop :=
  ∀ vs u, ((Dispatch.ofDepth n).items x).result w = (.ok vs, u) → Around r w u

theorem ReadsRows.later (hr : ∀ c, w.heap[r]? = some c → ∃ k vs, c = .iterator k vs)
    (hu : Around r w u) (h : w.ReadsRows F k header skip l) : u.ReadsRows F k header skip l := by
  obtain ⟨c, as, ⟨a, o, rfl, hcell⟩, h⟩ := h
  have ha : a ≠ r := by
    rintro rfl
    obtain ⟨_, _, ⟨⟩⟩ := hr _ hcell
  obtain ⟨s, hs, hlist⟩ := h.header
  refine ⟨c, as, ⟨a, o, rfl, hu.cell ha hcell⟩, { h with
    header := ⟨s, hs, list_later hr hu hlist⟩
    calls := ?_, applies := ?_, parses := ?_ }⟩
  · simpa only [hu.sameClasses.member?] using h.calls
  · simpa only [hu.sameClasses.member?] using h.applies
  · simpa only [hu.sameClasses.member?] using h.parses

theorem Iterates.result_items {vs : List Value} (h : w.Iterates r n x vs) :
    ∃ u, ((Dispatch.ofDepth n).items x).result w = (.ok vs, u) ∧ Around r w u := by
  obtain ⟨c, u, hcursor, hu, hc⟩ := h n (Nat.le_refl n)
  rw [Dispatch.items, result_bind_ok _ hcursor]
  obtain rfl | ⟨rfl, i, hcell⟩ := hc
  · exact ⟨u, rfl, hu⟩
  · refine ⟨{ u with heap := u.heap.setIfInBounds r (.iterator i []) }, ?_, hu.trans (.set hcell rfl)⟩
    simp [Cursor.drain, result_bind, result_map, hcell]

theorem Iterates.isWalked {vs : List Value} (h : w.Iterates r n x vs) : w.IsWalked r n x := by
  obtain ⟨v, hitems, hv⟩ := h.result_items
  intro ys u hys
  cases hitems.symm.trans hys
  exact hv

/-- Only an iterator shares its walk. -/
theorem eq_ref_of_shared {a : Ref} (h : w.plainCursor? x = some (.shared a)) :
    x = .ref a ∧ ∃ i vs, w.heap[a]? = some (.iterator i vs) := by
  unfold plainCursor? at h
  split at h
  · split at h <;> cases h
  · cases h
  · cases h
  · split at h <;> cases h
    rename_i i vs hcell
    exact ⟨rfl, i, vs, hcell⟩

/-- All that is no tuple object is walked so, an iterator in its own cell. -/
theorem isWalked_of_not_isTupleObject (hx : w.isTupleObject x = false) (hcell : ∀ a, x = .ref a → a = r)
    (n : Nat) : w.IsWalked r n x := by
  cases hc : w.plainCursor? x with
  | none =>
    intro vs u hitems
    have hfails : ((Dispatch.ofDepth n).items x).result w = (.error .wrongType, w) := by
      simp [Dispatch.items, Dispatch.cursor, result_bind, hx, hc]
    cases hfails.symm.trans hitems
  | some c =>
    cases c with
    | held vs => exact (iterates_of_plainCursor? hx hc (.inl rfl) n).isWalked
    | shared a =>
      obtain ⟨rfl, i, vs, hiterator⟩ := eq_ref_of_shared hc
      obtain rfl := hcell a rfl
      exact (iterates_of_plainCursor? hx hc (.inr ⟨rfl, i, hiterator⟩) n).isWalked

end World

namespace Tables

/-! ## Constructors -/

/-- What the constructors set. -/
def settings (header : List String) (skip : Nat) (l : Layout) (quote : Datum) : List (String × Datum) :=
  [("header", .list (header.map fun s => .atom (.str s))), ("first_row", .atom (.int skip)),
    ("delimiter", .atom (.str (String.singleton l.delimiter))),
    ("quoted", .atom (.bool l.quote.isSome)), ("quote_char", quote)]

theorem eq_of_holdsAll_texts {ts : List String} {vs : List Value}
    (h : w.HoldsAll (ts.map fun s => .atom (.str s)) vs) : vs = ts.map .str := by
  rw [holdsAll_iff, List.forall₂_map_left_iff] at h
  induction h with
  | nil => rfl
  | cons h _ ih =>
    rw [h, ih]
    rfl

/-- An object on which it is set how tables are laid out reads them. -/
theorem readsRows_of_settings {o : Option Ty} {as : List (String × Value)} {quote : Datum}
    (hw : initial.SameClasses w) (hk : k = .csvToMaps ∨ k = .csvLinesToMaps)
    (hcell : w.heap[r]? = some (.object k.className o as))
    (hquote : ∀ q ∈ l.quote, quote = .atom (.str (String.singleton q)))
    (has : w.HoldsFields (settings header skip l quote) as) :
    w.ReadsRows (.ref r) k header skip l := by
  have hmethods := methods_texts hw
  simp only [answeringTexts, List.forall_mem_cons] at hmethods
  obtain ⟨-, -, -, -, hcall, happly, hparse, hcall', happly', hparse', -⟩ := hmethods
  rw [holdsFields_iff, settings] at has
  simp only [List.forall₂_cons_left_iff, List.forall₂_nil_left_iff] at has
  obtain ⟨⟨_, _⟩, _, ⟨rfl, s, vs, rfl, hs, hvs⟩, ⟨⟨_, _⟩, _, ⟨rfl, rfl⟩, ⟨⟨_, _⟩, _, ⟨rfl, rfl⟩,
    ⟨⟨_, _⟩, _, ⟨rfl, rfl⟩, ⟨⟨_, y⟩, _, ⟨rfl, hy⟩, rfl, rfl⟩, rfl⟩, rfl⟩, rfl⟩, rfl⟩ := has
  refine ⟨_, _, ⟨r, o, rfl, hcell⟩, {
    header := ⟨s, rfl, eq_of_holdsAll_texts hvs ▸ hs⟩
    firstRow := rfl, delimiter := rfl, quoted := rfl, quote := fun q hq => ?_
    apply := rfl, parse := rfl, calls := ?_, applies := ?_, parses := ?_ }⟩
  · obtain rfl := hquote q hq
    obtain rfl : y = .str (String.singleton q) := hy
    rfl
  all_goals obtain rfl | rfl := hk <;> assumption

theorem isNatural_int (n : Nat) : (Datum.atom (.int n)).isNatural = true := by
  have hnot : (compare ((n : Int) * (1 : Nat)) (0 * (1 : Nat)) == .lt) = false := by
    rw [beq_eq_false_iff_ne, ne_eq, compare_lt_iff_lt]
    omega
  have hrel : (Atom.int n).rel .lt (.int 0) = .ok false := by
    simp only [Atom.rel, Atom.real?, Magnitude.ofInt, Magnitude.compare?, Rel.accepts, hnot]
    rfl
  rw [Datum.isNatural, hrel]
  rfl

/-- The constructors make readers of tables, and refuse none of the layouts. -/
theorem readsRows_of_make (d : Dispatch) {b : Binding} {args : Arguments} {arg : String → Datum}
    (hw : initial.SameClasses w) (hstocked : w.Stocked) (hk : k = .csvToMaps ∨ k = .csvLinesToMaps)
    (hargs : Binding.of k.params args = .ok b) (hb : Construction.Given w .csvOptions b arg)
    (hheader : (arg "header").listed? = some (.list (header.map fun s => .atom (.str s))))
    (hfirst : arg "first_row" = .atom (.int skip))
    (hdelimiter : arg "delimiter" = .atom (.str (String.singleton l.delimiter)))
    (hquoted : arg "quoted" = .atom (.bool l.quote.isSome)) (hsingle : (arg "quote_char").isSingle = true)
    (hquote : ∀ q ∈ l.quote, arg "quote_char" = .atom (.str (String.singleton q))) :
    ∃ v, (Construction.make d k.className args).result w = (.ok (.ref w.heap.size), v) ∧
      v.ReadsRows (.ref w.heap.size) k header skip l := by
  have hsource : k.source = .csvOptions := by obtain rfl | rfl := hk <;> rfl
  have hshipped : k ∈ Registry.shipped := by obtain rfl | rfl := hk <;> decide
  have hone : (Datum.atom (.str (String.singleton l.delimiter))).isSingle = true := by
    simp [Datum.isSingle, Datum.items?, Atom.text?]
  have hset : k.attributes? w.zones arg = some (settings header skip l (arg "quote_char")) := by
    simp only [LibraryClass.attributes?, hsource, LibraryClass.attributesOf?, hheader, hfirst, hdelimiter,
      hquoted, hsingle, hone, isNatural_int, settings, Option.bind_eq_bind, Option.bind_some, Bool.and_self,
      if_true]
    rfl
  obtain ⟨as, v, has, hmake, hm⟩ | ⟨hnone, -⟩ :=
    Construction.result_make_of_given d hshipped (hstocked k hshipped) hstocked.equipped hargs (hsource ▸ hb)
  · obtain rfl := Option.some.inj (hset.symm.trans has)
    obtain ⟨fields, hcell, hready⟩ := hm.cell
    have hv : initial.SameClasses v :=
      ⟨hm.grows.hierarchy.trans hw.hierarchy, hm.grows.declarations.trans hw.declarations⟩
    exact ⟨v, hmake, readsRows_of_settings hv hk hcell hquote (hready.holds hm.grows (.refl _ _))⟩
  · cases hset.symm.trans hnone

/-! ## What is checked of a layout -/

/-- Whether cells are told apart by characters of one byte. -/
def isNarrow (l : Layout) : Bool := l.delimiter.toNat < 128 && l.quote.all (·.toNat < 128)

theorem result_byteChar (c : Char) (w : World) :
    (byteChar (.str (String.singleton c))).result w =
      (if c.toNat < 128 then return c else throw .wrongValue : Run Char).result w := by
  have htext : (String.singleton c).toList = [c] := String.toList_singleton _
  have hrequire : (do Run.require .wrongType (Atom.str (String.singleton c)).text? :
      Run String).result w = (.ok (String.singleton c), w) := rfl
  refine (result_bind_ok _ (rfl : (Run.atom (.str (String.singleton c))).result w = _)).trans ?_
  refine (result_bind_ok _ hrequire).trans ?_
  rw [htext]

theorem result_byteChar_narrow {c : Char} (hc : c.toNat < 128) (w : World) :
    (byteChar (.str (String.singleton c))).result w = (.ok c, w) := by
  rw [result_byteChar, if_pos hc, result_pure]

theorem result_byteChar_wide {c : Char} (hc : ¬c.toNat < 128) (w : World) :
    (byteChar (.str (String.singleton c))).result w = (.error .wrongValue, w) := by
  rw [result_byteChar, if_neg hc, result_throw]

/-- The first number that an unsigned machine integer of 64 bits does not hold. -/
def rowLimit : Nat := 0x10000000000000000

theorem fits_natCast (n : Nat) : Numeral.Scalar.fits false 64 n = decide (n < rowLimit) := by
  have hpow : Nat.pow 2 64 = rowLimit := rfl
  rw [Bool.eq_iff_iff, decide_eq_true_iff]
  simp only [Numeral.Scalar.fits, Numeral.Scalar.wrap, Bool.false_eq_true, if_false, beq_iff_eq, hpow]
  norm_cast
  exact Nat.mod_eq_iff_lt (by decide)

theorem result_rowCount (n : Nat) (w : World) :
    (rowCount (.int n)).result w =
      (if n < rowLimit then return n else throw .overflow : Run Nat).result w := by
  have hatom : (Run.atom (.int n)).result w = (.ok (.int n), w) := rfl
  have hindex : (Run.require .wrongType (Atom.int n).index?).result w = (.ok (n : Int), w) := rfl
  rw [rowCount, result_bind_ok _ hatom, result_bind_ok _ hindex, fits_natCast]
  simp only [decide_eq_true_eq, Int.toNat_natCast]

/-- What a reader of tables is told about cells, unless a character takes more than a byte. -/
theorem result_layoutOf (hF : w.ReadsRows F k header skip l) (d : Dispatch) :
    (layoutOf d F).result w = (if isNarrow l then return l else throw .wrongValue : Run Layout).result w := by
  obtain ⟨c, as, ⟨a, o, rfl, hcell⟩, h⟩ := hF
  obtain ⟨delimiter, quote⟩ := l
  have htruth : (d.truth (.bool quote.isSome)).result w = (.ok quote.isSome, w) := by
    cases quote <;> rfl
  rw [layoutOf, result_bind_ok _ (result_field hcell h.delimiter)]
  by_cases hd : delimiter.toNat < 128
  · rw [result_bind_ok _ (result_byteChar_narrow hd w), result_bind_ok _ (result_field hcell h.quoted),
      result_bind_ok _ htruth]
    cases quote with
    | none => simp [isNarrow, hd]
    | some q =>
      rw [Option.isSome_some, if_pos rfl, result_bind_ok _ (result_field hcell (h.quote q rfl))]
      by_cases hq : q.toNat < 128
      · rw [result_bind_ok _ (result_byteChar_narrow hq w)]
        simp [isNarrow, hd, hq]
      · rw [result_bind_error _ (result_byteChar_wide hq w)]
        simp [isNarrow, hd, hq]
  · rw [result_bind_error _ (result_byteChar_wide hd w)]
    simp [isNarrow, hd]

/-! ## Texts -/

section

variable (read : Reader) (header : List String) (skip : Nat) (l : Layout) (text : String)

def isBlank : Bool := (Text.strip text.toList).isEmpty

/-- Why a text is refused before it is read. -/
def refusal? : Option Fault :=
  if isBlank text then none
  else if ¬isNarrow l then some .wrongValue
  else if rowLimit ≤ skip then some .overflow
  else none

/-- The table that is read of a text: an empty one if there is nothing to read. -/
def tableOf? : Option Grid := if isBlank text then some ⟨0, []⟩ else read l skip text.toList

/-- Makes a dictionary of each row that has a cell. -/
def dictionaries (table : Grid) : Run Value := do
  if table.columns > header.length then throw (.headerTooShort table.columns header.length)
  Run.newList (← table.records.mapM (entries (header.map .str)))

/-- What a reader of tables makes of a text. -/
def outcome : Run Value :=
  match refusal? skip l text with
  | some e => throw e
  | none => do dictionaries header (← Run.require .unreadableTable (tableOf? read skip l text))

end

theorem refusal?_eq_none_iff {text : String} :
    refusal? skip l text = none ↔ isBlank text = true ∨ isNarrow l ∧ skip < rowLimit := by
  rw [refusal?]
  split
  · simp [*]
  · split
    · simp [*]
    · split <;> simp_all

theorem result_dictionaries_nil (header : List String) (w : World) :
    (dictionaries header ⟨0, []⟩).result w = (Run.newList []).result w := by
  rw [dictionaries, if_neg (Nat.not_lt_zero _)]
  rfl

/-- What a reader makes of a text is up to what is read of it. -/
theorem result_parseWith (hF : w.ReadsRows F k header skip l) (d : Dispatch) (read : Reader)
    (text : String) :
    (parseWith d read F text).result w = (outcome read header skip l text).result w := by
  have hlayout := result_layoutOf hF d
  obtain ⟨c, as, hobject, h⟩ := hF
  obtain ⟨s, hs, hlist⟩ := h.header
  have hitems := Fields.result_itemsOf (d := d) hobject hs hlist
  obtain ⟨a, o, rfl, hcell⟩ := hobject
  by_cases hblank : isBlank text = true
  · have hrefusal : refusal? skip l text = none := refusal?_eq_none_iff.mpr (.inl hblank)
    rw [parseWith, ← isBlank, if_pos hblank, outcome, hrefusal, tableOf?, if_pos hblank]
    exact (result_dictionaries_nil header w).symm
  rw [parseWith, ← isBlank, if_neg hblank, outcome, refusal?, if_neg hblank, tableOf?, if_neg hblank]
  by_cases hnarrow : isNarrow l
  · rw [if_pos hnarrow, result_pure] at hlayout
    have hrows := result_rowCount skip w
    rw [result_bind_ok _ hlayout, result_bind_ok _ (result_field hcell h.firstRow),
      if_neg (not_not_intro hnarrow)]
    by_cases hskip : skip < rowLimit
    · rw [if_pos hskip, result_pure] at hrows
      rw [result_bind_ok _ hrows, if_neg (Nat.not_le_of_gt hskip)]
      cases read l skip text.toList with
      | none => rfl
      | some grid =>
        rw [result_bind_ok _ (result_require_some _ grid w), result_bind_ok _ hitems,
          result_bind_ok _ (result_require_some _ grid w), List.length_map]
        rfl
    · rw [if_neg hskip, result_throw] at hrows
      rw [result_bind_error _ hrows, if_pos (Nat.le_of_not_gt hskip)]
      rfl
  · rw [if_neg hnarrow, result_throw] at hlayout
    rw [result_bind_error _ hlayout, if_pos hnarrow]
    rfl

/-! ## Calls -/

/-- The text of an atom that is one. -/
def textOf? : Value → Option String
  | .atom a => a.text?
  | _ => none

/-- The text that a value is taken for where a table is read; blank bytes are taken for a blank text. -/
def taken? : Value → Option String
  | .atom a =>
    match a.text?, a.bytes? with
    | some s, _ => some s
    | _, some bs => if bs.all fun b => b == 32 || (9 ≤ b && b ≤ 13) then some "" else none
    | _, _ => none
  | _ => none

/-- A value that is not taken for a text is refused. -/
theorem result_parse (hF : w.ReadsRows F k header skip l) (d : Dispatch) (x : Value) :
    (∃ e, taken? x = none ∧ (parse d F x).result w = (.error e, w)) ∨
      ∃ text, taken? x = some text ∧
        (parse d F x).result w = (outcome Grid.read? header skip l text).result w := by
  cases x with
  | atom a =>
    rw [taken?, parse]
    cases hs : a.text? with
    | some text => exact .inr ⟨text, rfl, result_parseWith hF d _ text⟩
    | none =>
      cases hbs : a.bytes? with
      | none => exact .inl ⟨_, rfl, rfl⟩
      | some bs =>
        by_cases hblank : (bs.all fun b => b == 32 || (9 ≤ b && b ≤ 13)) = true
        · refine .inr ⟨"", if_pos hblank, ?_⟩
          dsimp only
          rw [if_pos hblank]
          exact (result_dictionaries_nil header w).symm
        · refine .inl ⟨.wrongType, if_neg hblank, ?_⟩
          dsimp only
          rw [if_neg hblank, result_throw]
  | _ => exact .inl ⟨_, rfl, rfl⟩

theorem result_method_parse (hF : w.ReadsRows F k header skip l) (x : Value) (n : Nat) :
    ((Dispatch.ofDepth (n + 1)).method F "_parse" [x]).result w = (parse (.ofDepth n) F x).result w := by
  obtain ⟨c, as, ⟨a, o, rfl, hcell⟩, h⟩ := hF
  exact Dispatch.result_method_object n hcell h.parses h.parse

/-- A call comes down to what the class makes of the value. -/
theorem result_call_apply (hF : w.ReadsRows F k header skip l) (x : Value) (n : Nat) :
    ((Dispatch.ofDepth (n + 2)).call F [x]).result w =
      (Method.ofLibrary (.ofDepth n) k "apply" F [x]).result w := by
  obtain ⟨c, as, hobject, h⟩ := hF
  obtain ⟨s, hs, -⟩ := h.header
  exact Dispatch.result_call_handed ⟨c, as, hobject, hs, h.apply, h.calls, h.applies⟩ rfl

theorem result_call_csvToMaps (hF : w.ReadsRows F .csvToMaps header skip l) (x : Value) (n : Nat) :
    ((Dispatch.ofDepth (n + 3)).call F [x]).result w =
      (if x.isNone then return .none else parse (.ofDepth n) F x : Run Value).result w := by
  rw [result_call_apply hF x (n + 1)]
  change (apply (Dispatch.ofDepth (n + 1)) F x).result w = _
  rw [apply]
  split
  · rfl
  · exact result_method_parse hF x n

/-- The texts of values are taken one by one. -/
theorem result_texts (vs : List Value) (w : World) :
    (vs.mapM fun v => do Run.require .wrongType (← Run.atom v).text?).result w =
      (Run.require .wrongType (vs.mapM textOf?)).result w := by
  have hone : ∀ v : Value, (do Run.require .wrongType (← Run.atom v).text? : Run String).result w =
      (Run.require .wrongType (textOf? v)).result w := fun v => by
    cases v <;> rfl
  induction vs with
  | nil => rfl
  | cons v vs ih =>
    rw [List.mapM_cons, List.mapM_cons, result_bind_congr _ (hone v)]
    cases textOf? v with
    | none => rfl
    | some s =>
      rw [result_bind_ok _ (result_require_some _ s w), result_bind_congr _ ih]
      cases vs.mapM textOf? <;> rfl

theorem result_call_csvLinesToMaps (hF : w.ReadsRows F .csvLinesToMaps header skip l) (x : Value) (n : Nat) :
    ((Dispatch.ofDepth (n + 3)).call F [x]).result w =
      (if x.isNone then return .none
        else do
          let vs ← (Dispatch.ofDepth (n + 1)).items x
          let lines ← vs.mapM fun v => do Run.require .wrongType (← Run.atom v).text?
          (Dispatch.ofDepth (n + 1)).method F "_parse" [.str (String.intercalate "\n" lines)] :
        Run Value).result w :=
  result_call_apply hF x (n + 1)

/-- What a reader takes for a text, and the state once it has it: a text itself, or lines that it joins. -/
inductive Takes (w : World) (n : Nat) (x : Value) : LibraryClass → String → World → Prop
  | text {text : String} : taken? x = some text → Takes w n x .csvToMaps text w
  | lines {vs : List Value} {lines : List String} {v : World} :
    ((Dispatch.ofDepth n).items x).result w = (.ok vs, v) → vs.mapM textOf? = some lines →
      Takes w n x .csvLinesToMaps (String.intercalate "\n" lines) v

theorem Takes.isNone {text : String} {v : World} (h : Takes w n x k text v) : x.isNone = false := by
  by_contra hnone
  obtain rfl : x = .none := by
    cases x with
    | atom a => cases a <;> first | rfl | exact absurd rfl hnone
    | _ => exact absurd rfl hnone
  cases h with
  | text h => cases h
  | lines h => cases h

/-- The texts of lines are joined and read. -/
theorem result_call_lines_bind (hG : w.ReadsRows F .csvLinesToMaps header skip l) (hx : x.isNone = false)
    {vs : List Value} (hvs : ((Dispatch.ofDepth (n + 1)).items x).result w = (.ok vs, u)) :
    ((Dispatch.ofDepth (n + 3)).call F [x]).result w =
      (do
        let lines ← Run.require .wrongType (vs.mapM textOf?)
        (Dispatch.ofDepth (n + 1)).method F "_parse" [.str (String.intercalate "\n" lines)] :
          Run Value).result u := by
  rw [result_call_csvLinesToMaps hG, hx, if_neg Bool.false_ne_true, result_bind_ok _ hvs]
  exact result_bind_congr _ (result_texts vs u)

/-- A call is up to what is read of the text that is taken. -/
theorem result_call_of_takes (hr : ∀ c, w.heap[r]? = some c → ∃ k vs, c = .iterator k vs)
    (hF : w.ReadsRows F k header skip l) {text : String} {v : World} (hx : Takes w (n + 1) x k text v)
    (hv : Around r w v) :
    ((Dispatch.ofDepth (n + 3)).call F [x]).result w =
      (outcome Grid.read? header skip l text).result v := by
  have hnone := hx.isNone
  cases hx with
  | text htext =>
    rw [result_call_csvToMaps hF, hnone, if_neg Bool.false_ne_true]
    obtain ⟨e, hnot, -⟩ | ⟨s, hs, hparse⟩ := result_parse hF (.ofDepth n) x
    · cases hnot.symm.trans htext
    · cases hs.symm.trans htext
      exact hparse
  | lines hvs hlines =>
    rw [result_call_lines_bind hF hnone hvs, hlines, result_bind_ok _ (result_require_some _ _ v),
      result_method_parse (hF.later hr hv)]
    exact result_parseWith (hF.later hr hv) _ _ _

/-- A call that succeeds gives nothing for nothing, or else what is read of the text that is taken. -/
theorem takes_of_call (hk : k = .csvToMaps ∨ k = .csvLinesToMaps)
    (hr : ∀ c, w.heap[r]? = some c → ∃ k vs, c = .iterator k vs) (hF : w.ReadsRows F k header skip l)
    (hx : k = .csvLinesToMaps → w.IsWalked r (n + 1) x) {y : Value}
    (h : ((Dispatch.ofDepth (n + 3)).call F [x]).result w = (.ok y, u)) :
    x.isNone = true ∧ y = .none ∨ ∃ text v, Takes w (n + 1) x k text v ∧
      (outcome Grid.read? header skip l text).result v = (.ok y, u) := by
  obtain rfl | rfl := hk
  · cases hnone : x.isNone with
    | true =>
      rw [result_call_csvToMaps hF, hnone, if_pos rfl] at h
      cases h
      exact .inl ⟨rfl, rfl⟩
    | false =>
      rw [result_call_csvToMaps hF, hnone, if_neg Bool.false_ne_true] at h
      obtain ⟨e, -, herror⟩ | ⟨text, htext, hparse⟩ := result_parse hF (.ofDepth n) x
      · cases herror.symm.trans h
      · exact .inr ⟨text, w, .text htext, hparse.symm.trans h⟩
  · cases hnone : x.isNone with
    | true =>
      rw [result_call_csvLinesToMaps hF, hnone, if_pos rfl] at h
      cases h
      exact .inl ⟨rfl, rfl⟩
    | false =>
      have hitems := h
      rw [result_call_csvLinesToMaps hF, hnone, if_neg Bool.false_ne_true] at hitems
      obtain ⟨vs, v, hvs, -⟩ := result_bind_eq_ok.mp hitems
      have hlines := h
      rw [result_call_lines_bind hF hnone hvs] at hlines
      cases htexts : vs.mapM textOf? with
      | none =>
        rw [htexts] at hlines
        cases hlines
      | some lines =>
        have htakes : Takes w (n + 1) x .csvLinesToMaps _ v := .lines hvs htexts
        exact .inr ⟨_, v, htakes, (result_call_of_takes hr hF htakes (hx rfl vs v hvs)).symm.trans h⟩

/-- A reader of tables with three columns. -/
def reading (skip : Nat) (l : Layout) : World := { World.initial with
  heap := #[.list [.str "a", .str "b", .str "c"],
    .object LibraryClass.csvToMaps.className none [("header", .ref 0), ("first_row", .int skip),
      ("delimiter", .str (String.singleton l.delimiter)), ("quoted", .bool l.quote.isSome),
      ("quote_char", .str (String.singleton (l.quote.getD '\x22')))]] }

theorem readsRows_reading (skip : Nat) (l : Layout) :
    (reading skip l).ReadsRows (.ref 1) .csvToMaps ["a", "b", "c"] skip l := by
  have hquote : ∀ q ∈ l.quote, Datum.atom (.str (String.singleton (l.quote.getD '\x22'))) =
      .atom (.str (String.singleton q)) := by
    rintro q hq
    rw [hq]
    rfl
  exact readsRows_of_settings ⟨rfl, rfl⟩ (.inl rfl) rfl hquote
    ⟨rfl, ⟨0, _, rfl, rfl, rfl, rfl, rfl, trivial⟩, rfl, rfl, rfl, rfl, rfl, rfl, rfl, rfl, trivial⟩

theorem iterator_reading (skip : Nat) (l : Layout) :
    ∀ c, (reading skip l).heap[2]? = some c → ∃ k vs, c = .iterator k vs := by
  rintro c ⟨⟩

theorem result_call_reading (skip : Nat) (l : Layout) (text : String) :
    (Dispatch.standard.call (.ref 1) [.str text]).result (reading skip l) =
      (outcome Grid.read? ["a", "b", "c"] skip l text).result (reading skip l) := by
  have htakes : Takes (reading skip l) 998 (.str text) .csvToMaps text (reading skip l) := .text rfl
  exact result_call_of_takes (iterator_reading skip l) (readsRows_reading skip l) htakes (.refl 2 _)

end Tables

end FunctionObjects
