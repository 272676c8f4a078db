import Mathlib.Data.Rat.Floor
import FunctionObjects.Proofs.Construction.Partners
import FunctionObjects.Proofs.Predicate.Combining
import FunctionObjects.Proofs.Time.Calendar
import FunctionObjects.Proofs.Time.Reading
/-!
# Readers and writers of moments

A reader of moments gives the count of the moment that a text stands for in its unit; the clock of that
moment has the offset that the text states or, if it states none, that of the zone which is set.  So a moment
that is written in the standard form and read again is counted from the start of 1970.  A unit that holds
another one several times gives the floor of what the other one gives, before 1970 as well as after.
-/

namespace FunctionObjects

open Run World Time

namespace World

/-- An object of a class that leaves it to the library to read moments in a format and a zone, either of
which may be nothing, and to count them in a unit. -/
def ReadsMoments (w : World) (F format zone : Value) (unit : String) : Prop :=
  ∃ c as, w.IsObjectWith F c as ∧ as.lookup "format" = some format ∧
    as.lookup "time_zone" = some zone ∧ as.lookup "time_unit" = some (.str unit) ∧
    as.lookup "apply" = none ∧ w.member? c "__call__" = some (.library .function .method) ∧
    w.member? c "apply" = some (.library .parseTime .method)

/-- An object of a class that leaves it to the library to write moments in a format, which may be
nothing. -/
def WritesMoments (w : World) (F format : Value) : Prop :=
  w.HandsOn F .function "apply" .toDateString "format" format

end World

/-! ## What is read is a moment -/

theorem Run.except_bind_eq_ok {α β : Type} {m : Except Fault α} {f : α → Except Fault β} {b : β} :
    m >>= f = .ok b ↔ ∃ a, m = .ok a ∧ f a = .ok b := by
  cases m with
  | error e => exact ⟨nofun, nofun⟩
  | ok a => exact ⟨fun h => ⟨a, rfl, h⟩, fun ⟨_, ha, h⟩ => Except.ok.inj ha ▸ h⟩

theorem Time.Iso.isValid_of_moment? {cs : List Char} {t : Moment} (h : Iso.moment? cs = some t) :
    t.isValid = true := by
  have hchecked : ∀ u : Moment, (if u.isValid = true then some u else none) = some t → t.isValid = true := by
    intro u hu
    split at hu
    · rename_i hvalid
      exact Option.some.inj hu ▸ hvalid
    · cases hu
  unfold Iso.moment? at h
  split at h
  · cases h
  obtain ⟨n, -, h⟩ := Option.bind_eq_some_iff.mp h
  obtain ⟨date, -, h⟩ := Option.bind_eq_some_iff.mp h
  dsimp only at h
  split at h
  · exact hchecked _ h
  · obtain ⟨c, -, h⟩ := Option.bind_eq_some_iff.mp h
    exact hchecked _ h

theorem Time.Scan.isValid_of_moment? {format cs : List Char} {t : Moment}
    (h : Scan.moment? format cs = .ok t) : t.isValid = true := by
  unfold Scan.moment? at h
  dsimp only at h
  split at h
  case h_2 => cases h
  rw [pure_bind] at h
  split at h
  case h_2 => cases h
  rw [pure_bind] at h
  split at h
  case h_1 => cases h
  split at h
  · cases h
  split at h
  case h_1 => cases h
  split at h
  · rename_i hvalid
    exact Except.ok.inj h ▸ hvalid
  · cases h

namespace Dates

theorem isValid_of_read {format : Option String} {text : String} {t : Moment}
    (h : read format text = .ok t) : t.isValid = true := by
  cases format with
  | none =>
    rw [read] at h
    cases hiso : Iso.moment? text.toList with
    | none => simp [hiso] at h
    | some u =>
      rw [hiso] at h
      exact Except.ok.inj h ▸ Iso.isValid_of_moment? hiso
  | some f =>
    rw [read] at h
    split at h
    · rename_i u hscan
      exact Except.ok.inj h ▸ Scan.isValid_of_moment? hscan
    · cases h
    · cases h

/-! ## The moment that a text stands for -/

/-- The text that a value is. -/
def text? : Value → Option String
  | .atom a => a.text?
  | _ => none

/-- The format that a value is, which may be nothing. -/
def formatOf (v : Value) : Except Fault (Option String) :=
  if v.isNone then return none else (text? v).elim (throw .wrongType) fun f => return some f

/-- The zone that a value names, which may be nothing. -/
def zoneOf (zones : Zones) (v : Value) : Except Fault (Option Zone) :=
  if v.isNone then return none
  else match text? v with
    | none => throw .wrongType
    | some name => (zones name).elim (throw (.unknownTimeZone name)) fun z => return some z

/-- A moment with the offset of its clock: a clock of unknown offset has that of a zone or, if this is
nothing, shows universal time. -/
def withOffset (zones : Zones) (zone : Value) (t : Moment) : Except Fault Moment :=
  match t.offset with
  | some _ => return t
  | none => do
    let z ← zoneOf zones zone
    return { t with offset := some ((z.map (·.offsetAt t)).getD 0) }

/-- The moment that a text stands for in a format, which may be nothing, where there are some time zones. -/
def reading (zones : Zones) (format zone x : Value) : Except Fault Moment := do
  let text ← (text? x).elim (throw .wrongType) pure
  withOffset zones zone (← read (← formatOf format) text)

variable {w : World} {F x format zone : Value} {unit : String} {length : Int}

theorem result_textOf (v : Value) (w : World) : (parse.textOf v).result w = (.ok (text? v), w) := by
  cases v <;> rfl

theorem result_format (v : Value) (w : World) :
    ((if v.isNone then none else some v).mapM fun f => do
      Run.require .wrongType (← parse.textOf f)).result w = (formatOf v, w) := by
  rw [formatOf]
  split
  · rfl
  · rw [Option.mapM_some, result_map, result_bind_ok _ (result_textOf v w)]
    cases text? v <;> rfl

theorem result_zone (v : Value) (w : World) :
    ((if v.isNone then none else some v).mapM Dates.zone).result w = (zoneOf w.zones v, w) := by
  rw [zoneOf]
  split
  · rfl
  · rw [Option.mapM_some, result_map]
    cases v with
    | atom a =>
      rw [Dates.zone, text?]
      cases a.text? with
      | none => rfl
      | some name =>
        rw [result_bind_ok _ (result_require_some _ _ _)]
        dsimp only
        rw [result_bind_ok _ (result_get w)]
        cases w.zones name <;> rfl
    | _ => rfl

section

variable {l : Ref} {c : ClassName} {o : Option Ty} {as : List (String × Value)}
  (hcell : w.heap[l]? = some (.object c o as)) (hzone : as.lookup "time_zone" = some zone)
  (hunit : as.lookup "time_unit" = some (.str unit)) (hlength : units.lookup unit = some length)

include hcell hzone hunit hlength

/-- A moment that has been read is counted with the offset of its clock. -/
theorem result_count (t : Moment) : (do
      let z ← if t.offset.isSome then pure none
        else (← Run.optional (.ref l) "time_zone").mapM Dates.zone
      let unit ← parse.textOf (← Run.field (.ref l) "time_unit")
      let length ← Run.require .noKey (unit.bind fun u => units.lookup u)
      return .int (count (Dates.instant z t) length) : Run Value).result w =
    ((withOffset w.zones zone t).map fun t => .int (count t.instant length), w) := by
  have hrest : ∀ z : Option Zone, (do
      let unit ← parse.textOf (← Run.field (.ref l) "time_unit")
      let length ← Run.require .noKey (unit.bind fun u => units.lookup u)
      return .int (count (Dates.instant z t) length) : Run Value).result w =
        (.ok (.int (count (Dates.instant z t) length)), w) := by
    intro z
    rw [result_bind_ok _ (result_field hcell hunit), result_bind_ok _ (result_textOf _ w)]
    have htext : text? (.str unit) = some unit := rfl
    rw [htext, Option.bind_some, hlength]
    rfl
  rw [withOffset]
  cases hoffset : t.offset with
  | some offset =>
    rw [Option.isSome_some, if_pos rfl, result_bind_ok _ (result_pure none w), hrest none]
    simp [Dates.instant, Moment.instant, hoffset, pure, Except.pure, Except.map]
  | none =>
    rw [Option.isSome_none, if_neg Bool.false_ne_true, result_bind_ok _ (result_optional hcell hzone),
      result_bind, result_zone]
    cases zoneOf w.zones zone with
    | error e => rfl
    | ok z =>
      refine (hrest z).trans ?_
      rw [Dates.instant, hoffset]
      rfl

/-- A reader gives the count of the moment that it reads. -/
theorem result_parse (hformat : as.lookup "format" = some format) (hx : x.isNone = false) :
    (parse (.ref l) x).result w =
      ((reading w.zones format zone x).map fun t => .int (count t.instant length), w) := by
  have hcount := result_count hcell hzone hunit hlength
  rw [parse, hx]
  simp only [Bool.false_eq_true, if_false]
  rw [result_bind_ok _ (result_textOf x w), reading]
  cases htext : text? x with
  | none => rfl
  | some text =>
    rw [result_bind_ok _ (result_require_some _ _ _), result_bind_ok _ (result_optional hcell hformat)]
    have hstep := result_format format w
    cases hf : formatOf format with
    | error e => exact result_bind_error _ (hf ▸ hstep)
    | ok f =>
      rw [result_bind_ok _ (hf ▸ hstep)]
      show _ = (Except.map _ (do withOffset w.zones zone (← read f text)), w)
      cases hread : read f text with
      | error e => exact result_bind_error _ rfl
      | ok t => exact (result_bind_ok _ (result_lift_ok t w)).trans (hcount t)

end

/-! ## Calls -/

theorem result_call_reader (h : w.ReadsMoments F format zone unit)
    (hlength : units.lookup unit = some length) (hx : x.isNone = false) (n : Nat) :
    ((Dispatch.ofDepth (n + 2)).call F [x]).result w =
      ((reading w.zones format zone x).map fun t => .int (count t.instant length), w) := by
  obtain ⟨c, as, hF, hformat, hzone, hunit, happly, hcall, hmember⟩ := h
  rw [Dispatch.result_call_handed ⟨c, as, hF, hunit, happly, hcall, hmember⟩ rfl]
  obtain ⟨l, o, rfl, hcell⟩ := hF
  exact result_parse hcell hzone hunit hlength hformat hx

theorem result_call_reader_none (h : w.ReadsMoments F format zone unit) (n : Nat) :
    ((Dispatch.ofDepth (n + 2)).call F [.none]).result w = (.ok .none, w) := by
  obtain ⟨c, as, hF, -, -, hunit, happly, hcall, hmember⟩ := h
  rw [Dispatch.result_call_handed ⟨c, as, hF, hunit, happly, hcall, hmember⟩ rfl]
  rfl

theorem result_call_writer (h : w.WritesMoments F .none) (t : Moment) (n : Nat) :
    ((Dispatch.ofDepth (n + 2)).call F [.atom (.moment t)]).result w = (.ok (.str (t.text "T")), w) := by
  rw [Dispatch.result_call_handed h rfl]
  obtain ⟨c, as, ⟨l, o, rfl, hcell⟩, hformat, -⟩ := h
  exact result_bind_ok _ (result_optional hcell hformat)

/-! ## Constructors -/

theorem of_result_unitName {v : Value} {name : String} {w w' : World}
    (h : (unitName v).result w = (.ok name, w')) : w' = w ∧ (units.lookup name).isSome = true := by
  cases v with
  | atom a =>
    rw [unitName] at h
    cases htext : a.text? with
    | none => simp [result_bind, htext] at h
    | some s =>
      rw [result_bind_ok _ (htext ▸ result_require_some _ s w)] at h
      dsimp only at h
      split at h
      · rename_i hknown
        obtain ⟨hname, rfl⟩ := Prod.mk.inj h
        exact ⟨rfl, Except.ok.inj hname ▸ hknown⟩
      · cases h
  | _ => cases h

/-- What is set on an object is stored, and no class changes. -/
theorem setField_onto {u : World} {r : Ref} {c : ClassName} {o : Option Ty}
    {as : List (String × Value)} (hu : w.SameClasses u) (hcell : u.heap[r]? = some (.object c o as))
    (name : String) (x : Value) : ∃ v, v.heap[r]? = some (.object c o (assign as name x)) ∧
      w.SameClasses v ∧ (setField (.ref r) name x).result u = (.ok (), v) := by
  have hr : r < u.heap.size := lt_size_of_getElem? hcell
  refine ⟨_, ?_, ?_, result_setField hcell name x⟩
  · simp [hr]
  · exact ⟨hu.hierarchy, hu.declarations⟩

/-- The constructor stores a format, a zone and a unit that is known. -/
theorem of_result_setUpReader {u u' : World} {r : Ref} {c : ClassName} {o : Option Ty} {unit : Value}
    (hu : w.SameClasses u) (hcell : u.heap[r]? = some (.object c o []))
    (hset : (setUpReader (.ref r) format zone unit).result u = (.ok (), u')) :
    ∃ name, (units.lookup name).isSome = true ∧ w.SameClasses u' ∧
      u'.heap[r]? = some (.object c o [("format", format), ("time_zone", zone), ("time_unit", .str name)]) := by
  obtain ⟨name, v, hname, hstored⟩ := result_bind_eq_ok.mp hset
  obtain ⟨rfl, hknown⟩ := of_result_unitName hname
  -- Reading the zone changes nothing.
  replace hstored : (do
      setField (.ref r) "format" format
      setField (.ref r) "time_zone" zone
      setField (.ref r) "time_unit" (.str name)).result v = (.ok (), u') := by
    split at hstored
    · rename_i hzone
      obtain ⟨z, u₁, hz, hstored⟩ := result_bind_eq_ok.mp hstored
      have hread := result_zone zone v
      rw [if_neg (by simpa using hzone), Option.mapM_some, result_map, hz] at hread
      exact (Prod.mk.inj hread).2 ▸ hstored
    · exact hstored
  obtain ⟨u₁, hcell₁, hu₁, hset₁⟩ := setField_onto hu hcell "format" format
  obtain ⟨u₂, hcell₂, hu₂, hset₂⟩ := setField_onto hu₁ hcell₁ "time_zone" zone
  obtain ⟨u₃, hcell₃, hu₃, hset₃⟩ := setField_onto hu₂ hcell₂ "time_unit" (.str name)
  rw [result_bind_ok _ hset₁, result_bind_ok _ hset₂, hset₃] at hstored
  obtain ⟨-, rfl⟩ := Prod.mk.inj hstored
  exact ⟨name, hknown, hu₃, hcell₃⟩

/-- The constructor makes readers of moments, with a unit that is known. -/
theorem readsMoments_of_make (d : Dispatch) {b : Binding} {args : Arguments} {v : World}
    (hw : initial.SameClasses w) (ho : w.Offers .parseTime)
    (hargs : Binding.of LibraryClass.parseTime.params args = .ok b)
    (hmake : (Construction.make d LibraryClass.parseTime.className args).result w = (.ok F, v)) :
    ∃ unit, (units.lookup unit).isSome = true ∧
      v.ReadsMoments F (b.value "format") (b.value "time_zone") unit := by
  have hparse : LibraryClass.parseTime ∈ Registry.shipped := by decide
  rw [Construction.result_make d hparse ho, hargs] at hmake
  obtain ⟨self, u, halloc, hmake⟩ := result_bind_eq_ok.mp hmake
  obtain ⟨hself, rfl⟩ := Prod.mk.inj halloc
  obtain rfl := Except.ok.inj hself
  obtain ⟨⟨⟩, u', hset, hreturn⟩ := result_bind_eq_ok.mp hmake
  obtain ⟨hF, rfl⟩ := Prod.mk.inj hreturn
  obtain rfl := Except.ok.inj hF
  generalize hstart : ({ w with heap := w.heap.push (.object _ none []) } : World) = u at hset
  have hu : initial.SameClasses u := hstart ▸ ⟨hw.hierarchy, hw.declarations⟩
  have hcell : u.heap[w.heap.size]? = some (.object LibraryClass.parseTime.className none []) := by
    simp [← hstart]
  obtain ⟨unit, hunit, hv, hcell⟩ := of_result_setUpReader hu hcell hset
  have hmethods := methods_texts hv
  simp only [answeringTexts, List.forall_mem_cons] at hmethods
  obtain ⟨hcall, happly, -⟩ := hmethods
  exact ⟨unit, hunit, _, _, ⟨_, _, rfl, hcell⟩, rfl, rfl, rfl, rfl, hcall, happly⟩

end Dates

/-! ## Counts -/

open Dates

variable {w w' : World} {F G P Q x format zone : Value} {U V : String} {L r k : Int}

theorem Time.Zone.offsetAt_within_day (z : Zone) (t : Moment) :
    -microsPerDay < z.offsetAt t ∧ z.offsetAt t < microsPerDay := by
  have hwithin := z.within_day t
  simp only [Zone.offsetAt, microsPerSecond, microsPerDay]
  omega

namespace Dates

theorem units_pos : ∀ e ∈ units, 0 < e.2 := by decide

theorem length_pos (h : units.lookup U = some L) : 0 < L :=
  units_pos _ (Binding.mem_of_lookup h)

/-- A count stands for the unit of time in which a moment lies. -/
theorem count_eq_iff (hL : 0 < L) {m : Int} : count m L = k ↔ k * L ≤ m ∧ m < (k + 1) * L := by
  rw [count, Int.fdiv_eq_ediv_of_nonneg _ hL.le, Int.ediv_eq_iff_of_pos hL]
  constructor <;> rintro ⟨h₁, h₂⟩ <;> constructor <;> linarith

theorem count_le_count (hL : 0 < L) {m n : Int} (h : m ≤ n) : count m L ≤ count n L := by
  rw [count, count, Int.fdiv_eq_ediv_of_nonneg _ hL.le, Int.fdiv_eq_ediv_of_nonneg _ hL.le]
  exact Int.ediv_le_ediv hL h

/-- Whole units of a multiple of a length are whole multiples of the units of that length. -/
theorem count_mul (hL : 0 < L) (hr : 0 < r) (m : Int) :
    count m (r * L) = ⌊(count m L : ℚ) / (r : ℚ)⌋ := by
  lift r to Nat using hr.le
  rw [count, count, Int.fdiv_eq_ediv_of_nonneg _ (by positivity), Int.fdiv_eq_ediv_of_nonneg _ hL.le,
    Int.cast_natCast, Rat.floor_intCast_div_natCast, mul_comm, Int.ediv_ediv_of_nonneg hL.le]

theorem reading_eq {zones : Zones} {text : String} {f : Option String} {t : Moment} (htext : text? x = some text)
    (hformat : formatOf format = .ok f) (hread : read f text = .ok t) :
    reading zones format zone x = withOffset zones zone t := by
  rw [reading, htext, hformat]
  exact congrArg (· >>= withOffset zones zone) hread

/-- A moment that is valid without an offset is valid with that of a zone. -/
theorem isValid_withOffset {zones : Zones} {t u : Moment} (ht : t.isValid = true)
    (h : withOffset zones zone t = .ok u) : u.isValid = true := by
  unfold withOffset at h
  split at h
  · exact Except.ok.inj h ▸ ht
  · obtain ⟨(z : Option Zone), -, h⟩ := except_bind_eq_ok.mp h
    obtain rfl := Except.ok.inj h
    simp only [Moment.isValid, Bool.and_eq_true] at ht ⊢
    refine ⟨ht.1, ?_⟩
    cases z with
    | none => rfl
    | some z => simpa using z.offsetAt_within_day t

/-- What stands in a text is a valid moment, whatever time zones there are. -/
theorem isValid_of_reading {zones : Zones} {t : Moment} (h : reading zones format zone x = .ok t) :
    t.isValid = true := by
  obtain ⟨text, -, h⟩ := except_bind_eq_ok.mp h
  obtain ⟨f, -, h⟩ := except_bind_eq_ok.mp h
  obtain ⟨u, hread, h⟩ := except_bind_eq_ok.mp h
  exact isValid_withOffset (isValid_of_read hread) h

/-- A reader that gives a number has read a moment and counted it in its unit. -/
theorem exists_of_call_reader (hP : w.ReadsMoments P format zone U) (hU : units.lookup U = some L)
    {n : Nat} (h : ((Dispatch.ofDepth (n + 2)).call P [x]).result w = (.ok (.int k), w')) :
    w' = w ∧ x.isNone = false ∧ ∃ t, reading w.zones format zone x = .ok t ∧ count t.instant L = k := by
  cases hx : x.isNone with
  | true =>
    obtain rfl : x = .none := by
      unfold Value.isNone at hx
      split at hx
      · rfl
      · cases hx
    rw [result_call_reader_none hP] at h
    cases h
  | false =>
    rw [result_call_reader hP hU hx] at h
    obtain ⟨hk, rfl⟩ := Prod.mk.inj h
    cases hread : reading w.zones format zone x with
    | error e => rw [hread] at hk; cases hk
    | ok t =>
      rw [hread] at hk
      exact ⟨rfl, rfl, t, rfl, Atom.int.inj (Value.atom.inj (Except.ok.inj hk))⟩

/-- The standard form of a moment is read as its count of microseconds. -/
theorem result_call_written (hG : w.ReadsMoments G .none .none "MICROSECOND") {t : Moment}
    (ht : t.isValid = true) (hseconds : ∀ o ∈ t.offset, o % 1000000 = 0) (n : Nat) :
    ((Dispatch.ofDepth (n + 2)).call G [.str (t.text "T")]).result w = (.ok (.int t.instant), w) := by
  have hread : read none (t.text "T") = .ok t := by
    rw [read, Iso.moment?_text ht hseconds]
    rfl
  have hreading : reading w.zones .none .none (.str (t.text "T")) = withOffset w.zones .none t :=
    reading_eq rfl rfl hread
  have hlength : units.lookup "MICROSECOND" = some 1 := by decide
  have hcount : count t.instant 1 = t.instant := by simp [count]
  rw [result_call_reader hG hlength rfl, hreading, withOffset]
  cases hoffset : t.offset with
  | some o =>
    show (Except.ok (Value.int (count t.instant 1)), w) = _
    rw [hcount]
  | none =>
    show (Except.ok (Value.int (count (Moment.instant { t with offset := some 0 }) 1)), w) = _
    have hinstant : Moment.instant { t with offset := some 0 } = t.instant := by
      rw [Moment.instant, Moment.instant, hoffset]
      rfl
    rw [hinstant, hcount]

/-- Writing a moment in the standard form and reading it in microseconds recovers it: what is read is the
number of microseconds that elapse from the start of 1970, below zero for a moment before.  So moments
between which no time elapses are read as the same number. -/
theorem reads_what_is_written (hF : w.WritesMoments F .none)
    (hG : w.ReadsMoments G .none .none "MICROSECOND") (n : Nat) {t : Moment} (ht : t.isValid = true)
    (hseconds : ∀ o ∈ t.offset, o % 1000000 = 0) :
    ∃ s k, ((Dispatch.ofDepth (n + 2)).call F [.atom (.moment t)]).result w = (.ok (.str s), w) ∧
      ((Dispatch.ofDepth (n + 2)).call G [.str s]).result w = (.ok (.int k), w) ∧
      Moment.epoch.ElapsesTo t k ∧ (k < 0 ↔ ∃ m, 0 < m ∧ t.ElapsesTo .epoch m) ∧
      ∀ u : Moment, u.isValid = true → (∀ o ∈ u.offset, o % 1000000 = 0) → t.ElapsesTo u 0 →
        ∃ s', ((Dispatch.ofDepth (n + 2)).call F [.atom (.moment u)]).result w = (.ok (.str s'), w) ∧
          ((Dispatch.ofDepth (n + 2)).call G [.str s']).result w = (.ok (.int k), w) := by
  have hproper := Moment.isProper_of_isValid ht
  refine ⟨t.text "T", t.instant, result_call_writer hF t n, result_call_written hG ht hseconds n,
    (Moment.epoch_elapsesTo_iff hproper).mpr rfl, ?_, ?_⟩
  · simp only [Moment.elapsesTo_iff hproper Moment.isProper_epoch, Moment.instant_epoch,
      exists_eq_right]
    omega
  · intro u hu husec helapses
    refine ⟨u.text "T", result_call_writer hF u n, ?_⟩
    rw [result_call_written hG hu husec n]
    have := (Moment.elapsesTo_iff hproper (Moment.isProper_of_isValid hu)).mp helapses
    have hsame : u.instant = t.instant := by omega
    rw [hsame]

/-- A writer, a reader in microseconds, and readers of other texts in minutes and in days. -/
def counting : World := { World.initial with
  heap := #[.object LibraryClass.toDateString.className none [("format", .none)],
    .object LibraryClass.parseTime.className none
      [("format", .none), ("time_zone", .none), ("time_unit", .str "MICROSECOND")],
    .object LibraryClass.parseTime.className none
      [("format", .str "%d.%m.%Y %H:%M"), ("time_zone", .str "America/New_York"),
        ("time_unit", .str "MINUTE")],
    .object LibraryClass.parseTime.className none
      [("format", .str "%d.%m.%Y %H:%M"), ("time_zone", .str "America/New_York"),
        ("time_unit", .str "DAY")]] }

/-- The first midnight of the calendar, with a clock that is 1:02:03 ahead. -/
def firstMidnight : Moment := ⟨Date.first, 0, 0, 0, 7, some 3723000000⟩

/-- The first midnight is read back, and so is the same moment on a clock that is nearly a day ahead. -/
theorem reads_first_midnight : ∃ s s', firstMidnight.isValid = true ∧
    (Dispatch.standard.call (.ref 0) [.atom (.moment firstMidnight)]).result counting =
      (.ok (.str s), counting) ∧
    (Dispatch.standard.call (.ref 1) [.str s]).result counting =
      (.ok (.int (-62135600522999993)), counting) ∧
    (Dispatch.standard.call (.ref 0)
        [.atom (.moment ⟨Date.first, 22, 57, 56, 7, some 86399000000⟩)]).result counting =
      (.ok (.str s'), counting) ∧
    (Dispatch.standard.call (.ref 1) [.str s']).result counting =
      (.ok (.int (-62135600522999993)), counting) := by
  have hmethods := methods_texts (w := counting) ⟨rfl, rfl⟩
  simp only [answeringTexts, List.forall_mem_cons] at hmethods
  obtain ⟨hcallG, happlyG, hcallF, happlyF, -⟩ := hmethods
  obtain ⟨s, k, hs, hk, hepoch, -, hsame⟩ := reads_what_is_written (w := counting)
    ⟨_, _, ⟨0, none, rfl, rfl⟩, rfl, rfl, hcallF, happlyF⟩
    ⟨_, _, ⟨1, none, rfl, rfl⟩, rfl, rfl, rfl, rfl, hcallG, happlyG⟩ 998
    (t := firstMidnight) (by decide) (by decide)
  obtain ⟨s', hs', hk'⟩ := hsame ⟨Date.first, 22, 57, 56, 7, some 86399000000⟩ (by decide)
    (by decide) ⟨0, rfl, by decide⟩
  obtain rfl : k = -62135600522999993 :=
    ((Moment.epoch_elapsesTo_iff (Moment.isProper_of_isValid (by decide))).mp hepoch).trans (by decide)
  exact ⟨s, s', by decide, hs, hk, hs', hk'⟩

/-- A unit that holds another one `r` times gives the floor of an `r`-th of what that one gives.  A number in
a unit stands for the stretch of that length, counted from the start of 1970, in which the moment lies that is
read, so that what is read of a later moment, in whatever format and zone, is not lower. -/
theorem coarser_unit_floors (hP : w.ReadsMoments P format zone U)
    (hQ : w.ReadsMoments Q format zone V) (hU : units.lookup U = some L)
    (hV : units.lookup V = some (r * L)) (n : Nat)
    (h : ((Dispatch.ofDepth (n + 2)).call P [x]).result w = (.ok (.int k), w')) :
    w' = w ∧
    ((Dispatch.ofDepth (n + 2)).call Q [x]).result w = (.ok (.int ⌊(k : ℚ) / (r : ℚ)⌋), w) ∧
    ∃ t m, reading w.zones format zone x = .ok t ∧ Moment.epoch.ElapsesTo t m ∧
      k * L ≤ m ∧ m < (k + 1) * L ∧
      ∀ (R y f z : Value) (l : Int) (v : World), w.ReadsMoments R f z U →
        ((Dispatch.ofDepth (n + 2)).call R [y]).result w = (.ok (.int l), v) →
        ∀ u d, reading w.zones f z y = .ok u → t.ElapsesTo u d → 0 ≤ d → k ≤ l := by
  have hL := length_pos hU
  have hr : 0 < r := (mul_pos_iff_of_pos_right hL).mp (length_pos hV)
  obtain ⟨rfl, hx, t, hread, rfl⟩ := exists_of_call_reader hP hU h
  have hproper := Moment.isProper_of_isValid (isValid_of_reading hread)
  obtain ⟨hlow, hhigh⟩ := (count_eq_iff hL).mp (rfl : count t.instant L = _)
  refine ⟨rfl, ?_, t, t.instant, hread, (Moment.epoch_elapsesTo_iff hproper).mpr rfl, hlow, hhigh, ?_⟩
  · rw [result_call_reader hQ hV hx, hread, ← count_mul hL hr]
    rfl
  · intro R y f z l v hR hcall u d hread' helapses hd
    obtain ⟨-, -, u', hu', rfl⟩ := exists_of_call_reader hR hU hcall
    obtain rfl : u' = u := Except.ok.inj (hu'.symm.trans hread')
    have hinstant : t.instant ≤ u'.instant := by
      have hproper' := Moment.isProper_of_isValid (isValid_of_reading hread')
      have := (Moment.elapsesTo_iff hproper hproper').mp helapses
      omega
    exact count_le_count hL hinstant

/-- One minute more than a day before 1970, in New York: the minutes are whole, and the days are those that
have begun. -/
theorem minutes_and_days_before_1970 :
    (Dispatch.standard.call (.ref 2) [.str "30.12.1969 18:59"]).result counting =
      (.ok (.int (-1441)), counting) ∧
    (Dispatch.standard.call (.ref 3) [.str "30.12.1969 18:59"]).result counting =
      (.ok (.int (-2)), counting) := by
  have hmethods := methods_texts (w := counting) ⟨rfl, rfl⟩
  simp only [answeringTexts, List.forall_mem_cons] at hmethods
  obtain ⟨hcall, happly, -⟩ := hmethods
  have hminutes : counting.ReadsMoments (.ref 2) (.str "%d.%m.%Y %H:%M") (.str "America/New_York")
      "MINUTE" := ⟨_, _, ⟨2, none, rfl, rfl⟩, rfl, rfl, rfl, rfl, hcall, happly⟩
  have hread : (Dispatch.standard.call (.ref 2) [.str "30.12.1969 18:59"]).result counting =
      (.ok (.int (-1441)), counting) := by
    have hcount : (reading counting.zones (.str "%d.%m.%Y %H:%M") (.str "America/New_York")
        (.str "30.12.1969 18:59")).toOption.map (fun t => count t.instant 60000000) =
          some (-1441) := by
      decide +kernel
    refine (result_call_reader hminutes (by decide : units.lookup "MINUTE" = some 60000000) rfl
      998).trans ?_
    generalize reading _ _ _ _ = m at hcount ⊢
    cases m with
    | error e => cases hcount
    | ok t => exact congrArg (fun n => (Except.ok (Value.int n), counting)) (Option.some.inj hcount)
  obtain ⟨-, hdays, -⟩ := coarser_unit_floors (w := counting) (L := 60000000) (r := 1440) hminutes
    ⟨_, _, ⟨3, none, rfl, rfl⟩, rfl, rfl, rfl, rfl, hcall, happly⟩ (by decide) (by decide) 998 hread
  refine ⟨hread, hdays.trans ?_⟩
  have hfloor : ⌊((-1441 : Int) : ℚ) / ((1440 : Int) : ℚ)⌋ = -2 := by norm_num
  rw [hfloor]

end Dates

end FunctionObjects
