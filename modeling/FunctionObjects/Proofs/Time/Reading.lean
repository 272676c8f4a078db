import Mathlib.Algebra.Group.Nat.Defs
import FunctionObjects.Proofs.Time.Calendar
import FunctionObjects.Time.Iso
/-!
# Reading what is written

A moment whose offset is of whole seconds is read back from its text, whatever parts the text leaves out:
the fraction of a second, the seconds of the offset, or the offset.
-/

namespace FunctionObjects.Time

/-! ## Numbers of a fixed width -/

theorem toList_pad (width n : Nat) : (pad width n).toList =
    List.replicate (width - (Nat.toDigits 10 n).length) '0' ++ Nat.toDigits 10 n := by
  simp [pad, ← String.length_toList]

theorem length_pad {width n : Nat} (hn : n < 10 ^ width) (hwidth : 0 < width) :
    (pad width n).toList.length = width := by
  have hlength := (Nat.length_toDigits_le_iff (by decide) hwidth).mpr hn
  rw [toList_pad, List.length_append, List.length_replicate]
  omega

theorem isDigit_of_mem_pad {width n : Nat} {c : Char} (hc : c ∈ (pad width n).toList) :
    c.isDigit = true := by
  rw [toList_pad, List.mem_append] at hc
  rcases hc with hzero | hdigit
  · rw [List.eq_of_mem_replicate hzero]
    rfl
  · exact Nat.isDigit_of_mem_toDigits (by decide) (by decide) hdigit

theorem head?_pad {width n : Nat} (hn : n < 10 ^ width) (hwidth : 0 < width) :
    ∃ c, (pad width n).toList.head? = some c ∧ c.isDigit = true := by
  have hlength := length_pad hn hwidth
  cases hpad : (pad width n).toList with
  | nil => simp [hpad] at hlength; omega
  | cons c cs => exact ⟨c, rfl, isDigit_of_mem_pad (hpad ▸ List.mem_cons_self)⟩

theorem pad_ne_empty (width n : Nat) : pad width n ≠ "" := by
  simp [← String.toList_eq_nil_iff, toList_pad]

namespace Moment

variable {t : Moment}

theorem parts_of_isValid (h : t.isValid = true) : t.date.isValid = true ∧ t.hour < 24 ∧ t.minute < 60 ∧
    t.second < 60 ∧ t.micro < 1000000 ∧ ∀ o ∈ t.offset, o.natAbs < 86400000000 := by
  have hday : microsPerDay = 86400000000 := rfl
  simp only [Moment.isValid, Bool.and_eq_true, decide_eq_true_eq, Option.all_eq_true] at h
  obtain ⟨⟨⟨⟨⟨hdate, hhour⟩, hminute⟩, hsecond⟩, hmicro⟩, hoffset⟩ := h
  exact ⟨hdate, hhour, hminute, hsecond, hmicro, fun o ho => by have := hoffset o ho; omega⟩

end Moment

namespace Iso

/-- The value of digits is that of core. -/
theorem foldl_digits (cs : List Char) :
    cs.foldl (fun v c => v * 10 + (c.toNat - 48)) 0 = Nat.ofDigitChars 10 cs 0 := by
  simp [Nat.ofDigitChars_eq_foldl, Nat.mul_comm]

theorem digits?_pad {width n : Nat} (hn : n < 10 ^ width) (hwidth : 0 < width) (rest : List Char) :
    digits? width ((pad width n).toList ++ rest) = some (n, rest) := by
  have hlength := length_pad hn hwidth
  have hvalue : Nat.ofDigitChars 10 (pad width n).toList 0 = n := by
    rw [toList_pad, Nat.ofDigitChars_append, Nat.ofDigitChars_replicate_zero, Nat.mul_zero,
      Nat.ofDigitChars_ten_toDigits]
  have hdigits : (pad width n).toList.all Char.isDigit = true :=
    List.all_eq_true.mpr fun _ => isDigit_of_mem_pad
  simp only [digits?, List.take_left' hlength, List.drop_left' hlength, hlength, hdigits, foldl_digits,
    hvalue, and_self, if_true]

/-! ## Days -/

theorem toList_dateText (d : Date) : d.text.toList =
    (pad 4 d.year).toList ++ '-' :: ((pad 2 d.month).toList ++ '-' :: (pad 2 d.day).toList) := by
  simp [Date.text]

/-- The parts of a day have the widths in which they are written. -/
theorem lt_of_isValid {d : Date} (h : d.isValid = true) :
    d.year < 10 ^ 4 ∧ d.month < 10 ^ 2 ∧ d.day < 10 ^ 2 := by
  have hlong : monthLength d.year d.month ≤ 31 := by
    unfold monthLength
    cases isLeap d.year <;> split <;> decide
  simp only [Date.isValid, Bool.and_eq_true, decide_eq_true_eq] at h
  omega

theorem length_dateText {d : Date} (h : d.isValid = true) : d.text.toList.length = 10 := by
  obtain ⟨hyear, hmonth, hday⟩ := lt_of_isValid h
  simp [toList_dateText, length_pad hyear, length_pad hmonth, length_pad hday]

/-- A day is read back from its text. -/
theorem date?_text {d : Date} (h : d.isValid = true) : date? d.text.toList = some d := by
  obtain ⟨hyear, hmonth, hday⟩ := lt_of_isValid h
  obtain ⟨c, hhead, hdigit⟩ := head?_pad hmonth (by decide)
  have hweek : c ≠ 'W' := by
    rintro rfl
    cases hdigit
  have hlast := digits?_pad hday (by decide) []
  rw [List.append_nil] at hlast
  simp [date?, toList_dateText, digits?_pad hyear, digits?_pad hmonth, hhead, hweek, hlast]

/-- A text that starts with a day in this form has ten characters of it. -/
theorem dayLength?_text {d : Date} (h : d.isValid = true) (rest : List Char) :
    dayLength? (d.text.toList ++ rest) = some 10 := by
  obtain ⟨hyear, hmonth, hday⟩ := lt_of_isValid h
  obtain ⟨c, hhead, hdigit⟩ := head?_pad hmonth (by decide)
  have hweek : c ≠ 'W' := by
    rintro rfl
    cases hdigit
  have hwidth := length_pad hyear (by decide)
  obtain ⟨more, hmore⟩ : ∃ more, d.text.toList ++ rest = (pad 4 d.year).toList ++ '-' :: c :: more := by
    obtain ⟨cs, hcs⟩ := List.head?_eq_some_iff.mp hhead
    exact ⟨_, by rw [toList_dateText, hcs, List.append_assoc]; rfl⟩
  have hdash : (d.text.toList ++ rest)[4]? = some '-' := by
    rw [hmore, List.getElem?_append_right (by omega), hwidth]
    rfl
  have hdigits : (d.text.toList ++ rest)[5]? = some c := by
    rw [hmore, List.getElem?_append_right (by omega), hwidth]
    rfl
  have hlong : ¬d.text.toList.length + rest.length = 7 := by
    rw [length_dateText h]
    omega
  simp [dayLength?, hlong, hdash, hdigits, hweek]

/-! ## Times of day -/

theorem after_nil (colons ends : Bool) : after colons ends [] = .done !ends := rfl

theorem after_colon {rest : List Char} (h : rest ≠ []) (ends : Bool) :
    after true ends (':' :: rest) = .part rest := by
  cases rest with
  | nil => exact absurd rfl h
  | cons c cs => rfl

theorem after_point {rest : List Char} (h : rest ≠ []) (ends : Bool) :
    after true ends ('.' :: rest) = .fraction rest := by
  cases rest with
  | nil => exact absurd rfl h
  | cons c cs => rfl

theorem fraction?_pad {n : Nat} (hn : n < 10 ^ 6) : fraction? (pad 6 n).toList = some (n, false) := by
  have hdigits := digits?_pad hn (by decide) []
  rw [List.append_nil] at hdigits
  simp [fraction?, length_pad hn, hdigits]

section

variable {hour minute second micro : Nat} (hhour : hour < 10 ^ 2) (hminute : minute < 10 ^ 2)
  (hsecond : second < 10 ^ 2) (hmicro : micro < 10 ^ 6) (ends : Bool)

include hhour hminute

theorem clock?_minutes : clock? ends ((pad 2 hour).toList ++ ':' :: (pad 2 minute).toList) =
    some ⟨hour, minute, 0, 0, !ends⟩ := by
  have hlast := digits?_pad hminute (by decide) []
  rw [List.append_nil] at hlast
  simp [clock?, digits?_pad hhour, hlast, after_colon, after_nil, pad_ne_empty]

include hsecond

theorem clock?_seconds :
    clock? ends ((pad 2 hour).toList ++ ':' :: ((pad 2 minute).toList ++ ':' :: (pad 2 second).toList)) =
      some ⟨hour, minute, second, 0, !ends⟩ := by
  have hlast := digits?_pad hsecond (by decide) []
  rw [List.append_nil] at hlast
  simp [clock?, digits?_pad hhour, digits?_pad hminute, hlast, after_colon, after_nil, pad_ne_empty]

include hmicro

theorem clock?_micros :
    clock? ends ((pad 2 hour).toList ++ ':' :: ((pad 2 minute).toList ++ ':' ::
        ((pad 2 second).toList ++ '.' :: (pad 6 micro).toList))) =
      some ⟨hour, minute, second, micro, false⟩ := by
  simp [clock?, digits?_pad hhour, digits?_pad hminute, digits?_pad hsecond, after_colon, after_point,
    pad_ne_empty, fraction?_pad hmicro]

end

/-! ## Offsets -/

theorem toList_offsetText {o : Int} (ho : o % 1000000 = 0) :
    let s := o.natAbs / 1000000
    (offsetText ":" o).toList = (if o < 0 then '-' else '+') :: ((pad 2 (s / 3600)).toList ++
      ':' :: ((pad 2 (s / 60 % 60)).toList ++ if s % 60 = 0 then [] else ':' :: (pad 2 (s % 60)).toList)) := by
  intro s
  have hwhole : o.natAbs % 1000000 = 0 := by omega
  by_cases hsign : o < 0 <;> by_cases hseconds : s % 60 = 0 <;>
    simp [offsetText, hwhole, hsign, hseconds, s]

/-- A whole number of seconds, split up, stands for an offset of as much. -/
theorem Clock.offset_split {n : Nat} (hn : n % 1000000 = 0) (l behind : Bool) :
    Clock.offset ⟨n / 1000000 / 3600, n / 1000000 / 60 % 60, n / 1000000 % 60, 0, l⟩ behind =
      if behind then -(n : Int) else n := by
  simp only [Clock.offset, Clock.micros, microsPerSecond]
  split_ifs <;> omega

/-- An offset that is less than a day is read back from its hours, minutes and seconds. -/
theorem clock?_offset {o : Int} (ho : o % 1000000 = 0) (hday : o.natAbs < 86400000000) :
    let s := o.natAbs / 1000000
    ∃ c, clock? true ((pad 2 (s / 3600)).toList ++ ':' :: ((pad 2 (s / 60 % 60)).toList ++
        if s % 60 = 0 then [] else ':' :: (pad 2 (s % 60)).toList)) = some c ∧
      c.leftOver = false ∧ c.offset (o < 0) = o := by
  intro s
  have hhour : s / 3600 < 10 ^ 2 := by omega
  have hminute : s / 60 % 60 < 10 ^ 2 := by omega
  have hsecond : s % 60 < 10 ^ 2 := by omega
  have hoffset : Clock.offset ⟨s / 3600, s / 60 % 60, s % 60, 0, false⟩ (o < 0) = o := by
    rw [Clock.offset_split (by omega)]
    split_ifs with hsign
    · have hneg := of_decide_eq_true hsign
      omega
    · have hpos := of_decide_eq_false (Bool.not_eq_true _ ▸ hsign)
      omega
  by_cases hseconds : s % 60 = 0
  · rw [hseconds] at hoffset
    exact ⟨_, by simpa [hseconds] using clock?_minutes hhour hminute true, rfl, hoffset⟩
  · exact ⟨_, by simpa [hseconds] using clock?_seconds hhour hminute hsecond true, rfl, hoffset⟩

/-! ## Moments -/

/-- The text of a time of day, without its offset. -/
def clockText (t : Moment) : List Char :=
  (pad 2 t.hour).toList ++ ':' :: ((pad 2 t.minute).toList ++ ':' :: ((pad 2 t.second).toList ++
    if t.micro = 0 then [] else '.' :: (pad 6 t.micro).toList))

/-- The text of an offset, if there is one. -/
def offsetChars (offset : Option Int) : List Char := ((offset.map (offsetText ":")).getD "").toList

theorem toList_text (t : Moment) : (t.text "T").toList =
    t.date.text.toList ++ 'T' :: (clockText t ++ offsetChars t.offset) := by
  obtain ⟨date, hour, minute, second, micro, offset⟩ := t
  cases offset <;> by_cases hmicro : micro = 0 <;>
    simp [Moment.text, clockText, offsetChars, hmicro]

variable {t : Moment}

theorem clock?_clockText (h : t.isValid = true) (ends : Bool) :
    ∃ l, clock? ends (clockText t) = some ⟨t.hour, t.minute, t.second, t.micro, l⟩ ∧
      (ends = true → l = false) := by
  obtain ⟨-, hhour', hminute', hsecond', hmicro', -⟩ := Moment.parts_of_isValid h
  have hhour : t.hour < 10 ^ 2 := by omega
  have hminute : t.minute < 10 ^ 2 := by omega
  have hsecond : t.second < 10 ^ 2 := by omega
  by_cases hmicro : t.micro = 0
  · refine ⟨!ends, ?_, by simp⟩
    simpa [clockText, hmicro] using clock?_seconds hhour hminute hsecond ends
  · refine ⟨false, ?_, fun _ => rfl⟩
    simpa [clockText, hmicro] using clock?_micros hhour hminute hsecond (by omega) ends

/-- No character of a time of day can start an offset. -/
theorem not_startsOffset (t : Moment) : ∀ c ∈ clockText t, (!startsOffset c) = true := by
  have hdigit : ∀ {width n : Nat}, ∀ c ∈ (pad width n).toList, (!startsOffset c) = true := by
    intro width n c hc
    have hc' := isDigit_of_mem_pad hc
    by_contra hstarts
    simp only [startsOffset, Bool.not_eq_true, Bool.not_eq_false', Bool.or_eq_true, beq_iff_eq] at hstarts
    rcases hstarts with (rfl | rfl) | rfl <;> cases hc'
  have hmicro : ∀ c ∈ (if t.micro = 0 then [] else '.' :: (pad 6 t.micro).toList : List Char),
      (!startsOffset c) = true := by
    split
    · exact List.forall_mem_nil _
    · exact List.forall_mem_cons.mpr ⟨rfl, hdigit⟩
  simp only [clockText, List.forall_mem_append, List.forall_mem_cons]
  exact ⟨hdigit, rfl, hdigit, rfl, hdigit, hmicro⟩

/-- A time of day with an offset of whole seconds is read back from its text. -/
theorem time?_text (h : t.isValid = true) (ho : ∀ o ∈ t.offset, o % 1000000 = 0) :
    ∃ l, time? (clockText t ++ offsetChars t.offset) =
      some (⟨t.hour, t.minute, t.second, t.micro, l⟩, t.offset) := by
  have hbefore : (clockText t ++ offsetChars t.offset).takeWhile (fun c => !startsOffset c) =
      clockText t ++ (offsetChars t.offset).takeWhile fun c => !startsOffset c :=
    List.takeWhile_append_of_pos (not_startsOffset t)
  cases hoffset : t.offset with
  | none =>
    obtain ⟨l, hclock, hl⟩ := clock?_clockText h true
    rw [hl rfl] at hclock
    refine ⟨false, ?_⟩
    have hnone : offsetChars none = [] := rfl
    rw [hoffset, hnone, List.takeWhile_nil, List.append_nil] at hbefore
    rw [hnone, List.append_nil, time?, hbefore, List.drop_length]
    simp [hclock]
  | some o =>
    obtain ⟨l, hclock, -⟩ := clock?_clockText h false
    obtain ⟨-, -, -, -, -, hday⟩ := Moment.parts_of_isValid h
    obtain ⟨c, hc, hleft, hoffset'⟩ := clock?_offset (ho o hoffset) (hday o hoffset)
    rw [hoffset] at hbefore
    have htext : offsetChars (some o) = _ := toList_offsetText (ho o hoffset)
    rw [htext] at hbefore ⊢
    refine ⟨l, ?_⟩
    rw [time?]
    by_cases hsign : o < 0
    · rw [decide_eq_true hsign] at hoffset'
      rw [if_pos hsign, List.takeWhile_cons_of_neg (by decide), List.append_nil] at hbefore
      rw [if_pos hsign]
      simp [hbefore, hclock, hc, hleft, hoffset']
    · rw [decide_eq_false hsign] at hoffset'
      rw [if_neg hsign, List.takeWhile_cons_of_neg (by decide), List.append_nil] at hbefore
      rw [if_neg hsign]
      simp [hbefore, hclock, hc, hleft, hoffset']

/-- A moment is read back from its text. -/
theorem moment?_text (h : t.isValid = true) (ho : ∀ o ∈ t.offset, o % 1000000 = 0) :
    moment? (t.text "T").toList = some t := by
  obtain ⟨hdate, -⟩ := Moment.parts_of_isValid h
  obtain ⟨l, htime⟩ := time?_text h ho
  have hlength := length_dateText hdate
  rw [toList_text]
  simp [moment?, dayLength?_text hdate, hlength, List.take_left' hlength, List.drop_left' hlength,
    date?_text hdate, htime, h]
  omega

end Iso

end FunctionObjects.Time
