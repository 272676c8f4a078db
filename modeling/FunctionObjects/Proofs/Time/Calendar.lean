import Mathlib.Logic.Function.Iterate
import Mathlib.Tactic.SplitIfs
import FunctionObjects.Time.Moment
/-!
# Counting days and time

The number of a day is the number of days up to it, counted one by one along the calendar.  So the
distance of two days in numbers is how often one has to go on to the next day to get from one to the
other.  How many microseconds pass from one moment to another is told by the days that lie between their
dates, by the clock readings and by the offsets of the clocks; counted from the start of 1970 this is the
count that moments have.
-/

namespace FunctionObjects.Time

/-! ## Lengths of months and years -/

theorem daysBeforeMonth_succ (y : Nat) {m : Nat} (hm : 1 ≤ m) :
    daysBeforeMonth y (m + 1) = daysBeforeMonth y m + monthLength y m := by
  obtain ⟨k, rfl⟩ := Nat.exists_eq_add_of_le' hm
  simp [daysBeforeMonth, List.range_succ]

/-- The months of a year make up the year. -/
theorem daysBeforeMonth_thirteen (y : Nat) : daysBeforeMonth y 13 = yearLength y := by
  cases h : isLeap y <;> simp [daysBeforeMonth, yearLength, monthLength, List.range_succ, h]

theorem isLeap_iff (y : Nat) : isLeap y = true ↔ 4 ∣ y ∧ (¬100 ∣ y ∨ 400 ∣ y) := by
  simp [isLeap, Nat.dvd_iff_mod_eq_zero]

/-- Of the years with leap days those of the centuries are left out, and every fourth of these is not. -/
theorem daysBeforeYear_succ {y : Nat} (hy : 1 ≤ y) :
    daysBeforeYear (y + 1) = daysBeforeYear y + yearLength y := by
  obtain ⟨p, rfl⟩ := Nat.exists_eq_add_of_le' hy
  have hcentury : 100 ∣ p + 1 → 4 ∣ p + 1 := (Nat.dvd_trans (by decide) ·)
  have hfourth : 400 ∣ p + 1 → 100 ∣ p + 1 := (Nat.dvd_trans (by decide) ·)
  have hfewer : p / 100 ≤ p / 4 := Nat.div_le_div_left (by decide) (by decide)
  simp only [daysBeforeYear, yearLength, Nat.add_sub_cancel, Nat.succ_div, isLeap_iff]
  generalize p / 4 = a at *
  generalize p / 100 = b at *
  generalize p / 400 = c at *
  split_ifs <;> omega

theorem monthLength_pos (y m : Nat) : 1 ≤ monthLength y m := by
  unfold monthLength
  cases isLeap y <;> split <;> decide

namespace Date

/-! ## The next day -/

/-- A day that is there in the calendar; the years go on forever. -/
structure IsProper (d : Date) : Prop where
  year : 1 ≤ d.year
  month : 1 ≤ d.month ∧ d.month ≤ 12
  day : 1 ≤ d.day ∧ d.day ≤ monthLength d.year d.month

/-- The day after a day. -/
def next (d : Date) : Date :=
  if d.day < monthLength d.year d.month then { d with day := d.day + 1 }
  else if d.month < 12 then ⟨d.year, d.month + 1, 1⟩
  else ⟨d.year + 1, 1, 1⟩

/-- The day from which days are numbered. -/
def first : Date := ⟨1, 1, 1⟩

variable {d e : Date}

theorem isProper_of_isValid (h : d.isValid = true) : d.IsProper := by
  simp only [isValid, Bool.and_eq_true, decide_eq_true_eq] at h
  exact ⟨by omega, by omega, by omega⟩

theorem IsProper.next (h : d.IsProper) : d.next.IsProper := by
  obtain ⟨hyear, hmonth, hday⟩ := h
  unfold Date.next
  split
  · exact ⟨hyear, hmonth, by simp; omega⟩
  split
  · exact ⟨hyear, by simp; omega, by simp [monthLength_pos]⟩
  · exact ⟨by simp, by simp, by simp [monthLength_pos]⟩

/-- The numbers of days go on by one. -/
theorem ordinal_next (h : d.IsProper) : d.next.ordinal = d.ordinal + 1 := by
  obtain ⟨hyear, hmonth, hday⟩ := h
  unfold Date.next
  split
  · simp [ordinal, Nat.add_assoc]
  split
  · simp only [ordinal, daysBeforeMonth_succ d.year hmonth.1]
    omega
  · have hlast : d.month = 12 := by omega
    have hmonths := daysBeforeMonth_succ d.year hmonth.1
    rw [hlast, daysBeforeMonth_thirteen] at hmonths
    have hnone : daysBeforeMonth (d.year + 1) 1 = 0 := rfl
    simp only [ordinal, daysBeforeYear_succ hyear, hnone, hlast] at *
    omega

theorem isProper_iterate (h : d.IsProper) (n : Nat) : (Date.next^[n] d).IsProper := by
  induction n with
  | zero => exact h
  | succ n ih =>
    rw [Function.iterate_succ_apply']
    exact ih.next

theorem ordinal_iterate (h : d.IsProper) (n : Nat) :
    (Date.next^[n] d).ordinal = d.ordinal + n := by
  induction n with
  | zero => rfl
  | succ n ih =>
    rw [Function.iterate_succ_apply', ordinal_next (isProper_iterate h n), ih, Nat.add_assoc]

/-- Every day but the first one comes after a day. -/
theorem exists_next (h : d.IsProper) (hd : d ≠ first) : ∃ e : Date, e.IsProper ∧ e.next = d := by
  obtain ⟨year, month, day⟩ := d
  obtain ⟨hyear, hmonth, hday⟩ := h
  simp only at hyear hmonth hday
  by_cases hone : day = 1
  · subst hone
    by_cases hjanuary : month = 1
    · subst hjanuary
      have hlater : 1 < year := by
        by_contra hle
        exact hd (by rw [first, show year = 1 by omega])
      refine ⟨⟨year - 1, 12, 31⟩, ⟨by simp; omega, by simp, by simp [monthLength]⟩, ?_⟩
      simp [Date.next, monthLength, Nat.sub_add_cancel hyear]
    · refine ⟨⟨year, month - 1, monthLength year (month - 1)⟩,
        ⟨hyear, by simp; omega, by simp [monthLength_pos]⟩, ?_⟩
      have hback : month - 1 + 1 = month := by omega
      simp only [Date.next, Nat.lt_irrefl, if_false, hback]
      exact if_pos (by omega)
  · refine ⟨⟨year, month, day - 1⟩, ⟨hyear, hmonth, by simp; omega⟩, ?_⟩
    have hback : day - 1 + 1 = day := by omega
    simp only [Date.next, hback]
    exact if_pos (by omega)

theorem ordinal_pos (h : d.IsProper) : 1 ≤ d.ordinal :=
  Nat.le_add_left_of_le h.day.1

/-- Every day is reached from the first one. -/
theorem iterate_first (h : d.IsProper) : Date.next^[d.ordinal - 1] first = d := by
  generalize hn : d.ordinal - 1 = n
  induction n generalizing d with
  | zero =>
    by_contra hd
    obtain ⟨e, he, rfl⟩ := exists_next h (Ne.symm hd)
    have hpos := ordinal_pos he
    rw [ordinal_next he] at hn
    omega
  | succ n ih =>
    have hd : d ≠ first := by
      rintro rfl
      exact absurd hn (Nat.zero_ne_add_one n)
    obtain ⟨e, he, rfl⟩ := exists_next h hd
    have hpos := ordinal_pos he
    rw [ordinal_next he] at hn
    rw [Function.iterate_succ_apply', ih he (by omega)]

theorem eq_of_ordinal_eq (hd : d.IsProper) (he : e.IsProper) (h : d.ordinal = e.ordinal) : d = e := by
  rw [← iterate_first hd, ← iterate_first he, h]

/-- The day `e` is `n` days after the day `d`, or `-n` days before it: going on day by day, from `d` in the
one case and from `e` in the other, leads to the other day. -/
def DaysTo (d e : Date) (n : Int) : Prop := Date.next^[n.toNat] d = Date.next^[(-n).toNat] e

/-- The numbers of days tell how far days lie apart. -/
theorem daysTo_iff (hd : d.IsProper) (he : e.IsProper) {n : Int} :
    d.DaysTo e n ↔ (e.ordinal : Int) - d.ordinal = n := by
  have hleft := ordinal_iterate hd n.toNat
  have hright := ordinal_iterate he (-n).toNat
  constructor
  · intro h
    rw [DaysTo] at h
    rw [h] at hleft
    omega
  · intro h
    exact eq_of_ordinal_eq (isProper_iterate hd _) (isProper_iterate he _) (by omega)

end Date

/-! ## Time that elapses -/

namespace Moment

variable {t u v : Moment} {n : Int}

/-- The microseconds that the clock of a moment has gone on since midnight. -/
def sinceMidnight (t : Moment) : Int :=
  (((t.hour * 60 + t.minute) * 60 + t.second) * 1000000 + t.micro : Nat)

/-- From the moment `t` to the moment `u`, `n` microseconds elapse, or `-n` from `u` to `t`.  A clock that
is ahead of universal time reaches its reading the earlier; a clock of unknown offset shows universal time. -/
def ElapsesTo (t u : Moment) (n : Int) : Prop :=
  ∃ days, t.date.DaysTo u.date days ∧
    n = days * (24 * 60 * 60 * 1000000) + (u.sinceMidnight - t.sinceMidnight) -
      (u.offset.getD 0 - t.offset.getD 0)

/-- The start of 1970 in universal time. -/
def epoch : Moment := ⟨⟨1970, 1, 1⟩, 0, 0, 0, 0, some 0⟩

/-- The count of microseconds since the start of 1970; an unknown offset is that of universal time. -/
def instant (t : Moment) : Int := t.sinceEpoch (t.offset.getD 0)

theorem clock_eq (t : Moment) : t.clock = t.date.ordinal * microsPerDay + t.sinceMidnight := by
  simp only [clock, sinceMidnight, microsPerSecond]
  omega

/-- What elapses is the difference of the counts. -/
theorem elapsesTo_iff (ht : t.date.IsProper) (hu : u.date.IsProper) :
    t.ElapsesTo u n ↔ n = u.instant - t.instant := by
  simp only [ElapsesTo, Date.daysTo_iff ht hu, exists_eq_left', instant, sinceEpoch, clock_eq, microsPerDay]
  constructor <;> intro h <;> omega

theorem isProper_of_isValid (h : t.isValid = true) : t.date.IsProper := by
  simp only [isValid, Bool.and_eq_true] at h
  exact Date.isProper_of_isValid h.1.1.1.1.1

theorem isProper_epoch : epoch.date.IsProper := Date.isProper_of_isValid (by decide)

theorem instant_epoch : epoch.instant = 0 := by decide

/-- A moment has the count of the microseconds from the start of 1970 to it. -/
theorem epoch_elapsesTo_iff (ht : t.date.IsProper) : epoch.ElapsesTo t n ↔ n = t.instant := by
  rw [elapsesTo_iff isProper_epoch ht, instant_epoch, Int.sub_zero]

end Moment

end FunctionObjects.Time
