import FunctionObjects.Time.Moment
/-!
# Time zones

A zone says how far its clocks are ahead of universal time when they show some reading.  Which zones there
are, and what they say, is found around a program and not fixed here.  A zone that keeps one rule every year
is given by an offset and a season in which clocks are moved; the start and the end of the season are
given in wall-clock time, so that the offset of a reading is found without knowing the instant.  A reading
that comes twice counts as the first; one that is skipped keeps the offset before the jump.
-/

namespace FunctionObjects.Time

/-- A time zone: how many seconds its clocks are ahead of universal time when they show a reading, which
is less than a day in either direction. -/
structure Zone where
  ahead : Moment → Int
  within_day : ∀ t, -86400 < ahead t ∧ ahead t < 86400

/-- The offset, in microseconds, that a wall-clock reading has in a zone. -/
def Zone.offsetAt (z : Zone) (t : Moment) : Int := z.ahead t * microsPerSecond

/-- Time zones by their names. -/
abbrev Zones := String → Option Zone

/-- A Sunday of a month: the `nth` one, or the last one for zero. -/
structure Sunday where
  month : Nat
  nth : Nat

def Sunday.ordinal (s : Sunday) (year : Nat) : Nat :=
  if s.nth = 0 then
    let last := Date.mk year s.month (monthLength year s.month)
    last.ordinal - (last.weekday + 1) % 7
  else
    let first := Date.mk year s.month 1
    first.ordinal + (6 - first.weekday) + 7 * (s.nth - 1)

/-- The season of moved clocks.  Both times of day are wall-clock seconds before the change. -/
structure Summer where
  start : Sunday
  startSeconds : Nat
  stop : Sunday
  stopSeconds : Nat
  /-- Seconds by which clocks are moved. -/
  shift : Int

/-- Seconds of the wall clock since the first day of year one. -/
def Moment.wallSeconds (t : Moment) : Int :=
  (t.date.ordinal : Int) * 86400 + ((t.hour * 3600 + t.minute * 60 + t.second : Nat) : Int)

def Summer.isOn (s : Summer) (t : Moment) : Bool :=
  let wall := t.wallSeconds
  let start := ((s.start.ordinal t.date.year : Nat) : Int) * 86400 + s.startSeconds + s.shift
  let stop := ((s.stop.ordinal t.date.year : Nat) : Int) * 86400 + s.stopSeconds
  if start ≤ stop then start ≤ wall && wall < stop else start ≤ wall || wall < stop

namespace Zone

/-- A zone whose clocks are never moved. -/
def fixed (seconds : Int) (h : -86400 < seconds ∧ seconds < 86400 := by decide) : Zone :=
  ⟨fun _ => seconds, fun _ => h⟩

/-- A zone whose clocks are moved every year. -/
def yearly (standard : Int) (s : Summer)
    (h : -86400 < standard ∧ standard < 86400 := by decide)
    (hs : -86400 < standard + s.shift ∧ standard + s.shift < 86400 := by decide) : Zone where
  ahead t := if s.isOn t then standard + s.shift else standard
  within_day t := by
    split
    · exact hs
    · exact h

end Zone

/-- A few zones with the rules that they have kept since 2007. -/
def Zones.recent : Zones := fun name =>
  [("UTC", .fixed 0),
    ("Asia/Kolkata", .fixed 19800),
    ("Asia/Kathmandu", .fixed 20700),
    ("Asia/Tokyo", .fixed 32400),
    ("America/New_York", .yearly (-18000) ⟨⟨3, 2⟩, 7200, ⟨11, 1⟩, 7200, 3600⟩),
    ("Europe/London", .yearly 0 ⟨⟨3, 0⟩, 3600, ⟨10, 0⟩, 7200, 3600⟩),
    ("Australia/Lord_Howe", .yearly 37800 ⟨⟨10, 1⟩, 7200, ⟨4, 1⟩, 7200, 1800⟩)].lookup name

end FunctionObjects.Time
