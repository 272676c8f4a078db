/-!
# The calendar

Days of the proleptic Gregorian calendar, counted from the first day of year one, and the names of its
days and months.
-/

namespace FunctionObjects.Time

/-- A day. -/
structure Date where
  year : Nat
  month : Nat
  day : Nat
deriving DecidableEq, Repr, Inhabited

def isLeap (y : Nat) : Bool := y % 4 == 0 && (y % 100 != 0 || y % 400 == 0)

def monthLength (y m : Nat) : Nat :=
  match m with
  | 2 => if isLeap y then 29 else 28
  | 4 => 30
  | 6 => 30
  | 9 => 30
  | 11 => 30
  | _ => 31

def yearLength (y : Nat) : Nat := if isLeap y then 366 else 365

/-- Days in the years before `y`. -/
def daysBeforeYear (y : Nat) : Nat :=
  let p := y - 1
  p * 365 + p / 4 - p / 100 + p / 400

/-- Days of year `y` before month `m`. -/
def daysBeforeMonth (y m : Nat) : Nat :=
  (List.range (m - 1)).foldl (fun n i => n + monthLength y (i + 1)) 0

namespace Date

def isValid (d : Date) : Bool :=
  1 ≤ d.year && d.year ≤ 9999 && 1 ≤ d.month && d.month ≤ 12 && 1 ≤ d.day &&
    d.day ≤ monthLength d.year d.month

/-- The number of the day; the first day of year one has number one. -/
def ordinal (d : Date) : Nat := daysBeforeYear d.year + daysBeforeMonth d.year d.month + d.day

/-- The number of the day in its year, from one. -/
def dayOfYear (d : Date) : Nat := daysBeforeMonth d.year d.month + d.day

/-- The day of the week, Monday being zero. -/
def weekday (d : Date) : Nat := (d.ordinal + 6) % 7

end Date

/-- Finds the month of a day of the year, from the number of months still to try. -/
def monthOf (y : Nat) : Nat → Nat → Nat → Nat × Nat
  | 0, m, n => (m, n)
  | k + 1, m, n => if n ≤ monthLength y m then (m, n) else monthOf y k (m + 1) (n - monthLength y m)

/-- The day with a given number; `none` outside the years 1 to 9999. -/
def Date.ofOrdinal? (n : Int) : Option Date :=
  if n < 1 ∨ n > 3652059 then none
  else
    let n := n.toNat - 1
    let guess := n / 366 + 1
    let fix := fun y => if n ≥ daysBeforeYear (y + 1) then y + 1 else y
    let y := (List.range 30).foldl (fun y _ => fix y) guess
    let (m, d) := monthOf y 11 1 (n - daysBeforeYear y + 1)
    some ⟨y, m, d⟩

/-- The number of the Monday that starts the first week of a year: the week of its first
Thursday. -/
def firstWeekMonday (y : Nat) : Int :=
  let first : Int := daysBeforeYear y + 1
  let w := (first + 6) % 7
  if w > 3 then first - w + 7 else first - w

/-- The day of a week of a year; `none` if there is no such week or day. -/
def Date.ofWeek? (y week day : Nat) : Option Date :=
  let first := (Date.mk y 1 1).weekday
  let long := first == 3 || (first == 2 && isLeap y)
  if y < 1 || y > 9999 || week < 1 || week > 53 || (week == 53 && !long) || day < 1 || day > 7 then none
  else Date.ofOrdinal? (firstWeekMonday y + (week - 1) * 7 + (day - 1))

/-- The year and number of the week that a day belongs to. -/
def Date.weekYear (d : Date) : Nat × Nat :=
  let n : Int := d.ordinal
  if n < firstWeekMonday d.year then
    (d.year - 1, ((n - firstWeekMonday (d.year - 1)) / 7 + 1).toNat)
  else if d.year < 9999 ∧ n ≥ firstWeekMonday (d.year + 1) then (d.year + 1, 1)
  else (d.year, ((n - firstWeekMonday d.year) / 7 + 1).toNat)

end FunctionObjects.Time

/-!
## Names of days and months

The full names; their first three letters are the short ones.
-/

namespace FunctionObjects.Time

/-- The days of the week, from Monday. -/
def dayNames : List String :=
  ["Monday", "Tuesday", "Wednesday", "Thursday", "Friday", "Saturday", "Sunday"]

def monthNames : List String :=
  ["January", "February", "March", "April", "May", "June", "July", "August", "September",
    "October", "November", "December"]

def shortName (s : String) : String := String.ofList (s.toList.take 3)

end FunctionObjects.Time
