import FunctionObjects.Time.Calendar
/-!
# Moments

A day with a time of day and, if it is known, the offset of its clock from universal time.
-/

namespace FunctionObjects.Time

structure Moment where
  date : Date
  hour : Nat
  minute : Nat
  second : Nat
  micro : Nat
  /-- Microseconds that the clock is ahead of universal time. -/
  offset : Option Int
deriving DecidableEq, Repr, Inhabited

def microsPerSecond : Int := 1000000
def microsPerDay : Int := 86400000000

namespace Moment

def isValid (t : Moment) : Bool :=
  t.date.isValid && t.hour < 24 && t.minute < 60 && t.second < 60 && t.micro < 1000000 &&
    t.offset.all fun o => -microsPerDay < o && o < microsPerDay

/-- Microseconds of the clock reading since the first day of year one. -/
def clock (t : Moment) : Int :=
  (t.date.ordinal : Int) * microsPerDay +
    ((t.hour * 3600 + t.minute * 60 + t.second : Nat) : Int) * microsPerSecond + t.micro

/-- The day number of 1970-01-01. -/
def epochDay : Int := 719163

/-- Microseconds since 1970-01-01T00:00:00 in universal time, for a known offset. -/
def sinceEpoch (t : Moment) (offset : Int) : Int := t.clock - epochDay * microsPerDay - offset

end Moment

def pad (width : Nat) (n : Nat) : String :=
  let d := toString n
  String.ofList (List.replicate (width - d.length) '0') ++ d

def Date.text (d : Date) : String := pad 4 d.year ++ "-" ++ pad 2 d.month ++ "-" ++ pad 2 d.day

/-- An offset as sign, hours and minutes; seconds and microseconds only when they are not zero. -/
def offsetText (colon : String) (offset : Int) : String :=
  let us := offset.natAbs
  let s := us / 1000000
  (if offset < 0 then "-" else "+") ++ pad 2 (s / 3600) ++ colon ++ pad 2 (s / 60 % 60) ++
    (if s % 60 = 0 ∧ us % 1000000 = 0 then "" else colon ++ pad 2 (s % 60)) ++
    (if us % 1000000 = 0 then "" else "." ++ pad 6 (us % 1000000))

/-- The ISO 8601 text with a given separator between day and time. -/
def Moment.text (separator : String) (t : Moment) : String :=
  t.date.text ++ separator ++ pad 2 t.hour ++ ":" ++ pad 2 t.minute ++ ":" ++ pad 2 t.second ++
    (if t.micro = 0 then "" else "." ++ pad 6 t.micro) ++
    (match t.offset with
    | some o => offsetText ":" o
    | none => "")

/-- The name of a clock with a fixed offset. -/
def offsetName (offset : Int) : String :=
  if offset = 0 then "UTC" else "UTC" ++ offsetText ":" offset

end FunctionObjects.Time
