import FunctionObjects.Time.Moment
/-!
# Reading ISO 8601 timestamps

A day, in one of the calendar or week forms, then any one character and a time of day with an
optional offset.  Fractions are cut to microseconds.  Where the form of the day leaves open where
it ends, the separator is looked for in the place that the characters after the year suggest.
-/

namespace FunctionObjects.Time.Iso

/-- Reads exactly `n` ASCII digits. -/
def digits? (n : Nat) (cs : List Char) : Option (Nat × List Char) :=
  let ds := cs.take n
  if ds.length = n ∧ ds.all Char.isDigit then
    some (ds.foldl (fun v c => v * 10 + (c.toNat - 48)) 0, cs.drop n)
  else none

/-- The number of characters that make up the day. -/
def dayLength? (cs : List Char) : Option Nat :=
  let at' := fun i => cs[i]?
  if cs.length = 7 then some 7
  else if at' 4 == some '-' then
    if at' 5 == some 'W' then
      if at' 8 == some '-' then
        if cs.length = 9 then none
        else if (at' 10).any Char.isDigit then some 8
        else some 10
      else some 8
    else some 10
  else if at' 4 == some 'W' then
    let i := 7 + ((cs.drop 7).takeWhile Char.isDigit).length
    if i < 9 then some i else if i % 2 = 0 then some 7 else some 8
  else some 8

/-- A day given by its week, after the `W`. -/
def weekDay? (year : Nat) (dashed : Bool) (cs : List Char) : Option Date := do
  let (week, rest) ← digits? 2 cs
  if rest.isEmpty then Date.ofWeek? year week 1
  else
    if dashed && rest.head? != some '-' then none
    let (day, _) ← digits? 1 (if dashed then rest.drop 1 else rest)
    Date.ofWeek? year week day

/-- Reads a day that takes up a whole text. -/
def date? (cs : List Char) : Option Date := do
  let (year, rest) ← digits? 4 cs
  let dashed := rest.head? == some '-'
  let rest := if dashed then rest.drop 1 else rest
  if rest.head? == some 'W' then weekDay? year dashed (rest.drop 1)
  else
    let (month, rest) ← digits? 2 rest
    if dashed && rest.head? != some '-' then none
    let (day, rest) ← digits? 2 (if dashed then rest.drop 1 else rest)
    if rest.isEmpty then some ⟨year, month, day⟩ else none

/-- A time of day as it is read: its parts, and whether characters were left over. -/
structure Clock where
  hour : Nat
  minute : Nat
  second : Nat
  micro : Nat
  leftOver : Bool

/-- A fraction of a second, cut to six digits. -/
def fraction? (cs : List Char) : Option (Nat × Bool) := do
  let n := min 6 cs.length
  let (v, rest) ← digits? n cs
  let rest := rest.dropWhile Char.isDigit
  if n = 0 then none else some (v * Nat.pow 10 (6 - n), !rest.isEmpty)

/-- What follows a part of a time. -/
inductive After where
  | done (leftOver : Bool)
  | part (rest : List Char)
  | fraction (rest : List Char)
  | bad

/-- Decides how a time goes on.  `ends` says that nothing at all follows the text of the time. -/
def after (colons ends : Bool) (cs : List Char) : After :=
  match cs with
  | [] => .done !ends
  | [_] => .done true
  | c :: rest =>
    if colons && c == ':' then .part rest
    else if c == '.' || c == ',' then .fraction rest
    else if colons then .bad
    else .part cs

/-- Reads hours, minutes, seconds and a fraction; every part but the hours may be missing. -/
def clock? (ends : Bool) (cs : List Char) : Option Clock := do
  let (hour, rest) ← digits? 2 cs
  let colons := rest.head? == some ':'
  match after colons ends rest with
  | .bad => none
  | .done l => some ⟨hour, 0, 0, 0, l⟩
  | .fraction rest =>
    let (micro, l) ← fraction? rest
    some ⟨hour, 0, 0, micro, l⟩
  | .part rest =>
    let (minute, rest) ← digits? 2 rest
    match after colons ends rest with
    | .bad => none
    | .done l => some ⟨hour, minute, 0, 0, l⟩
    | .fraction rest =>
      let (micro, l) ← fraction? rest
      some ⟨hour, minute, 0, micro, l⟩
    | .part rest =>
      let (second, rest) ← digits? 2 rest
      match after colons ends rest with
      | .bad => none
      | .done l => some ⟨hour, minute, second, 0, l⟩
      | .fraction rest =>
        let (micro, l) ← fraction? rest
        some ⟨hour, minute, second, micro, l⟩
      | .part rest =>
        let (micro, l) ← fraction? rest
        some ⟨hour, minute, second, micro, l⟩

def Clock.micros (c : Clock) : Int :=
  ((c.hour * 3600 + c.minute * 60 + c.second : Nat) : Int) * microsPerSecond + c.micro

/-- The offset that a time stands for.  One of less than a second counts as none at all. -/
def Clock.offset (c : Clock) (behind : Bool) : Int :=
  if c.hour = 0 ∧ c.minute = 0 ∧ c.second = 0 then 0
  else if behind then -c.micros else c.micros

def startsOffset (c : Char) : Bool := c == '+' || c == '-' || c == 'Z'

/-- Reads a time of day with an optional offset. -/
def time? (cs : List Char) : Option (Clock × Option Int) := do
  let before := cs.takeWhile fun c => !startsOffset c
  match cs.drop before.length with
  | [] =>
    let c ← clock? true before
    if c.leftOver then none else some (c, none)
  | sign :: rest =>
    let c ← clock? false before
    if sign == 'Z' then
      if rest.isEmpty then some (c, some 0) else none
    else
      let o ← clock? true rest
      if o.leftOver then none
      else some (c, some (o.offset (sign == '-')))

/-- Reads a timestamp. -/
def moment? (cs : List Char) : Option Moment := do
  if cs.length < 7 then none
  let n ← dayLength? cs
  let date ← date? (cs.take n)
  let rest := cs.drop n
  let t ← match rest with
    | [] => some (⟨date, 0, 0, 0, 0, none⟩ : Moment)
    | _ :: time => do
      let (c, offset) ← time? time
      some ⟨date, c.hour, c.minute, c.second, c.micro, offset⟩
  if t.isValid then some t else none

end FunctionObjects.Time.Iso
