import FunctionObjects.Time.Moment
import FunctionObjects.Time.Calendar
import FunctionObjects.Regex.Matcher
import FunctionObjects.Numeral.Literal
/-!
# Reading moments by a format

A format is turned into a regular expression with one named group for each directive.  The groups
that match are then put together to a moment; parts that are missing are those of 1900-01-01.
-/

namespace FunctionObjects.Time.Scan

open FunctionObjects

/-- Why a text is not read. -/
inductive Failure where
  /-- The text does not fit the format, or the format is no format. -/
  | mismatch
  /-- The expression that the format stands for is malformed. -/
  | expression
deriving DecidableEq, Repr

/-- A group that matches one of some words, the longest first. -/
def words (name : String) (ws : List String) : String :=
  let sorted := ws.mergeSort fun a b => b.length ≤ a.length
  "(?P<" ++ name ++ ">" ++ String.intercalate "|" sorted ++ ")"

def weekExpression (name : String) : String := "(?P<" ++ name ++ ">5[0-3]|[0-4]\\d|\\d)"

/-- The expression of a simple directive. -/
def expression? : Char → Option String
  | 'd' => some "(?P<d>3[0-1]|[1-2]\\d|0[1-9]|[1-9]| [1-9])"
  | 'f' => some "(?P<f>[0-9]\x7b1,6\x7d)"
  | 'H' => some "(?P<H>2[0-3]|[0-1]\\d|\\d)"
  | 'I' => some "(?P<I>1[0-2]|0[1-9]|[1-9])"
  | 'G' => some "(?P<G>\\d\\d\\d\\d)"
  | 'j' => some "(?P<j>36[0-6]|3[0-5]\\d|[1-2]\\d\\d|0[1-9]\\d|00[1-9]|[1-9]\\d|0[1-9]|[1-9])"
  | 'm' => some "(?P<m>1[0-2]|0[1-9]|[1-9])"
  | 'M' => some "(?P<M>[0-5]\\d|\\d)"
  | 'S' => some "(?P<S>6[0-1]|[0-5]\\d|\\d)"
  | 'U' => some (weekExpression "U")
  | 'W' => some (weekExpression "W")
  | 'w' => some "(?P<w>[0-6])"
  | 'u' => some "(?P<u>[1-7])"
  | 'V' => some "(?P<V>5[0-3]|0[1-9]|[1-4]\\d|\\d)"
  | 'y' => some "(?P<y>\\d\\d)"
  | 'Y' => some "(?P<Y>\\d\\d\\d\\d)"
  | 'z' =>
    some "(?P<z>[+-]\\d\\d:?[0-5]\\d(:?[0-5]\\d(\\.\\d\x7b1,6\x7d)?)?|(?-i:Z))"
  | 'A' => some (words "A" dayNames)
  | 'a' => some (words "a" (dayNames.map shortName))
  | 'B' => some (words "B" monthNames)
  | 'b' => some (words "b" (monthNames.map shortName))
  | 'p' => some (words "p" ["am", "pm"])
  | 'Z' => some (words "Z" ["utc", "gmt", "utc"])
  | '%' => some "%"
  | _ => none

/-- The expression of any directive. -/
def directive? (c : Char) : Option String :=
  let join := fun (cs : List Char) (separator : String) =>
    String.intercalate separator (cs.filterMap expression?)
  match c with
  | 'c' =>
    some (join ['a', 'b', 'd'] "\\s+" ++ "\\s+" ++ join ['H', 'M', 'S'] ":" ++ "\\s+" ++ join ['Y'] "")
  | 'x' => some (join ['m', 'd', 'y'] "/")
  | 'X' => some (join ['H', 'M', 'S'] ":")
  | _ => expression? c

def isSpecial (c : Char) : Bool := "\\.^$*+?()[]\x7b\x7d|".toList.contains c

/-- The expression of a format; `none` if it holds an unknown directive. -/
def expressionOf? : Nat → List Char → Option (List Char)
  | 0, _ => some []
  | _, [] => some []
  | _, ['%'] => none
  | n + 1, '%' :: c :: cs => do
    let e ← directive? c
    return e.toList ++ (← expressionOf? n cs)
  | n + 1, c :: cs =>
    if Text.isBlank c then do
      return "\\s+".toList ++ (← expressionOf? n (cs.dropWhile Text.isBlank))
    else if isSpecial c then do return '\\' :: c :: (← expressionOf? n cs)
    else do return c :: (← expressionOf? n cs)

/-- What a text has told so far. -/
structure Parts where
  year : Option Nat
  weekYear : Option Nat
  month : Nat
  day : Nat
  hour : Nat
  minute : Nat
  second : Nat
  micro : Nat
  weekday : Option Nat
  dayOfYear : Option Int
  /-- A week of the year, and whether it starts on Monday. -/
  week : Option (Nat × Bool)
  isoWeek : Option Nat
  offset : Option Int
deriving Repr

def Parts.start : Parts :=
  ⟨none, none, 1, 1, 0, 0, 0, 0, none, none, none, none, none⟩

def number (s : List Char) : Nat := ((Numeral.Literal.int? s).getD 0).toNat

def lower (s : List Char) : List Char := s.map Text.lowerChar

/-- The place of a word in a list, whatever its case. -/
def place (names : List String) (s : List Char) : Nat :=
  names.findIdx fun n => lower n.toList == lower s

/-- Reads an offset; colons have to be used throughout or not at all. -/
def offset? (s : List Char) : Option Int :=
  if s == ['Z'] then some 0
  else
    let negative := s.head? == some '-'
    let body := s.drop 1
    let hours := body.take 2
    let rest := body.drop 2
    let colon := rest.head? == some ':'
    let rest := if colon then rest.drop 1 else rest
    let minutes := rest.take 2
    let rest := rest.drop 2
    let proper := rest.isEmpty || colon == (rest.head? == some ':')
    let rest := if colon then rest.drop 1 else rest
    if !proper then none
    else
      let seconds := if rest.isEmpty then 0 else number (rest.take 2)
      let fraction := rest.drop 3
      let micro := number (fraction ++ List.replicate (6 - fraction.length) '0')
      let total : Int :=
        ((number hours * 3600 + number minutes * 60 + seconds : Nat) : Int) * microsPerSecond + micro
      some (if negative then -total else total)

/-- The hour of a dial of twelve with its half of the day. -/
def hourOf (h : Nat) (half : List Char) : Nat :=
  if lower half == "pm".toList then (if h == 12 then 12 else h + 12) else (if h == 12 then 0 else h)

/-- Takes in what one group has matched. -/
def Parts.take? (p : Parts) (half : List Char) (name : String) (s : List Char) : Option Parts :=
  match name with
  | "y" =>
    let y := number s
    some { p with year := some (if y ≤ 68 then y + 2000 else y + 1900) }
  | "Y" => some { p with year := some (number s) }
  | "G" => some { p with weekYear := some (number s) }
  | "m" => some { p with month := number s }
  | "B" => some { p with month := place monthNames s + 1 }
  | "b" => some { p with month := place (monthNames.map shortName) s + 1 }
  | "d" => some { p with day := number s }
  | "H" => some { p with hour := number s }
  | "I" => some { p with hour := hourOf (number s) half }
  | "M" => some { p with minute := number s }
  | "S" => some { p with second := number s }
  | "f" => some { p with micro := number (s ++ List.replicate (6 - s.length) '0') }
  | "A" => some { p with weekday := some (place dayNames s) }
  | "a" => some { p with weekday := some (place (dayNames.map shortName) s) }
  | "w" => some { p with weekday := some ((number s + 6) % 7) }
  | "u" => some { p with weekday := some (number s - 1) }
  | "j" => some { p with dayOfYear := some (number s) }
  | "U" => some { p with week := some (number s, false) }
  | "W" => some { p with week := some (number s, true) }
  | "V" => some { p with isoWeek := some (number s) }
  | "z" => (offset? s).map fun o => { p with offset := some o }
  | _ => some p

/-- The day of the year that a weekday of a week is; days of the year before are not positive. -/
def dayOfWeek (year week weekday : Nat) (monday : Bool) : Int :=
  let shift := fun n => if monday then n else (n + 1) % 7
  let first := shift (Date.mk year 1 1).weekday
  let day := shift weekday
  if week = 0 then 1 + (day : Int) - first
  else 1 + (((7 - first) % 7 + 7 * (week - 1) + day : Nat) : Int)

/-- The day that the parts fix.  Week numbers of ISO years need a year of their own kind and a
weekday. -/
def Parts.date? (p : Parts) : Option Date := do
  match p.weekYear, p.isoWeek with
  | some _, none => none
  | none, some _ => none
  | some _, some _ => if p.dayOfYear.isSome || p.weekday.isNone then none
  | none, none => pure ()
  let missing := p.year.isNone
  let leapFix := missing && p.month == 2 && p.day == 29
  let year := p.year.getD (if leapFix then 1904 else 1900)
  let mut year := year
  let mut date : Date := ⟨year, p.month, p.day⟩
  let mut yday := p.dayOfYear
  match p.dayOfYear, p.weekday with
  | none, some w =>
    match p.week, p.weekYear, p.isoWeek with
    | some (n, monday), _, _ =>
      if year < 1 || year > 9999 then none
      let d := dayOfWeek year n w monday
      if d ≤ 0 then
        year := year - 1
        yday := some (d + yearLength year)
      else yday := some d
    | none, some y, some n =>
      date ← Date.ofWeek? y n (w + 1)
      year := date.year
    | _, _, _ => pure ()
  | _, _ => pure ()
  if year < 1 || year > 9999 then none
  match yday with
  | none => if date.isValid then pure () else none
  | some d =>
    date ← Date.ofOrdinal? (d - 1 + (Date.mk year 1 1).ordinal)
  let final := if leapFix then { date with year := 1900 } else date
  if final.isValid then some final else none

/-- Reads a moment from a text in a format. -/
def moment? (format text : List Char) : Except Failure Moment := do
  let source ← match expressionOf? (format.length + 1) format with
    | some e => pure e
    | none => throw .mismatch
  let g ← match Regex.Program.read source true ⟨true, false, false, false, false⟩ with
    | .ok g => pure g
    | .error _ => throw .expression
  let array := text.toArray
  match g.node.run array ⟨0, []⟩ some with
  | none => throw .mismatch
  | some found =>
    if found.position != array.size then throw .mismatch
    let matched := fun (i : Nat) =>
      match found.span? i with
      | some (a, b) => (array.extract a b).toList
      | none => []
    let half := ((g.names.lookup "p").map matched).getD []
    let parts := g.names.foldl (fun p (n, i) => p.bind (·.take? half n (matched i))) (some Parts.start)
    match parts.bind fun p => p.date?.map fun d => (p, d) with
    | none => throw .mismatch
    | some (p, d) =>
      let t : Moment := ⟨d, p.hour, p.minute, p.second, p.micro, p.offset⟩
      if t.isValid then return t else throw .mismatch

end FunctionObjects.Time.Scan
