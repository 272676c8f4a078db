import FunctionObjects.Time.Moment
import FunctionObjects.Time.Calendar
/-!
# Formatting moments

A format is text with directives: a percent sign, flags, a width and a letter.  The flags choose
the padding of a number or the case of a name.  What is no directive is copied.
-/

namespace FunctionObjects.Time

/-- How a directive asks for its result to be padded and spelled. -/
structure Style where
  /-- The padding asked for: a character, or none at all. -/
  padding : Option (Option Char)
  upper : Bool
  swap : Bool
  width : Nat
deriving Repr

namespace Style

def plain : Style := ⟨none, false, false, 0⟩

/-- Lays out a number of at least `digits` digits, padded by default with `filler`. -/
def number (s : Style) (filler : Char) (digits : Nat) (n : Nat) : String :=
  let ds := toString n
  match s.padding.getD (some filler) with
  | none => ds
  | some c =>
    let width := max digits s.width
    String.ofList (List.replicate (width - ds.length) c) ++ ds

/-- Lays out a word; `lowers` says that swapping its case makes it lower-case. -/
def word (s : Style) (lowers : Bool) (t : String) : String :=
  let t :=
    if s.swap then (if lowers then t.toLower else t.toUpper)
    else if s.upper then t.toUpper
    else t
  let filler := match s.padding with
    | some (some c) => c
    | _ => ' '
  String.ofList (List.replicate (s.width - t.length) filler) ++ t

end Style

/-- The hour on a dial of twelve. -/
def twelve (h : Nat) : Nat := if h % 12 = 0 then 12 else h % 12

def weekOfYear (t : Moment) (mondayFirst : Bool) : Nat :=
  let yday := t.date.dayOfYear - 1
  let w := t.date.weekday
  if mondayFirst then (yday + 7 - w) / 7 else (yday + 7 - (w + 1) % 7) / 7

/-- Formats by one letter; `none` if it is no directive. -/
def letter? (t : Moment) (s : Style) : Char → Option String
  | 'a' => some (s.word false (shortName ((dayNames[t.date.weekday]?).getD "")))
  | 'A' => some (s.word false ((dayNames[t.date.weekday]?).getD ""))
  | 'b' => some (s.word false (shortName ((monthNames[t.date.month - 1]?).getD "")))
  | 'h' => some (s.word false (shortName ((monthNames[t.date.month - 1]?).getD "")))
  | 'B' => some (s.word false ((monthNames[t.date.month - 1]?).getD ""))
  | 'C' => some (s.number '0' 1 (t.date.year / 100))
  | 'd' => some (s.number '0' 2 t.date.day)
  | 'e' => some (s.number ' ' 2 t.date.day)
  | 'g' => some (s.number '0' 2 (t.date.weekYear.1 % 100))
  | 'G' => some (s.number '0' 1 t.date.weekYear.1)
  | 'H' => some (s.number '0' 2 t.hour)
  | 'I' => some (s.number '0' 2 (twelve t.hour))
  | 'j' => some (s.number '0' 3 t.date.dayOfYear)
  | 'k' => some (s.number ' ' 2 t.hour)
  | 'l' => some (s.number ' ' 2 (twelve t.hour))
  | 'm' => some (s.number '0' 2 t.date.month)
  | 'M' => some (s.number '0' 2 t.minute)
  | 'n' => some (s.word false "\n")
  | 'p' => some (s.word true (if t.hour < 12 then "AM" else "PM"))
  | 'P' =>
    some ((⟨s.padding, false, false, s.width⟩ : Style).word false (if t.hour < 12 then "am" else "pm"))
  | 'S' => some (s.number '0' 2 t.second)
  | 's' => some (toString (t.sinceEpoch 0 / microsPerSecond))
  | 't' => some (s.word false "\t")
  | 'u' => some (s.number '0' 1 (t.date.weekday + 1))
  | 'U' => some (s.number '0' 2 (weekOfYear t false))
  | 'V' => some (s.number '0' 2 t.date.weekYear.2)
  | 'w' => some (s.number '0' 1 ((t.date.weekday + 1) % 7))
  | 'W' => some (s.number '0' 2 (weekOfYear t true))
  | 'y' => some (s.number '0' 2 (t.date.year % 100))
  | 'Y' => some (s.number '0' 1 t.date.year)
  | 'z' => some ""
  | 'Z' => some (s.word false "")
  | '%' => some (s.word false "%")
  | _ => none

/-- The directives that stand for a whole format. -/
def compound? : Char → Option String
  | 'c' => some "%a %b %e %H:%M:%S %Y"
  | 'D' => some "%m/%d/%y"
  | 'x' => some "%m/%d/%y"
  | 'F' => some "%Y-%m-%d"
  | 'r' => some "%I:%M:%S %p"
  | 'R' => some "%H:%M"
  | 'T' => some "%H:%M:%S"
  | 'X' => some "%H:%M:%S"
  | _ => none

/-- Reads the flags of a directive. -/
def flagged : Style → List Char → Style × List Char
  | s, '_' :: cs => flagged { s with padding := some (some ' ') } cs
  | s, '-' :: cs => flagged { s with padding := some none } cs
  | s, '0' :: cs => flagged { s with padding := some (some '0') } cs
  | s, '^' :: cs => flagged { s with upper := true } cs
  | s, '#' :: cs => flagged { s with swap := true } cs
  | s, cs => (s, cs)

/-- Formats a compound directive, whose own directives are simple. -/
def formatSimple (t : Moment) (s : Style) : List Char → String
  | '%' :: c :: cs => (letter? t { Style.plain with upper := s.upper } c).getD "" ++ formatSimple t s cs
  | c :: cs => c.toString ++ formatSimple t s cs
  | [] => ""

/-- Whether a letter may follow a modifier that asks for the forms of another era (`E`) or for other
digits (`O`); both forms are the usual ones. -/
def admits (modifier : Option Char) (c : Char) : Bool :=
  match modifier with
  | none => true
  | some 'E' => "cCxXyYnt%pPRrTuzZs".toList.contains c
  | some _ => "bBdeghGHIjklmMSuUVwWynt%pPRrTzZs".toList.contains c

/-- Formats one directive, given the characters after the percent sign; what is no directive is
copied.  Also the characters that remain. -/
def directive (t : Moment) (cs : List Char) : String × List Char :=
  let (s, rest) := flagged .plain cs
  let ds := rest.takeWhile Char.isDigit
  let s := { s with width := ds.foldl (fun n c => n * 10 + (c.toNat - 48)) 0 }
  let rest := rest.drop ds.length
  let modifier := rest.head?.filter fun c => c == 'E' || c == 'O'
  let rest := if modifier.isSome then rest.drop 1 else rest
  match rest with
  | [] => ("%" ++ String.ofList cs, [])
  | c :: after =>
    if !admits modifier c then ("%" ++ String.ofList (cs.take (cs.length - after.length)), after)
    else
    match letter? t s c with
    | some text => (text, after)
    | none =>
      match compound? c with
      | some format => (s.word false (formatSimple t s format.toList), after)
      | none => ("%" ++ String.ofList (cs.take (cs.length - after.length)), after)

/-- Formats a moment; the fuel is the length of the format. -/
def formatFrom (t : Moment) : Nat → List Char → String
  | 0, _ => ""
  | _, [] => ""
  | n + 1, '%' :: cs =>
    let (text, rest) := directive t cs
    text ++ formatFrom t n rest
  | n + 1, c :: cs => c.toString ++ formatFrom t n cs

/-- Puts in what depends on fractions and offsets, before all other directives. -/
def expandOffsets (t : Moment) : List Char → List Char
  | '%' :: 'z' :: cs => ((t.offset.map (offsetText "")).getD "").toList ++ expandOffsets t cs
  | '%' :: 'Z' :: cs =>
    ((t.offset.map offsetName).getD "").toList.flatMap (fun c => if c == '%' then ['%', '%'] else [c]) ++
      expandOffsets t cs
  | '%' :: 'f' :: cs => (pad 6 t.micro).toList ++ expandOffsets t cs
  | '%' :: c :: cs => '%' :: c :: expandOffsets t cs
  | c :: cs => c :: expandOffsets t cs
  | [] => []

/-- A moment in a format. -/
def Moment.format (t : Moment) (format : String) : String :=
  let cs := expandOffsets t format.toList
  formatFrom t (cs.length + 1) cs

end FunctionObjects.Time
