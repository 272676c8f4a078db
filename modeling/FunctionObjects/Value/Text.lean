import FunctionObjects.Value.Datum
import FunctionObjects.Descriptor.Text
import FunctionObjects.Class.Library
/-!
# The text of values

Two texts: the one that shows what a value is made of, and the plain one that stands for the value
inside other text.  They differ for texts, dates and some numbers.
-/

namespace FunctionObjects

open FunctionObjects.Numeral

/-- A part of a complex number, without the mark of a fractional number. -/
def partText (x : Floating) : String := Layout.standard.text .double false x

/-- A complex number; the real part is left out when it is positive zero. -/
def complexText (re im : Floating) : String :=
  let sign := if im.isNegative then "" else "+"
  if re == .zero then partText im ++ "j"
  else "(" ++ partText re ++ sign ++ partText im ++ "j)"

/-- The names of the flags of a regular expression. -/
def flagNames : List (Nat × String) := [
  (1, "re.TEMPLATE"), (2, "re.IGNORECASE"), (4, "re.LOCALE"), (8, "re.MULTILINE"),
  (16, "re.DOTALL"), (64, "re.VERBOSE"), (128, "re.DEBUG"), (256, "re.ASCII")]

/-- The number of the flag that says that an expression is made of characters. -/
def unicodeFlag : Nat := 32

def Pattern.shown (p : Pattern) : String :=
  let text :=
    if p.binary then Text.quotedBytes (p.source.toList.map Char.toNat) else Text.quoted p.source
  let flags := flagNames.filterMap fun (bit, name) =>
    if p.flags / bit % 2 = 1 then some name else none
  "re.compile(" ++ String.ofList (text.toList.take 200) ++
    (if flags.isEmpty then "" else ", " ++ String.intercalate "|" flags) ++ ")"

/-- An offset as an amount of days, seconds and microseconds. -/
def durationShown (micros : Int) : String :=
  let days := Int.fdiv micros Time.microsPerDay
  let rest := Int.fmod micros Time.microsPerDay
  let parts := [("days", days), ("seconds", rest / Time.microsPerSecond),
    ("microseconds", rest % Time.microsPerSecond)]
  let shown := (parts.filter fun (_, n) => n != 0).map fun (name, n) => name ++ "=" ++ toString n
  "datetime.timedelta(" ++ (if shown.isEmpty then "0" else String.intercalate ", " shown) ++ ")"

def Time.Moment.shown (t : Moment) : String :=
  let clock := [t.date.year, t.date.month, t.date.day, t.hour, t.minute] ++
    (if t.micro != 0 then [t.second, t.micro] else if t.second != 0 then [t.second] else [])
  let zone := match t.offset with
    | none => ""
    | some 0 => ", tzinfo=datetime.timezone.utc"
    | some o => ", tzinfo=datetime.timezone(" ++ durationShown o ++ ")"
  "datetime.datetime(" ++ String.intercalate ", " (clock.map toString) ++ zone ++ ")"

namespace AdapterKind

def name : AdapterKind → String
  | identity => "IDENTITY"
  | map => "MAP"
  | fold => "FOLD"

end AdapterKind

def Ty.valueShown (t : Ty) : String :=
  match t with
  | .cls c =>
    if c == LibraryClass.adapterKind.className then "<enum '" ++ c.name ++ "'>" else t.shown
  | _ => t.shown

def Numeral.Scalar.shown (s : Scalar) : String :=
  match s with
  | .bool b => if b then "np.True_" else "np.False_"
  | .complex _ re im => "np." ++ s.name ++ "(" ++ (complexText re im) ++ ")"
  | .str t => "np.str_(" ++ Text.quoted t ++ ")"
  | _ => "np." ++ s.name ++ "(" ++ s.text ++ ")"

namespace Atom

/-- The text that shows an atom. -/
def shown : Atom → String
  | .none => "None"
  | .bool b => if b then "True" else "False"
  | .int n => toString n
  | .float x => x.text
  | .complex re im => complexText re im
  | .str s => Text.quoted s
  | .bytes bs => Text.quotedBytes bs
  | .scalar s => s.shown
  | .decimal d => "Decimal('" ++ d.text ++ "')"
  | .fraction n d => "Fraction(" ++ toString n ++ ", " ++ toString d ++ ")"
  | .moment t => t.shown
  | .date d =>
    "datetime.date(" ++ String.intercalate ", " ([d.year, d.month, d.day].map toString) ++ ")"
  | .pattern p => p.shown
  | .type t => t.valueShown
  | .builtin b => "<built-in function " ++ b.name ++ ">"
  | .kind k => "<AdapterKind." ++ k.name ++ ": '" ++ k.name.toLower ++ "'>"
  | .result r => r.show'
  | .other c => if c == .core "ellipsis" then "Ellipsis" else "<" ++ c.qualified ++ " object>"

/-- The plain text of an atom. -/
def plain : Atom → String
  | .str s => s
  | .scalar (.complex _ re im) => complexText re im
  | .scalar s => s.text
  | .decimal d => d.text
  | .fraction n d => if d = 1 then toString n else toString n ++ "/" ++ toString d
  | .moment t => t.text " "
  | .date d => d.text
  | .kind k => "AdapterKind." ++ k.name
  | a => a.shown

end Atom

/-- An attribute's name without the underscores in front. -/
def bareName (s : String) : String := String.ofList (s.toList.dropWhile (· == '_'))

namespace Datum

mutual

/-- The text that shows a datum. -/
def shown : Datum → String
  | .atom a => a.shown
  | .tuple [] => "()"
  | .tuple [x] => "(" ++ shown x ++ ",)"
  | .tuple (x :: xs) => "(" ++ shown x ++ shownMore xs ++ ")"
  | .frozenset [] => "frozenset()"
  | .frozenset (x :: xs) => "frozenset(\x7b" ++ shown x ++ shownMore xs ++ "\x7d)"
  | .list [] => "[]"
  | .list (x :: xs) => "[" ++ shown x ++ shownMore xs ++ "]"
  | .dict [] => "\x7b\x7d"
  | .dict ((k, v) :: es) => "\x7b" ++ shown k ++ ": " ++ shown v ++ shownEntries es ++ "\x7d"
  | .set [] => "set()"
  | .set (x :: xs) => "\x7b" ++ shown x ++ shownMore xs ++ "\x7d"
  | .bytearray bs => "bytearray(" ++ Text.quotedBytes bs ++ ")"
  | .slots c [] => c.name ++ "()"
  | .slots c (x :: xs) => c.name ++ "(" ++ shown x ++ shownMore xs ++ ")"
  | .fields _ [] => "MapTuple(\x7b\x7d)"
  | .fields _ ((k, v) :: es) =>
    "MapTuple(\x7b" ++ shown k ++ ": " ++ shown v ++ shownEntries es ++ "\x7d)"
  | .object c [] => c.name ++ "()"
  | .object c ((k, v) :: as) =>
    c.name ++ "(" ++ bareName k ++ "=" ++ shown v ++ shownAttributes as ++ ")"
  | .keys [] => "dict_keys([])"
  | .keys (x :: xs) => "dict_keys([" ++ shown x ++ shownMore xs ++ "])"
  | .handle _ _ s => s

/-- Further members, each after a comma. -/
def shownMore : List Datum → String
  | [] => ""
  | x :: xs => ", " ++ shown x ++ shownMore xs

def shownEntries : List (Datum × Datum) → String
  | [] => ""
  | (k, v) :: es => ", " ++ shown k ++ ": " ++ shown v ++ shownEntries es

def shownAttributes : List (String × Datum) → String
  | [] => ""
  | (k, v) :: as => ", " ++ bareName k ++ "=" ++ shown v ++ shownAttributes as

end

/-- The plain text of a datum. -/
def plain : Datum → String
  | .atom a => a.plain
  | d => d.shown

end Datum

end FunctionObjects
