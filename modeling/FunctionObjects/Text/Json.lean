import FunctionObjects.Numeral.Shortest
import FunctionObjects.Numeral.Literal
import FunctionObjects.Text.Quoted
/-!
# JSON

A reader and a writer.  Numbers without fraction and exponent are whole numbers of any size, the
words for not-a-number and infinity are allowed, and of two members with one name the later one
gives the value and the earlier one the place.  Writing escapes everything outside ASCII.
-/

namespace FunctionObjects.Text

open FunctionObjects.Numeral

inductive Json where
  | null
  | bool (b : Bool)
  | int (n : Int)
  | float (x : Floating)
  | str (s : String)
  | list (items : List Json)
  | object (members : List (String × Json))
deriving Repr, Inhabited

namespace Json

/-- Adds a member, or gives a member that is already there a new value. -/
def insert (name : String) (v : Json) : List (String × Json) → List (String × Json)
  | [] => [(name, v)]
  | (n, w) :: rest => if n == name then (n, v) :: rest else (n, w) :: insert name v rest

def isBlankChar (c : Char) : Bool := c == ' ' || c == '\t' || c == '\n' || c == '\r'

def skipBlank (cs : List Char) : List Char := cs.dropWhile isBlankChar

/-- Reads four hexadecimal digits. -/
def hexFour? (cs : List Char) : Option (Nat × List Char) :=
  let ds := cs.take 4
  let value? := fun (c : Char) =>
    if c.isDigit then some (c.toNat - 48)
    else if 'a' ≤ c && c ≤ 'f' then some (c.toNat - 87)
    else if 'A' ≤ c && c ≤ 'F' then some (c.toNat - 55)
    else none
  if ds.length = 4 then
    (ds.foldl (fun n c => n.bind fun n => (value? c).map fun d => n * 16 + d) (some 0)).map
      fun n => (n, cs.drop 4)
  else none

/-- The character that an escape stands for, after the backslash.  Two halves of a pair are joined;
a half alone becomes the replacement character. -/
def escape? (cs : List Char) : Option (Char × List Char) :=
  match cs with
  | '"' :: r => some ('"', r)
  | '\\' :: r => some ('\\', r)
  | '/' :: r => some ('/', r)
  | 'b' :: r => some ('\x08', r)
  | 'f' :: r => some ('\x0c', r)
  | 'n' :: r => some ('\n', r)
  | 'r' :: r => some ('\r', r)
  | 't' :: r => some ('\t', r)
  | 'u' :: r => do
    let (n, r) ← hexFour? r
    if 0xd800 ≤ n && n ≤ 0xdbff then
      match r with
      | '\\' :: 'u' :: more =>
        match hexFour? more with
        | some (m, after) =>
          if 0xdc00 ≤ m && m ≤ 0xdfff then
            return (Char.ofNat (0x10000 + (n - 0xd800) * 0x400 + (m - 0xdc00)), after)
          else return ('\ufffd', r)
        | none => return ('\ufffd', r)
      | _ => return ('\ufffd', r)
    else if 0xdc00 ≤ n && n ≤ 0xdfff then return ('\ufffd', r)
    else return (Char.ofNat n, r)
  | _ => none

/-- Reads the rest of a text after its opening quote; the fuel is the length of the input. -/
def text? : Nat → List Char → List Char → Option (String × List Char)
  | 0, _, _ => none
  | n + 1, done, cs =>
    match cs with
    | [] => none
    | '"' :: r => some (String.ofList done.reverse, r)
    | '\\' :: r => do
      let (c, r) ← escape? r
      text? n (c :: done) r
    | c :: r => if c.toNat < 32 then none else text? n (c :: done) r

/-- Splits off a word. -/
def word? (w : String) (cs : List Char) : Option (List Char) :=
  if cs.take w.length == w.toList then some (cs.drop w.length) else none

def isExponentMark (c : Char) : Bool := c == 'e' || c == 'E'

/-- Reads a number. -/
def number? (cs : List Char) : Option (Json × List Char) :=
  let (negative, rest) := match cs with
    | '-' :: r => (true, r)
    | r => (false, r)
  let whole := if rest.head? == some '0' then ['0'] else rest.takeWhile Char.isDigit
  if whole.isEmpty then none
  else
    let after := rest.drop whole.length
    let fraction := match after with
      | '.' :: r => r.takeWhile Char.isDigit
      | _ => []
    let after := if fraction.isEmpty then after else after.drop (fraction.length + 1)
    let exponent : Option (Int × List Char) := match after with
      | e :: r =>
        if isExponentMark e then
          let (minus, r) := match r with
            | '-' :: r => (true, r)
            | '+' :: r => (false, r)
            | r => (false, r)
          let ds := r.takeWhile Char.isDigit
          if ds.isEmpty then none
          else some (Literal.signed minus (Literal.ofDigits (ds.map fun c => c.toNat - 48)), r.drop ds.length)
        else none
      | [] => none
    let value := fun (ds : List Char) => Literal.ofDigits (ds.map fun c => c.toNat - 48)
    if fraction.isEmpty && exponent.isNone then
      some (.int (Literal.signed negative (value whole)), after)
    else
      let (e, after) := exponent.getD (0, after)
      some (.float (Literal.scaledDouble negative (value (whole ++ fraction)) (e - fraction.length)), after)

mutual

/-- Reads a value; the fuel bounds the depth and the number of members. -/
def value? : Nat → List Char → Option (Json × List Char)
  | 0, _ => none
  | n + 1, cs =>
    match cs with
    | '"' :: r => (text? (r.length + 1) [] r).map fun (s, r) => (.str s, r)
    | '[' :: r =>
      match skipBlank r with
      | ']' :: r => some (.list [], r)
      | r => items? n [] r
    | '\x7b' :: r =>
      match skipBlank r with
      | '\x7d' :: r => some (.object [], r)
      | r => members? n [] r
    | _ =>
      if let some r := word? "null" cs then some (.null, r)
      else if let some r := word? "true" cs then some (.bool true, r)
      else if let some r := word? "false" cs then some (.bool false, r)
      else if let some r := word? "NaN" cs then some (.float (.nan 0), r)
      else if let some r := word? "Infinity" cs then some (.float (.infinite false), r)
      else if let some r := word? "-Infinity" cs then some (.float (.infinite true), r)
      else number? cs

def items? : Nat → List Json → List Char → Option (Json × List Char)
  | 0, _, _ => none
  | n + 1, done, cs => do
    let (v, r) ← value? n cs
    match skipBlank r with
    | ',' :: r => items? n (v :: done) (skipBlank r)
    | ']' :: r => some (.list (v :: done).reverse, r)
    | _ => none

def members? : Nat → List (String × Json) → List Char → Option (Json × List Char)
  | 0, _, _ => none
  | n + 1, done, cs =>
    match cs with
    | '"' :: r => do
      let (name, r) ← text? (r.length + 1) [] r
      match skipBlank r with
      | ':' :: r =>
        let (v, r) ← value? n (skipBlank r)
        let done := insert name v done
        match skipBlank r with
        | ',' :: r => members? n done (skipBlank r)
        | '\x7d' :: r => some (.object done, r)
        | _ => none
      | _ => none
    | _ => none

end

/-- Reads a whole text as one value. -/
def parse? (s : String) : Option Json :=
  let cs := s.toList
  match value? (cs.length + 2) (skipBlank cs) with
  | some (v, r) => if (skipBlank r).isEmpty then some v else none
  | none => none

/-- How one character stands in a written text. -/
def escapedChar (c : Char) : String :=
  if c == '"' then "\\\""
  else if c == '\\' then "\\\\"
  else if c == '\n' then "\\n"
  else if c == '\r' then "\\r"
  else if c == '\t' then "\\t"
  else if c == '\x08' then "\\b"
  else if c == '\x0c' then "\\f"
  else if 32 ≤ c.toNat && c.toNat < 127 then c.toString
  else if c.toNat < 0x10000 then "\\u" ++ hexText 4 c.toNat
  else
    let n := c.toNat - 0x10000
    "\\u" ++ hexText 4 (0xd800 + n / 0x400) ++ "\\u" ++ hexText 4 (0xdc00 + n % 0x400)

def textOf (s : String) : String := "\"" ++ String.join (s.toList.map escapedChar) ++ "\""

/-- Numbers are written as numbers are shown, but for the words of not-a-number and infinity. -/
def layout : Layout := { Layout.standard with nan := "NaN", infinite := "Infinity" }

/-- What separates the parts of a list or an object. -/
structure Spacing where
  /-- Spaces by which each level is indented, if parts stand on lines of their own. -/
  indent : Option Nat

def Spacing.break (sp : Spacing) (level : Nat) : String :=
  match sp.indent with
  | some n => "\n" ++ String.ofList (List.replicate (n * level) ' ')
  | none => ""

def Spacing.comma (sp : Spacing) (level : Nat) : String :=
  if sp.indent.isSome then "," ++ sp.break level else ", "

mutual

def render (sp : Spacing) (level : Nat) : Json → String
  | .null => "null"
  | .bool b => if b then "true" else "false"
  | .int n => toString n
  | .float x => layout.text .double true x
  | .str s => textOf s
  | .list [] => "[]"
  | .list (v :: vs) =>
    "[" ++ sp.break (level + 1) ++ render sp (level + 1) v ++ renderItems sp (level + 1) vs ++
      sp.break level ++ "]"
  | .object [] => "\x7b\x7d"
  | .object ((n, v) :: ms) =>
    "\x7b" ++ sp.break (level + 1) ++ textOf n ++ ": " ++ render sp (level + 1) v ++
      renderMembers sp (level + 1) ms ++ sp.break level ++ "\x7d"

def renderItems (sp : Spacing) (level : Nat) : List Json → String
  | [] => ""
  | v :: vs => sp.comma level ++ render sp level v ++ renderItems sp level vs

def renderMembers (sp : Spacing) (level : Nat) : List (String × Json) → String
  | [] => ""
  | (n, v) :: ms =>
    sp.comma level ++ textOf n ++ ": " ++ render sp level v ++ renderMembers sp level ms

end

/-- The text of a value, on one line or indented. -/
def text (v : Json) (indent : Option Nat) : String := render ⟨indent⟩ 0 v

end Json

end FunctionObjects.Text
