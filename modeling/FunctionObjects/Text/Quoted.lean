import FunctionObjects.Text.Printable
/-!
# Quoted text

Text is shown between single quotes, or between double quotes when it holds a single quote and no
double one.  The quote in use, the backslash and every character that does not print are escaped.
-/

namespace FunctionObjects.Text

/-- A digit of a number written in hexadecimal. -/
def hexDigit (n : Nat) : Char := (Nat.toDigits 16 (n % 16)).headD '0'

/-- The last `width` hexadecimal digits of a number. -/
def hexText (width : Nat) (n : Nat) : String :=
  String.ofList ((List.range width).reverse.map fun i => hexDigit (n / Nat.pow 16 i))

/-- The quote that needs the fewest escapes, a single one when both do. -/
def quoteFor (cs : List Char) : Char := if cs.contains '\'' && !cs.contains '"' then '"' else '\''

/-- How one character stands inside a quoted text. -/
def quotedChar (quote : Char) (c : Char) : String :=
  if c == quote || c == '\\' then "\\" ++ c.toString
  else if c == '\n' then "\\n"
  else if c == '\r' then "\\r"
  else if c == '\t' then "\\t"
  else if isPrintable c then c.toString
  else if c.toNat < 0x100 then "\\x" ++ hexText 2 c.toNat
  else if c.toNat < 0x10000 then "\\u" ++ hexText 4 c.toNat
  else "\\U" ++ hexText 8 c.toNat

/-- A text between quotes. -/
def quoted (s : String) : String :=
  let q := quoteFor s.toList
  q.toString ++ String.join (s.toList.map (quotedChar q)) ++ q.toString

/-- How one byte stands inside quotes: as an ASCII character if it prints. -/
def quotedByte (quote : Char) (b : Nat) : String :=
  let c := Char.ofNat b
  if c == quote || c == '\\' then "\\" ++ c.toString
  else if c == '\n' then "\\n"
  else if c == '\r' then "\\r"
  else if c == '\t' then "\\t"
  else if 32 ≤ b && b < 127 then c.toString
  else "\\x" ++ hexText 2 b

/-- Bytes between quotes, marked with a `b`. -/
def quotedBytes (bs : List Nat) : String :=
  let q := quoteFor (bs.map Char.ofNat)
  "b" ++ q.toString ++ String.join (bs.map (quotedByte q)) ++ q.toString

end FunctionObjects.Text
