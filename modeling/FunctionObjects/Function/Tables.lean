import FunctionObjects.Function.Base
import FunctionObjects.Table.Delimited
/-!
# Tables as dictionaries

Every row of a delimited text that has a cell becomes a dictionary from the names in the header to
the cells, as far as the row goes.
-/

namespace FunctionObjects.Tables

variable (d : Dispatch)

/-- Checks and stores how a text is laid out. -/
def setUp (self header firstRow delimiter quoted quote : Value) : Run Unit := do
  if (← d.length delimiter) != 1 then throw (.delimiterLength (← Run.shown delimiter))
  if (← d.length quote) != 1 then throw (.quoteLength (← Run.shown quote))
  if ← Run.holds .lt firstRow (.int 0) then throw (.negativeFirstRow (← Run.plain firstRow))
  Run.setField self "header" (← d.listOf header)
  Run.setField self "first_row" firstRow
  Run.setField self "delimiter" delimiter
  Run.setField self "quoted" quoted
  Run.setField self "quote_char" quote

/-- A character of which a reader of tables can make use: it must take a single byte. -/
def byteChar (v : Value) : Run Char := do
  let a ← Run.atom v
  match (← Run.require .wrongType a.text?).toList with
  | [c] => if c.toNat < 128 then return c else throw .wrongValue
  | _ => throw .wrongValue

/-- The number of rows to skip, which must fit an unsigned machine integer of 64 bits. -/
def rowCount (v : Value) : Run Nat := do
  let n ← Run.require .wrongType (← Run.atom v).index?
  if Numeral.Scalar.fits false 64 n then return n.toNat else throw .overflow

/-- The dictionary of a row. -/
def entries (header : List Value) (cells : List String) : Run Value := do
  let pairs := header.zip (cells.map Value.str)
  Run.alloc (.dict (← Run.insertAll [] pairs))

/-- What a reader of tables is told about cells. -/
def layoutOf (self : Value) : Run Table.Layout := do
  let delimiter ← byteChar (← Run.field self "delimiter")
  if ← d.truth (← Run.field self "quoted") then
    return ⟨delimiter, some (← byteChar (← Run.field self "quote_char"))⟩
  else return ⟨delimiter, none⟩

/-- What reads a table from characters after skipping rows, or finds that it cannot be read. -/
abbrev Reader := Table.Layout → Nat → List Char → Option Table.Grid

/-- Reads a text with a reader.  How cells are told apart is checked before the number of rows. -/
def parseWith (read : Reader) (self : Value) (text : String) : Run Value := do
  if (Text.strip text.toList).isEmpty then return ← Run.newList []
  let l ← layoutOf d self
  let skip ← rowCount (← Run.field self "first_row")
  let grid ← Run.require .unreadableTable (read l skip text.toList)
  let header ← d.itemsOf self "header"
  if grid.columns > header.length then throw (.headerTooShort grid.columns header.length)
  Run.newList (← grid.records.mapM (entries header))

/-- Reads a text. -/
def parseText (self : Value) (text : String) : Run Value := parseWith d Table.Grid.read? self text

/-- Reads a value, which must be a text; of bytes only blank ones are accepted. -/
def parse (self x : Value) : Run Value := do
  match x with
  | .atom a =>
    match a.text?, a.bytes? with
    | some s, _ => parseText d self s
    | _, some bs =>
      if bs.all fun b => b == 32 || (9 ≤ b && b ≤ 13) then Run.newList [] else throw .wrongType
    | _, _ => throw .noAttribute
  | _ => throw .noAttribute

/-- Reads a text, or nothing. -/
def apply (self x : Value) : Run Value :=
  if x.isNone then return .none else d.method self "_parse" [x]

/-- Reads lines, or nothing. -/
def applyLines (self x : Value) : Run Value := do
  if x.isNone then return .none
  let lines ← (← d.items x).mapM fun v => do
    Run.require .wrongType (← Run.atom v).text?
  d.method self "_parse" [.str (String.intercalate "\n" lines)]

end FunctionObjects.Tables
