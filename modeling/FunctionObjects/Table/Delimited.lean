import FunctionObjects.Text.Ranges
/-!
# Delimited text

Reads rows of cells.  A row ends at a line feed, and one carriage return before it is dropped; what
follows the last line feed is a row only if it is not empty.  With a quote character, a cell that
starts with it runs to the closing quote, in which the quote is written twice.  The first row that
is not skipped fixes the number of columns: later rows may be shorter, and may be longer only by
one empty cell at the end.
-/

namespace FunctionObjects.Table

/-- A cell as it is read: its text, and whether nothing at all was written for it. -/
structure Cell where
  text : List Char
  blank : Bool

structure Layout where
  delimiter : Char
  quote : Option Char

/-- Reads a quoted cell after its opening quote: its text and what follows the closing quote. -/
def quotedCell? (q : Char) : List Char → Option (List Char × List Char)
  | [] => none
  | c :: rest =>
    if c == q then
      match rest with
      | d :: more => if d == q then (quotedCell? q more).map fun (s, r) => (q :: s, r) else some ([], rest)
      | [] => some ([], [])
    else (quotedCell? q rest).map fun (s, r) => (c :: s, r)

/-- What ends a cell. -/
inductive Stop where
  | delimiter
  | line
  | input
deriving DecidableEq

/-- Reads a cell without quotes. -/
def plainCell (delimiter : Char) : List Char → List Char × Stop × List Char
  | [] => ([], .input, [])
  | c :: rest =>
    if c == delimiter then ([], .delimiter, rest)
    else if c == '\n' then ([], .line, rest)
    else if c == '\r' && rest.head? == some '\n' then ([], .line, rest.drop 1)
    else
      let (s, stop, r) := plainCell delimiter rest
      (c :: s, stop, r)

/-- What follows a quoted cell has to end it. -/
def afterQuote? (delimiter : Char) : List Char → Option (Stop × List Char)
  | [] => some (.input, [])
  | c :: rest =>
    if c == delimiter then some (.delimiter, rest)
    else if c == '\n' then some (.line, rest)
    else if c == '\r' && rest.head? == some '\n' then some (.line, rest.drop 1)
    else none

/-- Reads one cell. -/
def cell? (l : Layout) (cs : List Char) : Option (Cell × Stop × List Char) :=
  match l.quote, cs with
  | some q, c :: rest =>
    if c == q then do
      let (s, after) ← quotedCell? q rest
      let (stop, r) ← afterQuote? l.delimiter after
      return (⟨s, false⟩, stop, r)
    else
      let (s, stop, r) := plainCell l.delimiter cs
      some (⟨s, s.isEmpty⟩, stop, r)
  | _, _ =>
    let (s, stop, r) := plainCell l.delimiter cs
    some (⟨s, s.isEmpty⟩, stop, r)

/-- Reads one row; every cell consumes at least the character that ends it. -/
def row? (l : Layout) : Nat → List Char → Option (List Cell × List Char)
  | 0, _ => none
  | n + 1, cs => do
    let (c, stop, rest) ← cell? l cs
    match stop with
    | .delimiter =>
      let (row, rest) ← row? l n rest
      return (c :: row, rest)
    | _ => return ([c], rest)

/-- Reads rows until the input ends. -/
def rows? (l : Layout) : Nat → List Char → Option (List (List Cell))
  | 0, _ => none
  | _, [] => some []
  | n + 1, cs => do
    let (row, rest) ← row? l (cs.length + 1) cs
    return row :: (← rows? l n rest)

/-- Fits a row to the number of columns: missing cells are `none`. -/
def fit? (columns : Nat) (row : List Cell) : Option (List (Option String)) :=
  let texts := row.map fun c => some (String.ofList c.text)
  if row.length ≤ columns then some (texts ++ List.replicate (columns - row.length) none)
  else if row.length = columns + 1 ∧ row.getLast?.any (·.blank) then some (texts.take columns)
  else none

/-- A table of cells that may be missing. -/
structure Grid where
  columns : Nat
  rows : List (List (Option String))

/-- Reads a table after skipping rows; `none` if the text is malformed.  A text of which nothing is
left has no columns. -/
def Grid.read? (l : Layout) (skip : Nat) (cs : List Char) : Option Grid := do
  let cs := if cs.head? == some '\ufeff' then cs.drop 1 else cs
  let rows := (← rows? l (cs.length + 1) cs).drop skip
  match rows with
  | [] => return ⟨0, []⟩
  | first :: _ =>
    let fitted ← rows.mapM (fit? first.length)
    return ⟨first.length, fitted⟩

/-- The cells of a row up to its last one that is not empty; a missing cell before it is empty. -/
def present (row : List (Option String)) : List String :=
  ((row.reverse.dropWhile fun c => c.getD "" == "").reverse).map (·.getD "")

/-- The cells of each row that has any, in order. -/
def Grid.records (g : Grid) : List (List String) :=
  (g.rows.map present).filter (!·.isEmpty)

end FunctionObjects.Table
