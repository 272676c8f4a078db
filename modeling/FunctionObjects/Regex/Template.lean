import FunctionObjects.Regex.Matcher
/-!
# Replacement texts

A replacement text holds characters and references to groups.  A group that took no part in a match
stands for the empty text.
-/

namespace FunctionObjects.Regex

inductive Piece where
  | char (c : Char)
  | group (index : Nat)
deriving Repr

/-- A reference to a group that the expression must have. -/
def Piece.ofIndex (g : Program) (i : Nat) : Except Malformed Piece :=
  if i < g.groups then .ok (.group i) else .error .syntaxRule

/-- What follows `\g`: a name or a number between angle brackets, and the text after it. -/
def namedPiece (g : Program) (cs : List Char) : Except Malformed (Piece × List Char) :=
  match cs with
  | '<' :: rest =>
    let name := rest.takeWhile (· != '>')
    let after := rest.drop (name.length + 1)
    if name.isEmpty || name.length == rest.length then .error .syntaxRule
    else if Reader.isName name then
      match g.names.lookup (String.ofList name) with
      | some i => .ok (.group i, after)
      | none => .error .unknownGroupName
    else if name.all Char.isDigit then
      (Piece.ofIndex g (Reader.ofBase 10 name)).map fun p => (p, after)
    else .error .syntaxRule
  | _ => .error .syntaxRule

/-- The characters or group that an escaped digit begins, and the text after it. -/
def digitPiece (g : Program) (c : Char) (cs : List Char) : Except Malformed (Piece × List Char) :=
  if c == '0' then
    let more := (cs.take 2).takeWhile Reader.isOctal
    .ok (.char (Char.ofNat (Reader.ofBase 8 more % 256)), cs.drop more.length)
  else
    match cs with
    | d :: rest =>
      if d.isDigit then
        match rest with
        | e :: after =>
          if Reader.isOctal c && Reader.isOctal d && Reader.isOctal e then
            let v := Reader.ofBase 8 [c, d, e]
            if v > 0o377 then .error .syntaxRule else .ok (.char (Char.ofNat v), after)
          else (Piece.ofIndex g (Reader.ofBase 10 [c, d])).map fun p => (p, rest)
        | [] => (Piece.ofIndex g (Reader.ofBase 10 [c, d])).map fun p => (p, rest)
      else (Piece.ofIndex g (Reader.ofBase 10 [c])).map fun p => (p, cs)
    | [] => (Piece.ofIndex g (Reader.ofBase 10 [c])).map fun p => (p, cs)

/-- The character that an escaped letter stands for. -/
def letterEscape? (c : Char) : Option Char :=
  if c == 'b' then some '\x08' else Reader.simpleEscape? c

/-- Reads a replacement text; its length bounds the steps. -/
def pieces (g : Program) : Nat → List Char → Except Malformed (List Piece)
  | 0, _ => .ok []
  | _, [] => .ok []
  | n + 1, c :: rest =>
    if c != '\\' then (pieces g n rest).map (.char c :: ·)
    else
      match rest with
      | [] => .error .syntaxRule
      | d :: after =>
        if d == 'g' then do
          let (p, after) ← namedPiece g after
          return p :: (← pieces g n after)
        else if d.isDigit then do
          let (p, after) ← digitPiece g d after
          return p :: (← pieces g n after)
        else
          match letterEscape? d with
          | some e => (pieces g n after).map (.char e :: ·)
          | none =>
            if d.isAlpha then .error .syntaxRule
            else (pieces g n after).map fun ps => .char c :: .char d :: ps

def Piece.expand (text : Array Char) (first : Nat) (p : Place) : Piece → List Char
  | .char c => [c]
  | .group 0 => (text.extract first p.position).toList
  | .group i =>
    match p.span? i with
    | some (a, b) => (text.extract a b).toList
    | none => []

/-- The text with each match replaced, copying what lies between them from `start` on. -/
def splice (text : Array Char) (ps : List Piece) : Nat → List (Nat × Place) → List Char
  | start, [] => (text.extract start text.size).toList
  | start, (first, p) :: more =>
    (text.extract start first).toList ++ ps.flatMap (Piece.expand text first p) ++
      splice text ps p.position more

/-- Replaces every match in a text. -/
def Program.replace (g : Program) (replacement source : List Char) :
    Except Malformed (List Char) := do
  let ps ← pieces g replacement.length replacement
  let text := source.toArray
  return splice text ps 0 (g.matches text (2 * text.size + 2) 0 false)

end FunctionObjects.Regex
