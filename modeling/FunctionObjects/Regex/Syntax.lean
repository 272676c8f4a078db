import FunctionObjects.Text.CaseMap
import FunctionObjects.Text.Ranges
import FunctionObjects.Text.Word
/-!
# Regular expressions

The syntax tree of a regular expression.  The flags in force at a place are written into its nodes,
so a tree is matched without any flags.
-/

namespace FunctionObjects.Regex

/-- Why an expression or a replacement text is refused. -/
inductive Malformed where
  /-- It breaks the rules of the syntax. -/
  | syntaxRule
  /-- A repetition count is too large to be held. -/
  | countTooLarge
  /-- A replacement text names a group that does not exist. -/
  | unknownGroupName
deriving DecidableEq, Repr

/-- The flags of an expression. -/
structure Flags where
  ignoreCase : Bool
  multiline : Bool
  dotAll : Bool
  verbose : Bool
  ascii : Bool
deriving DecidableEq, Repr, Inhabited

inductive CharClass where
  | digit
  | space
  | word
deriving DecidableEq, Repr

inductive SetItem where
  | char (c : Char)
  | range (low high : Nat)
  | cls (negated : Bool) (k : CharClass)
deriving DecidableEq, Repr

inductive Anchor where
  | textStart
  | lineStart
  | textEnd
  | lastLineEnd
  | lineEnd
  | wordEdge
  | insideWord
deriving DecidableEq, Repr

/-- How a repetition chooses its count. -/
inductive Appetite where
  | greedy
  | lazy
  /-- Greedy, and never gives back. -/
  | possessive
deriving DecidableEq, Repr

inductive Node where
  | char (f : Flags) (c : Char)
  | any (f : Flags)
  | set (f : Flags) (negated : Bool) (items : List SetItem)
  | anchor (f : Flags) (a : Anchor)
  | seq (ns : List Node)
  | alt (ns : List Node)
  | times (low : Nat) (high : Option Nat) (appetite : Appetite) (body : Node)
  | group (index : Option Nat) (body : Node)
  | backref (f : Flags) (index : Nat)
  | lookahead (negated : Bool) (body : Node)
  | lookbehind (negated : Bool) (width : Nat) (body : Node)
  | conditional (index : Nat) (yes no : Node)
  | atomic (body : Node)
deriving Repr, Inhabited

namespace CharClass

def holds (k : CharClass) (ascii : Bool) (c : Char) : Bool :=
  match k with
  | .digit => if ascii then c.isDigit else Text.isDigit c
  | .space =>
    if ascii then c.toNat < 128 && !(28 ≤ c.toNat && c.toNat ≤ 31) && Text.isBlank c
    else Text.isBlank c
  | .word => if ascii then c.isAlphanum || c == '_' else Text.isWord c

end CharClass

/-- The least and greatest number of characters of a match, no number when there is no greatest. -/
abbrev Width := Nat × Option Nat

def Width.add (a b : Width) : Width :=
  (a.1 + b.1, match a.2, b.2 with
    | some x, some y => some (x + y)
    | _, _ => none)

def Width.join (a b : Width) : Width :=
  (min a.1 b.1, match a.2, b.2 with
    | some x, some y => some (max x y)
    | _, _ => none)

def Width.times (low : Nat) (high : Option Nat) (w : Width) : Width :=
  (w.1 * low, match w.2, high with
    | some 0, _ => some 0
    | some x, some h => some (x * h)
    | _, some 0 => some 0
    | _, _ => none)

mutual

/-- The width of a node, given the widths of the groups closed before it. -/
def Node.width (groups : List (Option Width)) : Node → Width
  | .char .. => (1, some 1)
  | .any _ => (1, some 1)
  | .set .. => (1, some 1)
  | .anchor .. => (0, some 0)
  | .seq ns => seqWidth groups ns
  | .alt [] => (0, some 0)
  | .alt (n :: ns) => altWidth groups (n.width groups) ns
  | .times low high _ body => (body.width groups).times low high
  | .group _ body => body.width groups
  | .backref _ i => ((groups[i]?).getD none).getD (0, some 0)
  | .lookahead .. => (0, some 0)
  | .lookbehind .. => (0, some 0)
  | .conditional _ yes no => (yes.width groups).join (no.width groups)
  | .atomic body => body.width groups

def seqWidth (groups : List (Option Width)) : List Node → Width
  | [] => (0, some 0)
  | n :: ns => (n.width groups).add (seqWidth groups ns)

def altWidth (groups : List (Option Width)) (w : Width) : List Node → Width
  | [] => w
  | n :: ns => altWidth groups (w.join (n.width groups)) ns

end

end FunctionObjects.Regex
