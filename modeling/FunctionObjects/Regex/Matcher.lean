import FunctionObjects.Regex.Reader
/-!
# Matching

A backtracking matcher in continuation style: a node is tried at a position and the rest of the
match is passed along as a function.  Alternatives are tried in order, so the first match found is
the one that the appetites of the expression prefer.
-/

namespace FunctionObjects.Regex

/-- A position in the text and the spans that the groups have captured. -/
structure Place where
  position : Nat
  spans : List (Nat × Nat × Nat)
deriving Repr, Inhabited

def Place.span? (p : Place) (i : Nat) : Option (Nat × Nat) := p.spans.lookup i

def Place.capture (p : Place) (i first last : Nat) : Place :=
  { p with spans := (i, first, last) :: p.spans.filter (·.1 != i) }

abbrev Continuation := Place → Option Place

def isWordAt (f : Flags) (text : Array Char) (i : Nat) : Bool :=
  match text[i]? with
  | some c => CharClass.word.holds f.ascii c
  | none => false

def Anchor.holds (a : Anchor) (f : Flags) (text : Array Char) (i : Nat) : Bool :=
  let edge :=
    (if i = 0 then false else isWordAt f text (i - 1)) != isWordAt f text i
  match a with
  | .textStart => i == 0
  | .lineStart => i == 0 || text[i - 1]? == some '\n'
  | .textEnd => i == text.size
  | .lastLineEnd => i == text.size || (i + 1 == text.size && text[i]? == some '\n')
  | .lineEnd => i == text.size || text[i]? == some '\n'
  | .wordEdge => text.size != 0 && edge
  | .insideWord => text.size != 0 && !edge

/-- Whether two characters match under the flags. -/
def sameChar (f : Flags) (a b : Char) : Bool :=
  if f.ignoreCase then
    if f.ascii then a.toLower == b.toLower else Text.sameIgnoringCase a b
  else a == b

/-- The characters that match `c` when case is ignored. -/
def caseForms (c : Char) : List Char :=
  let low := Text.lowerCode c.toNat
  let lows := low :: (Text.caseVariants.lookup low).getD []
  let highs := lows.filterMap fun n => Text.upperRuns.findSome? (·.map? n)
  c :: ((lows ++ highs).map Char.ofNat).filter (sameChar ⟨true, false, false, false, false⟩ c)

def SetItem.holds (ascii : Bool) (c : Char) : SetItem → Bool
  | .char d => c == d
  | .range low high => low ≤ c.toNat && c.toNat ≤ high
  | .cls negated k => k.holds ascii c != negated

def setHolds (f : Flags) (negated : Bool) (members : List SetItem) (c : Char) : Bool :=
  let forms :=
    if f.ignoreCase then (if f.ascii then [c, c.toLower, c.toUpper] else caseForms c) else [c]
  members.any (fun m => forms.any (m.holds f.ascii)) != negated

/-- Matches one character that satisfies a test. -/
def one (text : Array Char) (test : Char → Bool) (p : Place) (k : Continuation) : Option Place :=
  match text[p.position]? with
  | some c => if test c then k { p with position := p.position + 1 } else none
  | none => none

/-- Whether the characters of a span come again at a position. -/
def repeated (f : Flags) (text : Array Char) (first last position : Nat) : Bool :=
  (List.range (last - first)).all fun i =>
    match text[first + i]?, text[position + i]? with
    | some a, some b =>
      if f.ignoreCase then Text.lowerChar a == Text.lowerChar b else a == b
    | _, _ => false

/-- Repeats a step.  Beyond the least count an iteration is tried only if the one before it moved
on, so the fuel needed is the least count and the length of the text left. -/
def iterate (step : Place → Continuation → Option Place) (low : Nat) (high : Option Nat)
    (greedy : Bool) : Nat → Nat → Option Nat → Place → Continuation → Option Place
  | 0, _, _, _, _ => none
  | fuel + 1, count, last, p, k =>
    if count < low then
      step p fun q => iterate step low high greedy fuel (count + 1) (some p.position) q k
    else
      let another := fun (_ : Unit) =>
        if high.all (count < ·) && last != some p.position then
          step p fun q => iterate step low high greedy fuel (count + 1) (some p.position) q k
        else none
      if greedy then (another ()).orElse fun _ => k p
      else (k p).orElse another

mutual

/-- Tries a node at a place. -/
def Node.run (text : Array Char) : Node → Place → Continuation → Option Place
  | .char f c, p, k => one text (sameChar f c) p k
  | .any f, p, k => one text (fun c => f.dotAll || c != '\n') p k
  | .set f negated members, p, k => one text (setHolds f negated members) p k
  | .anchor f a, p, k => if a.holds f text p.position then k p else none
  | .seq ns, p, k => runSeq text ns p k
  | .alt ns, p, k => runAlt text ns p k
  | .times low high appetite body, p, k =>
    let fuel := low + (text.size - p.position) + 2
    let step := body.run text
    match appetite with
    | .greedy => iterate step low high true fuel 0 none p k
    | .lazy => iterate step low high false fuel 0 none p k
    | .possessive => (iterate step low high true fuel 0 none p some).bind k
  | .group none body, p, k => body.run text p k
  | .group (some i) body, p, k =>
    body.run text p fun q => k (q.capture i p.position q.position)
  | .backref f i, p, k =>
    match p.span? i with
    | some (first, last) =>
      if repeated f text first last p.position then
        k { p with position := p.position + (last - first) }
      else none
    | none => none
  | .lookahead negated body, p, k =>
    match body.run text p some with
    | some q => if negated then none else k { q with position := p.position }
    | none => if negated then k p else none
  | .lookbehind negated width body, p, k =>
    let found :=
      if width ≤ p.position then body.run text { p with position := p.position - width } some
      else none
    match found with
    | some q => if negated then none else k { q with position := p.position }
    | none => if negated then k p else none
  | .conditional i yes no, p, k =>
    if (p.span? i).isSome then yes.run text p k else no.run text p k
  | .atomic body, p, k => (body.run text p some).bind k

def runSeq (text : Array Char) : List Node → Place → Continuation → Option Place
  | [], p, k => k p
  | n :: ns, p, k => n.run text p fun q => runSeq text ns q k

def runAlt (text : Array Char) : List Node → Place → Continuation → Option Place
  | [], _, _ => none
  | n :: ns, p, k => (n.run text p k).orElse fun _ => runAlt text ns p k

end

/-- Whether the whole text matches. -/
def Program.matchesWhole (g : Program) (text : Array Char) : Bool :=
  (g.node.run text ⟨0, []⟩ fun p => if p.position == text.size then some p else none).isSome

/-- The first match that starts at `start` or later, with the place where it starts.  A match at
`start` itself may be required not to be empty. -/
def Program.search (g : Program) (text : Array Char) :
    Nat → Nat → Bool → Option (Nat × Place)
  | 0, _, _ => none
  | fuel + 1, start, moving =>
    let found := g.node.run text ⟨start, []⟩ fun p =>
      if moving && p.position == start then none else some p
    match found with
    | some p => some (start, p)
    | none => if start < text.size then Program.search g text fuel (start + 1) false else none

/-- All matches from left to right.  An empty match may touch the match before it, unless that one
is empty too. -/
def Program.matches (g : Program) (text : Array Char) :
    Nat → Nat → Bool → List (Nat × Place)
  | 0, _, _ => []
  | fuel + 1, start, moving =>
    match g.search text (text.size + 2) start moving with
    | none => []
    | some (first, p) => (first, p) :: Program.matches g text fuel p.position (p.position == first)

end FunctionObjects.Regex
