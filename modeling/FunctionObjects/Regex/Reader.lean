import FunctionObjects.Regex.Syntax
/-!
# Reading regular expressions

A recursive-descent reader.  Each step consumes at least one character or goes one level down in a
group that has been opened, so twice the length of the text bounds its depth.
-/

namespace FunctionObjects.Regex

/-- What the reader carries along: the text left, the flags of the whole expression, the groups
opened so far with the widths of those already closed, and the group number at which the outermost
open lookbehind began. -/
structure Cursor where
  rest : List Char
  flags : Flags
  groups : List (Option Width)
  names : List (String × Nat)
  behind : Option Nat
  /-- Groups that a condition names; each has to exist at the end. -/
  wanted : List Nat
  /-- Whether the text is made of characters and not of bytes. -/
  text : Bool
deriving Repr

abbrev Reader := StateT Cursor (Except Malformed)

namespace Reader

def refuse {α : Type} : Reader α := throw .syntaxRule

def peek : Reader (Option Char) := return (← get).rest.head?

def skip : Reader Unit := modify fun s => { s with rest := s.rest.drop 1 }

/-- The next character, which must exist. -/
def next : Reader Char := do
  match (← get).rest with
  | [] => refuse
  | c :: rest =>
    modify fun s => { s with rest }
    return c

/-- Skips a character if it comes next. -/
def accept (c : Char) : Reader Bool := do
  if (← peek) == some c then
    skip
    return true
  else return false

def expect (c : Char) : Reader Unit := do
  unless ← accept c do refuse

/-- Takes at most `n` characters that satisfy a test. -/
def takeUpTo (n : Nat) (p : Char → Bool) : Reader (List Char) := do
  let taken := ((← get).rest.take n).takeWhile p
  modify fun s => { s with rest := s.rest.drop taken.length }
  return taken

/-- The text up to a closing character, which is consumed; it may not be empty. -/
def until' (close : Char) : Reader (List Char) := do
  let rest := (← get).rest
  let name := rest.takeWhile (· != close)
  if name.isEmpty || name.length == rest.length then refuse
  modify fun s => { s with rest := rest.drop (name.length + 1) }
  return name

def isHex (c : Char) : Bool := c.isDigit || ('a' ≤ c && c ≤ 'f') || ('A' ≤ c && c ≤ 'F')

def isOctal (c : Char) : Bool := '0' ≤ c && c ≤ '7'

def hexValue (c : Char) : Nat :=
  if c.isDigit then c.toNat - 48 else if c.toNat ≥ 97 then c.toNat - 87 else c.toNat - 55

def ofBase (base : Nat) (cs : List Char) : Nat := cs.foldl (fun n c => n * base + hexValue c) 0

/-- The character that a simple escape stands for. -/
def simpleEscape? (c : Char) : Option Char :=
  match c with
  | 'a' => some '\x07'
  | 'f' => some '\x0c'
  | 'n' => some '\n'
  | 'r' => some '\r'
  | 't' => some '\t'
  | 'v' => some '\x0b'
  | '\\' => some '\\'
  | _ => none

def classEscape? (c : Char) : Option SetItem :=
  match c with
  | 'd' => some (.cls false .digit)
  | 'D' => some (.cls true .digit)
  | 's' => some (.cls false .space)
  | 'S' => some (.cls true .space)
  | 'w' => some (.cls false .word)
  | 'W' => some (.cls true .word)
  | _ => none

/-- A character given by exactly `n` hexadecimal digits. -/
def hexEscape (n : Nat) : Reader Char := do
  let ds ← takeUpTo n isHex
  let v := ofBase 16 ds
  if ds.length != n || v > 0x10ffff then refuse
  return Char.ofNat v

/-- An escape inside a set, after the backslash. -/
def setEscape : Reader SetItem := do
  let c ← next
  let isText := (← get).text
  if c == 'b' then return .char '\x08'
  match simpleEscape? c, classEscape? c with
  | some e, _ => return .char e
  | _, some k => return k
  | _, _ =>
    if c == 'x' then return .char (← hexEscape 2)
    else if c == 'u' && isText then return .char (← hexEscape 4)
    else if c == 'U' && isText then return .char (← hexEscape 8)
    else if isOctal c then
      let v := ofBase 8 (c :: (← takeUpTo 2 isOctal))
      if v > 0o377 then refuse
      return .char (Char.ofNat v)
    else if c.isAlphanum then refuse
    else return .char c

/-- Whether a text may name a group. -/
def isName (cs : List Char) : Bool :=
  match cs with
  | [] => false
  | c :: rest => Text.isWord c && !Text.isDigit c && rest.all Text.isWord

/-- The members of a set, after its opening. -/
def setItems : Nat → List SetItem → Reader (List SetItem)
  | 0, _ => refuse
  | n + 1, done => do
    let c ← next
    if c == ']' && !done.isEmpty then return done
    let low ← if c == '\\' then setEscape else pure (.char c)
    if ← accept '-' then
      let d ← next
      if d == ']' then return done ++ [low, .char '-']
      let high ← if d == '\\' then setEscape else pure (.char d)
      match low, high with
      | .char a, .char b =>
        if b.toNat < a.toNat then refuse
        setItems n (done ++ [.range a.toNat b.toNat])
      | _, _ => refuse
    else setItems n (done ++ [low])

def isClosed (s : Cursor) (i : Nat) : Bool := ((s.groups[i]?).getD none).isSome

/-- A group may be referred to once it is closed, and inside a lookbehind only if it was opened
before it. -/
def checkReference (i : Nat) : Reader Unit := do
  let s ← get
  unless isClosed s i do refuse
  match s.behind with
  | some b => if i ≥ b then refuse
  | none => pure ()

/-- An escape outside of sets, after the backslash. -/
def escape (f : Flags) : Reader Node := do
  let c ← next
  let isText := (← get).text
  match c with
  | 'A' => return .anchor f .textStart
  | 'Z' => return .anchor f .textEnd
  | 'b' => return .anchor f .wordEdge
  | 'B' => return .anchor f .insideWord
  | _ =>
    match simpleEscape? c, classEscape? c with
    | some e, _ => return .char f e
    | _, some k => return .set f false [k]
    | _, _ =>
      if c == 'x' then return .char f (← hexEscape 2)
      else if c == 'u' && isText then return .char f (← hexEscape 4)
      else if c == 'U' && isText then return .char f (← hexEscape 8)
      else if c == '0' then
        return .char f (Char.ofNat (ofBase 8 (← takeUpTo 2 isOctal)))
      else if c.isDigit then
        let more ← takeUpTo 1 Char.isDigit
        let third ← if isOctal c && more.all isOctal && !more.isEmpty then takeUpTo 1 isOctal else pure []
        if !third.isEmpty then
          let v := ofBase 8 (c :: (more ++ third))
          if v > 0o377 then refuse
          return .char f (Char.ofNat v)
        let i := ofBase 10 (c :: more)
        checkReference i
        return .backref f i
      else if c.isAlpha then refuse
      else return .char f c

/-- Sets the flag that a letter stands for. -/
def setFlag (f : Flags) (c : Char) (on : Bool) : Option Flags :=
  match c with
  | 'i' => some { f with ignoreCase := on }
  | 'm' => some { f with multiline := on }
  | 's' => some { f with dotAll := on }
  | 'x' => some { f with verbose := on }
  | 'a' => some { f with ascii := on }
  | 'u' => some { f with ascii := !on }
  | _ => none

/-- What follows `(?` when it starts with a flag: the letters turned on and off, and whether the
flags hold for the whole expression. -/
structure FlagChange where
  on : List Char
  off : List Char
  wide : Bool

def isFlag (isText : Bool) (c : Char) : Bool :=
  "imsxa".toList.contains c || (c == 'u' && isText)

/-- Reads the letters of a change of flags, the first one already taken. -/
def flagChange (first : Char) : Reader FlagChange := do
  let isText := (← get).text
  let on ←
    if first == '-' then pure []
    else do
      let more ← takeUpTo (← get).rest.length (isFlag isText)
      pure (first :: more)
  unless on.all (isFlag isText) do refuse
  if on.contains 'a' && on.contains 'u' then refuse
  let close ← if first == '-' then pure '-' else next
  if close == ')' then return ⟨on, [], true⟩
  else if close == ':' then return ⟨on, [], false⟩
  else if close == '-' then
    let off ← takeUpTo (← get).rest.length (fun c => "imsx".toList.contains c)
    if off.isEmpty || on.any off.contains then refuse
    expect ':'
    return ⟨on, off, false⟩
  else refuse

def applyFlags (f : Flags) (change : FlagChange) : Flags :=
  let f := change.on.foldl (fun f c => (setFlag f c true).getD f) f
  change.off.foldl (fun f c => (setFlag f c false).getD f) f

/-- The greatest count that a repetition may name, and one more. -/
def countLimit : Nat := 4294967295

/-- The bounds of a repetition, after its first character; `none` when a brace is plain text. -/
def bounds (c : Char) : Reader (Option (Nat × Option Nat)) := do
  match c with
  | '?' => return some (0, some 1)
  | '*' => return some (0, none)
  | '+' => return some (1, none)
  | _ =>
    let start := (← get).rest
    if (← peek) == some '\x7d' then return none
    let low ← takeUpTo start.length Char.isDigit
    let high ← if ← accept ',' then takeUpTo start.length Char.isDigit else pure low
    unless ← accept '\x7d' do
      modify fun s => { s with rest := start }
      return none
    let lowest := ofBase 10 low
    let highest := if high.isEmpty then none else some (ofBase 10 high)
    if lowest ≥ countLimit || highest.any (· ≥ countLimit) then throw .countTooLarge
    if highest.any (· < lowest) then refuse
    return some (lowest, highest)

def appetite : Reader Appetite := do
  if ← accept '?' then return .lazy
  else if ← accept '+' then return .possessive
  else return .greedy

/-- Whether an item can be repeated. -/
def repeatable : Node → Bool
  | .anchor .. => false
  | .times .. => false
  | _ => true

def openGroup (name : Option String) : Reader Nat := do
  let s ← get
  let i := s.groups.length
  match name with
  | some n =>
    if (s.names.lookup n).isSome then refuse
    set { s with groups := s.groups ++ [none], names := s.names ++ [(n, i)] }
  | none => set { s with groups := s.groups ++ [none] }
  return i

def closeGroup (i : Nat) (body : Node) : Reader Unit :=
  modify fun s => { s with groups := s.groups.set i (some (body.width s.groups)) }

/-- The group that a condition or a reference names. -/
def groupNamed (name : List Char) : Reader Nat := do
  match (← get).names.lookup (String.ofList name) with
  | some i => return i
  | none => refuse

/-- Skips blank characters and comments where they do not count. -/
def skipVerbose (cs : List Char) : List Char :=
  match cs with
  | [] => []
  | c :: rest =>
    if " \t\n\r\x0b\x0c".toList.contains c then skipVerbose rest
    else if c == '#' then
      let line := rest.dropWhile (· != '\n')
      if line.length < rest.length + 1 then skipVerbose line else []
    else c :: rest
termination_by cs.length
decreasing_by
  · simp
  · simp only [List.length_cons]
    have := (List.dropWhile_sublist (fun c => c != '\n') (l := rest)).length_le
    omega

mutual

/-- Alternatives up to a closing parenthesis or the end. -/
def alternatives : Nat → Flags → Bool → Reader Node
  | 0, _, _ => refuse
  | n + 1, f, outermost => do
    let first ← items n f outermost []
    let wide := (← get).flags
    let more ← branches n (if outermost then wide else f) []
    match more with
    | [] => return first
    | _ => return .alt (first :: more)

/-- The alternatives after the first. -/
def branches : Nat → Flags → List Node → Reader (List Node)
  | 0, _, _ => refuse
  | n + 1, f, done => do
    if ← accept '|' then
      let node ← items n f false []
      branches n f (done ++ [node])
    else return done

/-- A sequence of items.  Flags for the whole expression may only stand before every item. -/
def items : Nat → Flags → Bool → List Node → Reader Node
  | 0, _, _, _ => refuse
  | n + 1, f, outermost, done => do
    let wide := (← get).flags
    let f := if outermost then wide else f
    if f.verbose then modify fun s => { s with rest := skipVerbose s.rest }
    match ← peek with
    | none => return .seq done
    | some c =>
      if c == '|' || c == ')' then return .seq done
      skip
      if c == '\\' then items n f outermost (done ++ [← escape f])
      else if c == '[' then
        let negated ← accept '^'
        let members ← setItems ((← get).rest.length + 1) []
        items n f outermost (done ++ [.set f negated members])
      else if c == '*' || c == '+' || c == '?' || c == '\x7b' then
        match ← bounds c with
        | none => items n f outermost (done ++ [.char f c])
        | some (low, high) =>
          match done.getLast? with
          | none => refuse
          | some item =>
            unless repeatable item do refuse
            let a ← appetite
            items n f outermost (done.dropLast ++ [.times low high a item])
      else if c == '.' then items n f outermost (done ++ [.any f])
      else if c == '^' then
        items n f outermost (done ++ [.anchor f (if f.multiline then .lineStart else .textStart)])
      else if c == '$' then
        items n f outermost (done ++ [.anchor f (if f.multiline then .lineEnd else .lastLineEnd)])
      else if c == '(' then
        match ← parenthesized n f (outermost && done.isEmpty) with
        | some node => items n f outermost (done ++ [node])
        | none => items n f outermost done
      else items n f outermost (done ++ [.char f c])

/-- What an opening parenthesis begins; nothing for a comment or for flags. -/
def parenthesized : Nat → Flags → Bool → Reader (Option Node)
  | 0, _, _ => refuse
  | n + 1, f, leading => do
    if !(← accept '?') then
      some <$> captured n f none
    else
      let c ← next
      let isText := (← get).text
      if c == 'P' then
        let d ← next
        if d == '<' then
          let name ← until' '>'
          unless isName name do refuse
          some <$> captured n f (some (String.ofList name))
        else if d == '=' then
          let name ← until' ')'
          unless isName name do refuse
          let i ← groupNamed name
          checkReference i
          return some (.backref f i)
        else refuse
      else if c == ':' then
        let body ← alternatives n f false
        expect ')'
        return some (.group none body)
      else if c == '#' then
        let rest := (← get).rest.dropWhile (· != ')')
        if rest.isEmpty then refuse
        modify fun s => { s with rest := rest.drop 1 }
        return none
      else if c == '=' || c == '!' then
        let body ← alternatives n f false
        expect ')'
        return some (.lookahead (c == '!') body)
      else if c == '<' then
        let d ← next
        unless d == '=' || d == '!' do refuse
        let s ← get
        if s.behind.isNone then set { s with behind := some s.groups.length }
        let body ← alternatives n f false
        modify fun t => { t with behind := s.behind }
        expect ')'
        match body.width (← get).groups with
        | (low, some high) =>
          unless low == high do refuse
          return some (.lookbehind (d == '!') low body)
        | _ => refuse
      else if c == '(' then
        let name ← until' ')'
        let i ←
          if isName name then groupNamed name
          else if name.all Char.isDigit then do
            let i := ofBase 10 name
            if i == 0 then refuse
            modify fun s => { s with wanted := s.wanted ++ [i] }
            pure i
          else refuse
        if (← get).behind.isSome then checkReference i
        let yes ← items n f false []
        let no ← if ← accept '|' then items n f false [] else pure (.seq [])
        expect ')'
        return some (.conditional i yes no)
      else if c == '>' then
        let body ← alternatives n f false
        expect ')'
        return some (.atomic body)
      else if c == '-' || isFlag isText c then
        let change ← flagChange c
        if change.wide then
          unless leading do refuse
          modify fun s => { s with flags := applyFlags s.flags change }
          return none
        else
          let body ← alternatives n (applyFlags f change) false
          expect ')'
          return some (.group none body)
      else refuse

/-- A capturing group, after its opening. -/
def captured : Nat → Flags → Option String → Reader Node
  | 0, _, _ => refuse
  | n + 1, f, name => do
    let i ← openGroup name
    let body ← alternatives n f false
    expect ')'
    closeGroup i body
    return .group (some i) body

end

end Reader

/-- A regular expression that has been read. -/
structure Program where
  node : Node
  flags : Flags
  groups : Nat
  names : List (String × Nat)
deriving Repr, Inhabited

/-- Reads an expression under the given flags. -/
def Program.read (source : List Char) (text : Bool) (flags : Flags) : Except Malformed Program := do
  let start : Cursor := ⟨source, flags, [none], [], none, [], text⟩
  let (node, s) ← (Reader.alternatives (2 * source.length + 4) flags true).run start
  unless s.rest.isEmpty do throw .syntaxRule
  if s.wanted.any (· ≥ s.groups.length) then throw .syntaxRule
  return ⟨node, s.flags, s.groups.length, s.names⟩

end FunctionObjects.Regex
