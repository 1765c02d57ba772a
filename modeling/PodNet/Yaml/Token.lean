import PodNet.Yaml.Scalar

/-!
# Tokens of flow style

Configuration files are YAML in flow style: containers between brackets and braces, and scalars. The
text is cut into tokens character by character. A token remembers its line and how many characters
stand before it, because a key and its colon must be close to each other. Outside of containers a tab
may not stand at the start of a line. What flow style has besides (anchors, tags, single quotes) is
refused.
-/

namespace PodNet.Yaml

open Json (Document)

/-- What a token is. -/
inductive Kind where
  | openList
  | closeList
  | openTable
  | closeTable
  | comma
  | colon
  | scalar (value : Document)
  deriving Repr

/-- Where a token begins: the number of lines and that of characters before it. -/
structure Position where
  line : Nat
  index : Nat
  deriving Repr, DecidableEq

/-- A token. -/
structure Token where
  kind : Kind
  position : Position
  deriving Repr

/-- What the reader is in the middle of. -/
inductive Mode where
  /-- Between tokens. -/
  | between
  | comment
  /-- In a plain scalar, whose characters so far are given in reverse. -/
  | plain (start : Position) (done : List Char)
  /-- In a quoted scalar, whose characters so far are given in reverse, perhaps after a backslash. -/
  | quoted (start : Position) (done : List Char) (escaped : Bool)
  deriving Repr

/-- How far the reader is. -/
structure Scan where
  mode : Mode
  position : Position
  /-- The number of open containers. -/
  depth : Nat
  /-- Nothing but blanks stand between here and the start of the line, outside of containers. -/
  fresh : Bool
  /-- The tokens so far, latest first. -/
  done : List Token
  deriving Repr

namespace Scan

/-- The reader at the start of a text. -/
def start : Scan := ⟨.between, ⟨0, 0⟩, 0, true, []⟩

/-- The position after a character, given the next one. A carriage return and a line feed are one
line break. -/
def after (p : Position) (c : Char) (next : Option Char) : Position :=
  let ends := isBreak c && !(c == '\r' && next == some '\n')
  ⟨if ends then p.line + 1 else p.line, p.index + 1⟩

/-- Adds a token that begins at a position. -/
def add (s : Scan) (kind : Kind) (position : Position) : Scan :=
  { s with mode := .between, fresh := false, done := ⟨kind, position⟩ :: s.done }

/-- Ends a plain scalar. -/
def endPlain (s : Scan) (start : Position) (done : List Char) : Option Scan :=
  (plain? (Text.dropEnd isGap done.reverse)).map fun v => s.add (.scalar v) start

/-- The characters that no plain scalar begins with. -/
def indicators : List Char := "?&*!|>%@'".toList ++ [Char.ofNat 0x60, ':']

/-- Does the next character end a token that could go on? -/
def endsToken (next : Option Char) : Bool :=
  next.all fun c => isGap c || isBreak c

/-- A character between tokens. -/
def beginToken (s : Scan) (c : Char) (next : Option Char) : Option Scan :=
  if c = ' ' then some s
  else if c = '\t' then if s.fresh then none else some s
  else if isBreak c then some { s with fresh := s.depth == 0 }
  else if c = '#' then some { s with mode := .comment }
  else if c = '[' then some { s.add .openList s.position with depth := s.depth + 1 }
  else if c = '\x7b' then some { s.add .openTable s.position with depth := s.depth + 1 }
  else if c = ']' then some { s.add .closeList s.position with depth := s.depth - 1 }
  else if c = '\x7d' then some { s.add .closeTable s.position with depth := s.depth - 1 }
  else if c = ',' then some (s.add .comma s.position)
  else if c = ':' ∧ s.depth ≠ 0 then some (s.add .colon s.position)
  else if c = '"' then some { s with mode := .quoted s.position [] false, fresh := false }
  else if indicators.contains c || (c == '-' && endsToken next) then none
  else some { s with mode := .plain s.position [c], fresh := false }

/-- Does a character end a plain scalar? -/
def endsPlain (s : Scan) (c : Char) (next : Option Char) : Bool :=
  isBreak c || (c == ':' && endsToken next) ||
    (s.depth != 0 && (c == ',' || c == '[' || c == ']' || c == '\x7b' || c == '\x7d'))

/-- Takes a character, with the position not yet moved on. -/
def take (s : Scan) (c : Char) (next : Option Char) : Option Scan :=
  match s.mode with
  | .between => s.beginToken c next
  | .comment => if isBreak c then { s with mode := .between }.beginToken c next else some s
  | .plain start done =>
    if s.endsPlain c next then (s.endPlain start done).bind fun s => s.beginToken c next
    else if c = '#' ∧ done.head?.any isGap then
      (s.endPlain start done).map fun s => { s with mode := .comment }
    else some { s with mode := .plain start (c :: done) }
  | .quoted start done true => some { s with mode := .quoted start (c :: done) false }
  | .quoted start done false =>
    if c = '"' then (quoted? done.reverse).map fun t => s.add (.scalar (.str (some t))) start
    else some { s with mode := .quoted start (c :: done) (c == '\\') }

/-- Ends the text. -/
def finish (s : Scan) : Option Scan :=
  match s.mode with
  | .between => some s
  | .comment => some s
  | .plain start done => s.endPlain start done
  | .quoted _ _ _ => none

/-- Takes all characters. -/
def run (s : Scan) : List Char → Option Scan
  | [] => s.finish
  | c :: rest =>
    match s.take c rest.head? with
    | some s' => run { s' with position := after s.position c rest.head? } rest
    | none => none

end Scan

/-- The tokens of a text whose characters may all stand in a document. -/
def tokens? (s : List Char) : Option (List Token) :=
  if s.all isAdmitted then (Scan.start.run s).map fun s => s.done.reverse else none

end PodNet.Yaml
