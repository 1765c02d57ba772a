import PodNet.Json.Document
import PodNet.Text.Blank
import PodNet.Text.Digits

/-!
# Scalars of YAML

A scalar is plain or between double quotes. A plain one may be null, a truth value or a number, and
is text otherwise. A quoted one is always text: escapes stand for characters, and a line break in it
is folded into a space, together with the blanks around it.
-/

namespace PodNet.Yaml

open Json (Document)

/-! ### Characters -/

/-- May the character stand in a document? -/
def isAdmitted (c : Char) : Bool :=
  let n := c.toNat
  n == 9 || n == 10 || n == 13 || (0x20 ≤ n && n ≤ 0x7e) || n == 0x85 ||
    (0xa0 ≤ n && n ≤ 0xfffd) || 0x10000 ≤ n

/-- Does the character break a line? -/
def isBreak (c : Char) : Bool :=
  c == '\n' || c == '\r' || c == '\u0085' || c == '\u2028' || c == '\u2029'

/-- Is the character a blank within a line? -/
def isGap (c : Char) : Bool :=
  c == ' ' || c == '\t'

/-! ### Quoted scalars -/

/-- A piece of a quoted scalar: a character that stands for itself, or one that an escape stands
for. -/
inductive Piece where
  | raw (c : Char)
  | escaped (c : Char)
  deriving Repr, DecidableEq

/-- The character that a one-letter escape stands for. -/
def escapeChar? : Char → Option Char
  | '0' => some '\x00'
  | 'a' => some '\x07'
  | 'b' => some '\x08'
  | 't' => some '\t'
  | '\t' => some '\t'
  | 'n' => some '\n'
  | 'v' => some '\x0b'
  | 'f' => some '\x0c'
  | 'r' => some '\r'
  | 'e' => some '\x1b'
  | ' ' => some ' '
  | '"' => some '"'
  | '/' => some '/'
  | '\\' => some '\\'
  | 'N' => some '\u0085'
  | '_' => some '\u00a0'
  | 'L' => some '\u2028'
  | 'P' => some '\u2029'
  | _ => none

/-- The character whose number the digits write. Half a surrogate pair is no character. -/
def numbered? (digits : List Char) : Option Char :=
  match Text.digitsValue 16 Text.hexDigit digits with
  | some n => if n < 0xd800 ∨ 0xdfff < n ∧ n < 0x110000 then some (Char.ofNat n) else none
  | none => none

/-- The pieces of what stands between the quotes. -/
def pieces : List Char → Option (List Piece)
  | [] => some []
  | '\\' :: 'x' :: a :: b :: rest => escape (numbered? [a, b]) (pieces rest)
  | '\\' :: 'u' :: a :: b :: c :: d :: rest => escape (numbered? [a, b, c, d]) (pieces rest)
  | '\\' :: 'U' :: a :: b :: c :: d :: e :: f :: g :: h :: rest =>
    escape (numbered? [a, b, c, d, e, f, g, h]) (pieces rest)
  | '\\' :: c :: rest => escape (escapeChar? c) (pieces rest)
  | c :: rest => if c = '\\' then none else (pieces rest).map (.raw c :: ·)
where
  /-- An escape before other pieces. -/
  escape (c : Option Char) (others : Option (List Piece)) : Option (List Piece) :=
    match c, others with
    | some c, some l => some (.escaped c :: l)
    | _, _ => none

/-- What a run of blanks stands for, given those before its first line break, and its breaks. A single
break of the usual kind is a space, and the first of several is dropped. -/
def foldRun (gaps breaks : List Char) : List Char :=
  match breaks with
  | [] => gaps
  | ['\n'] => [' ']
  | '\n' :: others => others
  | breaks => breaks

/-- A line break in its usual kind. -/
def usualBreak (c : Char) : Char :=
  if c = '\u2028' ∨ c = '\u2029' then c else '\n'

/-- The characters of pieces, given a run of blanks before them. -/
def fold (gaps breaks : List Char) : List Piece → List Char
  | [] => foldRun gaps breaks
  | .escaped c :: rest => foldRun gaps breaks ++ c :: fold [] [] rest
  | .raw c :: rest =>
    if isGap c then fold (if breaks.isEmpty then gaps ++ [c] else gaps) breaks rest
    else if c = '\r' ∧ rest.head? = some (.raw '\n') then fold gaps breaks rest
    else if isBreak c then fold gaps (breaks ++ [usualBreak c]) rest
    else foldRun gaps breaks ++ c :: fold [] [] rest

/-- The text of what stands between the quotes. -/
def quoted? (s : List Char) : Option String :=
  (pieces s).map fun l => String.ofList (fold [] [] l)

/-! ### Plain scalars -/

/-- The integer that the characters write in decimal. -/
def integer? (s : List Char) : Option Int :=
  let (negative, digits) := match s with
    | '-' :: digits => (true, digits)
    | digits => (false, digits)
  if digits.isEmpty ∨ digits.head? = some '0' ∧ digits.length ≠ 1 then none
  else
    (Text.digitsValue 10 Text.decimalDigit digits).map fun n => if negative then -n else n

/-- The number that the characters write, if they write one in the range of a double. -/
def number? (s : List Char) : Option Number :=
  match Json.readNumber (Bytes.ofString (String.ofList s)) with
  | some (literal, []) => literal.value?
  | _ => none

/-- The integers that have a place among the numbers, and those that are too large for that but not
for a reader of 128 bits, which are refused. -/
def isRefused (n : Int) : Bool :=
  let bound : Int := Nat.pow 2 63
  (n < -bound && -(Nat.pow 2 127 : Nat) ≤ n) || (2 * bound ≤ n && n < (Nat.pow 2 128 : Nat))

/-- The value of a plain scalar. -/
def plain? (s : List Char) : Option Document :=
  let text := String.ofList s
  if ["null", "Null", "NULL", "~"].contains text then some .null
  else if ["true", "True", "TRUE"].contains text then some (.bool true)
  else if ["false", "False", "FALSE"].contains text then some (.bool false)
  else if (integer? s).any isRefused then none
  else
    match number? s with
    | some n => some (.num (some n))
    | none => some (.str (some text))

end PodNet.Yaml
