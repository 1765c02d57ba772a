import PodNet.Http.Host
import PodNet.Http.Message
import PodNet.Text.Blank

/-!
# Addresses of services

The address of a service that a person wrote down is read leniently, as browsers read it: blanks and
line breaks are dropped, backslashes count as slashes, dots in the path are followed, and characters
that may not stand in a path are escaped. Only services spoken to over HTTP are known.
-/

namespace PodNet.Http.Url

/-- Where a request goes: the service and the target there. -/
structure Destination where
  endpoint : Endpoint
  target : String
  deriving Repr, DecidableEq

/-! ### The service -/

/-- The characters that matter: without control characters and spaces at the ends, and without tabs
and line breaks anywhere. -/
def clean (s : List Char) : List Char :=
  let outer (c : Char) : Bool := c.toNat ≤ 0x20
  (Text.dropEnd outer (s.dropWhile outer)).filter fun c =>
    !(c == '\t' || c == '\n' || c == '\r')

/-- The scheme and what follows the colon after it. -/
def cutScheme (s : List Char) : Option (List Char × List Char) :=
  match Text.cutChars ':' s with
  | some (scheme, rest) =>
    let legal (c : Char) : Bool := c.isAlphanum || c == '+' || c == '-' || c == '.'
    if scheme.head?.any Char.isAlpha && scheme.all legal then
      some (scheme.map Char.toLower, rest)
    else none
  | none => none

/-- Is the character a slash of either kind? -/
def isSlash (c : Char) : Bool := c == '/' || c == '\\'

/-- Does the character end the name of the service? -/
def endsAuthority (c : Char) : Bool := isSlash c || c == '?' || c == '#'

/-- The host and what follows it. A colon ends the host, unless it stands between brackets. -/
def cutHost (bracketed : Bool) : List Char → List Char × List Char
  | [] => ([], [])
  | c :: rest =>
    if c = ':' ∧ !bracketed then ([], c :: rest)
    else
      let r := cutHost (if c = '[' then true else if c = ']' then false else bracketed) rest
      (c :: r.1, r.2)

/-- The port of a service, given what follows its host. -/
def port? (scheme : String) : List Char → Option Nat
  | ':' :: c :: digits =>
    (Text.digitsValue 10 Text.decimalDigit (c :: digits)).filter fun n => n < 65536
  | _ => some (defaultPort scheme)

/-- The service that an authority names; user and password are dropped. -/
def service? (scheme : String) (authority : List Char) : Option Endpoint := do
  let (host, rest) := cutHost false ((Text.pieces '@' authority).getLast?.getD [])
  return ⟨scheme, ← Host.ofChars? host, ← port? scheme rest⟩

/-! ### The target -/

/-- A byte in escaped form. -/
def escapedByte (b : UInt8) : List Char :=
  let digit (n : Nat) : Char := (Nat.digitChar n).toUpper
  ['%', digit (b.toNat / 16), digit (b.toNat % 16)]

/-- Must the character be escaped everywhere? -/
def isEscaped (c : Char) : Bool :=
  c.toNat ≤ 0x20 || 0x7e < c.toNat || c == '"' || c == '#' || c == '<' || c == '>'

/-- Must the character be escaped in a path? -/
def isEscapedInPath (c : Char) : Bool :=
  isEscaped c || c == '?' || c == (Char.ofNat 0x60) || c == '\x7b' || c == '\x7d'

/-- Must the character be escaped in a query? -/
def isEscapedInQuery (c : Char) : Bool :=
  isEscaped c || c == '\''

/-- The characters, those of a class escaped. -/
def escape (isEscaped : Char → Bool) (s : List Char) : List Char :=
  s.flatMap fun c =>
    if isEscaped c then (Bytes.ofString (String.singleton c)).flatMap escapedByte else [c]

/-- The part of a path in lower case, with escaped dots as dots. -/
def dotted (part : List Char) : List Char :=
  match part.map Char.toLower with
  | '%' :: '2' :: 'e' :: rest => '.' :: dottedTail rest
  | s => dottedTail s
where
  /-- What follows a first dot, with an escaped dot as a dot. -/
  dottedTail : List Char → List Char
    | ['.', '%', '2', 'e'] => ['.', '.']
    | ['%', '2', 'e'] => ['.']
    | s => s

/-- Is the part of a path the letter of a drive? -/
def isDrive : List Char → Bool
  | [letter, mark] => letter.isAlpha && (mark == ':' || mark == '|')
  | _ => false

/-- The parts of a path, latest first, after going back by one; the letter of a drive stays. -/
def back : List (List Char) → List (List Char)
  | [] => []
  | part :: done => if isDrive part then part :: done else done

/-- Follows the parts of a path, given those before it with the latest first. A dot stays, two dots
go back, and at the end either leaves an empty part. -/
def followParts (done : List (List Char)) : List (List Char) → List (List Char)
  | [] => done.reverse
  | part :: rest =>
    let atEnd (done : List (List Char)) := if rest.isEmpty then [] :: done else done
    if dotted part = ['.', '.'] then followParts (atEnd (back done)) rest
    else if dotted part = ['.'] then followParts (atEnd done) rest
    else followParts (escape isEscapedInPath part :: done) rest

/-- The path that the characters after the service name write. -/
def path (s : List Char) : List Char :=
  let slashed := s.map fun c => if isSlash c then '/' else c
  let parts := Text.pieces '/' (if slashed.head? = some '/' then slashed.tail else slashed)
  '/' :: List.intercalate ['/'] (followParts [] parts)

/-- Reads an address. -/
def parse? (address : String) : Option Destination := do
  let (scheme, rest) ← cutScheme (clean address.toList)
  let scheme := String.ofList scheme
  if scheme = "http" ∨ scheme = "https" then
    let rest := rest.dropWhile isSlash
    let authority := rest.takeWhile fun c => !endsAuthority c
    let endpoint ← service? scheme authority
    let rest := (rest.drop authority.length).takeWhile (· != '#')
    let beforeQuery := rest.takeWhile (· != '?')
    let query := escape isEscapedInQuery (rest.drop (beforeQuery.length + 1))
    let target := path beforeQuery ++ (if query.isEmpty then [] else '?' :: query)
    some ⟨endpoint, String.ofList target⟩
  else none

end PodNet.Http.Url
