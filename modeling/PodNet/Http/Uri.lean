import PodNet.Http.Host
import PodNet.Http.Message
import PodNet.Subnet

/-!
# Uniform resource identifiers

The identifier of a service is read strictly: a scheme and an authority with a path and a query, an
authority alone, or a path alone. Nothing is escaped or made lower case, the two known schemes aside;
a fragment is dropped.
-/

namespace PodNet.Http

/-- An identifier. -/
structure Uri where
  scheme : Option String
  authority : String
  /-- The path, perhaps empty, with the query, if there is one. -/
  target : String
  deriving Repr, DecidableEq

namespace Uri

/-! ### Path and query -/

/-- May the character stand in a path? -/
def isPathChar (c : Char) : Bool :=
  let n := c.toNat
  n == 0x21 || n == 0x22 || (0x24 ≤ n && n ≤ 0x3b) || n == 0x3d || (0x40 ≤ n && n ≤ 0x5f) ||
    (0x61 ≤ n && n ≤ 0x7e) || 0x80 ≤ n

/-- May the character stand in a query? -/
def isQueryChar (c : Char) : Bool :=
  let n := c.toNat
  n == 0x21 || (0x24 ≤ n && n ≤ 0x3b) || n == 0x3d || (0x3f ≤ n && n ≠ 0x7f)

/-- The path and the query that characters write, without a fragment. -/
def target? (s : List Char) : Option (List Char) :=
  let s := s.takeWhile (· != '#')
  let path := s.takeWhile (· != '?')
  let query := (s.drop path.length).tail
  if path.all isPathChar && query.all isQueryChar then some s else none

/-! ### Authority -/

/-- May the character stand in an authority, escapes aside? -/
def isAuthorityChar (c : Char) : Bool :=
  c.isAlphanum || "-._~:[]@!$&'()*+,;=".toList.contains c

/-- What has been seen of an authority. -/
structure AuthorityScan where
  colons : Nat
  opened : Bool
  closed : Bool
  /-- An escape was seen that may only stand before an at sign or inside brackets. -/
  escape : Bool
  /-- The last character was an at sign. -/
  at? : Bool

/-- Takes one character of an authority. -/
def AuthorityScan.step (a : AuthorityScan) (c : Char) : Option AuthorityScan :=
  let a := { a with at? := c == '@' }
  if c = ':' then if 8 ≤ a.colons then none else some { a with colons := a.colons + 1 }
  else if c = '[' then
    if a.escape || a.opened then none else some { a with opened := true }
  else if c = ']' then
    if !a.opened || a.closed then none
    else some { a with closed := true, colons := 0, escape := false }
  else if c = '@' then some { a with colons := 0, escape := false }
  else if c = '%' then some { a with escape := true }
  else if isAuthorityChar c then some a
  else none

/-- Are the characters an authority, perhaps an empty one? -/
def isAuthority (s : List Char) : Bool :=
  match s.foldlM AuthorityScan.step ⟨0, false, false, false, false⟩ with
  | some a => a.opened == a.closed && a.colons ≤ 1 && !a.at? && !a.escape
  | none => false

/-- Does the character end an authority? -/
def endsAuthority (c : Char) : Bool :=
  c == '/' || c == '?' || c == '#'

/-! ### All parts -/

/-- May the character stand in a scheme? -/
def isSchemeChar (c : Char) : Bool :=
  c.isAlphanum || c == '+' || c == '-' || c == '.' || c == '~'

/-- The scheme in the form in which it is shown: known schemes in lower case. -/
def shownScheme (scheme : List Char) : List Char :=
  let lower := scheme.map Char.toLower
  if lower = "http".toList ∨ lower = "https".toList then lower else scheme

/-- The greatest length of a scheme. -/
def maxSchemeLength : Nat := 64

/-- The scheme and what follows it; refused if the scheme is too long. -/
def cutScheme (s : List Char) : Option (Option (List Char) × List Char) :=
  let scheme := s.takeWhile isSchemeChar
  match s.drop scheme.length with
  | ':' :: '/' :: '/' :: rest =>
    if maxSchemeLength < scheme.length then none else some (some (shownScheme scheme), rest)
  | _ => some (none, s)

/-- The greatest length of an identifier, in bytes. -/
def maxLength : Nat := 65534

/-- Reads an identifier from its characters. -/
def ofChars? (s : List Char) : Option Uri :=
  match s with
  | [] => none
  | ['*'] => some ⟨none, "", "*"⟩
  | '/' :: _ => (target? s).map fun t => ⟨none, "", String.ofList t⟩
  | _ => do
    let (scheme, rest) ← cutScheme s
    let authority := rest.takeWhile fun c => !endsAuthority c
    let after := rest.drop authority.length
    if !isAuthority authority then none
    else
      match scheme with
      | none => if after.isEmpty then some ⟨none, String.ofList authority, ""⟩ else none
      | some scheme =>
        if authority.isEmpty then none
        else
          (target? after).map fun t =>
            ⟨some (String.ofList scheme), String.ofList authority, String.ofList t⟩

/-- Reads an identifier. -/
def parse? (s : String) : Option Uri :=
  if maxLength < s.utf8ByteSize then none else ofChars? s.toList

/-- The path. With a scheme it is at least a slash. -/
def path (u : Uri) : String :=
  let path := ((Text.cut '?' u.target).map (·.1)).getD u.target
  if path = "" ∧ (u.scheme.isSome ∨ u.target ≠ "") then "/" else path

/-- The text of the identifier. -/
def text (u : Uri) : String :=
  (u.scheme.map (· ++ "://")).getD "" ++ u.authority ++ u.path ++
    (((Text.cut '?' u.target).map fun t => "?" ++ t.2).getD "")

/-! ### The service -/

/-- The host: what stands in an authority after the user, up to the port. -/
def host (u : Uri) : List Char :=
  let rest := (Text.pieces '@' u.authority.toList).getLast?.getD []
  if rest.head? = some '[' then rest.takeWhile (· != ']') ++ [']']
  else rest.takeWhile (· != ':')

/-- The port: a number of 16 bits after the last colon. -/
def port? (u : Uri) : Option Nat :=
  match Text.cutChars ':' u.authority.toList.reverse with
  | some (after, _) =>
    let digits := match after.reverse with
      | '+' :: digits => digits
      | digits => digits
    if digits.isEmpty then none
    else (Text.digitsValue 10 Text.decimalDigit digits).filter fun n => n < 65536
  | none => none

/-- The host in the usual form, if it is given by its number. -/
def shownHost (u : Uri) : String :=
  let host := String.ofList u.host
  if (Subnet.v4Address? u.host).isSome then host else (Host.numeric? u.host).getD host

/-- The service that the identifier leads to, if it has a scheme. -/
def endpoint? (u : Uri) : Option Endpoint :=
  u.scheme.map fun scheme => ⟨scheme, u.shownHost, u.port?.getD (defaultPort scheme)⟩

end Uri

end PodNet.Http
