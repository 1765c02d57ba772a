import PodNet.Text.Blank
import PodNet.Text.Digits
import PodNet.Text.Split

/-!
# Subnets

A subnet is written as an address with the length of its network part, `10.32.0.0/12` or `fd00::/8`;
without a length the whole address is the network part, and the length of an IPv4 subnet may also be
given as a mask. The host part of the address need not be zero and is kept. `Subnet.mem` says which
addresses belong to a subnet; containment and overlap are decided by comparing network parts.
-/

namespace PodNet

/-- The two families of addresses. -/
inductive Family where
  | v4
  | v6
  deriving Repr, DecidableEq

/-- The number of bits of an address. -/
def Family.bits : Family → Nat
  | v4 => 32
  | v6 => 128

/-- An address with the length of its network part. -/
structure Subnet where
  family : Family
  address : Nat
  length : Nat
  address_lt : address < Nat.pow 2 family.bits
  length_le : length ≤ family.bits
  deriving Repr, DecidableEq

namespace Subnet

/-- The subnet of an address and a length, if both are in range. -/
def ofParts? (family : Family) (address length : Nat) : Option Subnet :=
  if h : address < Nat.pow 2 family.bits ∧ length ≤ family.bits then
    some ⟨family, address, length, h.1, h.2⟩
  else none

/-! ### Membership -/

/-- The number of addresses that share a network part. -/
def blockSize (n : Subnet) : Nat :=
  Nat.pow 2 (n.family.bits - n.length)

/-- Does the address share the network part of the subnet? -/
def hasAddress (n : Subnet) (address : Nat) : Bool :=
  address / n.blockSize == n.address / n.blockSize

/-- The address belongs to the subnet: it is an address of the family and shares the network part. -/
def mem (n : Subnet) (family : Family) (address : Nat) : Prop :=
  family = n.family ∧ address < Nat.pow 2 family.bits ∧ n.hasAddress address = true

/-- The first address of the subnet, whose host part is zero. -/
def network (n : Subnet) : Nat :=
  n.address / n.blockSize * n.blockSize

/-- Does the first subnet contain the second one? -/
def contains (outer inner : Subnet) : Bool :=
  outer.family == inner.family && decide (outer.length ≤ inner.length) &&
    outer.hasAddress inner.network

/-- Do the subnets share an address? -/
def overlaps (a b : Subnet) : Bool :=
  a.family == b.family && (a.hasAddress b.network || b.hasAddress a.network)

/-! ### Reading -/

/-- One of the four numbers of an IPv4 address: no leading zero, at most 255. -/
def octet? (s : List Char) : Option Nat :=
  match s with
  | [] => none
  | '0' :: _ :: _ => none
  | _ =>
    match Text.digitsValue 10 Text.decimalDigit s with
    | some n => if s.length ≤ 3 && n ≤ 255 then some n else none
    | none => none

/-- An IPv4 address. -/
def v4Address? (s : List Char) : Option Nat :=
  match (Text.pieces '.' s).mapM octet? with
  | some [a, b, c, d] => some (((a * 256 + b) * 256 + c) * 256 + d)
  | _ => none

/-- One of the eight groups of an IPv6 address: one to four hexadecimal digits. -/
def group? (s : List Char) : Option Nat :=
  if s.isEmpty || 4 < s.length then none else Text.digitsValue 16 Text.hexDigit s

/-- Groups between colons, of which the last two may be written as an IPv4 address. -/
def groups? : List (List Char) → Option (List Nat)
  | [] => some []
  | [last] =>
    match v4Address? last with
    | some n => some [n / 65536, n % 65536]
    | none => (group? last).map ([·])
  | p :: q :: rest =>
    match group? p, groups? (q :: rest) with
    | some g, some gs => some (g :: gs)
    | _, _ => none

/-- The text before and after the first double colon. -/
def cutDoubleColon : List Char → Option (List Char × List Char)
  | ':' :: ':' :: rest => some ([], rest)
  | c :: rest => (cutDoubleColon rest).map fun r => (c :: r.1, r.2)
  | [] => none

/-- The pieces between colons; an empty text has none. -/
def colonPieces (s : List Char) : List (List Char) :=
  if s.isEmpty then [] else Text.pieces ':' s

/-- The eight groups of an IPv6 address. A double colon stands for one zero group or more. -/
def v6Groups? (s : List Char) : Option (List Nat) :=
  match cutDoubleColon s with
  | none =>
    match groups? (colonPieces s) with
    | some gs => if gs.length = 8 then some gs else none
    | none => none
  | some (front, back) =>
    match (colonPieces front).mapM group?, groups? (colonPieces back) with
    | some f, some b =>
      if f.length + b.length ≤ 7 then
        some (f ++ List.replicate (8 - f.length - b.length) 0 ++ b)
      else none
    | _, _ => none

/-- An IPv6 address. -/
def v6Address? (s : List Char) : Option Nat :=
  (v6Groups? s).map fun gs => gs.foldl (fun n g => n * 65536 + g) 0

/-- A length of at most 255, with an optional plus sign and leading zeros. -/
def length? (s : List Char) : Option Nat :=
  let digits := match s with
    | '+' :: rest => rest
    | _ => s
  if digits.isEmpty then none
  else (Text.digitsValue 10 Text.decimalDigit digits).filter (· ≤ 255)

/-- The length of a network part given as a mask: ones, then zeros. -/
def maskLength? (s : List Char) : Option Nat :=
  (v4Address? s).bind fun mask =>
    (List.range 33).find? fun length => mask == UInt32.size - Nat.pow 2 (32 - length)

/-- The address and, after a single slash, the length. -/
def cutLength (s : List Char) : Option (List Char × Option (List Char)) :=
  match Text.cutChars '/' s with
  | none => some (s, none)
  | some (address, length) => if length.contains '/' then none else some (address, some length)

/-- An IPv4 subnet. -/
def v4? (s : List Char) : Option Subnet := do
  let (address, length) ← cutLength s
  let address ← v4Address? address
  let length ← match length with
    | none => some 32
    | some l => if (v4Address? l).isSome then maskLength? l else length? l
  ofParts? .v4 address length

/-- An IPv6 subnet. -/
def v6? (s : List Char) : Option Subnet := do
  let (address, length) ← cutLength s
  let address ← v6Address? address
  let length ← match length with
    | none => some 128
    | some l => length? l
  ofParts? .v6 address length

/-- The subnet that characters write. -/
def ofChars? (s : List Char) : Option Subnet :=
  (v4? s).or (v6? s)

/-- The subnet that a text writes, with blanks around it. -/
def parse? (s : String) : Option Subnet :=
  ofChars? (Text.trimChars s.toList)

/-! ### Writing -/

/-- An IPv4 address. -/
def v4Text (n : Nat) : String :=
  Text.join "." ([n / 16777216, n / 65536 % 256, n / 256 % 256, n % 256].map toString)

/-- The eight groups of an IPv6 address. -/
def groupsOf (n : Nat) : List Nat :=
  (List.range 8).map fun i => n / Nat.pow 65536 (7 - i) % 65536

/-- The longest run of zero groups, and of equally long ones the first: its start and its length. -/
def longestZeros (gs : List Nat) : Nat × Nat :=
  (List.range 8).foldl (fun best i =>
    let run := ((gs.drop i).takeWhile (· == 0)).length
    if best.2 < run then (i, run) else best) (0, 0)

/-- Groups with colons between them. -/
def groupsText (gs : List Nat) : String :=
  Text.join ":" (gs.map fun g => String.ofList (Nat.toDigits 16 g))

/-- An IPv6 address. The longest run of at least two zero groups is left out, and the last two
groups of an address that stands for one of IPv4 are written in that form. -/
def v6Text (n : Nat) : String :=
  let gs := groupsOf n
  let zeros := longestZeros gs
  if n / UInt32.size = 0xffff then "::ffff:" ++ v4Text (n % UInt32.size)
  else if 2 ≤ zeros.2 then
    groupsText (gs.take zeros.1) ++ "::" ++ groupsText (gs.drop (zeros.1 + zeros.2))
  else groupsText gs

/-- The text of a subnet. -/
def text (n : Subnet) : String :=
  let address := match n.family with
    | .v4 => v4Text n.address
    | .v6 => v6Text n.address
  address ++ "/" ++ toString n.length

end Subnet

end PodNet
