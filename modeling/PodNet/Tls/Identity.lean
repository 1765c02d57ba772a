import PodNet.Pem.Lines
import PodNet.Subnet
import PodNet.Tls.Certificate

/-!
# Identities and names

A client shows who it is by certificates and a private key, which stand in one text. The name that a
service is expected to show is a host name or an address.
-/

namespace PodNet.Tls

open Pem.Lines (Item)

/-! ### Identities -/

/-- The kinds of keys, by how well one is liked, and how each is told. -/
def keyForms : List (String × (Bytes → Bool)) :=
  [("PRIVATE KEY", PrivateKey.isStated), ("EC PRIVATE KEY", PrivateKey.isCurve),
   ("RSA PRIVATE KEY", PrivateKey.isNumbers)]

/-- The last key of the kind that is liked best. -/
def keyAmong (items : List Item) : Option (Bytes × (Bytes → Bool)) :=
  keyForms.findSome? fun form =>
    ((items.filter (Item.is form.1)).getLast?).map fun i => (i.content, form.2)

/-- Do the sections of a text make an identity? They hold certificates and keys, and nothing else. -/
def isIdentity (text : Bytes) : Bool :=
  match Pem.Lines.items? text with
  | none => false
  | some items =>
    let certificates := items.filter (Item.is "CERTIFICATE")
    items.all (fun i => i.is "CERTIFICATE" || keyForms.any fun form => i.is form.1) &&
      certificates.head?.any (fun i => Certificate.isCurrent i.content) &&
      (keyAmong items).any fun k => k.2 k.1

/-! ### Names of services -/

/-- May the character stand in a label of a host name? -/
def isLabelChar (c : Char) : Bool :=
  c.isAlphanum || c == '_' || c == '-'

/-- Is the text a label of a host name? Hyphens stand only inside. -/
def isLabel (s : List Char) : Bool :=
  !s.isEmpty && s.length ≤ 63 && s.all isLabelChar && s.head? != some '-' &&
    s.getLast? != some '-'

/-- The greatest length of a host name. -/
def maxHostLength : Nat := 253

/-- Is the text a host name? A dot may end it, and its last label is no number. -/
def isHostName (s : List Char) : Bool :=
  let labels := Text.pieces '.' s
  let labels := if labels.getLast? = some [] then labels.dropLast else labels
  s.length ≤ maxHostLength && labels.all isLabel &&
    labels.getLast?.any fun last => !last.all Char.isDigit

/-- Is the text the name of a service: a host name or an address? -/
def isServiceName (s : String) : Bool :=
  isHostName s.toList || (Subnet.v4Address? s.toList).isSome || (Subnet.v6Address? s.toList).isSome

end PodNet.Tls
