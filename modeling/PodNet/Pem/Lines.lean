import PodNet.Text.Base64

/-!
# Certificates in lines of text

A bundle of certificates is text with sections. A section begins and ends with a line of its own that
says what it holds, and the lines between hold the bytes in Base64. Text outside of sections means
nothing, and sections of other kinds than certificates are passed over, but one of a kind that is
known must be well formed too.
-/

namespace PodNet.Pem.Lines

/-- A section of known kind: what it holds, and its bytes. -/
structure Item where
  label : Bytes
  content : Bytes
  deriving Repr, DecidableEq

/-- The kinds of sections that are known. -/
def knownLabels : List String :=
  ["CERTIFICATE", "PUBLIC KEY", "RSA PRIVATE KEY", "PRIVATE KEY", "EC PRIVATE KEY", "X509 CRL",
   "CERTIFICATE REQUEST", "ECHCONFIG"]

/-- Has the item the label? -/
def Item.is (label : String) (i : Item) : Bool :=
  i.label == Bytes.ofString label

/-- The lines of a text, each ended by a line feed or a carriage return. -/
def lines : Bytes → List Bytes
  | [] => [[]]
  | b :: rest =>
    match lines rest with
    | line :: others => if b == 10 || b == 13 then [] :: line :: others else (b :: line) :: others
    | [] => [[b]]

/-- What a line that begins a section begins with. -/
def beginMark : Bytes := Bytes.ofString "-----BEGIN "

/-- What a line that ends a section begins with. -/
def endMark (label : Bytes) : Bytes :=
  Bytes.ofString "-----END " ++ label ++ Bytes.ofString "-----"

/-- The label of a line that begins a section. Exactly five hyphens must end it, among which blanks
may stand. -/
def beginLabel? (line : Bytes) : Option Bytes :=
  let ending := line.reverse.takeWhile fun b => b == 0x20 || b == 0x2d
  if ending.count 0x2d ≠ 5 then none
  else
    let label := (line.reverse.drop ending.length).reverse ++ ending.reverse.takeWhile (· == 0x20)
    some (label.drop beginMark.length)

/-- Where the reader is: in a section with a label or outside, and the text of the section. -/
structure Position where
  label : Option Bytes
  text : Bytes

/-- Reads the sections of known kind; none if one of them is malformed or not ended. -/
def itemsFrom (p : Position) : List Bytes → Option (List Item)
  | [] => if p.label.isNone then some [] else none
  | line :: rest =>
    if beginMark.isPrefixOf line then
      match beginLabel? line with
      | some label => itemsFrom { p with label := some label } rest
      | none => none
    else
      match p.label with
      | none => itemsFrom p rest
      | some label =>
        if (endMark label).isPrefixOf line then
          if knownLabels.any fun known => Bytes.ofString known == label then
            match Text.Base64.decode? p.text, itemsFrom ⟨none, []⟩ rest with
            | some content, some others => some (⟨label, content⟩ :: others)
            | _, _ => none
          else itemsFrom ⟨none, []⟩ rest
        else itemsFrom { p with text := p.text ++ line } rest

/-- The sections of known kind of a text; none if it is malformed. -/
def items? (text : Bytes) : Option (List Item) :=
  itemsFrom ⟨none, []⟩ (lines text)

/-- The certificates of a bundle; none if the bundle is malformed. -/
def certificates? (bundle : Bytes) : Option (List Bytes) :=
  (items? bundle).map fun l => (l.filter (Item.is "CERTIFICATE")).map (·.content)

end PodNet.Pem.Lines
