import PodNet.Pem.Lines
import PodNet.Text.Split

/-!
# Certificates anywhere in a text

The certificates that come with a cluster may stand anywhere in a text, with anything around them:
the marks of a section need no lines of their own. A section may begin with headers, parted from the
rest by a blank line. Its bytes stand in Base64 of the strict form, once all blanks are taken out.
-/

namespace PodNet.Pem.Armor

/-- The number of bytes of a mark that are still to be matched at a byte: a byte that does not go on
with the mark starts it anew, and is passed over itself. -/
def expected (mark awaited : Bytes) (b : UInt8) : Bytes :=
  match awaited with
  | a :: rest => if a == b then rest else mark
  | [] => mark

/-- The bytes up to the end of a mark, given what is still awaited of it, and those after it. -/
def cutAfter (mark awaited : Bytes) : Bytes → Option (Bytes × Bytes)
  | [] => none
  | b :: rest =>
    let awaited := expected mark awaited b
    if awaited.isEmpty then some ([b], rest)
    else (cutAfter mark awaited rest).map fun r => (b :: r.1, r.2)

/-- The bytes before a mark and those after it. -/
def cut (mark : String) (b : Bytes) : Option (Bytes × Bytes) :=
  let mark := Bytes.ofString mark
  (cutAfter mark mark b).map fun r => (r.1.take (r.1.length - mark.length), r.2)

/-- The bytes without the blanks at their start. -/
def skipBlanks (b : Bytes) : Bytes :=
  b.dropWhile fun x => x == 32 || x == 9 || x == 10 || x == 13

/-- A section as it stands: the label at its beginning, its headers and its data, and the label at
its end. -/
structure Section where
  label : Bytes
  headers : Bytes
  data : Bytes
  endLabel : Bytes
  deriving Repr, DecidableEq

/-- The headers and the data of what stands between the marks. -/
def cutHeaders (payload : Bytes) : Bytes × Bytes :=
  match cut "\n\n" payload with
  | some r => r
  | none => (cut "\r\n\r\n" payload).getD ([], payload)

/-- The first section, and the bytes after it. -/
def section? (b : Bytes) : Option (Section × Bytes) := do
  let (_, rest) ← cut "-----BEGIN " b
  let (label, rest) ← cut "-----" rest
  let (payload, rest) ← cut "-----END " (skipBlanks rest)
  let (endLabel, rest) ← cut "-----" rest
  let (headers, data) := cutHeaders payload
  return (⟨label, headers, data, endLabel⟩, rest)

/-- The sections, at most as many as the budget says. -/
def sections : Nat → Bytes → List Section
  | 0, _ => []
  | budget + 1, b =>
    match section? b with
    | some (s, rest) => s :: sections budget rest
    | none => []

/-- Has every line of the headers a colon? -/
def areHeaders (headers : String) : Bool :=
  headers = "" || (Text.pieces '\n' headers.toList).all fun line => line.contains ':'

/-- The bytes that the data of a section stand for. -/
def contentOf? (data : String) : Option Bytes :=
  Text.Base64.decodeStrict?
    (Bytes.ofString (String.ofList (data.toList.filter fun c => !Text.isBlank c)))

/-- The label and the bytes of a section that is well formed. -/
def Section.item? (s : Section) : Option Lines.Item := do
  let _ ← Bytes.toString? s.label
  let headers ← Bytes.toString? s.headers
  let data ← Bytes.toString? s.data
  if s.label = [] ∨ s.label ≠ s.endLabel ∨ !areHeaders headers then none
  else return ⟨s.label, ← contentOf? data⟩

/-- The certificates of a text; none if one of its sections is malformed. -/
def certificates? (b : Bytes) : Option (List Bytes) :=
  ((sections b.length b).mapM Section.item?).map fun l =>
    (l.filter (Lines.Item.is "CERTIFICATE")).map (·.content)

end PodNet.Pem.Armor
