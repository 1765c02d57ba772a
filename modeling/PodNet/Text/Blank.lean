/-!
# Blank characters

A character is *blank* when it has the Unicode property White_Space. Text is trimmed of blanks at
both ends wherever a value is read from a person's hand (an annotation, an environment variable, a
field of a resource). Bytes know a narrower class, the five ASCII blanks.
-/

namespace PodNet.Text

/-- Is the character white space in the sense of Unicode? -/
def isBlank (c : Char) : Bool :=
  let n := c.toNat
  (9 ≤ n && n ≤ 13) || n == 0x20 || n == 0x85 || n == 0xa0 || n == 0x1680 ||
    (0x2000 ≤ n && n ≤ 0x200a) || n == 0x2028 || n == 0x2029 || n == 0x202f || n == 0x205f ||
    n == 0x3000

/-- The characters left when those of the class are taken off the end. -/
def dropEnd (p : Char → Bool) (s : List Char) : List Char :=
  (s.reverse.dropWhile p).reverse

/-- The characters between the first and the last that is not blank. -/
def trimChars (s : List Char) : List Char :=
  dropEnd isBlank (s.dropWhile isBlank)

/-- The text without the blanks at its ends. -/
def trim (s : String) : String :=
  String.ofList (trimChars s.toList)

/-- The trimmed text, unless nothing is left of it. -/
def nonBlank (s : String) : Option String :=
  let t := trim s
  if t = "" then none else some t

theorem nonBlank_eq_some_iff {s t : String} : nonBlank s = some t ↔ t = trim s ∧ t ≠ "" := by
  unfold nonBlank
  dsimp only
  split
  · rename_i hempty
    exact ⟨nofun, fun ⟨heq, hne⟩ => absurd (heq.trans hempty) hne⟩
  · rename_i hne
    exact ⟨fun h => Option.some.inj h ▸ ⟨rfl, hne⟩, fun ⟨heq, _⟩ => heq ▸ rfl⟩

/-- **What an optional field states**: its text without the blanks at its ends, if anything is left. -/
theorem bind_nonBlank_eq_some_iff {field : Option String} {t : String} :
    field.bind nonBlank = some t ↔ ∃ s, field = some s ∧ t = trim s ∧ t ≠ "" := by
  simp only [Option.bind_eq_some_iff, nonBlank_eq_some_iff]

/-- Is the byte one of the ASCII blanks: tab, line feed, form feed, carriage return, space? -/
def isAsciiBlank (b : UInt8) : Bool :=
  b == 9 || b == 10 || b == 12 || b == 13 || b == 32

end PodNet.Text
