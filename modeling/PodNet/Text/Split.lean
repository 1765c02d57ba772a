/-!
# Cutting and joining text

Lists of tokens are written with a one-character separator: annotations use commas, argument lists
semicolons, search paths colons. The functions here take such text apart and put it together; each
is given on characters first, where it is a plain recursion.
-/

namespace PodNet.Text

/-- The piece before the first separator, and the pieces after it. -/
def cutAll (sep : Char) : List Char → List Char × List (List Char)
  | [] => ([], [])
  | c :: s =>
    let rest := cutAll sep s
    if c = sep then ([], rest.1 :: rest.2) else (c :: rest.1, rest.2)

/-- The pieces between separators, of which there is always one. -/
def pieces (sep : Char) (s : List Char) : List (List Char) :=
  (cutAll sep s).1 :: (cutAll sep s).2

/-- The pieces of a text between separators. -/
def split (sep : Char) (s : String) : List String :=
  (pieces sep s.toList).map String.ofList

/-- The characters before and after the first separator. -/
def cutChars (sep : Char) : List Char → Option (List Char × List Char)
  | [] => none
  | c :: s => if c = sep then some ([], s) else (cutChars sep s).map fun r => (c :: r.1, r.2)

/-- The text before and after the first separator, if there is one. -/
def cut (sep : Char) (s : String) : Option (String × String) :=
  (cutChars sep s.toList).map fun r => (String.ofList r.1, String.ofList r.2)

/-- The texts with a separator between neighbours. -/
def join (sep : String) (parts : List String) : String :=
  String.ofList (List.intercalate sep.toList (parts.map String.toList))

/-- Does the pattern stand somewhere in the text? -/
def occursChars (pattern : List Char) : List Char → Bool
  | [] => pattern.isEmpty
  | c :: s => pattern.isPrefixOf (c :: s) || occursChars pattern s

/-- Does the pattern stand somewhere in the text? -/
def occurs (pattern s : String) : Bool :=
  occursChars pattern.toList s.toList

/-- The characters before the first place where the pattern stands. -/
def beforeChars (pattern : List Char) : List Char → Option (List Char)
  | [] => if pattern.isEmpty then some [] else none
  | c :: s => if pattern.isPrefixOf (c :: s) then some [] else (beforeChars pattern s).map (c :: ·)

/-- The text before the first place where the pattern stands. -/
def before (pattern s : String) : Option String :=
  (beforeChars pattern.toList s.toList).map String.ofList

/-- Does the text hold the character? -/
def hasChar (c : Char) (s : String) : Bool :=
  s.toList.any (· == c)

end PodNet.Text
