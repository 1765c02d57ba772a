import PodNet.Failure

/-!
# Names of interfaces

The name of an interface inside a pod has 1 to 15 characters, all of them lower-case ASCII letters,
digits and hyphens, and neither begins nor ends with a hyphen. An interface that no one asked for by
name is called `eth` with the smallest free number.
-/

namespace PodNet.InterfaceName

/-- The greatest number of bytes in a name. -/
def maxLength : Nat := 15

/-- May the character stand at an end of a name? -/
def isOuter (c : Char) : Bool :=
  ('a' ≤ c && c ≤ 'z') || ('0' ≤ c && c ≤ '9')

/-- May the character stand inside a name? -/
def isInner (c : Char) : Bool :=
  isOuter c || c == '-'

/-- Are the characters a legal name? -/
def isLegalChars (s : List Char) : Bool :=
  match s with
  | [] => false
  | c :: _ =>
    s.length ≤ maxLength && s.all isInner && isOuter c && (s.getLast?.any isOuter)

/-- Is the text a legal name? Legal names are ASCII, so that their characters are their bytes. -/
def isLegal (s : String) : Bool :=
  isLegalChars s.toList

/-- Refuses a name that is not legal. -/
def check (s : String) : Except Failure Unit :=
  if isLegal s then .ok () else .error (.invalidAnnotations (.illegalInterface s))

/-- The name with a number. -/
def numbered (n : Nat) : String :=
  "eth" ++ toString n

/-- The name of a pod's first interface. -/
def default : String := "eth0"

/-- The first of the numbers from the given one on whose name is not taken. One of the next so many
numbers is free when at most that many names are taken. -/
def firstFree (taken : List String) : Nat → Nat → Nat
  | 0, n => n
  | fuel + 1, n => if taken.contains (numbered n) then firstFree taken fuel (n + 1) else n

/-- Refuses names that are not legal and names that occur twice, taking the names in order. -/
def checkAll (seen : List String) : List String → Except Failure Unit
  | [] => .ok ()
  | s :: rest =>
    match check s with
    | .error e => .error e
    | .ok () =>
      if seen.contains s then .error (.invalidAnnotations (.repeatedInterface s))
      else checkAll (s :: seen) rest

/-- Gives each blank name the smallest number that is free, in order. -/
def fill (taken : List String) (next : Nat) : List String → List String
  | [] => []
  | s :: rest =>
    if s = "" then
      let n := firstFree taken taken.length next
      numbered n :: fill (numbered n :: taken) n rest
    else s :: fill taken next rest

/-- The names that a list of wanted names is given: wanted names must be legal and different, and
every blank one gets the smallest free number. -/
def assign (wanted : List String) : Except Failure (List String) :=
  let named := wanted.filter (· != "")
  match checkAll [] named with
  | .error e => .error e
  | .ok () => .ok (fill named 0 wanted)

end PodNet.InterfaceName
