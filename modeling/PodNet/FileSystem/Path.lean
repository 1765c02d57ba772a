import PodNet.Text.Split

/-!
# Paths

A path is text, with slashes between the names on the way. Paths are shown to people as they were
put together, so joining keeps the text of both parts. The name a path leads to is its last part
that is neither empty nor a dot.
-/

namespace PodNet.Path

/-- Does the path start at the root? -/
def isAbsolute (p : String) : Bool :=
  p.toList.head? == some '/'

/-- The path that a name or a path has inside a directory. An absolute path stands for itself. -/
def join (directory p : String) : String :=
  if isAbsolute p || directory = "" then p
  else if directory.toList.getLast? = some '/' then directory ++ p
  else directory ++ "/" ++ p

/-- The parts of a path. An empty part and a dot lead nowhere. -/
def parts (p : String) : List String :=
  Text.split '/' p

/-- Does the part lead to where one already is? -/
def isStay (part : String) : Bool :=
  part == "" || part == "."

/-- The name that a path leads to, unless it leads to the root or to a parent. -/
def fileName? (p : String) : Option String :=
  match ((parts p).filter fun s => !isStay s).getLast? with
  | some s => if s = ".." then none else some s
  | none => none

/-- The parts of a path that count when paths are compared: those that lead somewhere, and a dot that
a relative path begins with. -/
def steps (p : String) : List String :=
  let names := (parts p).filter fun s => !isStay s
  if (parts p).head? = some "." then "." :: names else names

/-- Are the two paths written alike, step by step? -/
def same (p q : String) : Bool :=
  isAbsolute p == isAbsolute q && steps p == steps q

/-- The parts of a path below where it starts, without those at the end that lead nowhere. The dot that
a relative path begins with counts. -/
def withoutStays (absolute : Bool) (parts : List String) : List String :=
  match (parts.reverse.dropWhile isStay).reverse with
  | [] => if !absolute && parts.head? == some "." then ["."] else []
  | kept => kept

/-- The path of the directory that a path leads into, unless it leads to the root or nowhere. -/
def parent? (p : String) : Option String :=
  let absolute := isAbsolute p
  match withoutStays absolute (if absolute then (parts p).tail else parts p) with
  | [] => none
  | kept =>
    some ((if absolute then "/" else "") ++ Text.join "/" (withoutStays absolute kept.dropLast))

/-- The path and those of the directories around it, at most as many as the budget says, without the
one where it starts. -/
def ancestorsUpTo : Nat → String → List String
  | 0, _ => []
  | budget + 1, p =>
    match parent? p with
    | none => []
    | some parent => p :: ancestorsUpTo budget parent

/-- The path and those of the directories around it, without the one where it starts. -/
def ancestors (p : String) : List String :=
  ancestorsUpTo p.length p

/-- What follows the last dot of a name, if something stands before that dot. -/
def extensionChars? (name : List Char) : Option (List Char) :=
  match Text.cutChars '.' name.reverse with
  | some (after, before) => if before.isEmpty then none else some after.reverse
  | none => none

/-- The extension of a file name. -/
def extension? (name : String) : Option String :=
  (extensionChars? name.toList).map String.ofList

end PodNet.Path
