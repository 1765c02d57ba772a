import PodNet.Table

/-!
# JSON values

A number is either an integer of 64 bits, which stays exact, or a binary fraction of double
precision, kept as its bits. The members of an object stand in the order in which they are to be
written: free-form objects are tables, in ascending order of their keys, while records list their
fields in an order of their own. `Json.sorted` makes every object a table.
-/

namespace PodNet

/-- A JSON number. -/
inductive Number where
  /-- An integer between `-2 ^ 63` and `2 ^ 64 - 1`. -/
  | int (n : Int)
  /-- A double of these bits, always finite. -/
  | float (bits : UInt64)
  deriving Repr, DecidableEq, Inhabited

/-- A JSON value. -/
inductive Json where
  | null
  | bool (b : Bool)
  | num (n : Number)
  | str (s : String)
  | arr (items : List Json)
  | obj (members : List (String × Json))
  deriving Repr, Inhabited

/-- The members of a free-form object. -/
abbrev Object := Table Json

namespace Json

/-- The text of a string. -/
def str? : Json → Option String
  | str s => some s
  | _ => none

/-- The truth value of a Boolean. -/
def bool? : Json → Option Bool
  | bool b => some b
  | _ => none

/-- The members of an object. -/
def members? : Json → Option (List (String × Json))
  | obj members => some members
  | _ => none

/-- The list of texts as an array of strings. -/
def strings (l : List String) : Json :=
  arr (l.map str)

/-- A table of texts as an object. -/
def ofTexts (t : Table String) : Json :=
  obj (t.map fun e => (e.1, str e.2))

/-- A natural number. -/
def nat (n : Nat) : Json :=
  num (.int n)

mutual

/-- The value with every object in ascending order of its keys, the last of equal keys winning. -/
def sorted : Json → Json
  | null => null
  | bool b => bool b
  | num n => num n
  | str s => str s
  | arr items => arr (sortedItems items)
  | obj members => obj (Table.ofList (sortedMembers members))

/-- The items, each with its objects in order. -/
def sortedItems : List Json → List Json
  | [] => []
  | v :: l => sorted v :: sortedItems l

/-- The members, each value with its objects in order. -/
def sortedMembers : List (String × Json) → List (String × Json)
  | [] => []
  | (k, v) :: l => (k, sorted v) :: sortedMembers l

end

mutual

/-- Are the two values the same, member by member? -/
def same : Json → Json → Bool
  | null, null => true
  | bool a, bool b => a == b
  | num a, num b => a == b
  | str a, str b => a == b
  | arr a, arr b => sameItems a b
  | obj a, obj b => sameMembers a b
  | _, _ => false

/-- Are the two lists of values the same? -/
def sameItems : List Json → List Json → Bool
  | [], [] => true
  | a :: l, b :: r => same a b && sameItems l r
  | _, _ => false

/-- Are the two lists of members the same? -/
def sameMembers : List (String × Json) → List (String × Json) → Bool
  | [], [] => true
  | (k, a) :: l, (k', b) :: r => k == k' && same a b && sameMembers l r
  | _, _ => false

end

instance : BEq Json := ⟨same⟩

end Json

end PodNet
