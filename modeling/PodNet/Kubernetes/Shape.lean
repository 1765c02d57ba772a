import PodNet.Json.Document
import PodNet.Text.Timestamp

/-!
# Shapes of objects

An object of the API has a shape: which fields it may have, and what each of them holds. A document
*fits* a shape when everything in it that the shape knows is of the right kind. Fields may be missing
or null, a key may be repeated, and what is not known does not matter; but an object is an object,
never an array of its fields.
-/

namespace PodNet.Kubernetes

open Json (Document)

/-- What a part of an object may be. -/
abbrev Shape := Document → Bool

namespace Shape

/-! ### Single values -/

/-- A text. -/
def text : Shape := fun d => d.text?.isSome

/-- The one text that is expected. -/
def exactly (expected : String) : Shape := fun d => d.text? == some expected

/-- A truth value. -/
def bool : Shape := fun d => d.bool?.isSome

/-- An integer that lies at least at the negative of a bound, and below the bound. -/
def integerBelow (bound : Int) : Shape
  | .num (some (.int n)) => -bound ≤ n && n < bound
  | _ => false

/-- An integer of 32 bits. -/
def int32 : Shape := integerBelow 0x80000000

/-- An integer of 64 bits. -/
def int64 : Shape := integerBelow 0x8000000000000000

/-- An integer or a text, such as a port by number or by name. -/
def intOrText : Shape := fun d => int32 d || text d

/-- A point in time. -/
def time : Shape := fun d => d.text?.any Text.Timestamp.isValid

/-- Any value whose containers nest at most as deep as the budget. -/
def value (budget : Nat) : Shape := fun d => (d.toJson? budget).isSome

/-! ### Containers -/

/-- A list of parts of one shape. -/
def list (item : Shape) : Shape
  | .arr items => items.all item
  | _ => false

/-- An object with parts of one shape under keys of any kind. -/
def table (item : Shape) : Shape
  | .obj members => members.all fun m => m.1.isSome && item m.2
  | _ => false

/-- Null, or a part of a shape. -/
def optional (shape : Shape) : Shape
  | .null => true
  | d => shape d

/-- Fields: the shapes of the parts, by the keys they stand under. -/
abbrev Fields := List (String × Shape)

/-- Does a member of an object fit the field with its key, if there is one? -/
def fitsField (fields : Fields) (m : Option String × Document) : Bool :=
  match m.1 with
  | none => false
  | some key => (fields.lookup key).all fun shape => shape m.2

/-- An object with fields, each of which must be of its shape. -/
def object (fields : Fields) : Shape
  | .obj members => members.all (fitsField fields)
  | _ => false

/-- An object with fields, each of which may be null. -/
def record (fields : Fields) : Shape :=
  object (fields.map fun f => (f.1, optional f.2))

/-- An object that has the fields, each of its shape. -/
def having (fields : Fields) : Shape
  | .obj members =>
    members.all (fitsField fields) && fields.all fun f => members.any fun m => m.1 == some f.1
  | _ => false

/-- The shapes together. -/
def both (a b : Shape) : Shape := fun d => a d && b d

/-! ### Fields of one shape -/

/-- Fields under the keys, all of one shape. -/
def each (shape : Shape) (keys : List String) : Fields :=
  keys.map fun key => (key, shape)

/-- Fields that hold text. -/
def texts : List String → Fields := each text

/-- Fields that hold truth values. -/
def bools : List String → Fields := each bool

/-- Fields that hold lists of texts. -/
def textLists : List String → Fields := each (list text)

/-- Fields that hold tables of texts. -/
def textTables : List String → Fields := each (table text)

end Shape

/-! ### Parts of objects that fit -/

/-- The last value under a key of an object, unless that is null. -/
def lastValue (key : String) : Document → Option Document
  | .obj members =>
    match (Document.named [key] members).getLast? with
    | some .null => none
    | d => d
  | _ => none

/-- The text under a key. -/
def textUnder (key : String) (d : Document) : Option String :=
  (lastValue key d).bind Document.text?

/-- The texts in the list under a key; none if there is no list. -/
def textsUnder (key : String) (d : Document) : Option (List String) :=
  (lastValue key d).bind (Document.list? Document.text?)

/-- The table of texts under a key. -/
def textTableUnder (key : String) (d : Document) : Option (Table String) :=
  (lastValue key d).bind (Document.table? Document.text?)

/-- The items of the list under a key. -/
def itemsUnder (key : String) (d : Document) : List Document :=
  match lastValue key d with
  | some (.arr items) => items
  | _ => []

end PodNet.Kubernetes
