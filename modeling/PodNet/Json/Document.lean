import PodNet.Json.Token

/-!
# JSON documents

The second step of reading: tokens are put together to a document, which says what the grammar says
and no more. Members stand as they were written, with repeated keys, and strings and numbers without
a value are still there. What is made of a document depends on the reader:

* `Document.toJson?` takes it as a generic value. All strings and numbers need a value then, of
  members with one key the last counts, and containers nest at most as deep as the budget says.
* `Document.record?` takes it as a record with named fields. It may stand as an object, where other
  keys are passed over together with whatever they hold, or as an array of the fields in their order.

Nesting is unbounded here: the reader keeps its own stack.
-/

namespace PodNet.Json

/-- What a document says by its grammar. -/
inductive Document where
  | null
  | bool (b : Bool)
  | num (value : Option Number)
  | str (value : Option String)
  | arr (items : List Document)
  | obj (members : List (Option String × Document))
  deriving Repr, Inhabited

namespace Document

/-! ### From tokens -/

/-- A container that is still open, with what it holds so far, latest first. -/
inductive Frame where
  | array (done : List Document)
  /-- An object whose member with the key is awaited. -/
  | object (done : List (Option String × Document)) (key : Option String)

/-- What must come next. -/
inductive Awaiting where
  /-- A value. -/
  | value
  /-- The first item of an array, or its end. -/
  | firstItem
  /-- The first key of an object, or its end. -/
  | firstKey
  /-- The next key of an object with the given members. -/
  | key (done : List (Option String × Document))
  /-- The colon after a key. -/
  | colon (done : List (Option String × Document)) (key : Option String)
  /-- Whatever may follow a value that is complete. -/
  | after (value : Document)

/-- A token that begins a value. -/
def beginValue (stack : List Frame) : Token → Option (Awaiting × List Frame)
  | .null => some (.after .null, stack)
  | .bool b => some (.after (.bool b), stack)
  | .num v => some (.after (.num v), stack)
  | .str v => some (.after (.str v), stack)
  | .openArray => some (.firstItem, .array [] :: stack)
  | .openObject => some (.firstKey, stack)
  | _ => none

/-- A token after a complete value. -/
def continueWith (value : Document) (t : Token) : List Frame → Option (Awaiting × List Frame)
  | .array done :: stack =>
    match t with
    | .comma => some (.value, .array (value :: done) :: stack)
    | .closeArray => some (.after (.arr (value :: done).reverse), stack)
    | _ => none
  | .object done key :: stack =>
    match t with
    | .comma => some (.key ((key, value) :: done), stack)
    | .closeObject => some (.after (.obj ((key, value) :: done).reverse), stack)
    | _ => none
  | [] => none

/-- One token. -/
def step (t : Token) : Awaiting → List Frame → Option (Awaiting × List Frame)
  | .value, stack => beginValue stack t
  | .firstItem, stack =>
    match t, stack with
    | .closeArray, .array _ :: outer => some (.after (.arr []), outer)
    | _, _ => beginValue stack t
  | .firstKey, stack =>
    match t with
    | .closeObject => some (.after (.obj []), stack)
    | .str key => some (.colon [] key, stack)
    | _ => none
  | .key done, stack =>
    match t with
    | .str key => some (.colon done key, stack)
    | _ => none
  | .colon done key, stack =>
    match t with
    | .colon => some (.value, .object done key :: stack)
    | _ => none
  | .after value, stack => continueWith value t stack

/-- The document that the tokens complete. -/
def assemble : List Token → Awaiting → List Frame → Option Document
  | [], .after value, [] => some value
  | [], _, _ => none
  | t :: rest, awaiting, stack =>
    match step t awaiting stack with
    | some (awaiting', stack') => assemble rest awaiting' stack'
    | none => none

/-- The document of a sequence of tokens. -/
def ofTokens? (l : List Token) : Option Document :=
  assemble l .value []

/-- The document that the bytes write. -/
def read? (b : Bytes) : Option Document :=
  (tokens b).bind ofTokens?

/-! ### As a generic value -/

mutual

/-- The generic value of a document whose containers nest at most as deep as the budget. -/
def toJson? (budget : Nat) : Document → Option Json
  | null => some .null
  | bool b => some (.bool b)
  | num v => v.map .num
  | str v => v.map .str
  | arr items =>
    match budget with
    | 0 => none
    | b + 1 => (itemsToJson? b items).map .arr
  | obj members =>
    match budget with
    | 0 => none
    | b + 1 => (membersToJson? b members).map fun l => .obj (Table.ofList l)

/-- The generic values of the items. -/
def itemsToJson? (budget : Nat) : List Document → Option (List Json)
  | [] => some []
  | d :: l =>
    match toJson? budget d, itemsToJson? budget l with
    | some v, some vs => some (v :: vs)
    | _, _ => none

/-- The generic values of the members, whose keys need a value too. -/
def membersToJson? (budget : Nat) :
    List (Option String × Document) → Option (List (String × Json))
  | [] => some []
  | (key, d) :: l =>
    match key, toJson? budget d, membersToJson? budget l with
    | some k, some v, some vs => some ((k, v) :: vs)
    | _, _, _ => none

end

/-- The depth to which containers may nest in a value that is kept. -/
def maxDepth : Nat := 127

mutual

/-- The document that says the value. -/
def ofJson : Json → Document
  | .null => null
  | .bool b => bool b
  | .num n => num (some n)
  | .str s => str (some s)
  | .arr items => arr (ofItems items)
  | .obj members => obj (ofMembers members)

/-- The documents of the items. -/
def ofItems : List Json → List Document
  | [] => []
  | v :: l => ofJson v :: ofItems l

/-- The documents of the members. -/
def ofMembers : List (String × Json) → List (Option String × Document)
  | [] => []
  | (k, v) :: l => (some k, ofJson v) :: ofMembers l

end

/-! ### As a record -/

/-- The values of the members with one of the names. -/
def named (names : List String) (members : List (Option String × Document)) : List Document :=
  members.filterMap fun m =>
    match m.1 with
    | some k => if names.contains k then some m.2 else none
    | none => none

/-- The field with one of the names, none if it is missing; refused where it is given twice. -/
def field? (members : List (Option String × Document)) (names : List String) :
    Option (Option Document) :=
  match named names members with
  | [] => some none
  | [d] => some (some d)
  | _ => none

/-- The fields of a record, each given by the names it may have. -/
def record? (fields : List (List String)) : Document → Option (List (Option Document))
  | obj members =>
    if members.all fun m => m.1.isSome then fields.mapM (field? members) else none
  | arr items =>
    if items.length ≤ fields.length then
      some (items.map some ++ List.replicate (fields.length - items.length) none)
    else none
  | _ => none

/-- A field that must be there. -/
def required {α : Type} (read : Document → Option α) (field : Option Document) : Option α :=
  field.bind read

/-- A field with a value for the case that it is missing. -/
def withDefault {α : Type} (default : α) (read : Document → Option α) :
    Option Document → Option α
  | none => some default
  | some d => read d

/-! ### Single values -/

/-- A text. -/
def text? : Document → Option String
  | str v => v
  | _ => none

/-- A text or null. -/
def textOrNull? : Document → Option (Option String)
  | null => some none
  | str (some s) => some (some s)
  | _ => none

/-- A truth value. -/
def bool? : Document → Option Bool
  | bool b => some b
  | _ => none

/-- A natural number of so many bits. -/
def nat? (bits : Nat) : Document → Option Nat
  | num (some (.int n)) => if 0 ≤ n && n.toNat < Nat.pow 2 bits then some n.toNat else none
  | _ => none

/-- The items of an array, each read. -/
def list? {α : Type} (read : Document → Option α) : Document → Option (List α)
  | arr items => items.mapM read
  | _ => none

/-- The members of an object, each value read, as a table. -/
def table? {α : Type} (read : Document → Option α) : Document → Option (Table α)
  | obj members => (members.mapM entry).map Table.ofList
  | _ => none
where
  /-- An entry of the table. -/
  entry (m : Option String × Document) : Option (String × α) :=
    match m.1, read m.2 with
    | some k, some v => some (k, v)
    | _, _ => none

end Document

/-- The generic value that the bytes write. -/
def read? (b : Bytes) : Option Json :=
  (Document.read? b).bind (Document.toJson? Document.maxDepth)

end PodNet.Json
