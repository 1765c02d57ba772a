import PodNet.Yaml.Token

/-!
# Documents in flow style

Tokens are put together to a document. A table has text for its keys, each once; a key stands on the
line of its colon, which is not far from it. A value after a key, and a comma at the end, may be left
out. Containers nest up to a limit. A text without a token says null.
-/

namespace PodNet.Yaml

open Json (Document)

/-- The members of a table, latest first. -/
abbrev Members := List (Option String × Document)

/-- A container that is still open, with what it holds so far, latest first. -/
inductive Frame where
  | list (done : List Document)
  /-- A table whose value under a key is awaited. -/
  | table (done : Members) (key : String)

/-- What must come next. -/
inductive Awaiting where
  /-- The document. -/
  | root
  /-- An item of a list, or its end. -/
  | item (done : List Document)
  /-- A key of a table, or its end. -/
  | key (done : Members)
  /-- The colon after a key that begins at a position, or the end of its member. -/
  | colon (done : Members) (key : String) (start : Position)
  /-- The value under a key, or the end of its member. -/
  | value (done : Members) (key : String)
  /-- What may follow a value that is complete. -/
  | after (value : Document)

/-- The depth to which containers may nest. -/
def maxDepth : Nat := 128

/-- The greatest distance between the start of a key and its colon, in characters. -/
def maxKeyDistance : Nat := 1024

/-- The members with another one, unless they have its key. -/
def addMember (done : Members) (key : String) (value : Document) : Option Members :=
  if done.any fun m => m.1 == some key then none else some ((some key, value) :: done)

/-- A container that begins, in open ones. -/
def enter (awaiting : Awaiting) (stack : List Frame) : Option (Awaiting × List Frame) :=
  if stack.length < maxDepth then some (awaiting, stack) else none

/-- A token that begins a value in open containers. -/
def beginValue (stack : List Frame) : Kind → Option (Awaiting × List Frame)
  | .scalar v => some (.after v, stack)
  | .openList => enter (.item []) stack
  | .openTable => enter (.key []) stack
  | _ => none

/-- A token after a complete member of a table. -/
def continueTable (done : Members) (stack : List Frame) : Kind → Option (Awaiting × List Frame)
  | .comma => some (.key done, stack)
  | .closeTable => some (.after (.obj done.reverse), stack)
  | _ => none

/-- A token after a complete value. -/
def continueWith (value : Document) (t : Kind) : List Frame → Option (Awaiting × List Frame)
  | .list done :: stack =>
    match t with
    | .comma => some (.item (value :: done), stack)
    | .closeList => some (.after (.arr (value :: done).reverse), stack)
    | _ => none
  | .table done key :: stack =>
    (addMember done key value).bind fun done => continueTable done stack t
  | [] => none

/-- Is a colon close enough to the key that it follows? -/
def isNear (start colon : Position) : Bool :=
  start.line == colon.line && colon.index ≤ start.index + maxKeyDistance

/-- One token. -/
def step (t : Token) : Awaiting → List Frame → Option (Awaiting × List Frame)
  | .root, stack => beginValue stack t.kind
  | .item done, stack =>
    match t.kind with
    | .closeList => some (.after (.arr done.reverse), stack)
    | kind => beginValue (.list done :: stack) kind
  | .key done, stack =>
    match t.kind with
    | .closeTable => some (.after (.obj done.reverse), stack)
    | .scalar (.str (some key)) => some (.colon done key t.position, stack)
    | _ => none
  | .colon done key start, stack =>
    match t.kind with
    | .colon => if isNear start t.position then some (.value done key, stack) else none
    | kind => (addMember done key .null).bind fun done => continueTable done stack kind
  | .value done key, stack =>
    match t.kind with
    | .comma | .closeTable =>
      (addMember done key .null).bind fun done => continueTable done stack t.kind
    | kind => beginValue (.table done key :: stack) kind
  | .after value, stack => continueWith value t.kind stack

/-- Takes all tokens. -/
def assemble (awaiting : Awaiting) (stack : List Frame) : List Token → Option Document
  | [] =>
    match awaiting, stack with
    | .root, [] => some .null
    | .after value, [] => some value
    | _, _ => none
  | t :: rest =>
    match step t awaiting stack with
    | some (awaiting, stack) => assemble awaiting stack rest
    | none => none

/-- The document that a text says. -/
def read? (text : String) : Option Document :=
  (tokens? text.toList).bind (assemble .root [])

end PodNet.Yaml
