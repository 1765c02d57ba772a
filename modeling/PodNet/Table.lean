/-!
# Tables keyed by text

A table is a list of entries in ascending order of their keys, each key at most once. Keys are
compared character by character, which is also the order of their UTF-8 bytes. JSON objects, pod
annotations and the extra arguments of an attachment are tables, so that what is printed does not
depend on the order in which entries arrived.
-/

namespace PodNet

/-- Entries in ascending order of their keys. -/
abbrev Table (α : Type) := List (String × α)

namespace Table

variable {α : Type}

/-- Writes an entry at its place, in the stead of an older one with the same key. -/
def insert (k : String) (v : α) : Table α → Table α
  | [] => [(k, v)]
  | e :: t =>
    if k < e.1 then (k, v) :: e :: t
    else if k = e.1 then (k, v) :: t
    else e :: insert k v t

/-- The value under a key. -/
def get? (k : String) (t : Table α) : Option α :=
  t.lookup k

/-- Is there an entry with the key? -/
def has (k : String) (t : Table α) : Bool :=
  (get? k t).isSome

/-- The table without the entry of a key. -/
def erase (k : String) (t : Table α) : Table α :=
  t.filter fun e => e.1 != k

/-- The table of a list of entries, of which the last one with a key counts. -/
def ofList (entries : List (String × α)) : Table α :=
  entries.foldl (fun t e => insert e.1 e.2 t) []

/-- The entries of the second table written over those of the first. -/
def merge (t u : Table α) : Table α :=
  u.foldl (fun t e => insert e.1 e.2 t) t

@[simp] theorem get?_nil (k : String) : get? k ([] : Table α) = none := rfl

theorem get?_cons (k : String) (e : String × α) (t : Table α) :
    get? k (e :: t) = if k = e.1 then some e.2 else get? k t := by
  rw [get?, List.lookup_cons]
  by_cases h : k = e.1
  · simp [h]
  · rw [if_neg h, beq_false_of_ne h, get?]

end Table

end PodNet
