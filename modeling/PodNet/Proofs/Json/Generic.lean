import PodNet.Proofs.Json.Values

/-!
# Reading through the generic value

A document can be read as it stands, or be taken as a generic value first, which is then read. Both
come to the same for a reader that keeps all it looks at (`ThroughValue`): what it accepts has a
value, and it reads the value as it reads the document. The members of the value are those of the
document, where the last of equal keys counts (`membersToJson?_eq_some_iff`), so a field under a key
that stands once at most is the same field (`rel_field`).
-/

namespace PodNet.Json.Document

variable {α : Type} {b : Nat} {items : List Document} {members : List (Option String × Document)}
  {values : List (String × Json)} {key : String}

/-! ### Item by item -/

/-- The items have values just if each has, in order. -/
theorem itemsToJson?_eq_some_iff {values : List Json} : itemsToJson? b items = some values ↔
    List.Forall₂ (fun d v => toJson? b d = some v) items values := by
  induction items generalizing values with
  | nil =>
    rw [List.forall₂_nil_left_iff, itemsToJson?, Option.some.injEq]
    exact eq_comm
  | cons d l ih =>
    rw [List.forall₂_cons_left_iff, itemsToJson?]
    constructor
    · intro h
      split at h
      · rename_i v rest hv hrest
        cases h
        exact ⟨v, rest, hv, ih.mp hrest, rfl⟩
      · cases h
    · rintro ⟨v, rest, hv, hrest, rfl⟩
      rw [hv, ih.mpr hrest]

/-- The members have values just if each has a key and a value, in order. -/
theorem membersToJson?_eq_some_iff : membersToJson? b members = some values ↔
    List.Forall₂ (fun m e => m.1 = some e.1 ∧ toJson? b m.2 = some e.2) members values := by
  induction members generalizing values with
  | nil =>
    rw [List.forall₂_nil_left_iff, membersToJson?, Option.some.injEq]
    exact eq_comm
  | cons m l ih =>
    rw [List.forall₂_cons_left_iff]
    constructor
    · intro h
      unfold membersToJson? at h
      split at h
      · rename_i k v rest hkey hv hrest
        cases h
        exact ⟨(k, v), rest, ⟨hkey, hv⟩, ih.mp hrest, rfl⟩
      · cases h
    · rintro ⟨⟨k, v⟩, rest, ⟨hkey, hv⟩, hrest, rfl⟩
      unfold membersToJson?
      rw [hkey, hv, ih.mpr hrest]

theorem exists_itemsToJson? (h : ∀ d ∈ items, ∃ v, toJson? b d = some v) :
    ∃ values, itemsToJson? b items = some values := by
  induction items with
  | nil => exact ⟨[], rfl⟩
  | cons d l ih =>
    obtain ⟨⟨v, hv⟩, hrest⟩ := List.forall_mem_cons.mp h
    obtain ⟨values, hvalues⟩ := ih hrest
    exact ⟨v :: values, by rw [itemsToJson?, hv, hvalues]⟩

theorem exists_membersToJson?_iff : (∃ values, membersToJson? b members = some values) ↔
    ∀ m ∈ members, m.1.isSome = true ∧ ∃ v, toJson? b m.2 = some v := by
  constructor
  · rintro ⟨values, h⟩
    have hall := membersToJson?_eq_some_iff.mp h
    clear h
    induction hall with
    | nil => simp
    | cons hm _ ih => exact List.forall_mem_cons.mpr ⟨⟨by rw [hm.1]; rfl, _, hm.2⟩, ih⟩
  · intro h
    induction members with
    | nil => exact ⟨[], rfl⟩
    | cons m l ih =>
      obtain ⟨⟨hkey, v, hv⟩, hrest⟩ := List.forall_mem_cons.mp h
      obtain ⟨values, hvalues⟩ := ih hrest
      obtain ⟨k, hk⟩ := Option.isSome_iff_exists.mp hkey
      refine ⟨(k, v) :: values, ?_⟩
      unfold membersToJson?
      rw [hk, hv, hvalues]

/-- The values of members are read again as the table of them. -/
theorem membersToJson?_ofMembers_ofList (h : membersToJson? b members = some values) :
    membersToJson? b (ofMembers (Table.ofList values)) = some (Table.ofList values) := by
  have hvalue : toJson? (b + 1) (obj members) = some (.obj (Table.ofList values)) :=
    congrArg (Option.map fun l => Json.obj (Table.ofList l)) h
  obtain ⟨hdepth, horder, -⟩ := settled_of_toJson? (b + 1) _ _ hvalue
  rw [membersToJson?_ofMembers b _ (Nat.le_of_succ_le_succ hdepth),
    sortedMembers_eq_self _ horder.2]

/-- The keys of the table of members that have values are those of the members. -/
theorem has_ofList_iff (h : membersToJson? b members = some values) (key : String) :
    Table.has key (Table.ofList values) = true ↔ some key ∈ members.map Prod.fst := by
  have hkeys : members.map Prod.fst = (values.map Prod.fst).map some := by
    have hall := membersToJson?_eq_some_iff.mp h
    clear h
    induction hall with
    | nil => rfl
    | cons hm _ ih => rw [List.map_cons, List.map_cons, List.map_cons, ih, hm.1]
  rw [Table.has_ofList, hkeys]
  simp only [List.mem_map, Option.some.injEq, exists_eq_right]

/-- Only an object has an object as its value. -/
theorem toJson?_ne_obj {d : Document} (h : ∀ members, d ≠ obj members) (t : Table Json) :
    toJson? b d ≠ some (.obj t) := by
  intro ht
  match b, d, ht with
  | _, num _, ht => obtain ⟨n, -, heq⟩ := Option.map_eq_some_iff.mp ht; cases heq
  | _, str _, ht => obtain ⟨s, -, heq⟩ := Option.map_eq_some_iff.mp ht; cases heq
  | _ + 1, arr _, ht => obtain ⟨l, -, heq⟩ := Option.map_eq_some_iff.mp ht; cases heq
  | _, obj members, _ => exact h members rfl

/-! ### Readers of values -/

/-- **The reader may go through the generic value**: what it accepts has a value, and the value is
read as the document is. -/
structure ThroughValue (b : Nat) (read : Document → Option α) : Prop where
  exists_value {d : Document} {a : α} : read d = some a → ∃ v, toJson? b d = some v
  eq_of_value {d : Document} {v : Json} : toJson? b d = some v → read d = read (ofJson v)

/-- A text is read through its value. -/
theorem throughValue_text? (b : Nat) : ThroughValue b text? := by
  constructor
  · intro d s h
    cases d with
    | str value => exact ⟨.str s, congrArg (Option.map Json.str) h⟩
    | _ => cases h
  · intro d v h
    match b, d, h with
    | _, null, h => cases h; rfl
    | _, bool _, h => cases h; rfl
    | _, num _, h => obtain ⟨n, -, rfl⟩ := Option.map_eq_some_iff.mp h; rfl
    | _, str _, h => obtain ⟨s, rfl, rfl⟩ := Option.map_eq_some_iff.mp h; rfl
    | _ + 1, arr _, h => obtain ⟨l, -, rfl⟩ := Option.map_eq_some_iff.mp h; rfl
    | _ + 1, obj _, h => obtain ⟨l, -, rfl⟩ := Option.map_eq_some_iff.mp h; rfl

/-- A value of which something is looked at is read through itself. -/
theorem throughValue_bind (b : Nat) (look : Json → Option α) :
    ThroughValue b fun d => (toJson? b d).bind look := by
  constructor
  · intro d a h
    exact (Option.bind_eq_some_iff.mp h).imp fun _ hv => hv.1
  · intro d v h
    rw [h, toJson?_ofJson_of_toJson? h]

theorem ThroughValue.mapM_eq {read : Document → Option α} (h : ThroughValue b read)
    {values : List Json} (hall : List.Forall₂ (fun d v => toJson? b d = some v) items values) :
    items.mapM read = (ofItems values).mapM read := by
  induction hall with
  | nil => rfl
  | cons hv _ ih => rw [ofItems, List.mapM_cons, List.mapM_cons, ih, h.eq_of_value hv]

/-- A list is read through its value if its items are. -/
theorem ThroughValue.list? {read : Document → Option α} (h : ThroughValue b read) :
    ThroughValue (b + 1) (list? read) := by
  constructor
  · intro d l hd
    cases d with
    | arr items =>
      have hitems : ∀ d ∈ items, ∃ v, toJson? b d = some v := fun d hd' =>
        ((exists_of_mapM_eq_some hd).1 d hd').elim fun a ha => h.exists_value ha
      obtain ⟨values, hvalues⟩ := exists_itemsToJson? hitems
      exact ⟨.arr values, congrArg (Option.map Json.arr) hvalues⟩
    | _ => cases hd
  · intro d v hd
    match d, hd with
    | null, hd => cases hd; rfl
    | bool _, hd => cases hd; rfl
    | num _, hd => obtain ⟨n, -, rfl⟩ := Option.map_eq_some_iff.mp hd; rfl
    | str _, hd => obtain ⟨s, -, rfl⟩ := Option.map_eq_some_iff.mp hd; rfl
    | obj _, hd => obtain ⟨l, -, rfl⟩ := Option.map_eq_some_iff.mp hd; rfl
    | arr items, hd =>
      obtain ⟨values, hvalues, rfl⟩ := Option.map_eq_some_iff.mp hd
      exact h.mapM_eq (itemsToJson?_eq_some_iff.mp hvalues)

/-! ### Fields -/

theorem length_named (key : String) (members : List (Option String × Document)) :
    (named [key] members).length = (members.map Prod.fst).count (some key) := by
  induction members with
  | nil => rfl
  | cons m l ih =>
    obtain ⟨_ | k, d⟩ := m
    · simpa [named] using ih
    · rw [named_cons, List.map_cons, List.count_cons, ← ih]
      by_cases h : k = key <;> simp [h]

/-- A field that is given once at most is the one under its name. -/
theorem field?_of_once (once : (members.map Prod.fst).count (some key) ≤ 1) :
    field? members [key] = some (named [key] members).head? := by
  rw [← length_named] at once
  rw [field?]
  cases hnamed : named [key] members with
  | nil => rfl
  | cons d rest =>
    rw [hnamed] at once
    cases rest with
    | nil => rfl
    | cons e rest => simp at once

/-- A field that is given is the value of the member with its name. -/
theorem field?_eq_of_mem {m : Option String × Document} {field : Option Document} (hm : m ∈ members)
    (hkey : m.1 = some key) (h : field? members [key] = some field) : field = some m.2 := by
  have hnamed : m.2 ∈ named [key] members := by
    refine List.mem_filterMap.mpr ⟨m, hm, ?_⟩
    rw [hkey]
    simp
  unfold field? at h
  split at h
  · rename_i hnone
    rw [hnone] at hnamed
    cases hnamed
  · rename_i d hone
    rw [hone, List.mem_singleton] at hnamed
    rw [hnamed, ← Option.some.inj h]
  · cases h

/-- The documents under a key have the values under it. -/
theorem rel_named (h : membersToJson? b members = some values) (key : String) :
    List.Forall₂ (fun d v => toJson? b d = some v) (named [key] members)
      ((Table.keep (· == key) values).map Prod.snd) := by
  have hall := membersToJson?_eq_some_iff.mp h
  clear h
  induction hall with
  | nil => exact .nil
  | @cons m e l rest hm _ ih =>
    obtain ⟨k, d⟩ := m
    obtain ⟨rfl, hv⟩ := hm
    rw [named_cons, Table.keep_cons]
    by_cases hkey : e.1 = key
    · rw [if_pos hkey, if_pos (beq_iff_eq.mpr hkey)]
      exact .cons hv ih
    · rw [if_neg hkey, if_neg (fun hb => hkey (beq_iff_eq.mp hb))]
      exact ih

/-- **A field that is given once at most has the value under its name.** -/
theorem rel_field (h : membersToJson? b members = some values)
    (once : (members.map Prod.fst).count (some key) ≤ 1) :
    Option.Rel (fun d v => toJson? b d = some v) (named [key] members).head?
      (Table.get? key (Table.ofList values)) := by
  have hrel := rel_named h key
  rw [← length_named, hrel.length_eq, List.length_map] at once
  rw [← Table.get?_keep_self, Table.keep_ofList]
  have hkey : ∀ e ∈ Table.keep (· == key) values, e.1 = key := fun e he =>
    beq_iff_eq.mp (List.mem_filter.mp he).2
  generalize named [key] members = under at hrel
  match Table.keep (· == key) values, once, hkey, hrel with
  | [], _, _, .nil => exact .none
  | [e], _, hkey, .cons hv .nil =>
    have hget : Table.get? key (Table.ofList [e]) = some e.2 := by
      rw [← hkey e List.mem_cons_self]
      exact Table.get?_insert_self e.1 e.2 []
    rw [hget]
    exact .some hv

namespace ThroughValue

variable {read : Document → Option α} {field : Option Document} {value : Option Json}

theorem withDefault_eq (h : ThroughValue b read)
    (rel : Option.Rel (fun d v => toJson? b d = some v) field value) (default : α) :
    withDefault default read field = withDefault default read (value.map ofJson) := by
  cases rel with
  | none => rfl
  | some hv => exact h.eq_of_value hv

theorem required_eq (h : ThroughValue b read)
    (rel : Option.Rel (fun d v => toJson? b d = some v) field value) :
    required read field = required read (value.map ofJson) := by
  cases rel with
  | none => rfl
  | some hv => exact h.eq_of_value hv

end ThroughValue

/-- Members with some of the keys have the values with these keys. -/
theorem membersToJson?_filter (h : membersToJson? b members = some values)
    (wanted : Option String → Bool) :
    membersToJson? b (members.filter fun m => wanted m.1) =
      some (Table.keep (fun k => wanted (some k)) values) := by
  rw [membersToJson?_eq_some_iff] at h ⊢
  refine List.rel_filter (fun m e hm => ?_) h
  show wanted m.1 = true ↔ wanted (some e.1) = true
  rw [hm.1]

end PodNet.Json.Document
