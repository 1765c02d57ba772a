import PodNet.Proofs.Json.Records
import PodNet.Proofs.Pieces
import PodNet.Proofs.Tables

/-!
# Generic values that are written are read back

Reading a document as a generic value puts the members of every object in the order of their keys, and
refuses containers that nest too deep. So a value of integers that does not nest too deep (`Fits`) comes
back in order (`Fits.read?_compact`), and as it was if it was in order already (`sorted_eq_self`). Such a
value is `Kept`: whatever is read of a document of integers is (`kept_of_toJson?`), and what is kept is
read as it is (`Kept.toJson?_ofJson`).
-/

namespace PodNet

namespace Json

variable {b : Nat} {v : Json} {k : String} {items : List Json} {members : List (String × Json)}

/-! ### Nesting and order -/

mutual

/-- How deep containers nest in the value. -/
def depth : Json → Nat
  | null => 0
  | bool _ => 0
  | num _ => 0
  | str _ => 0
  | arr items => depthItems items + 1
  | obj members => depthMembers members + 1

/-- How deep containers nest in the items. -/
def depthItems : List Json → Nat
  | [] => 0
  | v :: l => max (depth v) (depthItems l)

/-- How deep containers nest in the members. -/
def depthMembers : List (String × Json) → Nat
  | [] => 0
  | (_, v) :: l => max (depth v) (depthMembers l)

end

mutual

/-- The keys of every object in the value ascend. -/
def InOrder : Json → Prop
  | null => True
  | bool _ => True
  | num _ => True
  | str _ => True
  | arr items => InOrderItems items
  | obj members => Table.Ordered members ∧ InOrderMembers members

/-- The keys of every object in the items ascend. -/
def InOrderItems : List Json → Prop
  | [] => True
  | v :: l => InOrder v ∧ InOrderItems l

/-- The keys of every object in the values of the members ascend. -/
def InOrderMembers : List (String × Json) → Prop
  | [] => True
  | (_, v) :: l => InOrder v ∧ InOrderMembers l

end

theorem depthItems_le_iff : depthItems items ≤ b ↔ ∀ v ∈ items, v.depth ≤ b := by
  induction items with
  | nil => simp [depthItems]
  | cons v l ih => rw [depthItems, Nat.max_le, ih, List.forall_mem_cons]

theorem depthMembers_le_iff : depthMembers members ≤ b ↔ ∀ m ∈ members, m.2.depth ≤ b := by
  induction members with
  | nil => simp [depthMembers]
  | cons m l ih => rw [depthMembers, Nat.max_le, ih, List.forall_mem_cons]

theorem inOrder_arr_iff : (arr items).InOrder ↔ ∀ v ∈ items, v.InOrder := by
  show InOrderItems items ↔ _
  induction items with
  | nil => simp [InOrderItems]
  | cons v l ih => rw [InOrderItems, ih, List.forall_mem_cons]

theorem inOrderMembers_iff : InOrderMembers members ↔ ∀ m ∈ members, m.2.InOrder := by
  induction members with
  | nil => simp [InOrderMembers]
  | cons m l ih => rw [InOrderMembers, ih, List.forall_mem_cons]

theorem inOrder_obj_iff :
    (obj members).InOrder ↔ Table.Ordered members ∧ ∀ m ∈ members, m.2.InOrder := by
  rw [InOrder, inOrderMembers_iff]

theorem exact_arr_iff : (arr items).Exact ↔ ∀ v ∈ items, v.Exact := by
  show ExactItems items ↔ _
  induction items with
  | nil => simp [ExactItems]
  | cons v l ih => rw [ExactItems, ih, List.forall_mem_cons]

mutual

/-- **A value in order stays as it is** when it is put in order. -/
theorem sorted_eq_self (v : Json) (h : v.InOrder) : v.sorted = v := by
  match v, h with
  | null, _ => rfl
  | bool _, _ => rfl
  | num _, _ => rfl
  | str _, _ => rfl
  | arr items, h => rw [sorted, sortedItems_eq_self items h]
  | obj members, h => rw [sorted, sortedMembers_eq_self members h.2, Table.ofList_eq_self h.1]

theorem sortedItems_eq_self (items : List Json) (h : InOrderItems items) :
    sortedItems items = items := by
  match items, h with
  | [], _ => rfl
  | v :: l, h => rw [sortedItems, sorted_eq_self v h.1, sortedItems_eq_self l h.2]

theorem sortedMembers_eq_self (members : List (String × Json)) (h : InOrderMembers members) :
    sortedMembers members = members := by
  match members, h with
  | [], _ => rfl
  | (k, v) :: l, h => rw [sortedMembers, sorted_eq_self v h.1, sortedMembers_eq_self l h.2]

end

/-! ### Reading what was written -/

namespace Document

mutual

/-- **The document of a value is read as the value in order**, if it does not nest too deep. -/
theorem toJson?_ofJson (b : Nat) (v : Json) (h : v.depth ≤ b) :
    toJson? b (ofJson v) = some v.sorted := by
  match b, v, h with
  | _, .null, _ => rw [ofJson, toJson?, sorted]
  | _, .bool _, _ => rw [ofJson, toJson?, sorted]
  | _, .num _, _ => rw [ofJson, toJson?, sorted, Option.map_some]
  | _, .str _, _ => rw [ofJson, toJson?, sorted, Option.map_some]
  | 0, .arr items, h => exact absurd h (Nat.not_succ_le_zero _)
  | b + 1, .arr items, h =>
    rw [ofJson, toJson?, itemsToJson?_ofItems b items (Nat.le_of_succ_le_succ h), sorted]
    rfl
  | 0, .obj members, h => exact absurd h (Nat.not_succ_le_zero _)
  | b + 1, .obj members, h =>
    rw [ofJson, toJson?, membersToJson?_ofMembers b members (Nat.le_of_succ_le_succ h), sorted]
    rfl

theorem itemsToJson?_ofItems (b : Nat) (items : List Json) (h : depthItems items ≤ b) :
    itemsToJson? b (ofItems items) = some (sortedItems items) := by
  match items, h with
  | [], _ => rfl
  | v :: l, h =>
    rw [depthItems, Nat.max_le] at h
    rw [ofItems, itemsToJson?, toJson?_ofJson b v h.1, itemsToJson?_ofItems b l h.2]
    rfl

theorem membersToJson?_ofMembers (b : Nat) (members : List (String × Json))
    (h : depthMembers members ≤ b) :
    membersToJson? b (ofMembers members) = some (sortedMembers members) := by
  match members, h with
  | [], _ => rfl
  | (k, v) :: l, h =>
    rw [depthMembers, Nat.max_le] at h
    simp only [ofMembers, membersToJson?, toJson?_ofJson b v h.1, membersToJson?_ofMembers b l h.2,
      sortedMembers]

end

end Document

/-! ### Values that can be read -/

/-- **The value can be read as a generic one below so many levels** once it is written: it does not nest
too deep, and all its numbers are integers. -/
structure Fits (b : Nat) (v : Json) : Prop where
  depth_le : v.depth ≤ b
  exact : v.Exact

/-- **Reading a generic value undoes writing it**, but for the order of members. -/
theorem Fits.read?_compact (h : Fits Document.maxDepth v) :
    read? (Bytes.ofString v.compact) = some v.sorted := by
  rw [read?, Document.read?_compact h.exact, Option.bind_some,
    Document.toJson?_ofJson Document.maxDepth v h.depth_le]

theorem Fits.mono {c : Nat} (h : Fits b v) (hle : b ≤ c) : Fits c v :=
  ⟨Nat.le_trans h.depth_le hle, h.exact⟩

theorem fits_str (b : Nat) (s : String) : Fits b (str s) :=
  ⟨Nat.zero_le b, trivial⟩

theorem fits_arr_iff : Fits (b + 1) (arr items) ↔ ∀ v ∈ items, Fits b v := by
  constructor
  · intro h v hv
    have hdepth : depthItems items ≤ b := Nat.le_of_succ_le_succ h.depth_le
    exact ⟨depthItems_le_iff.mp hdepth v hv, exact_arr_iff.mp h.exact v hv⟩
  · intro h
    exact ⟨Nat.succ_le_succ (depthItems_le_iff.mpr fun v hv => (h v hv).depth_le),
      exact_arr_iff.mpr fun v hv => (h v hv).exact⟩

theorem fits_obj_iff : Fits (b + 1) (obj members) ↔ ∀ m ∈ members, Fits b m.2 := by
  constructor
  · intro h m hm
    have hdepth : depthMembers members ≤ b := Nat.le_of_succ_le_succ h.depth_le
    exact ⟨depthMembers_le_iff.mp hdepth m hm, (exact_obj_iff members).mp h.exact m hm⟩
  · intro h
    exact ⟨Nat.succ_le_succ (depthMembers_le_iff.mpr fun m hm => (h m hm).depth_le),
      (exact_obj_iff members).mpr fun m hm => (h m hm).exact⟩

/-- A record fits if each of its fields that has a value does. -/
theorem fits_present {fields : List (String × Option Json)}
    (h : ∀ f ∈ fields, ∀ v ∈ f.2, Fits b v) : Fits (b + 1) (obj (present fields)) := by
  refine fits_obj_iff.mpr fun m hm => ?_
  obtain ⟨f, hf, hmember⟩ := List.mem_filterMap.mp hm
  obtain ⟨v, hv, rfl⟩ := Option.map_eq_some_iff.mp hmember
  exact h f hf v hv

/-! ### Values that are kept -/

/-- **The value can be kept below so many levels**: it can be read, and its objects are in order. -/
structure Kept (b : Nat) (v : Json) : Prop extends Fits b v where
  inOrder : v.InOrder

/-- What is kept is read as it is. -/
theorem Kept.toJson?_ofJson (h : Kept b v) : Document.toJson? b (.ofJson v) = some v := by
  rw [Document.toJson?_ofJson b v h.depth_le, sorted_eq_self v h.inOrder]

/-- What is kept in an object is read as it is. -/
theorem Kept.membersToJson?_ofMembers (h : Kept (b + 1) (obj members)) :
    Document.membersToJson? b (Document.ofMembers members) = some members := by
  have hdepth : depthMembers members ≤ b := Nat.le_of_succ_le_succ h.depth_le
  rw [Document.membersToJson?_ofMembers b members hdepth, sortedMembers_eq_self members h.inOrder.2]

theorem kept_str (b : Nat) (s : String) : Kept b (str s) :=
  ⟨fits_str b s, trivial⟩

theorem kept_obj_iff :
    Kept (b + 1) (obj members) ↔ Table.Ordered members ∧ ∀ m ∈ members, Kept b m.2 := by
  constructor
  · intro h
    obtain ⟨hordered, hvalues⟩ := inOrder_obj_iff.mp h.inOrder
    exact ⟨hordered, fun m hm => ⟨fits_obj_iff.mp h.toFits m hm, hvalues m hm⟩⟩
  · rintro ⟨hordered, h⟩
    exact ⟨fits_obj_iff.mpr fun m hm => (h m hm).toFits,
      inOrder_obj_iff.mpr ⟨hordered, fun m hm => (h m hm).inOrder⟩⟩

/-- An object is still kept when a value that is kept is written into it. -/
theorem Kept.insert (h : Kept (b + 1) (obj members)) (hv : Kept b v) (k : String) :
    Kept (b + 1) (obj (Table.insert k v members)) := by
  obtain ⟨hordered, hmembers⟩ := kept_obj_iff.mp h
  refine kept_obj_iff.mpr ⟨hordered.insert k v, fun m hm => ?_⟩
  rcases Table.eq_or_mem_of_mem_insert hm with rfl | hm
  · exact hv
  · exact hmembers m hm

/-! ### Documents of integers -/

namespace Document

mutual

/-- All numbers in the document are integers of 64 bits. -/
def Exact : Document → Prop
  | null => True
  | bool _ => True
  | num value => ∃ n, value = some n ∧ n.Exact
  | str _ => True
  | arr items => ExactItems items
  | obj members => ExactMembers members

/-- All numbers in the items are integers. -/
def ExactItems : List Document → Prop
  | [] => True
  | d :: l => Exact d ∧ ExactItems l

/-- All numbers in the members are integers. -/
def ExactMembers : List (Option String × Document) → Prop
  | [] => True
  | (_, d) :: l => Exact d ∧ ExactMembers l

end

theorem exactItems_iff {items : List Document} : ExactItems items ↔ ∀ d ∈ items, d.Exact := by
  induction items with
  | nil => simp [ExactItems]
  | cons d l ih => rw [ExactItems, ih, List.forall_mem_cons]

theorem exactMembers_iff {members : List (Option String × Document)} :
    ExactMembers members ↔ ∀ m ∈ members, m.2.Exact := by
  induction members with
  | nil => simp [ExactMembers]
  | cons m l ih => rw [ExactMembers, ih, List.forall_mem_cons]

/-- Every member that was read has its key from the document. -/
theorem exists_mem_of_membersToJson? {members : List (Option String × Document)}
    {values : List (String × Json)} (h : membersToJson? b members = some values) :
    ∀ e ∈ values, ∃ m ∈ members, m.1 = some e.1 := by
  induction members generalizing values with
  | nil =>
    cases h
    simp
  | cons m l ih =>
    unfold membersToJson? at h
    split at h
    · rename_i k v rest hkey hv hrest
      cases h
      refine List.forall_mem_cons.mpr ⟨⟨m, List.mem_cons_self, hkey⟩, fun e he => ?_⟩
      obtain ⟨m', hm', hkey'⟩ := ih hrest e he
      exact ⟨m', List.mem_cons_of_mem m hm', hkey'⟩
    · cases h

/-- What is found under a name is the value of a member. -/
theorem exists_mem_of_field? {members : List (Option String × Document)} {names : List String}
    {d : Document} (h : field? members names = some (some d)) : ∃ m ∈ members, m.2 = d := by
  have hnamed : d ∈ named names members := by
    unfold field? at h
    split at h
    · cases h
    · rename_i e hone
      cases h
      rw [hone]
      exact List.mem_singleton_self d
    · cases h
  obtain ⟨m, hm, hd⟩ := List.mem_filterMap.mp hnamed
  refine ⟨m, hm, ?_⟩
  split at hd
  · split at hd
    · exact Option.some.inj hd
    · cases hd
  · cases hd

/-- The fields of a record of integers are documents of integers. -/
theorem exact_of_record? {members : List (Option String × Document)} {fields : List (List String)}
    {values : List (Option Document)} (exact : (obj members).Exact)
    (h : (obj members).record? fields = some values) {d : Document} (hd : some d ∈ values) :
    d.Exact := by
  rw [record?] at h
  split at h
  · obtain ⟨names, -, hfield⟩ := (exists_of_mapM_eq_some h).2 (some d) hd
    obtain ⟨m, hm, rfl⟩ := exists_mem_of_field? hfield
    exact exactMembers_iff.mp exact m hm
  · cases h

end Document

open Document in
mutual

/-- **What is read of a document** nests no deeper than allowed and is in order, and it has integers
only if the document does. -/
theorem settled_of_toJson? (b : Nat) (d : Document) (v : Json) (h : toJson? b d = some v) :
    v.depth ≤ b ∧ v.InOrder ∧ (d.Exact → v.Exact) := by
  match b, d, h with
  | b, .null, h =>
    cases h
    exact ⟨Nat.zero_le b, trivial, id⟩
  | b, .bool _, h =>
    cases h
    exact ⟨Nat.zero_le b, trivial, id⟩
  | b, .num value, h =>
    rw [toJson?] at h
    obtain ⟨n, rfl, rfl⟩ := Option.map_eq_some_iff.mp h
    refine ⟨Nat.zero_le b, trivial, ?_⟩
    rintro ⟨m, heq, hm⟩
    cases heq
    exact hm
  | b, .str _, h =>
    rw [toJson?] at h
    obtain ⟨s, -, rfl⟩ := Option.map_eq_some_iff.mp h
    exact ⟨Nat.zero_le b, trivial, fun _ => trivial⟩
  | 0, .arr _, h => cases h
  | b + 1, .arr items, h =>
    rw [toJson?] at h
    obtain ⟨values, hvalues, rfl⟩ := Option.map_eq_some_iff.mp h
    have hall := settled_of_itemsToJson? b items values hvalues
    exact ⟨Nat.succ_le_succ (depthItems_le_iff.mpr fun v hv => (hall v hv).1),
      inOrder_arr_iff.mpr fun v hv => (hall v hv).2.1,
      fun exact => exact_arr_iff.mpr fun v hv => (hall v hv).2.2 exact⟩
  | 0, .obj _, h => cases h
  | b + 1, .obj members, h =>
    rw [toJson?] at h
    obtain ⟨values, hvalues, rfl⟩ := Option.map_eq_some_iff.mp h
    have hall : ∀ m ∈ Table.ofList values, _ := fun m hm =>
      settled_of_membersToJson? b members values hvalues m (Table.mem_of_mem_ofList hm)
    exact ⟨Nat.succ_le_succ (depthMembers_le_iff.mpr fun m hm => (hall m hm).1),
      inOrder_obj_iff.mpr ⟨Table.ordered_ofList values, fun m hm => (hall m hm).2.1⟩,
      fun exact => (exact_obj_iff _).mpr fun m hm => (hall m hm).2.2 exact⟩

theorem settled_of_itemsToJson? (b : Nat) (items : List Document) (values : List Json)
    (h : itemsToJson? b items = some values) :
    ∀ v ∈ values, v.depth ≤ b ∧ v.InOrder ∧ (Document.ExactItems items → v.Exact) := by
  match items, h with
  | [], h =>
    cases h
    simp
  | d :: l, h =>
    rw [itemsToJson?] at h
    split at h
    · rename_i v rest hv hrest
      cases h
      obtain ⟨hdepth, horder, hexact⟩ := settled_of_toJson? b d v hv
      refine List.forall_mem_cons.mpr ⟨⟨hdepth, horder, fun exact => hexact exact.1⟩, ?_⟩
      intro w hw
      obtain ⟨hdepth, horder, hexact⟩ := settled_of_itemsToJson? b l rest hrest w hw
      exact ⟨hdepth, horder, fun exact => hexact exact.2⟩
    · cases h

theorem settled_of_membersToJson? (b : Nat) (members : List (Option String × Document))
    (values : List (String × Json)) (h : membersToJson? b members = some values) :
    ∀ m ∈ values, m.2.depth ≤ b ∧ m.2.InOrder ∧ (Document.ExactMembers members → m.2.Exact) := by
  match members, h with
  | [], h =>
    cases h
    simp
  | (key, d) :: l, h =>
    unfold membersToJson? at h
    split at h
    · rename_i k v rest hv hrest
      cases h
      obtain ⟨hdepth, horder, hexact⟩ := settled_of_toJson? b d v hv
      refine List.forall_mem_cons.mpr ⟨⟨hdepth, horder, fun exact => hexact exact.1⟩, ?_⟩
      intro m hm
      obtain ⟨hdepth, horder, hexact⟩ := settled_of_membersToJson? b l rest hrest m hm
      exact ⟨hdepth, horder, fun exact => hexact exact.2⟩
    · cases h

end

/-- **What is read of a document of integers is kept.** -/
theorem kept_of_toJson? (b : Nat) (d : Document) (exact : d.Exact) (v : Json)
    (h : Document.toJson? b d = some v) : Kept b v := by
  obtain ⟨hdepth, horder, hexact⟩ := settled_of_toJson? b d v h
  exact ⟨⟨hdepth, hexact exact⟩, horder⟩

/-- **What was read is read again as it is**, whatever the numbers in it are. -/
theorem toJson?_ofJson_of_toJson? {d : Document} (h : Document.toJson? b d = some v) :
    Document.toJson? b (.ofJson v) = some v := by
  obtain ⟨hdepth, horder, -⟩ := settled_of_toJson? b d v h
  rw [Document.toJson?_ofJson b v hdepth, sorted_eq_self v horder]

end Json

end PodNet
