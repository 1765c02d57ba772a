import PodNet.Annotation
import PodNet.Proofs.Json.RoundTrip

/-!
# Records that are written are read back

A record is written as an object with a member for each field, and fields without a value are left
out. Reading asks for the fields by their names, so it finds what was written as long as no two
fields have the same name (`record?_of_subset`). The entries of a status and the name service settings
in them are records of that kind (`NetworkStatus.ofDocument?_toJson`), and so a status that is
written is read back as a whole (`NetworkStatus.listOfBytes?_pretty`).
-/

namespace PodNet

namespace Json

/-- The members of the fields that have a value. -/
def present (fields : List (String × Option Json)) : List (String × Json) :=
  fields.filterMap fun f => f.2.map fun v => (f.1, v)

theorem present_append (fields more : List (String × Option Json)) :
    present fields ++ present more = present (fields ++ more) :=
  List.filterMap_append.symm

theorem textMember_eq (key s : String) :
    textMember key s = present [(key, if s = "" then none else some (.str s))] := by
  unfold textMember
  split <;> rfl

theorem listMember_eq (key : String) (l : List String) :
    listMember key l = present [(key, if l.isEmpty then none else some (strings l))] := by
  unfold listMember
  split <;> rfl

theorem optionalMember_eq (key : String) (s : Option String) :
    optionalMember key s = present [(key, s.map .str)] := by
  cases s <;> rfl

namespace Document

theorem named_cons (key k : String) (d : Document) (members : List (Option String × Document)) :
    named [key] ((some k, d) :: members) =
      if k = key then d :: named [key] members else named [key] members := by
  unfold named
  rw [List.filterMap_cons]
  by_cases h : k = key
  · simp [h]
  · simp [h]

/-- What is found under a name, field by field. -/
theorem named_present_cons (key k : String) (value : Option Json)
    (rest : List (String × Option Json)) :
    named [key] (ofMembers (present ((k, value) :: rest))) =
      (if k = key then (value.map ofJson).toList else []) ++
        named [key] (ofMembers (present rest)) := by
  cases value with
  | none => simp [present]
  | some v =>
    show named [key] ((some k, ofJson v) :: ofMembers (present rest)) = _
    rw [named_cons]
    split <;> rfl

theorem named_present_of_not_mem {fields : List (String × Option Json)} {key : String}
    (h : key ∉ fields.map Prod.fst) : named [key] (ofMembers (present fields)) = [] := by
  induction fields with
  | nil => rfl
  | cons f rest ih =>
    rw [List.map_cons, List.mem_cons, not_or] at h
    rw [named_present_cons, if_neg (Ne.symm h.1), ih h.2]
    rfl

/-- Under the name of a field its value is found, when no other field has the name. -/
theorem named_present {fields : List (String × Option Json)} (h : (fields.map Prod.fst).Nodup)
    {f : String × Option Json} (hf : f ∈ fields) :
    named [f.1] (ofMembers (present fields)) = (f.2.map ofJson).toList := by
  induction fields with
  | nil => cases hf
  | cons g rest ih =>
    rw [List.map_cons, List.nodup_cons] at h
    rw [named_present_cons]
    rcases List.mem_cons.mp hf with rfl | hf
    · rw [if_pos rfl, named_present_of_not_mem h.1, List.append_nil]
    · have hne : g.1 ≠ f.1 := fun heq => h.1 (heq ▸ List.mem_map_of_mem hf)
      rw [if_neg hne, List.nil_append, ih h.2 hf]

theorem ofMembers_eq_map (members : List (String × Json)) :
    ofMembers members = members.map fun m => (some m.1, ofJson m.2) := by
  induction members with
  | nil => rfl
  | cons m rest ih =>
    obtain ⟨k, v⟩ := m
    rw [ofMembers, ih, List.map_cons]

/-- **Of a record the fields that are asked for are read**, in whatever order its members stand, when
no two fields have the same name. -/
theorem record?_of_subset {fields asked : List (String × Option Json)}
    (h : (fields.map Prod.fst).Nodup) (hsub : asked ⊆ fields) {members : List (String × Json)}
    (hperm : members.Perm (present fields)) :
    record? (asked.map fun f => [f.1]) (ofJson (.obj members)) =
      some (asked.map fun f => f.2.map ofJson) := by
  have hfield : ∀ f ∈ fields, field? (ofMembers members) [f.1] = some (f.2.map ofJson) := by
    intro f hf
    have hnamed : (named [f.1] (ofMembers members)).Perm (f.2.map ofJson).toList := by
      rw [← named_present h hf, ofMembers_eq_map, ofMembers_eq_map]
      exact (hperm.map _).filterMap _
    rw [field?]
    cases hvalue : f.2.map ofJson with
    | none =>
      rw [hvalue] at hnamed
      rw [List.perm_nil.mp hnamed]
    | some d =>
      rw [hvalue] at hnamed
      rw [List.perm_singleton.mp hnamed]
  have hfields : (asked.map fun f => [f.1]).mapM (field? (ofMembers members)) =
      some (asked.map fun f => f.2.map ofJson) := by
    induction asked with
    | nil => rfl
    | cons f rest ih =>
      rw [List.cons_subset] at hsub
      rw [List.map_cons, List.mapM_cons, hfield f hsub.1, ih hsub.2]
      rfl
  have hkeys : ((ofMembers members).all fun m => m.1.isSome) = true := by
    simp [ofMembers_eq_map]
  show (if ((ofMembers members).all fun m => m.1.isSome) = true then _ else none) = _
  rw [if_pos hkeys]
  exact hfields

/-- **A record is read as its fields**, in whatever order its members stand. -/
theorem record?_of_perm {fields : List (String × Option Json)} (h : (fields.map Prod.fst).Nodup)
    {members : List (String × Json)} (hperm : members.Perm (present fields)) :
    record? (fields.map fun f => [f.1]) (ofJson (.obj members)) =
      some (fields.map fun f => f.2.map ofJson) :=
  record?_of_subset h (List.Subset.refl _) hperm

/-- A record that was written is read as its fields. -/
theorem record?_present (fields : List (String × Option Json)) (h : (fields.map Prod.fst).Nodup) :
    record? (fields.map fun f => [f.1]) (ofJson (.obj (present fields))) =
      some (fields.map fun f => f.2.map ofJson) :=
  record?_of_perm h (.refl _)

theorem lt_of_nat? {bits n : Nat} {d : Document} (h : nat? bits d = some n) : n < Nat.pow 2 bits := by
  unfold nat? at h
  split at h
  · split at h
    · rename_i hbound
      cases h
      exact of_decide_eq_true (Bool.and_eq_true_iff.mp hbound).2
    · cases h
  · cases h

theorem nat?_nat {bits n : Nat} (h : n < Nat.pow 2 bits) : nat? bits (ofJson (.nat n)) = some n := by
  have hbound : (decide (0 ≤ (n : Int)) && decide ((n : Int).toNat < Nat.pow 2 bits)) = true := by
    rw [Int.toNat_natCast, decide_eq_true h, Bool.and_true]
    exact decide_eq_true (Int.natCast_nonneg n)
  exact if_pos hbound

/-- A list of records that was written is read record by record. -/
theorem list?_ofItems {α : Type} (read : Document → Option α) (write : α → Json) (l : List α)
    (h : ∀ a ∈ l, read (ofJson (write a)) = some a) :
    list? read (ofJson (.arr (l.map write))) = some l := by
  show (ofItems (l.map write)).mapM read = some l
  induction l with
  | nil => rfl
  | cons a l ih =>
    obtain ⟨ha, hrest⟩ := List.forall_mem_cons.mp h
    rw [List.map_cons, ofItems, List.mapM_cons, ha, ih hrest]
    rfl

end Document

/-! ### Records without numbers -/

theorem exactItems_map {α : Type} (write : α → Json) (h : ∀ a, (write a).Exact) (l : List α) :
    ExactItems (l.map write) := by
  induction l with
  | nil => trivial
  | cons a l ih => exact ⟨h a, ih⟩

theorem exact_str (s : String) : (str s).Exact :=
  trivial

theorem exact_strings (l : List String) : (strings l).Exact :=
  exactItems_map str exact_str l

theorem exact_present {fields : List (String × Option Json)}
    (h : ∀ f ∈ fields, ∀ v, f.2 = some v → v.Exact) : (obj (present fields)).Exact := by
  show ExactMembers (present fields)
  induction fields with
  | nil => trivial
  | cons f rest ih =>
    obtain ⟨hf, hrest⟩ := List.forall_mem_cons.mp h
    obtain ⟨k, value⟩ := f
    cases value with
    | none => exact ih hrest
    | some v => exact ⟨hf v rfl, ih hrest⟩

theorem exact_obj_iff (members : List (String × Json)) :
    (obj members).Exact ↔ ∀ m ∈ members, m.2.Exact := by
  show ExactMembers members ↔ _
  induction members with
  | nil => simp [ExactMembers]
  | cons m rest ih => rw [ExactMembers, ih, List.forall_mem_cons]

/-- The order of the members does not matter. -/
theorem exact_obj_congr {members others : List (String × Json)} (h : members.Perm others) :
    (obj members).Exact ↔ (obj others).Exact := by
  rw [exact_obj_iff, exact_obj_iff]
  exact forall_congr' fun m => by rw [h.mem_iff]

/-- A field that is left out or written needs to be looked at when it is written only. -/
theorem exact_of_ite {p : Prop} [Decidable p] {w v : Json} (hw : w.Exact)
    (h : (if p then none else some w) = some v) : v.Exact := by
  split at h
  · cases h
  · cases h
    exact hw

end Json

open Json (present)

open Json.Document (ofJson)

/-! ### Fields that may be missing -/

theorem texts?_strings (l : List String) : Dns.texts? (ofJson (Json.strings l)) = some l :=
  Json.Document.list?_ofItems _ _ l fun _ _ => rfl

theorem withDefault_texts (l : List String) :
    Json.Document.withDefault [] Dns.texts?
      ((if l.isEmpty then none else some (Json.strings l)).map ofJson) = some l := by
  cases l with
  | nil => rfl
  | cons s l => exact texts?_strings (s :: l)

theorem withDefault_text (s : String) :
    Json.Document.withDefault "" Json.Document.text?
      ((if s = "" then none else some (Json.str s)).map ofJson) = some s := by
  split
  · rename_i h
    rw [h]
    rfl
  · rfl

theorem withDefault_textOrNull (s : Option String) :
    Json.Document.withDefault none Json.Document.textOrNull? ((s.map Json.str).map ofJson) =
      some s := by
  cases s <;> rfl

/-! ### Name service settings -/

namespace Dns

/-- The settings as fields. -/
def fields (d : Dns) : List (String × Option Json) :=
  [("nameservers", if d.nameservers.isEmpty then none else some (Json.strings d.nameservers)),
    ("domain", d.domain.map .str),
    ("search", if d.search.isEmpty then none else some (Json.strings d.search)),
    ("options", if d.options.isEmpty then none else some (Json.strings d.options))]

theorem toJson_eq (d : Dns) : d.toJson = .obj (present d.fields) := by
  rw [toJson, Json.listMember_eq, Json.optionalMember_eq, Json.listMember_eq, Json.listMember_eq,
    Json.present_append, Json.present_append, Json.present_append]
  rfl

/-- A document with the fields of the settings is read as the settings. -/
theorem ofDocument?_of_record {d : Dns} {document : Json.Document}
    (h : document.record? [["nameservers"], ["domain"], ["search"], ["options"]] =
      some (d.fields.map fun f => f.2.map ofJson)) : ofDocument? document = some d := by
  rw [ofDocument?, h]
  simp only [fields, List.map_cons, List.map_nil, Option.bind_eq_bind, Option.bind_some,
    withDefault_texts, withDefault_textOrNull]
  rfl

/-- **Settings that were written are read back.** -/
theorem ofDocument?_toJson (d : Dns) : ofDocument? (ofJson d.toJson) = some d := by
  rw [toJson_eq]
  exact ofDocument?_of_record (Json.Document.record?_present d.fields (by simp [fields]))

theorem exact_toJson (d : Dns) : d.toJson.Exact := by
  rw [toJson_eq]
  refine Json.exact_present fun f hf v hv => ?_
  simp only [fields, List.mem_cons, List.not_mem_nil, or_false] at hf
  rcases hf with rfl | rfl | rfl | rfl
  · exact Json.exact_of_ite (Json.exact_strings _) hv
  · obtain ⟨s, -, rfl⟩ := Option.map_eq_some_iff.mp hv
    exact Json.exact_str s
  · exact Json.exact_of_ite (Json.exact_strings _) hv
  · exact Json.exact_of_ite (Json.exact_strings _) hv

theorem eq_empty_of_isEmpty {d : Dns} (h : d.isEmpty = true) : d = empty := by
  obtain ⟨nameservers, domain, search, options⟩ := d
  simp only [isEmpty, Bool.and_eq_true, List.isEmpty_iff, Option.isNone_iff_eq_none] at h
  obtain ⟨⟨⟨rfl, rfl⟩, rfl⟩, rfl⟩ := h
  rfl

theorem member_eq (d : Dns) :
    d.member = present [("dns", if d.isEmpty then none else some d.toJson)] := by
  unfold member
  split <;> rfl

theorem withDefault_member (d : Dns) :
    Json.Document.withDefault .empty ofDocument?
      ((if d.isEmpty then none else some d.toJson).map ofJson) = some d := by
  split
  · rename_i h
    rw [eq_empty_of_isEmpty h]
    rfl
  · exact ofDocument?_toJson d

end Dns

/-! ### Entries of a status -/

namespace NetworkStatus

/-- The entry as fields. -/
def fields (s : NetworkStatus) : List (String × Option Json) :=
  [("name", some (.str s.name)),
    ("interface", if s.interface = "" then none else some (.str s.interface)),
    ("ips", if s.ips.isEmpty then none else some (Json.strings s.ips)),
    ("mac", if s.mac = "" then none else some (.str s.mac)), ("default", some (.bool s.default)),
    ("dns", if s.dns.isEmpty then none else some s.dns.toJson)]

theorem toJson_eq (s : NetworkStatus) : s.toJson = .obj (present s.fields) := by
  have hname : [("name", Json.str s.name)] = present [("name", some (Json.str s.name))] := rfl
  have hdefault : [("default", Json.bool s.default)] =
      present [("default", some (Json.bool s.default))] := rfl
  rw [toJson, hname, hdefault, Json.textMember_eq, Json.listMember_eq, Json.textMember_eq,
    Dns.member_eq, Json.present_append, Json.present_append, Json.present_append,
    Json.present_append, Json.present_append]
  rfl

/-- **An entry that was written is read back.** -/
theorem ofDocument?_toJson (s : NetworkStatus) : ofDocument? (ofJson s.toJson) = some s := by
  have hrecord : Json.Document.record?
      [["name"], ["interface"], ["ips"], ["mac"], ["default"], ["dns"]] (ofJson s.toJson) =
        some (s.fields.map fun f => f.2.map ofJson) := by
    rw [toJson_eq]
    exact Json.Document.record?_present s.fields (by simp [fields])
  rw [ofDocument?, hrecord]
  simp only [fields, List.map_cons, List.map_nil, Option.bind_eq_bind, Option.bind_some,
    withDefault_texts, withDefault_text, Dns.withDefault_member]
  rfl

theorem exact_toJson (s : NetworkStatus) : s.toJson.Exact := by
  rw [toJson_eq]
  refine Json.exact_present fun f hf v hv => ?_
  simp only [fields, List.mem_cons, List.not_mem_nil, or_false] at hf
  rcases hf with rfl | rfl | rfl | rfl | rfl | rfl
  · cases hv
    trivial
  · exact Json.exact_of_ite (Json.exact_str _) hv
  · exact Json.exact_of_ite (Json.exact_strings _) hv
  · exact Json.exact_of_ite (Json.exact_str _) hv
  · cases hv
    trivial
  · exact Json.exact_of_ite s.dns.exact_toJson hv

end NetworkStatus

end PodNet
