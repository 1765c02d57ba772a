import PodNet.AddResult
import PodNet.Proofs.Json.Records
import PodNet.Proofs.Pieces
import PodNet.Proofs.Tables

/-!
# Results that are handed on are read back

Between two plugins a result is a generic value, with every object in the order of its keys. The
order makes no difference to reading a record (`Json.record?_sorted`), so what was handed on is read
as the same result (`AddResult.ofValue_toValue`), as long as positions of interfaces are numbers that
can be read. Those of a result that was read are (`AddResult.positioned_of_ofBytes`).
-/

namespace PodNet

namespace Json

/-! ### Values in order -/

theorem sortedItems_eq_map (items : List Json) : sortedItems items = items.map sorted := by
  induction items with
  | nil => rfl
  | cons v l ih => rw [sortedItems, ih, List.map_cons]

theorem sorted_str (s : String) : (str s).sorted = str s := rfl

theorem sorted_arr_map {α : Type} (write : α → Json) (l : List α) :
    (arr (l.map write)).sorted = arr (l.map fun a => (write a).sorted) := by
  rw [sorted, sortedItems_eq_map, List.map_map]
  rfl

theorem sorted_strings (l : List String) : (strings l).sorted = strings l :=
  sorted_arr_map str l

theorem sortedMembers_present (fields : List (String × Option Json)) :
    sortedMembers (present fields) = present (fields.map fun f => (f.1, f.2.map sorted)) := by
  induction fields with
  | nil => rfl
  | cons f rest ih =>
    obtain ⟨k, value⟩ := f
    cases value with
    | none => exact ih
    | some v => exact congrArg ((k, v.sorted) :: ·) ih

/-- The names of the members are among those of the fields. -/
theorem keys_present_sublist (fields : List (String × Option Json)) :
    ((present fields).map Prod.fst).Sublist (fields.map Prod.fst) := by
  induction fields with
  | nil => exact .slnil
  | cons f rest ih =>
    obtain ⟨k, value⟩ := f
    cases value with
    | none => exact ih.cons k
    | some v => exact ih.cons_cons k

/-- **A record in the order of its keys is read as its fields**, each in order itself. -/
theorem record?_sorted (fields : List (String × Option Json)) (h : (fields.map Prod.fst).Nodup) :
    Document.record? (fields.map fun f => [f.1]) (.ofJson (obj (present fields)).sorted) =
      some (fields.map fun f => (f.2.map sorted).map Document.ofJson) := by
  let ordered := fields.map fun f => (f.1, f.2.map sorted)
  have hkeys : (ordered.map Prod.fst).Nodup := by
    simpa [ordered, Function.comp_def] using h
  have hperm := Table.ofList_perm (hkeys.sublist (keys_present_sublist ordered))
  have hread := Document.record?_of_perm hkeys hperm
  rw [sorted, sortedMembers_present]
  simpa [ordered, Function.comp_def] using hread

/-! ### Fields in order -/

theorem map_sorted_text (s : String) :
    (if s = "" then none else some (str s)).map sorted = if s = "" then none else some (str s) := by
  split <;> rfl

theorem map_sorted_texts (l : List String) :
    (if l.isEmpty then none else some (strings l)).map sorted =
      if l.isEmpty then none else some (strings l) := by
  split
  · rfl
  · rw [Option.map_some, sorted_strings]

theorem map_sorted_optional (s : Option String) : (s.map str).map sorted = s.map str := by
  cases s <;> rfl

end Json

open Json (present)

open Json.Document (ofJson)

/-! ### Fields that were read -/

/-- A field that was read has its default value, or was read from what stands there. -/
theorem Json.Document.of_withDefault {α : Type} {default : α} {read : Json.Document → Option α}
    {field : Option Json.Document} {a : α} (h : withDefault default read field = some a) :
    a = default ∨ ∃ d, read d = some a := by
  cases field with
  | none => exact .inl (Option.some.inj h).symm
  | some d => exact .inr ⟨d, h⟩

/-- Every record of a list that was read was read itself. -/
theorem Json.Document.exists_of_mem_list? {α : Type} {read : Json.Document → Option α}
    {d : Json.Document} {l : List α} (h : list? read d = some l) :
    ∀ a ∈ l, ∃ item, read item = some a := by
  unfold list? at h
  split at h
  · intro a ha
    obtain ⟨item, -, hitem⟩ := (exists_of_mapM_eq_some h).2 a ha
    exact ⟨item, hitem⟩
  · cases h

/-! ### The records of a result -/

theorem Dns.ofDocument?_sorted (d : Dns) : ofDocument? (ofJson d.toJson.sorted) = some d := by
  rw [toJson_eq]
  have hrecord := Json.record?_sorted d.fields (by simp [fields])
  refine ofDocument?_of_record (hrecord.trans ?_)
  simp only [fields, List.map_cons, List.map_nil, Json.map_sorted_texts, Json.map_sorted_optional]

namespace Interface

/-- The interface as fields. -/
def fields (i : Interface) : List (String × Option Json) :=
  [("name", some (.str i.name)), ("mac", if i.mac = "" then none else some (.str i.mac)),
    ("sandbox", if i.sandbox = "" then none else some (.str i.sandbox))]

theorem toJson_eq (i : Interface) : i.toJson = .obj (present i.fields) := by
  have hname : [("name", Json.str i.name)] = present [("name", some (Json.str i.name))] := rfl
  rw [toJson, hname, Json.textMember_eq, Json.textMember_eq, Json.present_append,
    Json.present_append]
  rfl

theorem ofDocument?_sorted (i : Interface) : ofDocument? (ofJson i.toJson.sorted) = some i := by
  have hrecord := Json.record?_sorted i.fields (by simp [fields])
  simp only [fields, List.map_cons, List.map_nil, Option.map_some, Json.sorted_str,
    Json.map_sorted_text] at hrecord
  rw [toJson_eq, ofDocument?, fields, hrecord]
  simp only [Option.bind_eq_bind, Option.bind_some, withDefault_text]
  rfl

end Interface

namespace Route

/-- The route as fields. -/
def fields (r : Route) : List (String × Option Json) :=
  [("dst", some (.str r.dst)), ("gw", r.gw.map .str)]

theorem toJson_eq (r : Route) : r.toJson = .obj (present r.fields) := by
  have hdst : [("dst", Json.str r.dst)] = present [("dst", some (Json.str r.dst))] := rfl
  rw [toJson, hdst, Json.optionalMember_eq, Json.present_append]
  rfl

theorem ofDocument?_sorted (r : Route) : ofDocument? (ofJson r.toJson.sorted) = some r := by
  have hrecord := Json.record?_sorted r.fields (by simp [fields])
  simp only [fields, List.map_cons, List.map_nil, Option.map_some, Json.sorted_str,
    Json.map_sorted_optional] at hrecord
  rw [toJson_eq, ofDocument?, fields, hrecord]
  simp only [Option.bind_eq_bind, Option.bind_some, withDefault_textOrNull]
  rfl

end Route

namespace IpConfig

/-- The position of the interface, if there is one, is a number that can be read. -/
def Positioned (ip : IpConfig) : Prop :=
  ∀ n, ip.interface = some n → n < Nat.pow 2 64

/-- The address as fields. -/
def fields (ip : IpConfig) : List (String × Option Json) :=
  [("version", ip.version.map .str), ("address", some (.str ip.address)),
    ("gateway", ip.gateway.map .str), ("interface", ip.interface.map Json.nat)]

theorem toJson_eq (ip : IpConfig) : ip.toJson = .obj (present ip.fields) := by
  have haddress : [("address", Json.str ip.address)] =
      present [("address", some (Json.str ip.address))] := rfl
  have hinterface : (ip.interface.map fun n => ("interface", Json.nat n)).toList =
      present [("interface", ip.interface.map Json.nat)] := by
    cases ip.interface <;> rfl
  rw [toJson, haddress, hinterface, Json.optionalMember_eq, Json.optionalMember_eq,
    Json.present_append, Json.present_append, Json.present_append]
  rfl

theorem withDefault_position {position : Option Nat} (h : ∀ n, position = some n → n < Nat.pow 2 64) :
    Json.Document.withDefault none position? (((position.map Json.nat).map Json.sorted).map ofJson) =
      some position := by
  cases position with
  | none => rfl
  | some n =>
    have hread : Json.Document.nat? 64 (ofJson (Json.nat n)) = some n := by
      show (if (0 : Int) ≤ n && (n : Int).toNat < Nat.pow 2 64 then some (n : Int).toNat else none) = _
      simp only [Int.toNat_natCast]
      rw [if_pos (by simp [h n rfl])]
    show (Json.Document.nat? 64 (ofJson (Json.nat n))).map some = _
    rw [hread, Option.map_some]

theorem ofDocument?_sorted {ip : IpConfig} (h : ip.Positioned) :
    ofDocument? (ofJson ip.toJson.sorted) = some ip := by
  have hrecord := Json.record?_sorted ip.fields (by simp [fields])
  simp only [fields, List.map_cons, List.map_nil, Json.map_sorted_optional] at hrecord
  rw [toJson_eq, ofDocument?, fields, hrecord]
  simp only [Option.bind_eq_bind, Option.bind_some, withDefault_textOrNull, withDefault_position h]
  rfl

theorem position?_lt {d : Json.Document} {position : Option Nat} (h : position? d = some position) :
    ∀ n, position = some n → n < Nat.pow 2 64 := by
  rintro n rfl
  unfold position? at h
  split at h
  · cases h
  · rename_i d _
    obtain ⟨m, hm, hmn⟩ := Option.map_eq_some_iff.mp h
    cases hmn
    unfold Json.Document.nat? at hm
    split at hm
    · split at hm
      · rename_i hbound
        cases hm
        rw [Bool.and_eq_true, decide_eq_true_eq, decide_eq_true_eq] at hbound
        exact hbound.2
      · cases hm
    · cases hm

/-- An address that was read has a position that can be read. -/
theorem positioned_of_ofDocument? {d : Json.Document} {ip : IpConfig}
    (h : ofDocument? d = some ip) : ip.Positioned := by
  unfold ofDocument? at h
  simp only [Option.bind_eq_bind, Option.bind_eq_some_iff] at h
  obtain ⟨fields, -, h⟩ := h
  split at h
  · simp only [Option.bind_eq_some_iff] at h
    obtain ⟨_, -, _, -, _, -, position, hposition, heq⟩ := h
    cases heq
    intro n hn
    rcases Json.Document.of_withDefault hposition with rfl | ⟨item, hitem⟩
    · cases hn
    · exact position?_lt hitem n hn
  · cases h

end IpConfig

/-- The records of a list that is left out where it is empty. -/
theorem withDefault_records {α : Type} (read : Json.Document → Option α) (write : α → Json)
    (l : List α) (h : ∀ a ∈ l, read (ofJson (write a).sorted) = some a) :
    Json.Document.withDefault [] (Json.Document.list? read)
      (((if (l.map write).isEmpty then none else some (.arr (l.map write))).map Json.sorted).map
        ofJson) = some l := by
  cases l with
  | nil => rfl
  | cons a l =>
    show Json.Document.list? read (ofJson (Json.arr ((a :: l).map write)).sorted) = _
    rw [Json.sorted_arr_map]
    exact Json.Document.list?_ofItems read (fun a => (write a).sorted) (a :: l) h

namespace AddResult

/-- All positions in the result are numbers that can be read. -/
def Positioned (r : AddResult) : Prop :=
  ∀ ip ∈ r.ips, ip.Positioned

/-- The result as fields. -/
def fields (r : AddResult) : List (String × Option Json) :=
  [("cniVersion", some (.str r.cniVersion)),
    ("interfaces", if (r.interfaces.map Interface.toJson).isEmpty then none
      else some (.arr (r.interfaces.map Interface.toJson))),
    ("ips", if (r.ips.map IpConfig.toJson).isEmpty then none
      else some (.arr (r.ips.map IpConfig.toJson))),
    ("routes", if (r.routes.map Route.toJson).isEmpty then none
      else some (.arr (r.routes.map Route.toJson))),
    ("dns", if r.dns.isEmpty then none else some r.dns.toJson)]

theorem recordsMember_eq (key : String) (l : List Json) :
    recordsMember key l = present [(key, if l.isEmpty then none else some (.arr l))] := by
  unfold recordsMember
  split <;> rfl

theorem toJson_eq (r : AddResult) : r.toJson = .obj (present r.fields) := by
  have hversion : [("cniVersion", Json.str r.cniVersion)] =
      present [("cniVersion", some (Json.str r.cniVersion))] := rfl
  rw [toJson, hversion, recordsMember_eq, recordsMember_eq, recordsMember_eq, Dns.member_eq,
    Json.present_append, Json.present_append, Json.present_append, Json.present_append]
  rfl

theorem withDefault_dns (d : Dns) :
    Json.Document.withDefault .empty Dns.ofDocument?
      (((if d.isEmpty then none else some d.toJson).map Json.sorted).map ofJson) = some d := by
  split
  · rename_i h
    rw [Dns.eq_empty_of_isEmpty h]
    rfl
  · exact d.ofDocument?_sorted

/-- **A result that is handed on is read as the same result.** -/
theorem ofValue_toValue {r : AddResult} (h : r.Positioned) : ofValue r.toValue = .ok r := by
  have hrecord := Json.record?_sorted r.fields (by simp [fields])
  have hread : ofDocument? (ofJson r.toValue) = some r := by
    simp only [fields, List.map_cons, List.map_nil] at hrecord
    rw [toValue, toJson_eq, ofDocument?, fields, hrecord]
    simp only [Option.bind_eq_bind, Option.bind_some, withDefault_dns,
      withDefault_records _ _ _ fun i _ => Interface.ofDocument?_sorted i,
      withDefault_records _ _ _ fun ip hip => IpConfig.ofDocument?_sorted (h ip hip),
      withDefault_records _ _ _ fun r _ => Route.ofDocument?_sorted r]
    rfl
  rw [ofValue, hread]

theorem positioned_of_ofDocument? {d : Json.Document} {r : AddResult}
    (h : ofDocument? d = some r) : r.Positioned := by
  unfold ofDocument? at h
  simp only [Option.bind_eq_bind, Option.bind_eq_some_iff] at h
  obtain ⟨fields, -, h⟩ := h
  split at h
  · simp only [Option.bind_eq_some_iff] at h
    obtain ⟨_, -, _, -, ips, hips, _, -, _, -, heq⟩ := h
    cases heq
    intro ip hip
    rcases Json.Document.of_withDefault hips with rfl | ⟨field, hfield⟩
    · cases hip
    · obtain ⟨item, hitem⟩ := Json.Document.exists_of_mem_list? hfield ip hip
      exact IpConfig.positioned_of_ofDocument? hitem
  · cases h

theorem Positioned.withBlock {r : AddResult} (h : r.Positioned) (version : String)
    (block : LegacyBlock) : (r.withBlock version block).Positioned := by
  intro ip hip
  rcases List.mem_append.mp hip with hip | hip
  · exact h ip hip
  · rw [List.mem_singleton.mp hip]
    exact fun n hn => nomatch hn

/-- **Positions in a result that was printed can be read.** -/
theorem positioned_of_ofBytes {b : Bytes} {r : AddResult} (h : ofBytes b = .ok r) :
    r.Positioned := by
  unfold ofBytes at h
  split at h
  · cases h
  · split at h
    · rename_i hmembers
      cases h
      unfold ofMembers? at hmembers
      simp only [Option.bind_eq_bind, Option.bind_eq_some_iff] at hmembers
      obtain ⟨four, -, six, -, plain, hplain, heq⟩ := hmembers
      cases heq
      have hpositioned := positioned_of_ofDocument? hplain
      cases four <;> cases six
      · exact hpositioned
      · exact hpositioned.withBlock _ _
      · exact hpositioned.withBlock _ _
      · exact (hpositioned.withBlock _ _).withBlock _ _
    · cases h
  · cases h

end AddResult

end PodNet
