import PodNet.Proofs.Json.Values
import PodNet.Proofs.ValidLists

/-!
# Lists that are written are read back

A configuration list keeps what its document says: the plugins as they stand, and the members that it
does not know. So the list that is read of a document of integers is read back from what it writes,
and still so after any rewritings of its first plugin (`parse_toBytes_rewritten`). What carries this
is that every part of the list can be read as it is at its depth, and that no further member has the
name of a known one (`Readable`): reading establishes it, and rewriting keeps it.
-/

namespace PodNet

namespace ConfList

variable {l : ConfList}

/-! ### Rewriting again and again -/

/-- One rewriting of a list. -/
inductive Rewriting where
  | subnet (subnet : String)
  | master (nic : String)
  deriving Repr, DecidableEq

/-- The list after the rewriting. -/
def Rewriting.apply (l : ConfList) : Rewriting → ConfList
  | subnet s => l.setSubnet s
  | master nic => l.setMaster nic

/-- The list after all the rewritings, one after another. -/
def rewritten (l : ConfList) (changes : List Rewriting) : ConfList :=
  changes.foldl Rewriting.apply l

/-! ### Lists that can be read -/

/-- **The list is read as it is once it is written**: it is valid, its plugins and further members do
not nest too deep and are in order, and no further member has the name of a known one. -/
structure Readable (l : ConfList) : Prop where
  valid : l.Valid
  plugins : ∀ p ∈ l.plugins, Json.Kept (Json.Document.maxDepth - 2) (.obj p)
  extra : Json.Kept Json.Document.maxDepth (.obj l.extra)
  unknown : ∀ e ∈ l.extra, e.1 ∉ knownKeys

theorem Readable.head {p : Object} {rest : List Object} (h : l.Readable)
    (hplugins : l.plugins = p :: rest) : Json.Kept (Json.Document.maxDepth - 2) (.obj p) := by
  apply h.plugins
  rw [hplugins]
  exact List.mem_cons_self

/-- Rewriting the first plugin keeps the list readable, if it keeps the list valid. -/
theorem Readable.withHead {p q : Object} {rest : List Object} (h : l.Readable)
    (hplugins : l.plugins = p :: rest) (hq : Json.Kept (Json.Document.maxDepth - 2) (.obj q))
    (hvalid : ({ l with plugins := q :: rest } : ConfList).Valid) :
    ({ l with plugins := q :: rest } : ConfList).Readable := by
  have hrest : ∀ r ∈ rest, Json.Kept (Json.Document.maxDepth - 2) (.obj r) := by
    intro r hr
    apply h.plugins
    rw [hplugins]
    exact List.mem_cons_of_mem p hr
  exact ⟨hvalid, List.forall_mem_cons.mpr ⟨hq, hrest⟩, h.extra, h.unknown⟩

/-- The settings below a key, an object of its own, are kept if the object around them is. -/
theorem kept_settings {b : Nat} {p : Object} (h : Json.Kept (b + 2) (.obj p)) (key : String) :
    Json.Kept (b + 1) (.obj (((Table.get? key p).bind Json.members?).getD [])) := by
  cases hsettings : (Table.get? key p).bind Json.members? with
  | none => exact Json.kept_obj_iff.mpr ⟨.nil, by simp⟩
  | some settings =>
    obtain ⟨v, hget, hv⟩ := Option.bind_eq_some_iff.mp hsettings
    have hmember : Json.Kept (b + 1) v := (Json.kept_obj_iff.mp h).2 (key, v) (Table.mem_of_get? hget)
    cases v with
    | obj members =>
      obtain rfl := Option.some.inj hv
      exact hmember
    | _ => cases hv

theorem kept_withSubnet {b : Nat} {p : Object} (h : Json.Kept (b + 2) (.obj p)) (subnet : String) :
    Json.Kept (b + 2) (.obj (withSubnet subnet p)) :=
  h.insert ((kept_settings h "ipam").insert (Json.kept_str b subnet) "subnet") "ipam"

theorem Readable.setSubnet (h : l.Readable) (subnet : String) : (l.setSubnet subnet).Readable := by
  have hvalid := h.valid.setSubnet subnet
  unfold ConfList.setSubnet at hvalid ⊢
  cases hplugins : l.plugins with
  | nil => exact h
  | cons p rest =>
    rw [hplugins] at hvalid
    exact h.withHead hplugins (kept_withSubnet (h.head hplugins) subnet) hvalid

theorem Readable.setMaster (h : l.Readable) (nic : String) : (l.setMaster nic).Readable := by
  have hvalid := h.valid.setMaster nic
  cases hplugins : l.plugins with
  | nil =>
    rw [setMaster_nil hplugins]
    exact h
  | cons p rest =>
    rw [setMaster_cons hplugins] at hvalid ⊢
    split_ifs at hvalid ⊢
    · exact h.withHead hplugins ((h.head hplugins).insert (Json.kept_str _ nic) "master") hvalid
    · exact h

/-- **Rewriting keeps a list readable**, however often it is done. -/
theorem Readable.rewritten (h : l.Readable) (changes : List Rewriting) :
    (l.rewritten changes).Readable := by
  induction changes generalizing l with
  | nil => exact h
  | cons change changes ih =>
    cases change with
    | subnet s => exact ih (h.setSubnet s)
    | master nic => exact ih (h.setMaster nic)

/-! ### Reading back -/

/-- The fields that every list has. -/
def fields (l : ConfList) : List (String × Option Json) :=
  [("cniVersion", some (.str l.cniVersion)), ("name", some (.str l.name)),
    ("plugins", some (.arr (l.plugins.map .obj)))]

theorem toJson_eq (l : ConfList) :
    l.toJson = .obj (Json.present (l.fields ++ l.extra.map fun e => (e.1, some e.2))) := by
  have hextra : Json.present (l.extra.map fun e => (e.1, some e.2)) = l.extra := by
    simp [Json.present, List.filterMap_map]
  rw [← Json.present_append, hextra]
  rfl

theorem Readable.nodup_fields (h : l.Readable) :
    ((l.fields ++ l.extra.map fun e => (e.1, some e.2)).map Prod.fst).Nodup := by
  have hextra : ((l.extra.map fun e => (e.1, some e.2)).map Prod.fst).Nodup := by
    rw [List.map_map]
    exact (Json.kept_obj_iff.mp h.extra).1.nodup
  rw [List.map_append]
  refine List.nodup_append.mpr ⟨by simp [fields], hextra, ?_⟩
  rintro key hknown other hother rfl
  rw [List.map_map] at hother
  obtain ⟨e, he, rfl⟩ := List.mem_map.mp hother
  exact h.unknown e he hknown

/-- The plugins of a readable list are read as they are. -/
theorem Readable.plugins?_ofJson (h : l.Readable) :
    plugins? (.ofJson (.arr (l.plugins.map .obj))) = some l.plugins := by
  refine Json.Document.list?_ofItems _ Json.obj l.plugins fun p hp => ?_
  rw [(h.plugins p hp).toJson?_ofJson]
  rfl

/-- Of the members that are written, those that are not known are the further ones. -/
theorem Readable.filter_members (h : l.Readable) :
    (Json.Document.ofMembers ([("cniVersion", .str l.cniVersion), ("name", .str l.name),
      ("plugins", .arr (l.plugins.map .obj))] ++ l.extra)).filter
        (fun m => !(m.1.any knownKeys.contains)) = Json.Document.ofMembers l.extra := by
  have hextra : ∀ m ∈ Json.Document.ofMembers l.extra, (!(m.1.any knownKeys.contains)) = true := by
    intro m hm
    rw [Json.Document.ofMembers_eq_map] at hm
    obtain ⟨e, he, rfl⟩ := List.mem_map.mp hm
    simpa using h.unknown e he
  rw [List.cons_append, List.cons_append, List.cons_append, List.nil_append]
  exact List.filter_eq_self.mpr hextra

/-- **A readable list that was written is the list of its document.** -/
theorem Readable.ofDocument?_toJson (h : l.Readable) :
    ofDocument? (.ofJson l.toJson) = some l := by
  have hrecord : (Json.Document.ofJson l.toJson).record? (knownKeys.map ([·])) =
      some (l.fields.map fun f => f.2.map Json.Document.ofJson) := by
    rw [toJson_eq]
    exact Json.Document.record?_of_subset h.nodup_fields (List.subset_append_left _ _) (.refl _)
  have hextra : Json.Document.membersToJson? (Json.Document.maxDepth - 1)
      (Json.Document.ofMembers l.extra) = some l.extra := h.extra.membersToJson?_ofMembers
  have hfold : Table.ofList l.extra = l.extra :=
    Table.ofList_eq_self (Json.kept_obj_iff.mp h.extra).1
  rw [ofDocument?.eq_def]
  simp only [toJson, Json.Document.ofJson] at hrecord ⊢
  rw [hrecord]
  simp only [fields, List.map_cons, List.map_nil, Option.bind_eq_bind, Option.bind_some,
    Option.map_some, Json.Document.withDefault, Json.Document.required, h.plugins?_ofJson, h.filter_members, hextra, hfold]
  rfl

theorem Readable.exact_toJson (h : l.Readable) : l.toJson.Exact := by
  have hplugins : (Json.arr (l.plugins.map .obj)).Exact := by
    refine Json.exact_arr_iff.mpr fun v hv => ?_
    obtain ⟨p, hp, rfl⟩ := List.mem_map.mp hv
    exact (h.plugins p hp).exact
  have hextra : ∀ m ∈ l.extra, m.2.Exact := (Json.exact_obj_iff l.extra).mp h.extra.exact
  refine (Json.exact_obj_iff _).mpr fun m hm => ?_
  rcases List.mem_append.mp hm with hm | hm
  · simp only [List.mem_cons, List.not_mem_nil, or_false] at hm
    rcases hm with rfl | rfl | rfl
    · exact Json.exact_str _
    · exact Json.exact_str _
    · exact hplugins
  · exact hextra m hm

/-- **A readable list that was written is read back.** -/
theorem Readable.parse_toBytes (h : l.Readable) : parse l.toBytes = .ok l := by
  have hread : Json.Document.read? l.toBytes = some (.ofJson l.toJson) :=
    Json.Document.read?_compact h.exact_toJson
  rw [parse, hread, Option.bind_some, h.ofDocument?_toJson]
  exact h.valid

/-! ### Reading makes a list readable -/

/-- The plugins of a document of integers can be read as they are. -/
theorem kept_of_plugins? {d : Json.Document} {plugins : List Object} (exact : d.Exact)
    (h : plugins? d = some plugins) :
    ∀ p ∈ plugins, Json.Kept (Json.Document.maxDepth - 2) (.obj p) := by
  intro p hp
  unfold plugins? Json.Document.list? at h
  split at h
  · rename_i items
    obtain ⟨item, hitem, hread⟩ := (exists_of_mapM_eq_some h).2 p hp
    obtain ⟨v, hv, hmembers⟩ := Option.bind_eq_some_iff.mp hread
    have hkept := Json.kept_of_toJson? _ item (Json.Document.exactItems_iff.mp exact item hitem) v hv
    cases v with
    | obj members =>
      obtain rfl := Option.some.inj hmembers
      exact hkept
    | _ => cases hmembers
  · cases h

/-- The further members of a document of integers can be read as they are. -/
theorem kept_of_others? {members : List (Option String × Json.Document)}
    {extra : List (String × Json)} (exact : (Json.Document.obj members).Exact)
    (h : Json.Document.membersToJson? (Json.Document.maxDepth - 1)
      (members.filter fun m => !(m.1.any knownKeys.contains)) = some extra) :
    Json.Kept Json.Document.maxDepth (.obj (Table.ofList extra)) := by
  have hothers : (Json.Document.obj (members.filter fun m => !(m.1.any knownKeys.contains))).Exact :=
    Json.Document.exactMembers_iff.mpr fun m hm =>
      Json.Document.exactMembers_iff.mp exact m (List.mem_of_mem_filter hm)
  refine Json.kept_of_toJson? Json.Document.maxDepth _ hothers _ ?_
  show (Json.Document.membersToJson? (Json.Document.maxDepth - 1) _).map _ = _
  rw [h, Option.map_some]

theorem unknown_of_others? {members : List (Option String × Json.Document)}
    {extra : List (String × Json)}
    (h : Json.Document.membersToJson? (Json.Document.maxDepth - 1)
      (members.filter fun m => !(m.1.any knownKeys.contains)) = some extra) :
    ∀ e ∈ Table.ofList extra, e.1 ∉ knownKeys := by
  intro e he
  obtain ⟨m, hm, hkey⟩ :=
    Json.Document.exists_mem_of_membersToJson? h e (Table.mem_of_mem_ofList he)
  have hunknown := (List.mem_filter.mp hm).2
  rw [hkey] at hunknown
  simpa using hunknown

theorem readable_of_ofDocument? {d : Json.Document} (exact : d.Exact)
    (h : ofDocument? d = some l) (hvalid : l.Valid) : l.Readable := by
  unfold ofDocument? at h
  split at h
  · rename_i members
    simp only [Option.bind_eq_bind, Option.bind_eq_some_iff] at h
    obtain ⟨values, hrecord, h⟩ := h
    split at h
    · rename_i version name plugins
      simp only [Option.bind_eq_some_iff] at h
      obtain ⟨_, -, _, -, read, hread, extra, hextra, heq⟩ := h
      cases heq
      obtain ⟨d, rfl, hd⟩ := Option.bind_eq_some_iff.mp hread
      have hplugins : d.Exact := Json.Document.exact_of_record? exact hrecord (by simp)
      exact ⟨hvalid, kept_of_plugins? hplugins hd, kept_of_others? exact hextra,
        unknown_of_others? hextra⟩
    · cases h
  · cases h

/-- **A list that is read of a document of integers is readable.** -/
theorem readable_of_parse {b : Bytes} (exact : ∀ d, Json.Document.read? b = some d → d.Exact)
    (h : parse b = .ok l) : l.Readable := by
  obtain ⟨hread, hvalid⟩ := parse_eq_ok_iff.mp h
  obtain ⟨d, hd, hdocument⟩ := Option.bind_eq_some_iff.mp hread
  exact readable_of_ofDocument? (exact d hd) hdocument hvalid

/-- **Reading what a list writes gives the list**, after whatever rewritings: its version, its name,
its plugins in order with all their settings, and its further members. The numbers of the document that
it was read of must be integers. -/
theorem parse_toBytes_rewritten {b : Bytes} (parsed : parse b = .ok l)
    (exact : ∀ d, Json.Document.read? b = some d → d.Exact) (changes : List Rewriting) :
    parse (l.rewritten changes).toBytes = .ok (l.rewritten changes) :=
  ((readable_of_parse exact parsed).rewritten changes).parse_toBytes

/-- A list of two plugins with a further member, its keys in no order. -/
def lanDocument : Json :=
  .obj [("plugins", .arr [
      .obj [("type", .str "bridge"), ("mtu", .num (.int 1500)), ("master", .str "eth0")],
      .obj [("type", .str "portmap")]]),
    ("disableCheck", .bool true), ("name", .str "lan"), ("cniVersion", .str "0.3.1")]

/-- The list of that document, with a subnet and another master interface. -/
def lanRewritten : ConfList :=
  ⟨"0.3.1", "lan", [[("ipam", .obj [("subnet", .str "10.1.0.0/16")]), ("master", .str "eth1"),
    ("mtu", .num (.int 1500)), ("type", .str "bridge")], [("type", .str "portmap")]],
    [("disableCheck", .bool true)]⟩

theorem exact_number_1500 : Number.Exact (.int 1500) :=
  ⟨by decide, by decide⟩

theorem read?_lanDocument :
    Json.Document.read? (Bytes.ofString lanDocument.compact) = some (.ofJson lanDocument) :=
  Json.Document.read?_compact ⟨⟨⟨trivial, exact_number_1500, trivial, trivial⟩, ⟨trivial, trivial⟩,
    trivial⟩, trivial, trivial, trivial, trivial⟩

theorem parse_lanDocument : ∃ l, parse (Bytes.ofString lanDocument.compact) = .ok l ∧
    l.rewritten [.subnet "10.1.0.0/16", .master "eth1"] = lanRewritten := by
  rw [parse, read?_lanDocument]
  exact ⟨_, rfl, rfl⟩

theorem parse_toBytes_rewritten_lan :
    ∃ l, parse (Bytes.ofString lanDocument.compact) = .ok l ∧
      l.rewritten [.subnet "10.1.0.0/16", .master "eth1"] = lanRewritten ∧
      parse lanRewritten.toBytes = .ok lanRewritten := by
  obtain ⟨l, hl, hrewritten⟩ := parse_lanDocument
  refine ⟨l, hl, hrewritten, ?_⟩
  rw [← hrewritten]
  refine parse_toBytes_rewritten hl (fun d hd => ?_) _
  rw [read?_lanDocument] at hd
  cases hd
  exact ⟨⟨⟨trivial, ⟨_, rfl, exact_number_1500⟩, trivial, trivial⟩, ⟨trivial, trivial⟩, trivial⟩,
    trivial, trivial, trivial, trivial⟩

end ConfList

end PodNet
