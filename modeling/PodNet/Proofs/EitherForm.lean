import PodNet.Proofs.Json.Generic
import PodNet.Proofs.ListRoundTrip

/-!
# Both forms of a network

A document may hold a list of plugins or a single one, and `parseAny` takes either. It goes through
the generic value, while `parse` reads the list from the document as it stands. They accept the same
documents and make the same lists of them (`forms_read_alike`), but for the name that `parseAny` gives
to a network without one. What carries this is that both see the same members: of a document that has
a value, the list is that of the table of its members (`ofDocument?_eq_ofTable?`), and a document of
which a list can be read has a value (`exists_values_of_ofDocument?`). A known key that is given twice
is left out here: the one refuses it, and for the other the last one counts.
-/

namespace PodNet.ConfList

open Json.Document (ThroughValue membersToJson?)

variable {b : Bytes} {fallback : String} {l : ConfList} {key : String}
  {members : List (Option String × Json.Document)} {values : List (String × Json)}

/-- The list, with another name if its own is blank. -/
def orNamed (fallback : String) (l : ConfList) : ConfList :=
  if Text.trim l.name = "" then { l with name := fallback } else l

/-- Every known key is given once at most. -/
def KnownOnce (members : List (Option String × Json.Document)) : Prop :=
  ∀ key ∈ knownKeys, (members.map Prod.fst).count (some key) ≤ 1

theorem knownOnce_ofMembers {t : Table Json} (h : (t.map Prod.fst).Nodup) :
    KnownOnce (Json.Document.ofMembers t) := by
  have hkeys : (Json.Document.ofMembers t).map Prod.fst = (t.map Prod.fst).map some := by
    rw [Json.Document.ofMembers_eq_map, List.map_map, List.map_map]
    rfl
  intro key _
  rw [hkeys]
  have hnodup : ((t.map Prod.fst).map some).Nodup :=
    List.Pairwise.map some (fun _ _ hne heq => hne (Option.some.inj heq)) h
  exact List.nodup_iff_count.mp hnodup _

/-! ### The table of the members -/

/-- The list that a table of members holds. -/
def ofTable? (t : Object) : Option ConfList := do
  let field := fun key => (Table.get? key t).map Json.Document.ofJson
  return {
    cniVersion := ← Json.Document.withDefault "" Json.Document.text? (field "cniVersion")
    name := ← Json.Document.withDefault "" Json.Document.text? (field "name")
    plugins := ← Json.Document.required plugins? (field "plugins")
    extra := Table.keep (fun key => !knownKeys.contains key) t }

/-- The plugins are read through their values. -/
theorem throughValue_plugins? : ThroughValue (Json.Document.maxDepth - 1) plugins? :=
  (Json.Document.throughValue_bind (Json.Document.maxDepth - 2) Json.members?).list?

theorem record?_of_knownOnce (keys : ∀ m ∈ members, m.1.isSome = true) (once : KnownOnce members) :
    (Json.Document.obj members).record? (knownKeys.map ([·])) =
      some (knownKeys.map fun key => (Json.Document.named [key] members).head?) := by
  have hkeys : (members.all fun m => m.1.isSome) = true := List.all_eq_true.mpr keys
  rw [Json.Document.record?, if_pos hkeys, knownKeys]
  simp only [List.map_cons, List.map_nil, List.mapM_cons, List.mapM_nil]
  rw [Json.Document.field?_of_once (once "cniVersion" (by decide)),
    Json.Document.field?_of_once (once "name" (by decide)),
    Json.Document.field?_of_once (once "plugins" (by decide))]
  rfl

/-- **The list of a document whose members have values** is that of the table of the values. -/
theorem ofDocument?_eq_ofTable?
    (h : membersToJson? (Json.Document.maxDepth - 1) members = some values)
    (once : KnownOnce members) : ofDocument? (.obj members) = ofTable? (Table.ofList values) := by
  have hkeys : ∀ m ∈ members, m.1.isSome = true := fun m hm =>
    (Json.Document.exists_membersToJson?_iff.mp ⟨values, h⟩ m hm).1
  have hothers : membersToJson? (Json.Document.maxDepth - 1)
      (members.filter fun m => !(m.1.any knownKeys.contains)) =
        some (Table.keep (fun key => !knownKeys.contains key) values) :=
    Json.Document.membersToJson?_filter h fun key => !(key.any knownKeys.contains)
  have hversion := Json.Document.rel_field h (once "cniVersion" (by decide))
  have hname := Json.Document.rel_field h (once "name" (by decide))
  have hplugins := Json.Document.rel_field h (once "plugins" (by decide))
  have htext := Json.Document.throughValue_text? (Json.Document.maxDepth - 1)
  rw [ofDocument?.eq_def]
  dsimp only
  rw [record?_of_knownOnce hkeys once, hothers, ofTable?, Table.keep_ofList]
  simp only [knownKeys, List.map_cons, List.map_nil, Option.bind_eq_bind, Option.bind_some,
    htext.withDefault_eq hversion, htext.withDefault_eq hname,
    throughValue_plugins?.required_eq hplugins]

/-- What was read of a document of which a list can be read. -/
theorem of_ofDocument? (h : ofDocument? (.obj members) = some l) :
    (∀ m ∈ members, m.1.isSome = true) ∧
    (∃ field, Json.Document.field? members ["cniVersion"] = some field ∧
      Json.Document.withDefault "" Json.Document.text? field = some l.cniVersion) ∧
    (∃ field, Json.Document.field? members ["name"] = some field ∧
      Json.Document.withDefault "" Json.Document.text? field = some l.name) ∧
    (∃ field, Json.Document.field? members ["plugins"] = some field ∧
      Json.Document.required plugins? field = some l.plugins) ∧
    ∃ extra, membersToJson? (Json.Document.maxDepth - 1)
      (members.filter fun m => !(m.1.any knownKeys.contains)) = some extra := by
  rw [ofDocument?.eq_def] at h
  simp only [Option.bind_eq_bind, Option.bind_eq_some_iff] at h
  obtain ⟨fields, hrecord, h⟩ := h
  rw [Json.Document.record?] at hrecord
  split at hrecord
  · rename_i hkeys
    simp only [knownKeys, List.map_cons, List.map_nil, List.mapM_cons, List.mapM_nil,
      Option.bind_eq_bind, Option.bind_eq_some_iff, Option.pure_def, Option.some.injEq] at hrecord
    obtain ⟨version, hversion, _, ⟨name, hname, _, ⟨plugins, hplugins, _, rfl, rfl⟩, rfl⟩, rfl⟩ :=
      hrecord
    simp only [Option.bind_eq_some_iff, Option.pure_def, Option.some.injEq] at h
    obtain ⟨_, hversion', _, hname', _, hplugins', extra, hextra, rfl⟩ := h
    exact ⟨List.all_eq_true.mp hkeys, ⟨version, hversion, hversion'⟩, ⟨name, hname, hname'⟩,
      ⟨plugins, hplugins, hplugins'⟩, extra, hextra⟩
  · cases hrecord

/-- **A document of which a list can be read has a value.** -/
theorem exists_values_of_ofDocument? (h : ofDocument? (.obj members) = some l) :
    ∃ values, membersToJson? (Json.Document.maxDepth - 1) members = some values := by
  obtain ⟨hkeys, ⟨version, hversion, hversion'⟩, ⟨name, hname, hname'⟩,
    ⟨plugins, hplugins, hplugins'⟩, others⟩ := of_ofDocument? h
  have htext := Json.Document.throughValue_text? (Json.Document.maxDepth - 1)
  refine Json.Document.exists_membersToJson?_iff.mpr fun m hm => ⟨hkeys m hm, ?_⟩
  obtain ⟨key, hkey⟩ := Option.isSome_iff_exists.mp (hkeys m hm)
  by_cases hknown : key ∈ knownKeys
  · simp only [knownKeys, List.mem_cons, List.not_mem_nil, or_false] at hknown
    rcases hknown with rfl | rfl | rfl
    · rw [Json.Document.field?_eq_of_mem hm hkey hversion] at hversion'
      exact htext.exists_value hversion'
    · rw [Json.Document.field?_eq_of_mem hm hkey hname] at hname'
      exact htext.exists_value hname'
    · rw [Json.Document.field?_eq_of_mem hm hkey hplugins] at hplugins'
      exact throughValue_plugins?.exists_value hplugins'
  · have hmem : m ∈ members.filter fun m => !(m.1.any knownKeys.contains) :=
      List.mem_filter.mpr ⟨hm, by simpa [hkey] using hknown⟩
    exact (Json.Document.exists_membersToJson?_iff.mp others m hmem).2

/-- **A list is read of a document just if it is read of its value.** -/
theorem ofDocument?_eq_some_iff (once : KnownOnce members) : ofDocument? (.obj members) = some l ↔
    ∃ v, Json.Document.toJson? Json.Document.maxDepth (.obj members) = some v ∧
      ofDocument? (.ofJson v) = some l := by
  have hsame : ∀ values, membersToJson? (Json.Document.maxDepth - 1) members = some values →
      ofDocument? (.ofJson (.obj (Table.ofList values))) = ofDocument? (.obj members) := by
    intro values h
    have hordered := Table.ordered_ofList values
    have hagain := Json.Document.membersToJson?_ofMembers_ofList h
    rw [ofDocument?_eq_ofTable? h once, Json.Document.ofJson,
      ofDocument?_eq_ofTable? hagain (knownOnce_ofMembers hordered.nodup),
      Table.ofList_eq_self hordered]
  constructor
  · intro h
    obtain ⟨values, hvalues⟩ := exists_values_of_ofDocument? h
    refine ⟨.obj (Table.ofList values), ?_, (hsame values hvalues).trans h⟩
    exact congrArg (Option.map fun l => Json.obj (Table.ofList l)) hvalues
  · rintro ⟨v, hv, h⟩
    obtain ⟨values, hvalues, rfl⟩ := Option.map_eq_some_iff.mp hv
    exact (hsame values hvalues).symm.trans h

/-! ### Either form -/

theorem parseAny_eq_ok_iff : parseAny b fallback = .ok l ↔
    ∃ v m, Json.read? b = some v ∧ ofJson v = .ok m ∧ l = m.orNamed fallback := by
  have hblank (m : ConfList) : m.orNamed fallback =
      if Text.nonBlank m.name = none then { m with name := fallback } else m := by
    rw [orNamed, Text.nonBlank]
    by_cases h : Text.trim m.name = "" <;> simp [h]
  rw [parseAny]
  cases Json.read? b with
  | none => simp
  | some v =>
    cases hv : ofJson v with
    | error f => simp [bind, Except.bind, hv]
    | ok m => simp [bind, Except.bind, pure, Except.pure, hv, hblank, eq_comm]

/-- A value with plugins is read as a list of them. -/
theorem ofJson_eq_ok_iff {t : Object} (h : Table.has "plugins" t = true) :
    ofJson (.obj t) = .ok l ↔ ofDocument? (.ofJson (.obj t)) = some l ∧ l.Valid := by
  rw [ofJson, if_pos h]
  cases ofDocument? (.ofJson (.obj t)) with
  | none => simp
  | some m => rw [validated_eq_ok_iff, Option.some.injEq]

/-- A list of plugins is read just if it is read of the value. -/
theorem parse_eq_ok_iff_ofJson (read : Json.Document.read? b = some (.obj members))
    (once : KnownOnce members) (plugins : some "plugins" ∈ members.map Prod.fst) :
    parse b = .ok l ↔ ∃ v, Json.read? b = some v ∧ ofJson v = .ok l := by
  have hvalue (v : Json) (hv : Json.Document.toJson? Json.Document.maxDepth (.obj members) = some v) :
      ofJson v = .ok l ↔ ofDocument? (.ofJson v) = some l ∧ l.Valid := by
    obtain ⟨values, hvalues, rfl⟩ := Option.map_eq_some_iff.mp hv
    exact ofJson_eq_ok_iff ((Json.Document.has_ofList_iff hvalues "plugins").mpr plugins)
  rw [parse_eq_ok_iff, Json.read?, read, Option.bind_some, Option.bind_some,
    ofDocument?_eq_some_iff once]
  constructor
  · rintro ⟨⟨v, hv, hl⟩, hvalid⟩
    exact ⟨v, hv, (hvalue v hv).mpr ⟨hl, hvalid⟩⟩
  · rintro ⟨v, hv, hl⟩
    obtain ⟨hl, hvalid⟩ := (hvalue v hv).mp hl
    exact ⟨⟨v, hv, hl⟩, hvalid⟩

/-- **`parseAny` reads a list of plugins as `parse` does**, but for its name. -/
theorem parseAny_list_iff (read : Json.Document.read? b = some (.obj members))
    (once : KnownOnce members) (plugins : some "plugins" ∈ members.map Prod.fst) :
    parseAny b fallback = .ok l ↔ ∃ m, parse b = .ok m ∧ l = m.orNamed fallback := by
  rw [parseAny_eq_ok_iff]
  simp only [parse_eq_ok_iff_ofJson read once plugins]
  constructor
  · rintro ⟨v, m, hv, hm, rfl⟩
    exact ⟨m, ⟨v, hv, hm⟩, rfl⟩
  · rintro ⟨m, ⟨v, hv, hm⟩, rfl⟩
    exact ⟨v, m, hv, hm, rfl⟩

/-- **`parseAny` reads a single plugin as `parseConf` does**, but for the name. -/
theorem parseAny_conf_iff (read : Json.Document.read? b = some (.obj members))
    (plugins : some "plugins" ∉ members.map Prod.fst) :
    parseAny b fallback = .ok l ↔ ∃ m, parseConf b = .ok m ∧ l = m.orNamed fallback := by
  have hconf (v : Json) (hv : Json.read? b = some v) :
      ∃ t, v = .obj t ∧ ofJson v = ofConf t := by
    rw [Json.read?, read] at hv
    obtain ⟨values, hvalues, rfl⟩ := Option.map_eq_some_iff.mp hv
    have hhas : ¬ Table.has "plugins" (Table.ofList values) = true := by
      rw [Json.Document.has_ofList_iff hvalues]
      exact plugins
    exact ⟨_, rfl, if_neg hhas⟩
  rw [parseAny_eq_ok_iff]
  simp only [parseConf_eq_ok_iff]
  constructor
  · rintro ⟨v, m, hv, hm, rfl⟩
    obtain ⟨t, rfl, heq⟩ := hconf v hv
    exact ⟨m, ⟨t, hv, heq ▸ hm⟩, rfl⟩
  · rintro ⟨m, ⟨t, hv, hm⟩, rfl⟩
    obtain ⟨_, heq, hsame⟩ := hconf _ hv
    cases heq
    exact ⟨_, m, hv, hsame.trans hm, rfl⟩

theorem ofDocument?_of_not_object {d : Json.Document} (h : ∀ members, d ≠ .obj members) :
    ofDocument? d = none := by
  cases d with
  | obj members => exact absurd rfl (h members)
  | _ => rfl

/-- A document that is no object is refused as a faulty configuration, in whatever form it is read. -/
theorem refused_of_not_object (h : ∀ members, Json.Document.read? b ≠ some (.obj members)) :
    ∀ outcome ∈ [parse b, parseConf b, parseAny b fallback],
      ∃ fault, outcome = .error (.invalidConfig fault) := by
  have hlist : (Json.Document.read? b).bind ofDocument? = none := by
    cases hd : Json.Document.read? b with
    | none => rfl
    | some d => exact ofDocument?_of_not_object fun members heq => h members (hd.trans (by rw [heq]))
  have hvalue : ∀ t, Json.read? b ≠ some (.obj t) := by
    intro t ht
    obtain ⟨d, hd, hv⟩ := Option.bind_eq_some_iff.mp ht
    exact Json.Document.toJson?_ne_obj (fun members heq => h members (hd.trans (by rw [heq]))) t hv
  have hparse : parse b = .error (.invalidConfig .badList) := by
    rw [parse, hlist]
  intro outcome houtcome
  simp only [List.mem_cons, List.not_mem_nil, or_false] at houtcome
  rcases houtcome with rfl | rfl | rfl
  · exact ⟨_, hparse⟩
  · rw [parseConf]
    split
    · rename_i conf hread
      exact absurd hread (hvalue conf)
    · exact ⟨_, rfl⟩
    · exact ⟨_, rfl⟩
  · rw [parseAny]
    split
    · exact ⟨_, rfl⟩
    · rename_i v hread
      cases v with
      | obj t => exact absurd hread (hvalue t)
      | _ => exact ⟨_, rfl⟩

/-- **All readers of networks agree.** Where a document is an object that gives the known keys once at
most, `parseAny` reads it just if `parse` does when it has plugins, and just if `parseConf` does when
it has not, and what they read is the same but for a blank name. What is no object is refused by all.
-/
theorem forms_read_alike (b : Bytes) (fallback : String) :
    (∀ members, Json.Document.read? b = some (.obj members) → KnownOnce members →
      (some "plugins" ∈ members.map Prod.fst → ∀ l, parseAny b fallback = .ok l ↔
        ∃ m, parse b = .ok m ∧ l = m.orNamed fallback) ∧
      (some "plugins" ∉ members.map Prod.fst → ∀ l, parseAny b fallback = .ok l ↔
        ∃ m, parseConf b = .ok m ∧ l = m.orNamed fallback)) ∧
    ((∀ members, Json.Document.read? b ≠ some (.obj members)) →
      ∀ outcome ∈ [parse b, parseConf b, parseAny b fallback],
        ∃ fault, outcome = .error (.invalidConfig fault)) :=
  ⟨fun _ read once => ⟨fun plugins _ => parseAny_list_iff read once plugins,
    fun plugins _ => parseAny_conf_iff read plugins⟩, refused_of_not_object⟩

/-- A list with a blank name. -/
def namelessDocument : Json :=
  .obj [("name", .str " "), ("plugins", .arr [.obj [("type", .str "bridge")]])]

/-- The list that the document holds. -/
def namelessList : ConfList :=
  ⟨"", " ", [[("type", .str "bridge")]], []⟩

theorem forms_read_alike_nameless :
    let b := Bytes.ofString namelessDocument.compact
    (∃ members, Json.Document.read? b = some (.obj members) ∧ KnownOnce members ∧
      some "plugins" ∈ members.map Prod.fst) ∧
    parse b = .ok namelessList ∧ parseAny b "lan" = .ok { namelessList with name := "lan" } := by
  have hread : Json.Document.read? (Bytes.ofString namelessDocument.compact) =
      some (.ofJson namelessDocument) :=
    Json.Document.read?_compact ⟨trivial, ⟨⟨trivial, trivial⟩, trivial⟩, trivial⟩
  have hparse : parse (Bytes.ofString namelessDocument.compact) = .ok namelessList := by
    rw [parse, hread]
    rfl
  have honce : KnownOnce (Json.Document.ofMembers
      [("name", .str " "), ("plugins", .arr [.obj [("type", .str "bridge")]])]) :=
    knownOnce_ofMembers (by decide)
  have hplugins : some "plugins" ∈ (Json.Document.ofMembers
      [("name", .str " "), ("plugins", .arr [.obj [("type", .str "bridge")]])]).map Prod.fst := by
    decide
  refine ⟨⟨_, hread, honce, hplugins⟩, hparse, ?_⟩
  refine (((forms_read_alike _ "lan").1 _ hread honce).1 hplugins _).mpr ⟨_, hparse, ?_⟩
  rfl

end PodNet.ConfList
