import Mathlib.Data.List.Basic
import PodNet.Carving
import PodNet.Directory
import PodNet.Proofs.Tables

/-!
# Valid lists

A configuration list is valid when `ConfList.validated` accepts it: it has plugins, and every plugin
has a type. All ways to read a list give a valid one, and rewriting the settings of a plugin keeps
it so.
-/

namespace PodNet

namespace ConfList

/-- The list is one that `validated` accepts. -/
def Valid (l : ConfList) : Prop :=
  l.validated = .ok l

/-- A list that is accepted is accepted as it is. -/
theorem eq_of_validated {l m : ConfList} (h : l.validated = .ok m) : l = m := by
  unfold validated at h
  split at h
  · cases h
  · split at h
    · cases h
    · exact Except.ok.inj h

theorem valid_of_validated {l m : ConfList} (h : l.validated = .ok m) : m.Valid := by
  obtain rfl := eq_of_validated h
  exact h

theorem validated_eq_ok_iff {l m : ConfList} : l.validated = .ok m ↔ l = m ∧ m.Valid := by
  constructor
  · exact fun h => ⟨eq_of_validated h, valid_of_validated h⟩
  · rintro ⟨rfl, h⟩
    exact h

/-- A list is valid if it has plugins, and all of them a type. -/
theorem valid_iff (l : ConfList) : l.Valid ↔ l.plugins ≠ [] ∧ firstUntyped 0 l.plugins = none := by
  unfold Valid validated
  cases hempty : l.plugins with
  | nil => simp
  | cons p rest => cases huntyped : firstUntyped 0 (p :: rest) <;> simp

/-- The name does not matter. -/
theorem Valid.withName {l : ConfList} (h : l.Valid) (name : String) :
    ({ l with name := name } : ConfList).Valid := by
  rw [valid_iff] at h ⊢
  exact h

/-- Settings of the first plugin other than its type do not matter. -/
theorem Valid.withHead {l : ConfList} {p : Object} {rest : List Object} (h : l.Valid)
    (hplugins : l.plugins = p :: rest) {key : String} (hkey : key ≠ "type") (v : Json) :
    ({ l with plugins := Table.insert key v p :: rest } : ConfList).Valid := by
  have htype : typeOf (Table.insert key v p) = typeOf p := by
    rw [typeOf, typeOf, Table.get?_insert_of_ne hkey.symm]
  rw [valid_iff, hplugins, firstUntyped] at h
  rw [valid_iff, firstUntyped, htype]
  exact ⟨List.cons_ne_nil _ _, h.2⟩

theorem Valid.setSubnet {l : ConfList} (h : l.Valid) (subnet : String) :
    (l.setSubnet subnet).Valid := by
  unfold ConfList.setSubnet
  split
  · exact h
  · rename_i hplugins
    exact h.withHead hplugins (by decide) _

theorem Valid.setMaster {l : ConfList} (h : l.Valid) (nic : String) : (l.setMaster nic).Valid := by
  cases hplugins : l.plugins with
  | nil =>
    rw [setMaster_nil hplugins]
    exact h
  | cons p rest =>
    rw [setMaster_cons hplugins]
    split
    · exact h.withHead hplugins (by decide) _
    · exact h

theorem Valid.configure {l : ConfList} (h : l.Valid) (c : Carving) : (c.configure l).Valid := by
  obtain ⟨_, _ | subnet, _ | nic⟩ := c
  · exact h
  · exact h.setMaster nic
  · exact h.setSubnet subnet
  · exact (h.setSubnet subnet).setMaster nic

/-! ### Reading -/

theorem valid_of_ofConf {conf : Object} {l : ConfList} (h : ofConf conf = .ok l) : l.Valid :=
  valid_of_validated h

theorem parse_eq_ok_iff {b : Bytes} {l : ConfList} : parse b = .ok l ↔
    (Json.Document.read? b).bind ofDocument? = some l ∧ l.Valid := by
  rw [parse]
  cases (Json.Document.read? b).bind ofDocument? with
  | none => simp
  | some m => rw [validated_eq_ok_iff, Option.some.injEq]

theorem valid_of_parse {b : Bytes} {l : ConfList} (h : parse b = .ok l) : l.Valid :=
  (parse_eq_ok_iff.mp h).2

theorem parseConf_eq_ok_iff {b : Bytes} {l : ConfList} : parseConf b = .ok l ↔
    ∃ conf, Json.read? b = some (.obj conf) ∧ ofConf conf = .ok l := by
  rw [parseConf]
  constructor
  · intro h
    split at h
    · rename_i conf hread
      exact ⟨conf, hread, h⟩
    · cases h
    · cases h
  · rintro ⟨conf, hread, h⟩
    rw [hread]
    exact h

theorem valid_of_parseConf {b : Bytes} {l : ConfList} (h : parseConf b = .ok l) : l.Valid := by
  obtain ⟨conf, -, h⟩ := parseConf_eq_ok_iff.mp h
  exact valid_of_ofConf h

theorem valid_of_ofJson {v : Json} {l : ConfList} (h : ofJson v = .ok l) : l.Valid := by
  unfold ofJson at h
  split at h
  · split at h
    · split at h
      · exact valid_of_validated h
      · cases h
    · exact valid_of_ofConf h
  · cases h

theorem valid_of_parseAny {b : Bytes} {fallback : String} {l : ConfList}
    (h : parseAny b fallback = .ok l) : l.Valid := by
  unfold parseAny at h
  split at h
  · cases h
  · rename_i v _
    cases hv : ofJson v with
    | error f => rw [hv] at h; cases h
    | ok m =>
      have hm := valid_of_ofJson hv
      rw [hv] at h
      simp only [bind, Except.bind, pure, Except.pure] at h
      split at h
      · cases h
        exact hm.withName fallback
      · cases h
        exact hm

/-! ### Types of plugins -/

/-- No plugin is found to lack a type if each has one that is not blank. -/
theorem firstUntyped_eq_none_iff {plugins : List Object} {n : Nat} :
    firstUntyped n plugins = none ↔ ∀ p ∈ plugins, Text.trim ((typeOf p).getD "") ≠ "" := by
  induction plugins generalizing n with
  | nil => simp [firstUntyped]
  | cons p rest ih =>
    rw [firstUntyped, List.forall_mem_cons, ← ih (n := n + 1)]
    split <;> simp [*]

theorem typeOf_of_firstUntyped {plugins : List Object} {n : Nat}
    (h : firstUntyped n plugins = none) : ∀ p ∈ plugins, typeOf p = some (textAt "type" p) := by
  intro p hp
  have htype := firstUntyped_eq_none_iff.mp h p hp
  cases ht : typeOf p with
  | none => exact absurd (by rw [ht]; rfl) htype
  | some t => rw [textAt, ← typeOf, ht, Option.getD_some]

/-- A valid list has no plugin without a type. -/
theorem typeOf_of_valid {l : ConfList} (h : l.Valid) :
    ∀ p ∈ l.plugins, typeOf p = some (textAt "type" p) :=
  typeOf_of_firstUntyped (l.valid_iff.mp h).2

/-- The types of a valid list are those of all its plugins. -/
theorem pluginTypes_of_valid {l : ConfList} (h : l.Valid) :
    l.pluginTypes = l.plugins.map (textAt "type") := by
  rw [pluginTypes, List.filterMap_congr (g := fun p => some (textAt "type" p))
    (typeOf_of_valid h), List.filterMap_eq_map']

end ConfList

/-! ### The directory -/

namespace Directory

variable {d : Directory} {fs : FileSystem} {l : ConfList}

theorem valid_of_parseNamed {name : Option String} {content : Bytes}
    (h : parseNamed name content = .ok l) : l.Valid := by
  unfold parseNamed at h
  split at h
  · exact ConfList.valid_of_parse h
  · exact ConfList.valid_of_parseConf h

theorem valid_of_load {path : String} (h : load fs path = .ok l) : l.Valid := by
  unfold load at h
  split at h
  · rename_i content _
    cases hparse : parseNamed (Path.fileName? path) content with
    | error f => rw [hparse] at h; cases h
    | ok m =>
      rw [hparse] at h
      cases h
      exact valid_of_parseNamed hparse
  · cases h

theorem valid_of_mem_loadable {names : List String} {e : String × ConfList}
    (h : e ∈ d.loadable fs names) : e.2.Valid := by
  obtain ⟨n, -, hload⟩ := List.mem_filterMap.mp h
  split at hload
  · rename_i l hl
    cases hload
    exact valid_of_load hl
  · cases hload

/-- Whichever of the loadable lists is looked for, it is valid. -/
theorem valid_of_find (among : List String → List String) {p : String × ConfList → Bool}
    (h : (d.confNames fs).map (fun names =>
      ((d.loadable fs (among names)).find? p).map (·.2)) = .ok (some l)) : l.Valid := by
  cases hnames : d.confNames fs with
  | error f => rw [hnames] at h; cases h
  | ok names =>
    rw [hnames, Except.map, Except.ok.injEq, Option.map_eq_some_iff] at h
    obtain ⟨e, hfind, rfl⟩ := h
    exact valid_of_mem_loadable (List.mem_of_find?_eq_some hfind)

theorem valid_of_networkNamed {name : String} (h : d.networkNamed fs name = .ok (some l)) :
    l.Valid :=
  valid_of_find _ h

theorem valid_of_defaultNetwork (h : d.defaultNetwork fs = .ok (some l)) : l.Valid :=
  valid_of_find _ h

end Directory

end PodNet
