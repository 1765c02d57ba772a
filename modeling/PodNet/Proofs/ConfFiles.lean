import Mathlib.Data.List.Basic
import PodNet.Directory
import PodNet.Proofs.Following
import PodNet.Proofs.Json.RoundTrip

/-!
# Which configuration file is taken

Files are taken in the order of their names. So every lookup in the directory comes to the first file
with a property (`Directory.IsFirst`): with the name of a plugin in its own (`findConf_eq_some_iff`),
among those that can be loaded with the name of a network in it, lists before single plugins
(`networkNamed_eq_some_iff`), or with a plugin of another type than the program's own
(`defaultNetwork_eq_some_iff`).
-/

namespace PodNet.Directory

variable {d : Directory} {fs : FileSystem} {names : List String} {n : String}

/-- The names are in order. -/
def Ascending (names : List String) : Prop :=
  names.Pairwise (· ≤ ·)

/-- **The name is the first of those with a property.** -/
structure IsFirst (p : String → Prop) (names : List String) (n : String) : Prop where
  mem : n ∈ names
  holds : p n
  least : ∀ m ∈ names, p m → n ≤ m

theorem IsFirst.congr {p q : String → Prop} (h : ∀ m, p m ↔ q m) (hfirst : IsFirst p names n) :
    IsFirst q names n :=
  ⟨hfirst.mem, (h n).mp hfirst.holds, fun m hm hq => hfirst.least m hm ((h m).mpr hq)⟩

theorem IsFirst.unique {p : String → Prop} {m : String} (h : IsFirst p names n)
    (h' : IsFirst p names m) : n = m :=
  String.le_antisymm (h.least m h'.mem h'.holds) (h'.least n h.mem h.holds)

/-! ### Names -/

/-- A list of plugins is in a file with the extension `conflist`. -/
theorem isListName_iff : isListName n = true ↔ ∃ stem, stem ≠ "" ∧ n = stem ++ ".conflist" := by
  rw [isListName, beq_iff_eq, Path.extension?_eq_some_iff (by decide)]
  exact exists_congr fun stem => and_congr_right fun _ => by rw [String.append_assoc]; rfl

/-- A configuration file has one of two extensions. -/
theorem isConfName_iff :
    isConfName n = true ↔ ∃ stem, stem ≠ "" ∧ (n = stem ++ ".conf" ∨ n = stem ++ ".conflist") := by
  have hconf (stem : String) : stem ++ "." ++ "conf" = stem ++ ".conf" := by
    rw [String.append_assoc]
    rfl
  have hlist (stem : String) : stem ++ "." ++ "conflist" = stem ++ ".conflist" := by
    rw [String.append_assoc]
    rfl
  rw [isConfName, Bool.or_eq_true, beq_iff_eq, beq_iff_eq, Path.extension?_eq_some_iff (by decide),
    Path.extension?_eq_some_iff (by decide), ← exists_or]
  simp only [hconf, hlist, and_or_left]

/-! ### In order -/

theorem ascending_ascending (names : List String) : Ascending (ascending names) := by
  have htrans : ∀ a b c : String, (!decide (b < a)) = true → (!decide (c < b)) = true →
      (!decide (c < a)) = true := by
    simp only [Bool.not_eq_true', decide_eq_false_iff_not, String.not_lt]
    exact fun a b c hab hbc => String.le_trans hab hbc
  have htotal : ∀ a b : String, (!decide (b < a) || !decide (a < b)) = true := by
    simp only [Bool.or_eq_true, Bool.not_eq_true', decide_eq_false_iff_not, String.not_lt]
    exact fun a b => String.le_total a b
  refine (List.pairwise_mergeSort htrans htotal names).imp fun h => ?_
  exact String.not_lt.mp (of_decide_eq_false (Bool.not_eq_true' _ ▸ h))

theorem ascending_confNames (h : d.confNames fs = .ok names) : Ascending names := by
  unfold confNames at h
  split at h
  · cases h
    exact ascending_ascending _
  · cases h
    exact .nil
  · cases h

/-- **The configuration files** of a directory that can be read. -/
theorem mem_confNames_iff {all : List String} (hall : fs.readDirectory d.networks = .ok all)
    (h : d.confNames fs = .ok names) :
    n ∈ names ↔ n ∈ all ∧ isConfName n = true ∧ fs.isFile (d.file n) = true := by
  rw [confNames, hall] at h
  cases h
  rw [confNamesOf, ascending, List.mem_mergeSort, List.mem_filter, Bool.and_eq_true]

/-- A directory that can be read has configuration files, if only none at all. -/
theorem exists_confNames {all : List String} (hall : fs.readDirectory d.networks = .ok all) :
    ∃ names, d.confNames fs = .ok names ∧
      ∀ n, n ∈ names ↔ n ∈ all ∧ isConfName n = true ∧ fs.isFile (d.file n) = true := by
  have hnames : d.confNames fs = .ok (d.confNamesOf fs all) := by rw [confNames, hall]
  exact ⟨_, hnames, fun _ => mem_confNames_iff hall hnames⟩

/-- A directory with nothing but configuration files, listed in order. -/
theorem confNames_of_ascending {all : List String}
    (hall : fs.readDirectory d.networks = .ok all) (h : Ascending all)
    (hfiles : ∀ n ∈ all, isConfName n = true ∧ fs.isFile (d.file n) = true) :
    d.confNames fs = .ok all := by
  have hfilter : (all.filter fun n => isConfName n && fs.isFile (d.file n)) = all := by
    rw [List.filter_eq_self]
    intro n hn
    rw [(hfiles n hn).1, (hfiles n hn).2, Bool.and_self]
  have hsorted : ascending all = all := List.mergeSort_of_pairwise <| h.imp fun hle => by
    rw [Bool.not_eq_true', decide_eq_false_iff_not, String.not_lt]
    exact hle
  rw [confNames, hall]
  dsimp only
  rw [confNamesOf, hfilter, hsorted]

/-- What is found first comes first. -/
theorem find?_eq_some_iff (h : Ascending names) (q : String → Bool) :
    names.find? q = some n ↔ IsFirst (fun m => q m = true) names n := by
  induction names with
  | nil => exact ⟨fun hnone => absurd hnone (by simp), fun hfirst => absurd hfirst.mem (by simp)⟩
  | cons m rest ih =>
    obtain ⟨hm, hrest⟩ := List.pairwise_cons.mp h
    rw [List.find?_cons]
    cases hq : q m with
    | true =>
      dsimp only
      constructor
      · intro heq
        cases heq
        refine ⟨List.mem_cons_self, hq, fun k hk _ => ?_⟩
        rcases List.mem_cons.mp hk with rfl | hk
        · exact String.le_refl k
        · exact hm k hk
      · intro hfirst
        rcases List.mem_cons.mp hfirst.mem with rfl | hn
        · rfl
        · rw [String.le_antisymm (hm n hn) (hfirst.least m List.mem_cons_self hq)]
    | false =>
      rw [ih hrest]
      constructor
      · intro hfirst
        refine ⟨List.mem_cons_of_mem _ hfirst.mem, hfirst.holds, fun k hk hqk => ?_⟩
        rcases List.mem_cons.mp hk with rfl | hk
        · rw [hq] at hqk
          cases hqk
        · exact hfirst.least k hk hqk
      · intro hfirst
        refine ⟨?_, hfirst.holds, fun k hk => hfirst.least k (List.mem_cons_of_mem _ hk)⟩
        rcases List.mem_cons.mp hfirst.mem with rfl | hn
        · exact absurd hfirst.holds (by simp [hq])
        · exact hn

/-- Among names in order, one with the property is the first. -/
theorem exists_isFirst (h : Ascending names) {q : String → Bool} (hmem : n ∈ names)
    (hq : q n = true) : ∃ m, IsFirst (fun k => q k = true) names m := by
  cases hfind : names.find? q with
  | none => exact absurd hq (List.find?_eq_none.mp hfind n hmem)
  | some m => exact ⟨m, (find?_eq_some_iff h q).mp hfind⟩

/-! ### Lookups -/

/-- What a path leads to is what is loaded. -/
theorem load_congr {other : FileSystem} {path : String}
    (h : fs.resolve path = other.resolve path) : load fs path = load other path := by
  rw [load, load, FileSystem.readFile, FileSystem.readFile, h]

/-- A file is loaded if what it holds is read. -/
theorem load_of_resolve {path : String} {place : Place} {content : Bytes} {mode : Nat}
    {l : ConfList} (h : fs.resolve path = .ok (.entry place (.file content mode)))
    (hmode : FileSystem.isReadable mode = true)
    (hparse : parseNamed (Path.fileName? path) content = .ok l) : load fs path = .ok l := by
  have hcontent : fs.readFile path = .ok content := by
    rw [FileSystem.readFile, h]
    exact if_pos hmode
  rw [load, hcontent]
  dsimp only
  rw [hparse]
  rfl

/-- **The configuration file of a plugin**: the first with its name. -/
theorem findConf_eq_some_iff (h : d.confNames fs = .ok names) {plugin path : String} :
    d.findConf fs plugin = .ok (some path) ↔
      ∃ n, IsFirst (fun m => isFor plugin m = true) names n ∧ path = d.file n := by
  rw [findConf, h]
  simp only [Except.map, Except.ok.injEq, Option.map_eq_some_iff,
    find?_eq_some_iff (ascending_confNames h)]
  exact exists_congr fun n => and_congr_right fun _ => eq_comm

/-- A plugin has no configuration file if no file has its name. -/
theorem findConf_eq_none_iff (h : d.confNames fs = .ok names) {plugin : String} :
    d.findConf fs plugin = .ok none ↔ ∀ n ∈ names, isFor plugin n = false := by
  rw [findConf, h]
  simp [Except.map]

/-- The file can be loaded and what it holds has a property. -/
def Holds (d : Directory) (fs : FileSystem) (p : ConfList → Prop) (n : String) : Prop :=
  ∃ l, load fs (d.file n) = .ok l ∧ p l

theorem Holds.of_load {p : ConfList → Prop} {l : ConfList} (h : d.Holds fs p n)
    (hload : load fs (d.file n) = .ok l) : p l := by
  obtain ⟨l', hload', hp⟩ := h
  rw [hload] at hload'
  cases hload'
  exact hp

/-- What is found first among files that can be loaded. -/
theorem find?_loadable_eq_some_iff (h : Ascending names) (q : ConfList → Bool) {l : ConfList} :
    ((d.loadable fs names).find? fun e => q e.2) = some (n, l) ↔
      load fs (d.file n) = .ok l ∧ IsFirst (d.Holds fs fun l => q l = true) names n := by
  rw [loadable, List.find?_filterMap, Option.bind_eq_some_iff]
  constructor
  · rintro ⟨m, hfind, hload⟩
    split at hload
    · rename_i hm
      cases hload
      refine ⟨hm, ((find?_eq_some_iff h _).mp hfind).congr fun k => ?_⟩
      unfold Holds
      cases load fs (d.file k) <;> simp
    · cases hload
  · rintro ⟨hload, hfirst⟩
    refine ⟨n, (find?_eq_some_iff h _).mpr (hfirst.congr fun k => ?_), by rw [hload]⟩
    unfold Holds
    cases load fs (d.file k) <;> simp

theorem find?_loadable_eq_none_iff (q : ConfList → Bool) :
    ((d.loadable fs names).find? fun e => q e.2) = none ↔
      ∀ n ∈ names, ¬d.Holds fs (fun l => q l = true) n := by
  rw [List.find?_eq_none]
  constructor
  · rintro h n hn ⟨l, hload, hq⟩
    exact h (n, l) (List.mem_filterMap.mpr ⟨n, hn, by rw [hload]⟩) hq
  · intro h e he hq
    obtain ⟨n, hn, hload⟩ := List.mem_filterMap.mp he
    split at hload
    · rename_i l hl
      cases hload
      exact h n hn ⟨l, hl, hq⟩
    · cases hload

/-- **The default network** is in the first file, the program's own aside, that can be loaded and whose
first plugin is not the program itself. -/
theorem defaultNetwork_eq_some_iff (h : d.confNames fs = .ok names) {l : ConfList} :
    d.defaultNetwork fs = .ok (some l) ↔
      ∃ n, load fs (d.file n) = .ok l ∧
        IsFirst (d.Holds fs fun l => (l.primaryType != ownType) = true)
          (names.filter (· != ownFile)) n := by
  have hascending : Ascending (names.filter (· != ownFile)) :=
    (ascending_confNames h).filter _
  rw [defaultNetwork, h]
  simp only [Except.map, Except.ok.injEq, Option.map_eq_some_iff, Prod.exists]
  constructor
  · rintro ⟨n, l', hfind, rfl⟩
    exact ⟨n, (find?_loadable_eq_some_iff hascending _).mp hfind⟩
  · rintro ⟨n, hfound⟩
    exact ⟨n, l, (find?_loadable_eq_some_iff hascending _).mpr hfound, rfl⟩

/-- There is no default network if every file that can be loaded is the program's own or names it. -/
theorem defaultNetwork_eq_none_iff (h : d.confNames fs = .ok names) :
    d.defaultNetwork fs = .ok none ↔
      ∀ n ∈ names, n ≠ ownFile → ¬d.Holds fs (fun l => (l.primaryType != ownType) = true) n := by
  rw [defaultNetwork, h]
  simp only [Except.map, Except.ok.injEq, Option.map_eq_none_iff,
    find?_loadable_eq_none_iff fun l => l.primaryType != ownType, List.mem_filter, bne_iff_ne,
    and_imp]

/-- **A network with a name** is in the first file that can be loaded and has the name in it: the first
of those that hold lists, if there is one. -/
theorem networkNamed_eq_some_iff (h : d.confNames fs = .ok names) {name : String} {l : ConfList} :
    d.networkNamed fs name = .ok (some l) ↔
      ∃ n ∈ names, load fs (d.file n) = .ok l ∧ l.name = name ∧
        ∀ m ∈ names, d.Holds fs (·.name = name) m →
          (isListName m = true → isListName n = true) ∧
          (isListName m = isListName n → n ≤ m) := by
  have hsome : ∀ p n l, ((d.loadable fs (names.filter p)).find? fun e => e.2.name == name) =
      some (n, l) ↔
        load fs (d.file n) = .ok l ∧ IsFirst (d.Holds fs (·.name = name)) (names.filter p) n := by
    intro p n l
    rw [find?_loadable_eq_some_iff ((ascending_confNames h).filter p) fun l => l.name == name]
    simp only [beq_iff_eq]
  have hnone : ∀ files, ((d.loadable fs files).find? fun e => e.2.name == name) = none ↔
      ∀ n ∈ files, ¬d.Holds fs (·.name = name) n := by
    intro files
    rw [find?_loadable_eq_none_iff fun l => l.name == name]
    simp only [beq_iff_eq]
  have hsplit : d.loadable fs (names.filter isListName ++ names.filter fun n => !isListName n) =
      d.loadable fs (names.filter isListName) ++
        d.loadable fs (names.filter fun n => !isListName n) := List.filterMap_append
  rw [networkNamed, h]
  simp only [Except.map, Except.ok.injEq, Option.map_eq_some_iff, Prod.exists, hsplit,
    List.find?_append, Option.or_eq_some_iff, hsome, hnone]
  constructor
  · rintro ⟨n, l', (⟨hload, hfirst⟩ | ⟨hnone, hload, hfirst⟩), rfl⟩
    · obtain ⟨hn, hlist⟩ := List.mem_filter.mp hfirst.mem
      refine ⟨n, hn, hload, hfirst.holds.of_load hload, fun m hm hholds => ⟨fun _ => hlist, ?_⟩⟩
      exact fun heq => hfirst.least m (List.mem_filter.mpr ⟨hm, heq.trans hlist⟩) hholds
    · obtain ⟨hn, hsingle⟩ := List.mem_filter.mp hfirst.mem
      refine ⟨n, hn, hload, hfirst.holds.of_load hload, fun m hm hholds => ⟨fun hlist => ?_, ?_⟩⟩
      · exact absurd hholds (hnone m (List.mem_filter.mpr ⟨hm, hlist⟩))
      · exact fun heq => hfirst.least m (List.mem_filter.mpr ⟨hm, by rw [heq]; exact hsingle⟩) hholds
  · rintro ⟨n, hn, hload, hname, hbest⟩
    refine ⟨n, l, ?_, rfl⟩
    cases hlist : isListName n with
    | true =>
      refine .inl ⟨hload, List.mem_filter.mpr ⟨hn, hlist⟩, ⟨l, hload, hname⟩, fun m hm hholds => ?_⟩
      obtain ⟨hm, hmlist⟩ := List.mem_filter.mp hm
      exact (hbest m hm hholds).2 (hmlist.trans hlist.symm)
    | false =>
      refine .inr ⟨fun m hm hholds => ?_, hload, List.mem_filter.mpr ⟨hn, by simp [hlist]⟩,
        ⟨l, hload, hname⟩, fun m hm hholds => ?_⟩
      · obtain ⟨hm, hmlist⟩ := List.mem_filter.mp hm
        rw [(hbest m hm hholds).1 hmlist] at hlist
        cases hlist
      · obtain ⟨hm, hmsingle⟩ := List.mem_filter.mp hm
        exact (hbest m hm hholds).2 (hlist ▸ by simpa using hmsingle)

/-- There is no network with the name if no file that can be loaded has it. -/
theorem networkNamed_eq_none_iff (h : d.confNames fs = .ok names) {name : String} :
    d.networkNamed fs name = .ok none ↔ ∀ n ∈ names, ¬d.Holds fs (·.name = name) n := by
  rw [networkNamed, h]
  simp only [Except.map, Except.ok.injEq, Option.map_eq_none_iff,
    find?_loadable_eq_none_iff fun l => l.name == name, List.mem_append, List.mem_filter,
    Bool.not_eq_true', beq_iff_eq]
  refine forall_congr' fun n => ⟨fun hnone hn => hnone ?_, fun hnone hn => hnone ?_⟩
  · cases isListName n
    · exact .inr ⟨hn, rfl⟩
    · exact .inl ⟨hn, rfl⟩
  · exact hn.elim And.left And.left

/-! ### A directory with one file -/

/-- The one name that there is comes first. -/
theorem isFirst_singleton {p : String → Prop} (h : p n) : IsFirst p [n] n := by
  refine ⟨List.mem_singleton.mpr rfl, h, fun m hm _ => ?_⟩
  obtain rfl := List.mem_singleton.mp hm
  exact String.le_refl m

/-- A file system with nothing but a configuration in the root. -/
def singleConf (name : String) (conf : Object) : FileSystem :=
  .single name (Bytes.ofString (Json.compact (.obj conf)))

/-- A configuration of one plugin is read as it was written. -/
theorem parseNamed_compact {conf : Object} {l : ConfList} (hsingle : isListName n = false)
    (hexact : (Json.obj conf).Exact)
    (hread : (Json.Document.ofJson (.obj conf)).toJson? Json.Document.maxDepth = some (.obj conf))
    (hlist : ConfList.ofConf conf = .ok l) :
    parseNamed (some n) (Bytes.ofString (Json.compact (.obj conf))) = .ok l := by
  have hjson : Json.read? (Bytes.ofString (Json.compact (.obj conf))) = some (.obj conf) := by
    rw [Json.read?, Json.Document.read?_compact hexact, Option.bind_some, hread]
  rw [parseNamed, Option.any_some, hsingle, if_neg Bool.false_ne_true, ConfList.parseConf, hjson]
  exact hlist

/-- Where the root is the directory, the configuration is its only one, and loaded as it was written. -/
theorem load_singleConf (binaries : List String) {conf : Object} {l : ConfList}
    (hname : Path.IsName n) (hshort : n.utf8ByteSize ≤ FileSystem.maxNameLength)
    (hcheck : FileSystem.checkPath (Path.join "/" n) = .ok ()) (hconf : isConfName n = true)
    (hsingle : isListName n = false) (hexact : (Json.obj conf).Exact)
    (hread : (Json.Document.ofJson (.obj conf)).toJson? Json.Document.maxDepth = some (.obj conf))
    (hlist : ConfList.ofConf conf = .ok l) :
    confNames ⟨"/", binaries⟩ (singleConf n conf) = .ok [n] ∧
      load (singleConf n conf) (file ⟨"/", binaries⟩ n) = .ok l := by
  have hfile := FileSystem.resolve_single (Bytes.ofString (Json.compact (.obj conf))) hname hshort
    hcheck
  constructor
  · refine confNames_of_ascending (FileSystem.readDirectory_single n _) (List.pairwise_singleton _ _)
      fun m hm => ?_
    rw [List.mem_singleton.mp hm]
    refine ⟨hconf, ?_⟩
    rw [FileSystem.isFile, file, singleConf, hfile]
  · have hfileName : Path.fileName? (file ⟨"/", binaries⟩ n) = some n := Path.fileName?_join hname
    refine load_of_resolve hfile (by rfl) ?_
    rw [hfileName]
    exact parseNamed_compact hsingle hexact hread hlist

end PodNet.Directory
