import PodNet.Proofs.Persisting

/-!
# A persisted configuration before others

A plugin is looked up by its name in the names of the files, and the name of one plugin may be part of
that of another: `10-macvlan.conf` has `vlan` in its name. So a built-in configuration that is
persisted can come to stand before the file of another plugin, which is then served by it. Persisting
leaves all configuration files as they are, and a plugin that had one is served by the same list
afterwards just if the files that are new and have its name come later, or hold the same
(`other_served_same_iff`). For `macvlan` and `vlan` they do not (`vlan_taken_over`).
-/

namespace PodNet

namespace Directory

variable {d : Directory} {fs : FileSystem} {disk : Disk} {names : List String} {n : String}

/-- Persisting leaves all configuration files as they are. -/
theorem Persists.load_eq {left : FileSystem} (h : d.Persists disk fs left)
    (hnames : d.confNames fs = .ok names) (hmem : n ∈ names) :
    (∃ after, d.confNames left = .ok after ∧ n ∈ after) ∧
      load left (d.file n) = load fs (d.file n) := by
  obtain ⟨place, content, mode, hstands⟩ := exists_stands hnames hmem
  have hafter := h.stands hstands
  exact ⟨hafter.listed, load_congr (hafter.leads.trans hstands.leads.symm)⟩

end Directory

namespace Resolver

variable {r : Resolver} {files left : FileSystem} {p q : String} {l m : ConfList}
  {names after : List String} {n : String}

/-- Resolving a plugin with a configuration file is loading that. -/
theorem runOn_pluginList_named (h : r.directory.confNames files = .ok names)
    (first : Directory.IsFirst (fun k => Directory.isFor q k = true) names n)
    (journal : List Event) :
    (r.pluginList q).runOn ⟨files, journal⟩ =
      (Directory.load files (r.directory.file n), ⟨files, journal⟩) := by
  have hnamed : r.directory.findConf files q = .ok (some (r.directory.file n)) :=
    (Directory.findConf_eq_some_iff h).mpr ⟨n, first, rfl⟩
  unfold pluginList
  rw [Task.runOn_bind_ok (by rw [Task.runOn_look, hnamed]), Task.runOn_look]

/-- A plugin with a configuration file is served by what that holds. -/
theorem runOn_pluginList_of_named (h : r.directory.confNames files = .ok names)
    (first : Directory.IsFirst (fun k => Directory.isFor q k = true) names n)
    (journal : List Event) :
    ((r.pluginList q).runOn ⟨files, journal⟩).1 =
      Directory.load files (r.directory.file n) :=
  congrArg Prod.fst (runOn_pluginList_named h first journal)

/-- Serving a plugin without a configuration file persists what serves it. -/
theorem Serves.persists (h : r.Serves files p l left) (persist : r.persistBuiltins = true)
    (unnamed : r.directory.findConf files p = .ok none) :
    ∃ conf, r.directory.Due files p conf ∧ ConfList.ofConf conf = .ok l ∧
      r.directory.write files (Builtin.fileName p) r.disk (.obj conf) = (.ok (), left) ∧
      r.directory.Persists r.disk files left := by
  cases h with
  | found named =>
    rw [unnamed] at named
    cases named
  | builtin _ _ _ keep =>
    rw [persist] at keep
    cases keep
  | @written conf _ _ _ usable list _ writes =>
    obtain ⟨hbuiltin, hbinary⟩ := builtinConf_eq_ok_iff.mp usable
    have due : r.directory.Due files p conf := ⟨hbuiltin, unnamed, hbinary⟩
    have hpersists := due.persists r.disk
    rw [writes] at hpersists
    exact ⟨conf, due, list, writes, hpersists⟩

/-- What is new has a name of its own, and is loaded as the list of its plugin. -/
theorem new_of_persists {conf : Object} (due : r.directory.Due files p conf)
    (list : ConfList.ofConf conf = .ok l)
    (writes : r.directory.write files (Builtin.fileName p) r.disk (.obj conf) = (.ok (), left))
    (listed : r.directory.confNames files = .ok names)
    (hafter : r.directory.confNames left = .ok after) (hthere : n ∈ names) :
    Builtin.fileName p ∈ after ∧ Builtin.fileName p ∉ names ∧
      Directory.load left (r.directory.file (Builtin.fileName p)) = .ok l := by
  obtain ⟨hname, hconf, hsingle, hfor⟩ := Builtin.fileName_spec due.builtin
  have hnetworks : r.directory.networks ≠ "" := by
    intro hempty
    obtain ⟨all, hall⟩ := Directory.exists_readDirectory listed hthere
    rw [hempty] at hall
    cases hall
  obtain ⟨names', hnames', hmem⟩ := Directory.mem_of_write writes hnetworks hname hconf
  rw [hafter] at hnames'
  cases hnames'
  refine ⟨hmem, fun hold => ?_,
    Directory.load_of_write writes hname hsingle (Builtin.read?_pretty due.builtin) list⟩
  rw [(Directory.findConf_eq_none_iff listed).mp due.unnamed _ hold] at hfor
  cases hfor

/-- Where no name was taken away, the first name with a property stays the first or is a new one that
comes before. -/
theorem first_of_after (kept : ∀ k ∈ names, k ∈ after)
    (first : Directory.IsFirst (fun k => Directory.isFor q k = true) names n) {k : String}
    (firstAfter : Directory.IsFirst (fun k => Directory.isFor q k = true) after k) :
    k = n ∨ k < n ∧
      Directory.IsFirst (fun k => k ∉ names ∧ Directory.isFor q k = true) after k := by
  have hle : k ≤ n := firstAfter.least n (kept n first.mem) first.holds
  by_cases hold : k ∈ names
  · exact .inl (String.le_antisymm hle (first.least k hold firstAfter.holds))
  · have hne : k ≠ n := fun heq => hold (heq ▸ first.mem)
    have hlt : k < n := String.not_le.mp fun hge => hne (String.le_antisymm hle hge)
    refine .inr ⟨hlt, firstAfter.mem, ⟨hold, firstAfter.holds⟩, fun j hj h => ?_⟩
    exact firstAfter.least j hj h.2

/-- **A plugin is served by the same list after names were added** just if the first new name with its
own in it comes later, or what it names holds the same. -/
theorem runOn_pluginList_after_iff (kept : ∀ k ∈ names, k ∈ after)
    (hafter : r.directory.confNames left = .ok after)
    (first : Directory.IsFirst (fun k => Directory.isFor q k = true) names n)
    (same : Directory.load left (r.directory.file n) = .ok m) (journal : List Event) :
    ((r.pluginList q).runOn ⟨left, journal⟩).1 = .ok m ↔
      ∀ k, Directory.IsFirst (fun k => k ∉ names ∧ Directory.isFor q k = true) after k → k < n →
        Directory.load left (r.directory.file k) = .ok m := by
  obtain ⟨k, hk⟩ := Directory.exists_isFirst (Directory.ascending_confNames hafter)
    (kept n first.mem) first.holds
  rw [runOn_pluginList_of_named hafter hk]
  rcases first_of_after kept first hk with rfl | ⟨hlt, hnew⟩
  · -- no new name comes before
    refine ⟨fun _ j hj hlt => ?_, fun _ => same⟩
    exact absurd (hk.least j hj.mem hj.holds.2) (String.not_le.mpr hlt)
  · constructor
    · intro hload j hj _
      rw [hj.unique hnew]
      exact hload
    · intro hall
      exact hall k hnew hlt

/-- Where one name is new, the first new name with that of the plugin in it comes later or holds the
same just if it is so of that one name. -/
theorem first_new_iff_of_only {new : String} (hn : n ∈ names) (hmem : new ∈ after)
    (hnot : new ∉ names) (hload : Directory.load left (r.directory.file new) = .ok l)
    (only : ∀ k ∈ after, k ∉ names → k = new) :
    (∀ k, Directory.IsFirst (fun k => k ∉ names ∧ Directory.isFor q k = true) after k → k < n →
        Directory.load left (r.directory.file k) = .ok m) ↔
      (Directory.isFor q new = true → n < new ∨ m = l) := by
  refine ⟨fun hall hfor => ?_, fun hall k hk hlt => ?_⟩
  · have hfirst : Directory.IsFirst (fun k => k ∉ names ∧ Directory.isFor q k = true) after new :=
      ⟨hmem, ⟨hnot, hfor⟩, fun k hk h => only k hk h.1 ▸ String.le_refl _⟩
    by_cases hlt : n < new
    · exact .inl hlt
    · have hne : new ≠ n := fun heq => hnot (heq ▸ hn)
      have hbefore : new < n :=
        String.not_le.mp fun hge => hne (String.le_antisymm (String.not_lt.mp hlt) hge)
      have hsame := hall new hfirst hbefore
      rw [hload] at hsame
      cases hsame
      exact .inr rfl
  · have heq := only k hk.mem hk.holds.1
    subst heq
    rcases hall hk.holds.2 with hlater | rfl
    · exact absurd (String.lt_trans hlt hlater) (String.lt_irrefl _)
    · exact hload

/-! ### A directory with `vlan` -/

/-- The configuration of `vlan`. -/
def vlanConf : Object :=
  [("cniVersion", .str "0.3.0"), ("name", .str "vlannet"), ("type", .str "vlan")]

/-- The list of that configuration. -/
def vlanList : ConfList := ⟨"0.3.0", "vlannet", [vlanConf], []⟩

/-- The files of a node on which `vlan` is configured, and the binaries of two plugins with built-in
configurations are installed, all in the root. -/
def vlanFiles : FileSystem :=
  ⟨[(["20-vlan.conf"], .file (Bytes.ofString (Json.compact (.obj vlanConf))) 0o644),
    (["bridge"], .file [] 0o755), (["macvlan"], .file [] 0o755)], []⟩

/-- A resolver there that persists built-in configurations. -/
def persistingResolver : Resolver where
  cluster := none
  directory := ⟨"/", ["/"]⟩
  defaultPlugin := "macvlan"
  persistBuiltins := true

theorem list_vlan : ConfList.ofConf vlanConf = .ok vlanList := by
  rfl

theorem resolve_vlan :
    vlanFiles.resolve (persistingResolver.directory.file "20-vlan.conf") =
      .ok (.entry ["20-vlan.conf"]
        (.file (Bytes.ofString (Json.compact (.obj vlanConf))) 0o644)) :=
  FileSystem.resolve_root (by decide) (by decide) (by decide) (by rfl)

theorem load_vlan :
    Directory.load vlanFiles (persistingResolver.directory.file "20-vlan.conf") = .ok vlanList := by
  refine Directory.load_of_resolve resolve_vlan (by rfl) ?_
  exact Directory.parseNamed_compact (by rfl) ⟨trivial, trivial, trivial, trivial⟩ (by rfl) list_vlan

/-- Nothing but the file of `vlan` is a configuration. -/
theorem confNames_vlan : persistingResolver.directory.confNames vlanFiles = .ok ["20-vlan.conf"] := by
  have hall : vlanFiles.readDirectory persistingResolver.directory.networks =
      .ok ["20-vlan.conf", "bridge", "macvlan"] :=
    FileSystem.readDirectory_slash vlanFiles
  have hfile : vlanFiles.isFile (persistingResolver.directory.file "20-vlan.conf") = true := by
    rw [FileSystem.isFile, resolve_vlan]
  have hfilter : ["20-vlan.conf", "bridge", "macvlan"].filter (fun n => Directory.isConfName n &&
      vlanFiles.isFile (persistingResolver.directory.file n)) = ["20-vlan.conf"] := by
    rw [List.filter_cons, hfile]
    rfl
  rw [Directory.confNames, hall]
  dsimp only
  rw [Directory.confNamesOf, hfilter, Directory.ascending, List.mergeSort_singleton]

/-- Nothing but that file is one of `vlan`. -/
theorem first_vlan :
    Directory.IsFirst (fun k => Directory.isFor "vlan" k = true) ["20-vlan.conf"] "20-vlan.conf" :=
  Directory.isFirst_singleton (by decide)

/-- The files after the built-in configuration of a plugin was persisted. -/
def persisted (plugin : String) (conf : Object) : FileSystem :=
  vlanFiles.put [Builtin.fileName plugin] (Directory.builtinFile conf)

/-- Either of the plugins has no configuration file, and its built-in configuration is persisted. -/
theorem runOn_persisted {plugin : String} {conf : Object} {l : ConfList}
    (hconf : Builtin.conf? plugin = some conf) (hlist : ConfList.ofConf conf = .ok l)
    (hbinary : vlanFiles.at? [plugin] = some (.file [] 0o755)) :
    persistingResolver.directory.findConf vlanFiles plugin = .ok none ∧
      (persistingResolver.pluginList plugin).runOn ⟨vlanFiles, []⟩ =
        (.ok l, ⟨persisted plugin conf, []⟩) := by
  obtain ⟨⟨hname, hshort, hcheck, hfor⟩, ⟨hname', hshort', hcheck', hend, vacant⟩⟩ :=
    Builtin.forall_conf? (P := fun plugin _ =>
      (Path.IsName plugin ∧ plugin.utf8ByteSize ≤ FileSystem.maxNameLength ∧
        FileSystem.checkPath (Path.join "/" plugin) = .ok () ∧
        Directory.isFor plugin "20-vlan.conf" = false) ∧
      Path.IsName (Builtin.fileName plugin) ∧
        (Builtin.fileName plugin).utf8ByteSize ≤ FileSystem.maxNameLength ∧
        FileSystem.checkPath (Path.join "/" (Builtin.fileName plugin)) = .ok () ∧
        (Path.join "/" (Builtin.fileName plugin)).toList.getLast? ≠ some '/' ∧
        vlanFiles.at? [Builtin.fileName plugin] = none)
      (by decide) (by decide) (by decide) hconf
  have unnamed : persistingResolver.directory.findConf vlanFiles plugin = .ok none := by
    refine (Directory.findConf_eq_none_iff confNames_vlan).mpr fun n hn => ?_
    rw [List.mem_singleton.mp hn]
    exact hfor
  have hfile : vlanFiles.isFile (Path.join "/" plugin) = true := by
    rw [FileSystem.isFile, FileSystem.resolve_root hname hshort hcheck hbinary]
  have hfound : (persistingResolver.directory.findBinary vlanFiles plugin).isSome = true := by
    show ([Path.join "/" plugin].find? vlanFiles.isFile).isSome = true
    rw [List.find?_cons, hfile]
    rfl
  have writes : persistingResolver.directory.write vlanFiles (Builtin.fileName plugin) .sound
      (.obj conf) = (.ok (), persisted plugin conf) := by
    have hplace : vlanFiles.writePlace (Path.join "/" (Builtin.fileName plugin)) =
        .ok [Builtin.fileName plugin] :=
      FileSystem.writePlace_root hname' hcheck' hend (.of_free hname' hshort' vacant)
    rw [Directory.write_of_listed (FileSystem.readDirectory_slash vlanFiles),
      show persistingResolver.directory.file (Builtin.fileName plugin) =
        Path.join "/" (Builtin.fileName plugin) from rfl, FileSystem.writeFile, hplace]
    rfl
  have usable := builtinConf_eq_ok_iff.mpr ⟨hconf, hfound⟩
  exact ⟨unnamed, (Serves.written unnamed usable hlist rfl writes).runOn []⟩

/-- Of the names that there are afterwards, only that of the configuration that was persisted is new. -/
theorem new_of_persisted {plugin : String} {conf : Object} {after : List String}
    (hconf : Builtin.conf? plugin = some conf)
    (hafter : persistingResolver.directory.confNames (persisted plugin conf) = .ok after) :
    ∀ k ∈ after, k ∉ ["20-vlan.conf"] → k = Builtin.fileName plugin := by
  intro k hk hnew
  have hall : (persisted plugin conf).readDirectory persistingResolver.directory.networks =
      .ok ["20-vlan.conf", "bridge", "macvlan", Builtin.fileName plugin] :=
    Builtin.forall_conf? (P := fun plugin conf =>
      (persisted plugin conf).readDirectory persistingResolver.directory.networks =
        .ok ["20-vlan.conf", "bridge", "macvlan", Builtin.fileName plugin])
      (FileSystem.readDirectory_slash _) (FileSystem.readDirectory_slash _)
      (FileSystem.readDirectory_slash _) hconf
  obtain ⟨hmem, hisConf, -⟩ := (Directory.mem_confNames_iff hall hafter).mp hk
  simp only [List.mem_cons, List.not_mem_nil, or_false] at hmem hnew
  rcases hmem with rfl | rfl | rfl | rfl
  · exact absurd rfl hnew
  · exact absurd hisConf (by decide)
  · exact absurd hisConf (by decide)
  · rfl

/-! ### Other plugins -/

/-- **What another plugin is served by after a built-in configuration was persisted.** All
configuration files are still there and hold what they held, and the new one holds the built-in
configuration. The other plugin, which had a configuration file, is served by the same list just if the
first new file with its name comes later or holds that list too. Where the new file is the only one,
that is: its name does not have that of the plugin in it, or comes later, or the list is the same. -/
theorem other_served_same_iff (r : Resolver) (files left : FileSystem) (p q : String)
    (l m : ConfList) (journal later : List Event) (names : List String) (n : String)
    (persist : r.persistBuiltins = true)
    (unnamed : r.directory.findConf files p = .ok none)
    (persisted : (r.pluginList p).runOn ⟨files, journal⟩ = (.ok l, ⟨left, journal⟩))
    (listed : r.directory.confNames files = .ok names)
    (first : Directory.IsFirst (fun k => Directory.isFor q k = true) names n)
    (loaded : Directory.load files (r.directory.file n) = .ok m) :
    let d := r.directory
    let again := ((r.pluginList q).runOn ⟨left, later⟩).1
    ∃ after, d.confNames left = .ok after ∧
      (∀ k ∈ names, k ∈ after ∧ Directory.load left (d.file k) = Directory.load files (d.file k)) ∧
      (Builtin.fileName p ∈ after ∧ Builtin.fileName p ∉ names ∧
        Directory.load left (d.file (Builtin.fileName p)) = .ok l) ∧
      (again = .ok m ↔
        ∀ k, Directory.IsFirst (fun k => k ∉ names ∧ Directory.isFor q k = true) after k → k < n →
          Directory.load left (d.file k) = .ok m) ∧
      ((∀ k ∈ after, k ∉ names → k = Builtin.fileName p) →
        (again = .ok m ↔
          (Directory.isFor q (Builtin.fileName p) = true → n < Builtin.fileName p ∨ m = l))) := by
  obtain ⟨hserves, -⟩ := runOn_pluginList_eq_ok_iff.mp persisted
  obtain ⟨conf, due, list, writes, hpersists⟩ := hserves.persists persist unnamed
  have hkept := fun k (hk : k ∈ names) => hpersists.load_eq listed hk
  obtain ⟨after, hafter, -⟩ := (hkept n first.mem).1
  have kept : ∀ k ∈ names, k ∈ after := by
    intro k hk
    obtain ⟨after', hafter', hmem⟩ := (hkept k hk).1
    rw [hafter] at hafter'
    cases hafter'
    exact hmem
  have same : Directory.load left (r.directory.file n) = .ok m :=
    (hkept n first.mem).2.trans loaded
  have hnew := new_of_persists due list writes listed hafter first.mem
  have hiff := runOn_pluginList_after_iff kept hafter first same later
  refine ⟨after, hafter, fun k hk => ⟨kept k hk, (hkept k hk).2⟩, hnew, hiff, fun only => ?_⟩
  exact hiff.trans (first_new_iff_of_only first.mem hnew.1 hnew.2.1 hnew.2.2 only)

/-- The file of `bridge` does not have `vlan` in its name, and `vlan` is served as before. -/
theorem other_served_same_bridge :
    persistingResolver.directory.findConf vlanFiles "bridge" = .ok none ∧
      ∃ l, (persistingResolver.pluginList "bridge").runOn ⟨vlanFiles, []⟩ =
          (.ok l, ⟨persisted "bridge" Builtin.bridge, []⟩) ∧
        ((persistingResolver.pluginList "vlan").runOn ⟨vlanFiles, []⟩).1 = .ok vlanList ∧
        ((persistingResolver.pluginList "vlan").runOn
          ⟨persisted "bridge" Builtin.bridge, []⟩).1 = .ok vlanList := by
  have hconf : Builtin.conf? "bridge" = some Builtin.bridge := rfl
  obtain ⟨l, hlist, -⟩ := Builtin.exists_list hconf
  obtain ⟨unnamed, hrun⟩ := runOn_persisted hconf hlist (by rfl)
  obtain ⟨after, hafter, -, -, -, honly⟩ := other_served_same_iff persistingResolver vlanFiles _
    "bridge" "vlan" l vlanList [] [] _ _ rfl unnamed hrun confNames_vlan first_vlan load_vlan
  refine ⟨unnamed, l, hrun, ?_, (honly (new_of_persisted hconf hafter)).mpr fun hfor => ?_⟩
  · rw [runOn_pluginList_of_named confNames_vlan first_vlan]
    exact load_vlan
  · exact absurd hfor (by decide)

/-- **`vlan` is taken over by `macvlan`**: it has a configuration file and is served by that, and after
the built-in configuration of `macvlan` was persisted it is served by the list of `macvlan`. -/
theorem vlan_taken_over :
    persistingResolver.directory.findConf vlanFiles "macvlan" = .ok none ∧
      ((persistingResolver.pluginList "vlan").runOn ⟨vlanFiles, []⟩).1 = .ok vlanList ∧
      ∃ l, l.pluginTypes = ["macvlan"] ∧
        (persistingResolver.pluginList "macvlan").runOn ⟨vlanFiles, []⟩ =
          (.ok l, ⟨persisted "macvlan" Builtin.macvlan, []⟩) ∧
        ((persistingResolver.pluginList "vlan").runOn
          ⟨persisted "macvlan" Builtin.macvlan, []⟩).1 = .ok l := by
  have hconf : Builtin.conf? "macvlan" = some Builtin.macvlan := rfl
  obtain ⟨l, hlist, htypes⟩ := Builtin.exists_list hconf
  obtain ⟨unnamed, hrun⟩ := runOn_persisted hconf hlist (by rfl)
  obtain ⟨conf, due, hlist', writes, hpersists⟩ :=
    (runOn_pluginList_eq_ok_iff.mp hrun).1.persists rfl unnamed
  obtain ⟨after, hafter, -⟩ := (hpersists.load_eq confNames_vlan (List.mem_singleton_self _)).1
  obtain ⟨hmem, -, hload⟩ :=
    new_of_persists due hlist' writes confNames_vlan hafter (List.mem_singleton_self _)
  have first : Directory.IsFirst (fun k => Directory.isFor "vlan" k = true) after
      (Builtin.fileName "macvlan") := by
    refine ⟨hmem, by decide, fun k hk _ => ?_⟩
    by_cases hold : k ∈ ["20-vlan.conf"]
    · rw [List.mem_singleton.mp hold]
      decide
    · have hk := new_of_persisted hconf hafter k hk hold
      subst hk
      exact String.le_refl _
  refine ⟨unnamed, ?_, l, htypes, hrun, ?_⟩
  · rw [runOn_pluginList_of_named confNames_vlan first_vlan]
    exact load_vlan
  · rw [runOn_pluginList_of_named hafter first]
    exact hload

end Resolver

end PodNet
