import PodNet.Proofs.Json.RoundTrip
import PodNet.Proofs.LeastTraffic
import PodNet.Proofs.Serving
import PodNet.Selector

/-!
# Plugins that are ranked

Where traffic is measured, the plugin with the least of it serves pods that ask for nothing. The
candidates are the types of plugins in the configuration files (`Selector.of_ranked`), but a plugin is
then looked for by the names of the files. Nothing ties the two together. What was ranked is attached
just if the first file with its name in the file name holds a network of it, or no file has the name
and the plugin is built in (`Resolver.ranked_served_iff`).
-/

namespace PodNet

/-! ### Ranking -/

namespace Usage

variable {candidates : List String} {usage : List InterfaceTraffic} {p : String}

/-- The plugin with the least traffic is one of the candidates. -/
theorem mem_of_leastUsed (h : leastUsed candidates usage = some p) : p ∈ candidates := by
  obtain ⟨e, hleast, rfl⟩ := Option.map_eq_some_iff.mp h
  obtain ⟨before, after, hentries, -⟩ := exists_of_least hleast
  have hentry : e ∈ before ++ e :: after := List.mem_append_right _ List.mem_cons_self
  rw [← hentries] at hentry
  obtain ⟨plugin, hmem, he⟩ := List.mem_filterMap.mp hentry
  obtain ⟨n, -, rfl⟩ := Option.map_eq_some_iff.mp he
  exact hmem

end Usage

namespace Directory

variable {d : Directory} {fs : FileSystem} {names : List String}

/-- Collecting types adds none that is not there, and not the program's own. -/
theorem mem_of_mem_foldl {types collected : List String} {t : String}
    (h : t ∈ types.foldl
      (fun all t => if t == ownType || all.contains t then all else all ++ [t]) collected) :
    t ∈ collected ∨ t ∈ types ∧ t ≠ ownType := by
  induction types generalizing collected with
  | nil => exact .inl h
  | cons first rest ih =>
    rw [List.foldl_cons] at h
    rcases ih h with hcollected | ⟨hrest, hother⟩
    · split_ifs at hcollected with hskip
      · exact .inl hcollected
      · rcases List.mem_append.mp hcollected with hcollected | hfirst
        · exact .inl hcollected
        · rw [List.mem_singleton] at hfirst
          subst hfirst
          refine .inr ⟨List.mem_cons_self, fun heq => hskip ?_⟩
          rw [heq, beq_self_eq_true, Bool.true_or]
    · exact .inr ⟨List.mem_cons_of_mem _ hrest, hother⟩

/-- **An installed type** is that of the first plugin in some file, and not the program's own. -/
theorem of_mem_installedTypes {types : List String} {t : String}
    (h : d.installedTypes fs = .ok types) (ht : t ∈ types) :
    ∃ names, d.confNames fs = .ok names ∧ t ≠ ownType ∧
      ∃ n ∈ names, d.Holds fs (·.primaryType = t) n := by
  cases hnames : d.confNames fs with
  | error f =>
    rw [installedTypes, hnames] at h
    cases h
  | ok names =>
    rw [installedTypes, hnames] at h
    cases h
    rcases mem_of_mem_foldl ht with hnone | ⟨hmem, hother⟩
    · cases hnone
    · obtain ⟨⟨n, l⟩, he, rfl⟩ := List.mem_map.mp hmem
      obtain ⟨m, hm, hload⟩ := List.mem_filterMap.mp he
      refine ⟨names, rfl, hother, m, hm, l, ?_, rfl⟩
      split at hload
      · rename_i l' hl'
        cases hload
        exact hl'
      · cases hload

end Directory

namespace Selector

variable {service : Http.Service} {address : String} {samples : Nat} {d : Directory}
  {fs : FileSystem} {p : String}

/-- The plugin that is ranked first among the installed ones, as the service reports their traffic, if
there is a report and it ranks any. -/
def ranked? (service : Http.Service) (address : String) (samples : Nat) (d : Directory)
    (fs : FileSystem) : Option String :=
  match d.installedTypes fs with
  | .ok candidates =>
    (reportRequest? address samples).bind fun request =>
      (report? service request).bind (Usage.leastUsed candidates)
  | .error _ => none

/-- **The plugin with the least traffic is chosen** if one is ranked, and the configured one else. -/
theorem choose_leastUsed (service : Http.Service) (address : String) (samples : Nat) (s : Settings)
    (d : Directory) (fs : FileSystem) :
    ((leastUsed service address samples).choose s d fs).plugin =
      .ok ((ranked? service address samples d fs).getD s.pluginOrDefault) := by
  rw [leastUsed, ranked?]
  dsimp only
  cases d.installedTypes fs with
  | error f => rfl
  | ok candidates =>
    dsimp only
    rw [choiceAmong]
    by_cases hempty : candidates.isEmpty
    · have hnone : ((reportRequest? address samples).bind fun request =>
          (report? service request).bind (Usage.leastUsed candidates)) = none := by
        rw [List.isEmpty_iff.mp hempty]
        exact Option.bind_eq_none_iff.mpr fun request _ =>
          Option.bind_eq_none_iff.mpr fun usage _ => rfl
      rw [if_pos hempty, hnone]
      rfl
    · rw [if_neg hempty]
      cases reportRequest? address samples with
      | none => rfl
      | some request =>
        dsimp only
        rw [Option.bind_some]
        cases (report? service request).bind (Usage.leastUsed candidates) <;> rfl

/-- **What is ranked is installed**: some configuration file holds a network of the plugin. -/
theorem of_ranked (h : ranked? service address samples d fs = some p) :
    ∃ names, d.confNames fs = .ok names ∧ p ≠ Directory.ownType ∧
      ∃ n ∈ names, d.Holds fs (·.primaryType = p) n := by
  unfold ranked? at h
  split at h
  · rename_i candidates hcandidates
    obtain ⟨request, -, h⟩ := Option.bind_eq_some_iff.mp h
    obtain ⟨usage, -, h⟩ := Option.bind_eq_some_iff.mp h
    exact Directory.of_mem_installedTypes hcandidates (Usage.mem_of_leastUsed h)
  · cases h

end Selector

/-! ### Serving what was ranked -/

namespace Resolver

variable {r : Resolver} {files left : FileSystem} {plugin : String} {names : List String}

/-- The built-in configuration of the plugin can be used, and written where that is asked for. -/
def CanBuildIn (r : Resolver) (files : FileSystem) (plugin : String) : Prop :=
  ∃ conf, builtinConf r.directory files plugin = .ok conf ∧
    (r.persistBuiltins = true →
      (r.directory.write files (Builtin.fileName plugin) r.disk (.obj conf)).1 = .ok ())

/-- **A plugin is served by a network of its own** just if the first file with its name holds one, or
there is no file with its name and it is built in. -/
theorem exists_serves_iff (hnames : r.directory.confNames files = .ok names) :
    (∃ l left, r.Serves files plugin l left ∧ l.primaryType = plugin) ↔
      (∃ n, Directory.IsFirst (fun m => Directory.isFor plugin m = true) names n ∧
        r.directory.Holds files (·.primaryType = plugin) n) ∨
      (∀ n ∈ names, Directory.isFor plugin n = false) ∧ r.CanBuildIn files plugin := by
  constructor
  · rintro ⟨l, left, hserves, hprimary⟩
    cases hserves with
    | found named loaded =>
      obtain ⟨n, hfirst, rfl⟩ := (Directory.findConf_eq_some_iff hnames).mp named
      exact .inl ⟨n, hfirst, l, loaded, hprimary⟩
    | builtin unnamed usable list persist =>
      refine .inr ⟨(Directory.findConf_eq_none_iff hnames).mp unnamed, _, usable, ?_⟩
      rw [persist]
      exact fun h => absurd h Bool.false_ne_true
    | written unnamed usable list persist writes =>
      exact .inr ⟨(Directory.findConf_eq_none_iff hnames).mp unnamed, _, usable,
        fun _ => by rw [writes]⟩
  · rintro (⟨n, hfirst, l, hload, hprimary⟩ | ⟨hnone, conf, husable, hwrite⟩)
    · exact ⟨l, files,
        .found ((Directory.findConf_eq_some_iff hnames).mpr ⟨n, hfirst, rfl⟩) hload, hprimary⟩
    · have hunnamed := (Directory.findConf_eq_none_iff hnames).mpr hnone
      obtain ⟨l, hlist, htypes⟩ := Builtin.exists_list (builtinConf_eq_ok_iff.mp husable).1
      have hprimary : l.primaryType = plugin := by rw [ConfList.primaryType, htypes]; rfl
      cases hpersist : r.persistBuiltins with
      | false => exact ⟨l, files, .builtin hunnamed husable hlist hpersist, hprimary⟩
      | true =>
        exact ⟨l, _, .written hunnamed husable hlist hpersist (Prod.ext (hwrite hpersist) rfl),
          hprimary⟩

/-- **What was ranked is attached** just if the first file with its name in the file name holds a network
of it, or no file has the name and its built-in configuration can be used. It is ranked because some
file, whatever its name, holds a network of it. -/
theorem ranked_served_iff (service : Http.Service) (address : String) (samples : Nat)
    (r : Resolver) (node : Node) (plugin : String)
    (ranked : Selector.ranked? service address samples r.directory node.files = some plugin) :
    ∃ names, r.directory.confNames node.files = .ok names ∧ plugin ≠ Directory.ownType ∧
      (∃ n ∈ names, r.directory.Holds node.files (·.primaryType = plugin) n) ∧
      ((∃ l left, (r.pluginList plugin).runOn node = (.ok l, left) ∧ l.primaryType = plugin) ↔
        (∃ n, Directory.IsFirst (fun m => Directory.isFor plugin m = true) names n ∧
          r.directory.Holds node.files (·.primaryType = plugin) n) ∨
        (∀ n ∈ names, Directory.isFor plugin n = false) ∧ r.CanBuildIn node.files plugin) := by
  obtain ⟨names, hnames, hother, hinstalled⟩ := Selector.of_ranked ranked
  refine ⟨names, hnames, hother, hinstalled, ?_⟩
  rw [← exists_serves_iff hnames]
  constructor
  · rintro ⟨l, left, hrun, hprimary⟩
    exact ⟨l, left.files, (runOn_pluginList_eq_ok_iff.mp hrun).1, hprimary⟩
  · rintro ⟨l, left, hserves, hprimary⟩
    exact ⟨l, ⟨left, node.journal⟩, hserves.runOn node.journal, hprimary⟩

/-! ### A file with another name -/

/-- A network of `weave-net`. -/
def weaveConf : Object :=
  [("cniVersion", .str "0.3.0"), ("name", .str "weave"), ("type", .str "weave-net")]

/-- What it is read as. -/
def weaveList : ConfList := ⟨"0.3.0", "weave", [weaveConf], []⟩

/-- A node on which the network is configured in a file with the name, and no other. -/
def weaveNode (name : String) : Node :=
  ⟨Directory.singleConf name weaveConf, []⟩

/-- A resolver for such nodes. -/
def weaveResolver : Resolver where
  cluster := none
  directory := ⟨"/", []⟩
  defaultPlugin := "bridge"
  persistBuiltins := false

/-- A report on the traffic of one interface, which belongs to `weave-net`. -/
def weaveReport : Json :=
  .obj [("stats", .arr [.obj [("network", .obj [("interfaces",
    .arr [.obj [("name", .str "weave-net0"), ("rx_bytes", .nat 4), ("tx_bytes", .nat 3)]])])]])]

/-- A service that always reports that. -/
def weaveService : Http.Service := fun _ => some ⟨200, Bytes.ofString weaveReport.compact⟩

/-- Where the network is configured on such a node. -/
theorem load_weaveNode (name : String) (hname : Path.IsName name)
    (hshort : name.utf8ByteSize ≤ FileSystem.maxNameLength)
    (hcheck : FileSystem.checkPath (Path.join "/" name) = .ok ())
    (hconf : Directory.isConfName name = true) (hsingle : Directory.isListName name = false) :
    weaveResolver.directory.confNames (weaveNode name).files = .ok [name] ∧
      Directory.load (weaveNode name).files (weaveResolver.directory.file name) = .ok weaveList :=
  Directory.load_singleConf [] hname hshort hcheck hconf hsingle
    ⟨trivial, trivial, trivial, trivial⟩ (by rfl) (by rfl)

theorem ranked_weaveNode {name : String} (samples : Nat)
    (hnames : weaveResolver.directory.confNames (weaveNode name).files = .ok [name])
    (hload : Directory.load (weaveNode name).files (weaveResolver.directory.file name) =
      .ok weaveList) :
    Selector.ranked? weaveService "http://monitor" samples weaveResolver.directory
      (weaveNode name).files = some "weave-net" := by
  have htypes : weaveResolver.directory.installedTypes (weaveNode name).files =
      .ok ["weave-net"] := by
    rw [Directory.installedTypes, hnames]
    simp only [Except.map, Directory.loadable, List.filterMap_cons, hload, List.filterMap_nil]
    rfl
  obtain ⟨request, hrequest⟩ : ∃ request,
      Selector.reportRequest? "http://monitor" samples = some request :=
    ⟨_, by rfl⟩
  have hreport : Selector.report? weaveService request = some [⟨"weave-net0", 4, 3⟩] := by
    have hexact : weaveReport.Exact :=
      ⟨⟨⟨⟨⟨⟨trivial, ⟨by decide, by decide⟩, ⟨by decide, by decide⟩, trivial⟩, trivial⟩, trivial⟩,
        trivial⟩, trivial⟩, trivial⟩
    have hread : Usage.ofReport? (Bytes.ofString weaveReport.compact) =
        some [⟨"weave-net0", 4, 3⟩] := by
      rw [Usage.ofReport?, Json.Document.read?_compact hexact]
      rfl
    have hanswer : weaveService request = some ⟨200, Bytes.ofString weaveReport.compact⟩ := rfl
    rw [Selector.report?, hanswer, Option.bind_some, if_neg (by decide), hread]
  rw [Selector.ranked?, htypes]
  dsimp only
  rw [hrequest, Option.bind_some, hreport]
  rfl

/-- In a file with its name the plugin is found. -/
theorem ranked_served_weave :
    Selector.ranked? weaveService "http://monitor" 1 weaveResolver.directory
        (weaveNode "10-weave-net.conf").files = some "weave-net" ∧
      ∃ l left, (weaveResolver.pluginList "weave-net").runOn (weaveNode "10-weave-net.conf") =
        (.ok l, left) ∧ l.primaryType = "weave-net" := by
  obtain ⟨hnames, hload⟩ := load_weaveNode "10-weave-net.conf" (by decide) (by decide)
    (by rfl) (by rfl) (by rfl)
  have hranked := ranked_weaveNode 1 hnames hload
  obtain ⟨names, hsame, -, -, hiff⟩ := ranked_served_iff weaveService "http://monitor" 1 weaveResolver
    (weaveNode "10-weave-net.conf") "weave-net" hranked
  rw [hnames] at hsame
  cases hsame
  exact ⟨hranked, hiff.mpr (.inl ⟨"10-weave-net.conf", Directory.isFirst_singleton (by rfl),
    weaveList, hload, rfl⟩)⟩

/-- **What was ranked cannot be attached** where the file has another name. -/
theorem ranked_not_served_weave :
    Selector.ranked? weaveService "http://monitor" 1 weaveResolver.directory
        (weaveNode "10-weave.conf").files = some "weave-net" ∧
      (weaveResolver.pluginList "weave-net").runOn (weaveNode "10-weave.conf") =
        (.error (.unknownPlugin "weave-net"), weaveNode "10-weave.conf") := by
  obtain ⟨hnames, hload⟩ := load_weaveNode "10-weave.conf" (by decide) (by decide)
    (by rfl) (by rfl) (by rfl)
  refine ⟨ranked_weaveNode 1 hnames hload, ?_⟩
  have hunnamed : weaveResolver.directory.findConf (weaveNode "10-weave.conf").files "weave-net" =
      .ok none := by
    refine (Directory.findConf_eq_none_iff hnames).mpr fun n hn => ?_
    rw [List.mem_singleton.mp hn]
    rfl
  rw [pluginList, Task.runOn_bind_ok (by rw [Task.runOn_look, hunnamed]),
    Task.runOn_bind_error (by rw [Task.runOn_look]; rfl)]

end Resolver

end PodNet
