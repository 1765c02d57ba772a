import PodNet.Proofs.LogicalNetworks
import PodNet.Proofs.Serving

/-!
# The program's own configuration

The program's own configuration lies among those of the networks, and delegating to it would make the
program call itself. Looking for a plugin or for the default network passes its file over. Looking
for a network by its name does not: a definition of a network without a configuration of its own that
has the name of the program's network is resolved to the program itself, unless another file with
that name comes before (`Resolver.resolve_own_iff`). That is the only way to come to it.
-/

namespace PodNet

namespace ConfList

/-- Settings of a plugin other than its type make no difference to the types. -/
theorem pluginTypes_configure {l : ConfList} (valid : l.Valid) (c : Carving) :
    (c.configure l).pluginTypes = l.pluginTypes := by
  obtain ⟨p, rest, hplugins⟩ := List.exists_cons_of_ne_nil ((valid_iff l).mp valid).1
  have htype : typeOf (bound c.nic (carved c.subnet p)) = typeOf p := by
    rw [typeOf, typeOf, get?_bound_of_ne (by decide), get?_carved_of_ne (by decide)]
  rw [c.configure_eq hplugins, pluginTypes, pluginTypes, hplugins, List.filterMap_cons,
    List.filterMap_cons, htype]

end ConfList

namespace Directory

/-- **The program's own configuration is set apart**: it is one of the configuration files, the program
is a plugin in it, and in no other. -/
structure SetsApart (d : Directory) (files : FileSystem) (names : List String) (own : ConfList) :
    Prop where
  names_eq : d.confNames files = .ok names
  mem : ownFile ∈ names
  loads : load files (d.file ownFile) = .ok own
  type_mem : ownType ∈ own.pluginTypes
  others : ∀ n ∈ names, n ≠ ownFile → ∀ l, load files (d.file n) = .ok l → ownType ∉ l.pluginTypes

variable {d : Directory} {files : FileSystem} {names : List String} {own l : ConfList}

/-- The program is a plugin in its own file only. -/
theorem SetsApart.type_mem_iff (h : d.SetsApart files names own) {n : String} (hn : n ∈ names)
    (hload : load files (d.file n) = .ok l) : ownType ∈ l.pluginTypes ↔ n = ownFile := by
  refine ⟨fun hmem => by_contra fun hne => h.others n hn hne l hload hmem, ?_⟩
  rintro rfl
  rw [h.loads] at hload
  cases hload
  exact h.type_mem

/-- The default network is not the program's own. -/
theorem SetsApart.defaultNetwork (h : d.SetsApart files names own)
    (hfound : d.defaultNetwork files = .ok (some l)) : ownType ∉ l.pluginTypes := by
  obtain ⟨n, hload, hfirst⟩ := (defaultNetwork_eq_some_iff h.names_eq).mp hfound
  obtain ⟨hn, hother⟩ := List.mem_filter.mp hfirst.mem
  exact h.others n hn (by simpa using hother) l hload

/-- **The network with a name is the program's own** just if that is its name, and no other network
with the name comes before it. -/
theorem SetsApart.networkNamed (h : d.SetsApart files names own) {name : String}
    (hfound : d.networkNamed files name = .ok (some l)) :
    ownType ∈ l.pluginTypes ↔ name = own.name ∧
      ∀ n ∈ names, d.Holds files (·.name = own.name) n → isListName n = false ∧ ownFile ≤ n := by
  have hsingle : isListName ownFile = false := by decide
  obtain ⟨n, hn, hload, hname, hbest⟩ := (networkNamed_eq_some_iff h.names_eq).mp hfound
  rw [h.type_mem_iff hn hload]
  constructor
  · rintro rfl
    have hown : l = own := Except.ok.inj (hload.symm.trans h.loads)
    subst hown
    refine ⟨hname.symm, fun m hm hholds => ?_⟩
    obtain ⟨hlists, hleast⟩ := hbest m hm (hname ▸ hholds)
    have hmsingle : isListName m = false :=
      Bool.eq_false_iff.mpr fun hlist => by rw [hlists hlist] at hsingle; cases hsingle
    exact ⟨hmsingle, hleast (hmsingle.trans hsingle.symm)⟩
  · rintro ⟨rfl, hbefore⟩
    obtain ⟨hnsingle, hle⟩ := hbefore n hn ⟨l, hload, hname⟩
    have hholds : d.Holds files (·.name = own.name) ownFile := ⟨own, h.loads, rfl⟩
    exact String.le_antisymm ((hbest ownFile h.mem hholds).2 (hsingle.trans hnsingle.symm)) hle

end Directory

namespace Resolver

variable {r : Resolver} {names : List String} {own : ConfList}

/-- A plugin is not served by the program. -/
theorem Serves.not_own {files left : FileSystem} {plugin : String} {l : ConfList}
    (h : r.Serves files plugin l left) (apart : r.directory.SetsApart files names own) :
    Directory.ownType ∉ l.pluginTypes := by
  have hbuiltin : ∀ conf, builtinConf r.directory files plugin = .ok conf →
      ConfList.ofConf conf = .ok l → Directory.ownType ∉ l.pluginTypes := by
    intro conf husable hlist hmem
    obtain ⟨hconf, -⟩ := builtinConf_eq_ok_iff.mp husable
    obtain ⟨l', hlist', htypes⟩ := Builtin.exists_list hconf
    rw [hlist] at hlist'
    cases hlist'
    rw [htypes, List.mem_singleton] at hmem
    subst hmem
    cases hconf
  cases h with
  | found named loaded =>
    obtain ⟨n, hfirst, rfl⟩ := (Directory.findConf_eq_some_iff apart.names_eq).mp named
    have hother : n ≠ Directory.ownFile := by
      have hfor := hfirst.holds
      rw [Directory.isFor, Bool.and_eq_true] at hfor
      simpa using hfor.1
    exact apart.others n hfirst.mem hother l loaded
  | builtin _ usable list _ => exact hbuiltin _ usable list
  | written _ usable list _ _ => exact hbuiltin _ usable list

theorem of_runOn_needCluster {node left : Node} {cluster : Cluster}
    (h : r.needCluster.runOn node = (.ok cluster, left)) : r.cluster = some cluster ∧ left = node := by
  unfold needCluster at h
  split at h
  · rename_i hcluster
    cases h
    exact ⟨hcluster, rfl⟩
  · cases h

/-- What a run came to that resolved a definition of a network: its configuration, or without one the
network of its name. -/
theorem of_runOn_netAttachDefList {ns name : String} {node left : Node} {l : ConfList}
    (h : (r.netAttachDefList ns name).runOn node = (.ok l, left)) :
    ∃ cluster definition, r.cluster = some cluster ∧
      cluster.netAttachDef ns name = .ok definition ∧
      (definition.inlineConfig = none →
        r.directory.networkNamed node.files name = .ok (some l)) := by
  unfold netAttachDefList at h
  obtain ⟨cluster, n₁, hneed, h₁⟩ := Task.runOn_bind_eq_ok.mp h
  obtain ⟨hcluster, hn₁⟩ := of_runOn_needCluster hneed
  obtain ⟨definition, n₂, hquery, h₂⟩ := Task.runOn_bind_eq_ok.mp h₁
  obtain ⟨hdefinition, hn₂⟩ := Prod.mk.inj hquery
  refine ⟨cluster, definition, hcluster, hdefinition, fun hbare => ?_⟩
  rw [hbare] at h₂
  obtain ⟨found, n₃, hlook, h₃⟩ := Task.runOn_bind_eq_ok.mp h₂
  rw [Task.runOn_look, Prod.mk.injEq, ← hn₂, hn₁] at hlook
  cases found with
  | none => cases h₃
  | some network =>
    cases h₃
    exact hlook.1

/-- **Delegating to the program itself**: where its own configuration is set apart, a request is
resolved to a list with the program in it just if it asks for a definition of a network with the name
of the program's own, and no other network with that name comes before. -/
theorem resolve_own_iff (r : Resolver) (request : AttachmentRequest) (node left : Node)
    (a : Attachment) (names : List String) (own : ConfList)
    (apart : r.directory.SetsApart node.files names own)
    (bare : ∀ ns name cluster definition, request.source = .netAttachDef ns name →
      r.cluster = some cluster → cluster.netAttachDef ns name = .ok definition →
      definition.inlineConfig = none)
    (resolved : (r.resolve request).runOn node = (.ok a, left)) :
    Directory.ownType ∈ a.conf.pluginTypes ↔
      (∃ ns, request.source = .netAttachDef ns own.name) ∧
      ∀ n ∈ names, r.directory.Holds node.files (·.name = own.name) n →
        Directory.isListName n = false ∧ Directory.ownFile ≤ n := by
  unfold resolve at resolved
  cases hsource : request.source with
  | plugin name =>
    rw [hsource] at resolved
    obtain ⟨l, _, hlist, hrest⟩ := Task.runOn_bind_eq_ok.mp resolved
    cases hrest
    have hnot := (runOn_pluginList_eq_ok_iff.mp hlist).1.not_own apart
    simp [attachment, hnot]
  | clusterDefault =>
    rw [hsource] at resolved
    obtain ⟨found, n₁, hfound, hrest⟩ := Task.runOn_bind_eq_ok.mp resolved
    rw [Task.runOn_look, Prod.mk.injEq] at hfound
    obtain ⟨hfound, rfl⟩ := hfound
    cases found with
    | some l =>
      cases hrest
      simp [attachment, apart.defaultNetwork hfound]
    | none =>
      obtain ⟨l, _, hlist, hrest⟩ := Task.runOn_bind_eq_ok.mp hrest
      cases hrest
      have hnot := (runOn_pluginList_eq_ok_iff.mp hlist).1.not_own apart
      simp [attachment, hnot]
  | netAttachDef ns name =>
    rw [hsource] at resolved
    obtain ⟨l, _, hlist, hrest⟩ := Task.runOn_bind_eq_ok.mp resolved
    cases hrest
    obtain ⟨cluster, definition, hcluster, hdefinition, hnetwork⟩ := of_runOn_netAttachDefList hlist
    have hfound := hnetwork (bare ns name cluster definition hsource hcluster hdefinition)
    have hiff := apart.networkNamed hfound
    have hname : (∃ ns', Source.netAttachDef ns name = .netAttachDef ns' own.name) ↔
        name = own.name := by simp
    rw [hname]
    exact hiff
  | logicalNetwork ns name =>
    rw [hsource] at resolved
    obtain ⟨cluster, logical, c, plugin, base, -, -, hlist, rfl⟩ := of_runOn_resolveLogical resolved
    have hrun := Task.runOn_eq_of_fst hlist
    have hnot := (runOn_pluginList_eq_ok_iff.mp hrun).1.not_own apart
    have hvalid : base.Valid := r.yields_pluginList plugin hrun
    simp [attachment, ConfList.pluginTypes_configure hvalid, hnot]

/-! ### A network with the name of the program's own -/

/-- The program's own configuration. -/
def ownConf : Object :=
  [("cniVersion", .str "0.3.0"), ("name", .str "k8s-pod-network"), ("type", .str "genie")]

/-- What it is read as. -/
def ownList : ConfList := ⟨"0.3.0", "k8s-pod-network", [ownConf], []⟩

/-- A node with no other configuration. -/
def ownNode : Node :=
  ⟨Directory.singleConf "00-genie.conf" ownConf, []⟩

/-- A cluster in which all networks are defined, without configurations. -/
def definingCluster : Cluster where
  pod ns name := .error (.podNotFound ns name)
  logicalNetwork ns name := .error (.podNotFound ns name)
  logicalNetworks _ := .ok []
  physicalNetwork ns name := .error (.podNotFound ns name)
  netAttachDef _ name := .ok ⟨some name, none⟩
  patchPod _ _ _ := .ok ()

/-- A resolver for that cluster and that node. -/
def definingResolver : Resolver where
  cluster := some definingCluster
  directory := ⟨"/", []⟩
  defaultPlugin := "bridge"
  persistBuiltins := false

/-- A request for the network with the name of the program's own. -/
def ownRequest : AttachmentRequest :=
  .plain (.netAttachDef "default" "k8s-pod-network") "eth1"

theorem load_ownNode :
    definingResolver.directory.confNames ownNode.files = .ok ["00-genie.conf"] ∧
      Directory.load ownNode.files (definingResolver.directory.file "00-genie.conf") = .ok ownList :=
  Directory.load_singleConf [] (by decide) (by decide) (by rfl) (by rfl) (by rfl)
    ⟨trivial, trivial, trivial, trivial⟩ (by rfl) (by rfl)

/-- The program's own configuration is set apart on the node. -/
theorem setsApart_ownNode :
    definingResolver.directory.SetsApart ownNode.files ["00-genie.conf"] ownList where
  names_eq := load_ownNode.1
  mem := List.mem_singleton.mpr rfl
  loads := load_ownNode.2
  type_mem := List.mem_singleton.mpr rfl
  others _ hn hne := absurd (List.mem_singleton.mp hn) hne

/-- The request is resolved to the program itself. -/
theorem finds_own : (definingResolver.resolve ownRequest).Finds ownNode.files
    (.ok (attachment ownRequest ownList none)) := by
  have hnetwork : definingResolver.directory.networkNamed ownNode.files "k8s-pod-network" =
      .ok (some ownList) := by
    refine (Directory.networkNamed_eq_some_iff setsApart_ownNode.names_eq).mpr
      ⟨"00-genie.conf", setsApart_ownNode.mem, setsApart_ownNode.loads, rfl, fun m hm _ => ?_⟩
    rw [List.mem_singleton.mp hm]
    exact ⟨id, fun _ => String.le_refl _⟩
  have hlist : (definingResolver.netAttachDefList "default" "k8s-pod-network").Finds ownNode.files
      (.ok ownList) := by
    refine .bind (a := definingCluster) (.pure _)
      (.bind (a := ⟨some "k8s-pod-network", none⟩) (.query _ _) ?_)
    exact .bind ((Task.Finds.look _).of_eq hnetwork) (.pure _)
  exact .bind hlist (.pure _)

/-- No network in the cluster carries a configuration. -/
theorem definingCluster_bare (ns name : String) (cluster : Cluster) (definition : NetAttachDef)
    (hcluster : definingResolver.cluster = some cluster)
    (h : cluster.netAttachDef ns name = .ok definition) : definition.inlineConfig = none := by
  cases hcluster
  cases h
  rfl

/-- The name is that of the program's own network, and no other comes before. -/
theorem resolve_own_k8s_pod_network :
    ∃ a left, definingResolver.directory.SetsApart ownNode.files ["00-genie.conf"] ownList ∧
      (definingResolver.resolve ownRequest).runOn ownNode = (.ok a, left) ∧
      Directory.ownType ∈ a.conf.pluginTypes := by
  obtain ⟨asked, -, hrun⟩ := finds_own
  refine ⟨_, _, setsApart_ownNode, hrun [], ?_⟩
  refine (resolve_own_iff definingResolver ownRequest ownNode _ _ _ _ setsApart_ownNode
    (fun ns name cluster definition _ => definingCluster_bare ns name cluster definition)
    (hrun [])).mpr ⟨⟨"default", rfl⟩, fun n hn _ => ?_⟩
  rw [List.mem_singleton.mp hn]
  exact ⟨by rfl, String.le_refl _⟩

/-- **The program's own configuration is delegated to**, although it is set apart and no definition
carries a configuration. -/
theorem resolve_comes_to_own :
    ¬∀ (r : Resolver) (request : AttachmentRequest) (node left : Node) (a : Attachment)
      (names : List String) (own : ConfList), r.directory.SetsApart node.files names own →
      (∀ ns name cluster definition, request.source = .netAttachDef ns name →
        r.cluster = some cluster → cluster.netAttachDef ns name = .ok definition →
        definition.inlineConfig = none) →
      (r.resolve request).runOn node = (.ok a, left) →
      Directory.ownType ∉ a.conf.pluginTypes := by
  intro never
  obtain ⟨asked, -, hrun⟩ := finds_own
  refine never definingResolver ownRequest ownNode _ _ _ _ setsApart_ownNode
    (fun ns name cluster definition _ => definingCluster_bare ns name cluster definition)
    (hrun []) ?_
  exact List.mem_singleton.mpr rfl

end Resolver

end PodNet
