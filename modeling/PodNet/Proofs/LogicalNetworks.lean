import PodNet.Proofs.Carvings
import PodNet.Proofs.Preparing

/-!
# Resolving logical networks

A run that resolves a request for a logical network has looked up its resource and that of the
physical network it names, has checked the one against the other, and has checked the subnet against
those of its siblings: `Resolver.Carved` says all of this. What the run gives is served soundly
(`resolve_served_soundly`): the plugin and the subnet are those that the resources allow, and the
configuration is that of the plugin but for the subnet and the network card.
-/

namespace PodNet

/-- The physical network that a logical network names, if it names one and that exists. -/
def Cluster.physicalOf (cluster : Cluster) (ns : String) (logical : LogicalNetwork) :
    Option PhysicalNetwork :=
  (logical.physicalNet.bind Text.nonBlank).bind fun physicalName =>
    (cluster.physicalNetwork ns physicalName).toOption

theorem Cluster.physicalOf_eq {cluster : Cluster} {ns physicalName : String}
    {logical : LogicalNetwork} {physical : PhysicalNetwork}
    (hname : logical.physicalName = some physicalName)
    (hfound : cluster.physicalNetwork ns physicalName = .ok physical) :
    cluster.physicalOf ns logical = some physical := by
  have hfield : logical.physicalNet.bind Text.nonBlank = some physicalName := hname
  rw [physicalOf, hfield, Option.bind_some, hfound]
  rfl

namespace Resolver

/-- **What a logical network was found to be served by**, and all that was checked on the way. -/
structure Carved (r : Resolver) (ns name : String) (cluster : Cluster) (logical : LogicalNetwork)
    (c : Carving) : Prop where
  cluster_eq : r.cluster = some cluster
  found : cluster.logicalNetwork ns name = .ok logical
  other : logical.physicalName ≠ some name
  physical_found : ∀ physicalName, logical.physicalName = some physicalName →
    ∃ physical, cluster.physicalNetwork ns physicalName = .ok physical
  serves : Carving.Serves logical (cluster.physicalOf ns logical) c
  apart : ∀ physicalName own, logical.physicalName = some physicalName →
    logical.subnet = some own → ∃ ownNet siblings, Subnet.parse? own = some ownNet ∧
      cluster.logicalNetworks ns = .ok siblings ∧
      Carving.checkSiblings ns name physicalName own ownNet siblings = .ok ()

/-- What is checked when a network is carved from a physical one. -/
theorem yields_carve (cluster : Cluster) (ns name physicalName : String)
    (logical : LogicalNetwork) :
    Task.Yields (fun c => physicalName ≠ name ∧
        (∃ physical, cluster.physicalNetwork ns physicalName = .ok physical ∧
          Carving.Serves logical (some physical) c) ∧
        ∀ own, logical.subnet = some own → ∃ ownNet siblings, Subnet.parse? own = some ownNet ∧
          cluster.logicalNetworks ns = .ok siblings ∧
          Carving.checkSiblings ns name physicalName own ownNet siblings = .ok ())
      (carve cluster ns name physicalName logical) := by
  unfold carve
  by_cases hother : physicalName = name
  · rw [if_pos hother]
    exact .bind (P := fun _ => False) (.throw _) fun _ h => h.elim
  · rw [if_neg hother]
    refine .bind (.query fun _ => id) fun physical hphysical => ?_
    refine .bind (.ofExcept fun _ => id) fun c hc => ?_
    have hserves : ∃ physical, cluster.physicalNetwork ns physicalName = .ok physical ∧
        Carving.Serves logical (some physical) c :=
      ⟨physical, hphysical, Carving.serves_of_ofPhysical hc⟩
    split
    · rename_i own hown
      refine .bind (.ofExcept fun _ => Carving.parse?_of_subnetOf) fun ownNet hnet => ?_
      refine .bind (.query fun _ => id) fun siblings hsiblings => ?_
      refine .bind (.ofExcept fun _ => id) fun _ hcheck => .pure ⟨hother, hserves, ?_⟩
      intro own' hown'
      rw [hown, Option.some.injEq] at hown'
      subst hown'
      exact ⟨ownNet, siblings, hnet, hsiblings, hcheck⟩
    · rename_i hnone
      exact .pure ⟨hother, hserves, fun own hown => absurd hown (hnone own)⟩

theorem yields_logicalCarving (r : Resolver) (ns name : String) :
    Task.Yields (fun c => ∃ cluster logical, r.Carved ns name cluster logical c)
      (r.logicalCarving ns name) := by
  unfold logicalCarving
  refine .bind (P := fun cluster => r.cluster = some cluster) ?_ fun cluster hcluster => ?_
  · unfold needCluster
    split
    · rename_i cluster hcluster
      exact .pure hcluster
    · exact .throw _
  refine .bind (.query fun _ => id) fun logical hfound => ?_
  split
  · rename_i physicalName hname
    intro node left c hrun
    obtain ⟨hother, ⟨physical, hphysical, hserves⟩, hapart⟩ :=
      yields_carve cluster ns name physicalName logical hrun
    refine ⟨cluster, logical, hcluster, hfound, ?_, ?_, ?_, ?_⟩
    · rw [hname, ne_eq, Option.some.injEq]
      exact hother
    · intro physicalName' hname'
      rw [hname, Option.some.injEq] at hname'
      exact ⟨physical, hname' ▸ hphysical⟩
    · rw [Cluster.physicalOf_eq hname hphysical]
      exact hserves
    · intro physicalName' own hname' hown
      rw [hname, Option.some.injEq] at hname'
      subst hname'
      exact hapart own hown
  · rename_i hnone
    refine .pure ⟨cluster, logical, hcluster, hfound, by simp [hnone], by simp [hnone], ?_,
      by simp [hnone]⟩
    have hfield : logical.physicalNet.bind Text.nonBlank = none := hnone
    rw [Cluster.physicalOf, hfield, Option.bind_none]
    exact Carving.serves_none logical

/-- What a run that resolves a request for a logical network did. -/
theorem of_runOn_resolveLogical {r : Resolver} {request : AttachmentRequest} {ns name : String}
    {node left : Node} {a : Attachment}
    (h : (r.resolveLogical request ns name).runOn node = (.ok a, left)) :
    ∃ cluster logical c plugin base, r.Carved ns name cluster logical c ∧
      c.complete ns name = .ok plugin ∧ ((r.pluginList plugin).runOn node).1 = .ok base ∧
      a = attachment { request with plugin } (c.configure base) c.subnet := by
  unfold resolveLogical at h
  obtain ⟨c, n₁, hcarving, h⟩ := Task.runOn_bind_eq_ok.mp h
  obtain ⟨plugin, n₂, hcomplete, h⟩ := Task.runOn_bind_eq_ok.mp h
  obtain ⟨base, n₃, hlist, h⟩ := Task.runOn_bind_eq_ok.mp h
  cases h
  obtain ⟨cluster, logical, hcarved⟩ := r.yields_logicalCarving ns name hcarving
  obtain ⟨-, asked, -, rfl⟩ := (r.onlyLooks_logicalCarving ns name).runOn_eq hcarving
  rw [Task.runOn_ofExcept, Prod.mk.injEq] at hcomplete
  obtain ⟨hcomplete, rfl⟩ := hcomplete
  refine ⟨cluster, logical, c, plugin, base, hcarved, hcomplete, ?_, rfl⟩
  have hsame : ((r.pluginList plugin).runOn node).1 =
      ((r.pluginList plugin).runOn ⟨node.files, node.journal ++ asked⟩).1 :=
    (r.prepares_pluginList plugin).runOn_fst_congr rfl
  rw [hsame, hlist]

/-- **The attachment serves a logical network soundly**, given the network's resource and the
configuration of the attachment's plugin. Fields of resources that are blank state nothing. -/
structure ServedSoundly (cluster : Cluster) (ns name : String) (logical : LogicalNetwork)
    (base : ConfList) (a : Attachment) : Prop where
  /-- The network is not its own physical network, and the one it names exists. -/
  other : logical.physicalNet.bind Text.nonBlank ≠ some name
  physical_found : ∀ physicalName, logical.physicalNet.bind Text.nonBlank = some physicalName →
    ∃ physical, cluster.physicalNetwork ns physicalName = .ok physical
  /-- The plugin is the network's own, or else the owner of its dedicated physical network. -/
  plugin : some a.request.plugin = (logical.plugin.bind Text.nonBlank).or
    ((Carving.dedicated? (cluster.physicalOf ns logical)).bind (·.plugin.bind Text.nonBlank))
  /-- On a dedicated network it is the owner in any case. -/
  owner : ∀ p, cluster.physicalOf ns logical = some p → p.dedicated = true →
    p.plugin.bind Text.nonBlank = some a.request.plugin
  /-- The subnet is the network's own, or else that of its dedicated physical network, if any. -/
  subnet : a.subnet = (logical.subSubnet.bind Text.nonBlank).or
    ((Carving.dedicated? (cluster.physicalOf ns logical)).bind (·.outerSubnet.bind Text.nonBlank))
  readable : ∀ s, a.subnet = some s → ∃ net, Subnet.parse? s = some net
  /-- On a dedicated network with a subnet, every address of it is one of that subnet. -/
  inside : ∀ p s outer, cluster.physicalOf ns logical = some p → p.dedicated = true →
    a.subnet = some s → p.outerSubnet.bind Text.nonBlank = some outer → Carving.Inside s outer
  /-- On a shared network both a plugin and a subnet were given. -/
  stated : ∀ p, cluster.physicalOf ns logical = some p → p.dedicated = false →
    (logical.plugin.bind Text.nonBlank).isSome = true ∧
      (logical.subSubnet.bind Text.nonBlank).isSome = true
  /-- The configuration is that of the plugin, but for the subnet and the network card. -/
  conf : ConfList.Rewritten a.subnet ((cluster.physicalOf ns logical).bind (Text.nonBlank ·.nic))
    base a.conf

/-- What serves a network and is complete serves it soundly. -/
theorem Carved.servedSoundly {r : Resolver} {ns name : String} {cluster : Cluster}
    {logical : LogicalNetwork} {c : Carving} (h : r.Carved ns name cluster logical c)
    {request : AttachmentRequest} {plugin : String} (hcomplete : c.complete ns name = .ok plugin)
    {base : ConfList} (valid : base.Valid) :
    let a := attachment { request with plugin } (c.configure base) c.subnet
    a.request.plugin = plugin ∧ ServedSoundly cluster ns name logical base a := by
  obtain ⟨hplugin, hreadable⟩ := Carving.complete_eq_ok hcomplete
  have hserved := h.serves.plugin
  rw [hplugin] at hserved
  -- the plugin is not blank, so that it is not filled in again
  have hblank : plugin ≠ "" := by
    rcases Option.or_eq_some_iff.mp hserved.symm with hown | ⟨-, howner⟩
    · obtain ⟨_, -, -, hne⟩ := Text.bind_nonBlank_eq_some_iff.mp hown
      exact hne
    · obtain ⟨physical, -, howner⟩ := Option.bind_eq_some_iff.mp howner
      obtain ⟨_, -, -, hne⟩ := Text.bind_nonBlank_eq_some_iff.mp howner
      exact hne
  have hrequest : (attachment { request with plugin } (c.configure base) c.subnet).request =
      { request with plugin } := if_neg hblank
  have howner : ∀ p, cluster.physicalOf ns logical = some p → p.dedicated = true →
      p.owner = some plugin := fun p hp hdedicated => by
    rw [h.serves.owner p hp hdedicated, hplugin]
  dsimp only
  refine ⟨by rw [hrequest], ?_⟩
  exact {
    other := h.other
    physical_found := h.physical_found
    plugin := by rw [hrequest, hserved]; rfl
    owner := by rw [hrequest]; exact howner
    subnet := h.serves.subnet
    readable := hreadable
    inside := fun p s outer hp hdedicated hs (houter : p.outer = some outer) => by
      have hsubnet := h.serves.subnet
      rw [hp, Carving.dedicated?_of_dedicated hdedicated, Option.bind_some, houter,
        show c.subnet = some s from hs] at hsubnet
      cases hown : logical.subnet with
      | some inner =>
        rw [hown, Option.some_or, Option.some.injEq] at hsubnet
        rw [hsubnet]
        exact h.serves.inside p inner outer hp hdedicated hown houter
      | none =>
        rw [hown, Option.none_or, Option.some.injEq] at hsubnet
        obtain ⟨net, hnet⟩ := hreadable s hs
        exact ⟨net, net, hnet, hsubnet ▸ hnet, fun _ _ => id⟩
    stated := h.serves.stated
    conf := by
      have hconf := c.configure_rewritten valid
      rw [h.serves.nic] at hconf
      exact hconf }

/-- **Resolving a logical network is sound**: whenever a request for it is resolved, its resource was
found, and the attachment serves it soundly, with the configuration of the attachment's plugin. -/
theorem resolve_served_soundly (r : Resolver) (request : AttachmentRequest) (ns name : String)
    (source : request.source = .logicalNetwork ns name) (node left : Node) (a : Attachment)
    (resolved : (r.resolve request).runOn node = (.ok a, left)) :
    ∃ cluster logical base, r.cluster = some cluster ∧
      cluster.logicalNetwork ns name = .ok logical ∧
      ((r.pluginList a.request.plugin).runOn node).1 = .ok base ∧
      ServedSoundly cluster ns name logical base a := by
  have hrun : (r.resolveLogical request ns name).runOn node = (.ok a, left) := by
    rw [← resolved, resolve, source]
  obtain ⟨cluster, logical, c, plugin, base, hcarved, hcomplete, hlist, rfl⟩ :=
    of_runOn_resolveLogical hrun
  have hvalid : base.Valid := by
    rcases hleft : (r.pluginList plugin).runOn node with ⟨outcome, left⟩
    rw [hleft] at hlist
    exact r.yields_pluginList plugin (hleft.trans (congrArg (·, left) hlist))
  obtain ⟨hplugin, hsound⟩ := hcarved.servedSoundly hcomplete hvalid
  refine ⟨cluster, logical, base, hcarved.cluster_eq, hcarved.found, ?_, hsound⟩
  rw [hplugin, hlist]

/-! ### A network that is carved from a dedicated one -/

/-- A node on which the binary of `macvlan` is installed, and nothing is configured. -/
def macvlanNode : Node := ⟨⟨[(["macvlan"], .file [] 0o755)], []⟩, []⟩

/-- A logical network that is carved from `lan` and leaves the plugin open. -/
def blueNetwork : LogicalNetwork := ⟨some "blue", some "lan", some "10.32.20.0/24", none⟩

/-- Another one, next to it. -/
def greenNetwork : LogicalNetwork := ⟨some "green", some "lan", some "10.32.21.7/24", none⟩

/-- One that leaves the subnet open too. -/
def redNetwork : LogicalNetwork := ⟨some "red", some " lan ", some " ", none⟩

/-- The logical networks on `lan`. -/
def lanNetworks : List LogicalNetwork := [blueNetwork, greenNetwork, redNetwork]

/-- A physical network that is dedicated to `macvlan`. -/
def lanNetwork : PhysicalNetwork := ⟨some "lan", "eth7", some "macvlan", some "10.32.0.0/12", true⟩

/-- A cluster with these networks. -/
def lanCluster : Cluster where
  pod ns name := .error (.podNotFound ns name)
  logicalNetwork ns name :=
    if name = "blue" then .ok blueNetwork
    else if name = "green" then .ok greenNetwork
    else if name = "red" then .ok redNetwork
    else .error (.podNotFound ns name)
  logicalNetworks _ := .ok lanNetworks
  physicalNetwork ns name := if name = "lan" then .ok lanNetwork else .error (.podNotFound ns name)
  netAttachDef ns name := .error (.podNotFound ns name)
  patchPod _ _ _ := .ok ()

/-- A resolver that writes nothing. -/
def lanResolver : Resolver where
  cluster := some lanCluster
  directory := ⟨"", ["/"]⟩
  defaultPlugin := "weave"
  persistBuiltins := false

/-- A request for a logical network. -/
def lanRequest (name : String) : AttachmentRequest :=
  .plain (.logicalNetwork "default" name) "eth0"

theorem isFile_macvlan : macvlanNode.files.isFile "/macvlan" = true := by
  have hresolve : macvlanNode.files.resolve "/macvlan" =
      macvlanNode.files.follow FileSystem.maxLinks [] ["", "macvlan"] := by rfl
  have hentry : macvlanNode.files.at? ["macvlan"] = some (.file [] 0o755) := by rfl
  rw [FileSystem.isFile_root hresolve (by rfl) (by decide) (by decide) (by simp [hentry]), hentry]
  rfl

theorem builtinConf_macvlan :
    builtinConf lanResolver.directory macvlanNode.files "macvlan" = .ok Builtin.macvlan := by
  have hbinary : lanResolver.directory.findBinary macvlanNode.files "macvlan" =
      some "/macvlan" := by
    show [Path.join "/" "macvlan"].find? macvlanNode.files.isFile = _
    rw [show Path.join "/" "macvlan" = "/macvlan" by rfl, List.find?_cons, isFile_macvlan]
  rw [builtinConf, hbinary]
  rfl

/-- The built-in list of `macvlan`. -/
def macvlanList : ConfList := ⟨"", "macvlannet", [Builtin.macvlan], []⟩

/-- What a network on `lan` is resolved to, given what serves it. -/
theorem finds_on_lan {name : String} {c : Carving}
    (hcarving : (lanResolver.logicalCarving "default" name).Finds macvlanNode.files (.ok c))
    (hcomplete : c.complete "default" name = .ok "macvlan") :
    (lanResolver.resolve (lanRequest name)).Finds macvlanNode.files
      (.ok (attachment { lanRequest name with plugin := "macvlan" } (c.configure macvlanList)
        c.subnet)) := by
  have hlist : (lanResolver.pluginList "macvlan").Finds macvlanNode.files (.ok macvlanList) := by
    have hnone : lanResolver.directory.findConf macvlanNode.files "macvlan" = .ok none := by rfl
    refine .bind (a := none) ((Task.Finds.look _).of_eq hnone) ?_
    exact .bind ((Task.Finds.look _).of_eq builtinConf_macvlan)
      ((Task.Finds.ofExcept _).of_eq (by rfl))
  exact .bind hcarving (.bind ((Task.Finds.ofExcept _).of_eq hcomplete) (.bind hlist (.pure _)))

/-- What resolving a network on `lan` comes to. -/
theorem finds_carving {name : String} {c : Carving}
    (h : ((lanResolver.logicalCarving "default" name).runOn macvlanNode).1 = .ok c) :
    (lanResolver.logicalCarving "default" name).Finds macvlanNode.files (.ok c) :=
  ((lanResolver.onlyLooks_logicalCarving _ _).runOn_eq (Task.runOn_eq_of_fst h)).1

/-- What serves `blue`. -/
def blueCarving : Carving := ⟨some "macvlan", some "10.32.20.0/24", some "eth7"⟩

theorem finds_blueCarving : (lanResolver.logicalCarving "default" "blue").Finds macvlanNode.files
    (.ok blueCarving) :=
  finds_carving (by rfl)

/-- What serves `red`. -/
def redCarving : Carving := ⟨some "macvlan", some "10.32.0.0/12", some "eth7"⟩

theorem finds_redCarving : (lanResolver.logicalCarving "default" "red").Finds macvlanNode.files
    (.ok redCarving) :=
  finds_carving (by rfl)

/-- Both networks are attached with the owner of the physical network: `blue` with its own subnet,
which was found to lie in that of the physical network, and `red` with all of that. -/
theorem resolve_served_soundly_lan :
    (lanRequest "blue").source = .logicalNetwork "default" "blue" ∧
      (lanRequest "red").source = .logicalNetwork "default" "red" ∧
      ∃ blue red left left',
        (lanResolver.resolve (lanRequest "blue")).runOn macvlanNode = (.ok blue, left) ∧
        (lanResolver.resolve (lanRequest "red")).runOn macvlanNode = (.ok red, left') ∧
        lanCluster.physicalOf "default" blueNetwork = some lanNetwork ∧
        blue.request.plugin = "macvlan" ∧ blue.subnet = some "10.32.20.0/24" ∧
        Carving.Inside "10.32.20.0/24" "10.32.0.0/12" ∧
        red.request.plugin = "macvlan" ∧ red.subnet = some "10.32.0.0/12" ∧
        ∃ base base', ServedSoundly lanCluster "default" "blue" blueNetwork base blue ∧
          ServedSoundly lanCluster "default" "red" redNetwork base' red := by
  obtain ⟨asked, -, hblue⟩ := finds_on_lan finds_blueCarving (by rfl)
  obtain ⟨asked', -, hred⟩ := finds_on_lan finds_redCarving (by rfl)
  obtain ⟨cluster, logical, base, hcluster, hlogical, -, hsound⟩ := resolve_served_soundly lanResolver
    (lanRequest "blue") "default" "blue" rfl macvlanNode _ _ (hblue [])
  obtain ⟨cluster', logical', base', hcluster', hlogical', -, hsound'⟩ := resolve_served_soundly
    lanResolver (lanRequest "red") "default" "red" rfl macvlanNode _ _ (hred [])
  cases hcluster
  cases hcluster'
  cases hlogical
  cases hlogical'
  have hlan : lanCluster.physicalOf "default" blueNetwork = some lanNetwork := by rfl
  exact ⟨rfl, rfl, _, _, _, _, hblue [], hred [], hlan, rfl, rfl,
    hsound.inside lanNetwork _ _ hlan rfl rfl (by rfl), rfl, rfl, base, base', hsound, hsound'⟩

end Resolver

end PodNet
