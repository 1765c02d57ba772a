import Mathlib.Data.List.Nodup
import PodNet.Proofs.LogicalNetworks

/-!
# Siblings

Logical networks that are carved from the same physical network are siblings. Resolving one of them
compares its subnet with those of all its siblings, so two siblings that can both be resolved have no
address in common (`siblings_apart`). The comparison that is made when one of them is resolved settles
it for both; resolving the other only makes sure that its subnet can be read.
-/

namespace PodNet

/-- **The cluster knows the logical networks of a namespace**: it lists them all, no two of them have
the same name, and under the name of each it finds that one. -/
structure Cluster.Knows (cluster : Cluster) (ns : String) (networks : List LogicalNetwork) :
    Prop where
  listed : cluster.logicalNetworks ns = .ok networks
  distinct : (networks.map (·.name)).Nodup
  found : ∀ n ∈ networks, ∀ name, n.name = some name → cluster.logicalNetwork ns name = .ok n

namespace Carving

variable {ns name physicalName own : String} {ownNet : Subnet} {siblings : List LogicalNetwork}

/-- A sibling with a subnet that can be read is compared. -/
theorem siblingSubnet?_eq_some {n : LogicalNetwork} {siblingName s : String} {net : Subnet}
    (hname : n.name = some siblingName) (hother : siblingName ≠ name)
    (hphysical : n.physicalName = some physicalName) (hsubnet : n.subnet = some s)
    (hnet : Subnet.parse? s = some net) :
    siblingSubnet? name physicalName n = some (s, net, siblingName) := by
  simp [siblingSubnet?, hname, hother, hphysical, hsubnet, hnet]

/-- Siblings that are not refused do not overlap. -/
theorem overlaps_of_checkSiblings (h : checkSiblings ns name physicalName own ownNet siblings = .ok ())
    {n : LogicalNetwork} (hmem : n ∈ siblings) {siblingName s : String} {net : Subnet}
    (hsibling : siblingSubnet? name physicalName n = some (s, net, siblingName)) :
    ownNet.overlaps net = false := by
  unfold checkSiblings at h
  split at h
  · cases h
  · rename_i hnone
    have hcompared : (s, net, siblingName) ∈ siblings.filterMap (siblingSubnet? name physicalName) :=
      List.mem_filterMap.mpr ⟨n, hmem, hsibling⟩
    simpa using List.find?_eq_none.mp hnone _ hcompared

end Carving

/-- The network is one of those listed under the name, carved from the physical network, with a subnet
of its own. -/
structure CarvedFrom (networks : List LogicalNetwork) (physicalName : String) (n : LogicalNetwork)
    (name own : String) : Prop where
  mem : n ∈ networks
  name_eq : n.name = some name
  physical : n.physicalNet.bind Text.nonBlank = some physicalName
  subnet : n.subSubnet.bind Text.nonBlank = some own

namespace Resolver

variable {cluster : Cluster} {ns : String} {networks : List LogicalNetwork}

/-- What resolving one of the networks of a namespace checked. -/
theorem checkSiblings_of_resolve (known : cluster.Knows ns networks) {physicalName : String}
    {n : LogicalNetwork} {name own : String} (h : CarvedFrom networks physicalName n name own)
    {r : Resolver} (hcluster : r.cluster = some cluster) {request : AttachmentRequest}
    (source : request.source = .logicalNetwork ns name) {node left : Node} {a : Attachment}
    (resolved : (r.resolve request).runOn node = (.ok a, left)) :
    a.subnet = some own ∧ ∃ ownNet, Subnet.parse? own = some ownNet ∧
      Carving.checkSiblings ns name physicalName own ownNet networks = .ok () := by
  have hrun : (r.resolveLogical request ns name).runOn node = (.ok a, left) := by
    rw [← resolved, resolve, source]
  obtain ⟨cluster', logical, c, plugin, base, hcarved, -, -, rfl⟩ := of_runOn_resolveLogical hrun
  have hsame : cluster' = cluster := Option.some.inj (hcarved.cluster_eq.symm.trans hcluster)
  subst hsame
  have hlogical : logical = n :=
    Except.ok.inj (hcarved.found.symm.trans (known.found n h.mem name h.name_eq))
  subst hlogical
  obtain ⟨ownNet, siblings, hnet, hsiblings, hcheck⟩ :=
    hcarved.apart physicalName own h.physical h.subnet
  have hall : siblings = networks := Except.ok.inj (hsiblings.symm.trans known.listed)
  have hown : logical.subnet = some own := h.subnet
  have hsubnet : c.subnet = some own := by rw [hcarved.serves.subnet, hown, Option.some_or]
  exact ⟨hsubnet, ownNet, hnet, hall ▸ hcheck⟩

/-- **Siblings share no address**: two different logical networks of a namespace that are carved from
the same physical network, each with a subnet of its own, have no address in common if both can be
resolved, each with whatever resolver on whatever node, as long as the cluster is the same. -/
theorem siblings_apart (cluster : Cluster) (ns : String) (networks : List LogicalNetwork)
    (known : cluster.Knows ns networks) (physicalName : String) (n n' : LogicalNetwork)
    (name name' s s' : String) (carved : CarvedFrom networks physicalName n name s)
    (carved' : CarvedFrom networks physicalName n' name' s') (different : n ≠ n')
    (r r' : Resolver) (hcluster : r.cluster = some cluster) (hcluster' : r'.cluster = some cluster)
    (request request' : AttachmentRequest) (source : request.source = .logicalNetwork ns name)
    (source' : request'.source = .logicalNetwork ns name') (node node' left left' : Node)
    (a a' : Attachment) (resolved : (r.resolve request).runOn node = (.ok a, left))
    (resolved' : (r'.resolve request').runOn node' = (.ok a', left')) :
    a.subnet = some s ∧ a'.subnet = some s' ∧
      ∃ net net', Subnet.parse? s = some net ∧ Subnet.parse? s' = some net' ∧
        ∀ family address, ¬ (net.mem family address ∧ net'.mem family address) := by
  obtain ⟨ha, net, hnet, hcheck⟩ := checkSiblings_of_resolve known carved hcluster source resolved
  obtain ⟨ha', net', hnet', -⟩ := checkSiblings_of_resolve known carved' hcluster' source' resolved'
  refine ⟨ha, ha', net, net', hnet, hnet', fun family address ⟨hmem, hmem'⟩ => ?_⟩
  have hnames : name' ≠ name := by
    intro hsame
    have hkeys : n.name = n'.name := by rw [carved.name_eq, carved'.name_eq, hsame]
    exact different (List.inj_on_of_nodup_map known.distinct carved.mem carved'.mem hkeys)
  have hapart := Carving.overlaps_of_checkSiblings hcheck carved'.mem
    (Carving.siblingSubnet?_eq_some carved'.name_eq hnames carved'.physical carved'.subnet hnet')
  rw [Subnet.overlaps_of_mem hmem hmem'] at hapart
  cases hapart

/-! ### Two networks next to each other -/

/-- What serves `green`. -/
def greenCarving : Carving := ⟨some "macvlan", some "10.32.21.7/24", some "eth7"⟩

theorem finds_greenCarving : (lanResolver.logicalCarving "default" "green").Finds macvlanNode.files
    (.ok greenCarving) :=
  finds_carving (by rfl)

/-- Two networks on `lan` can both be resolved, and have no address in common. -/
theorem siblings_apart_blue_green :
    lanCluster.Knows "default" lanNetworks ∧
      CarvedFrom lanNetworks "lan" blueNetwork "blue" "10.32.20.0/24" ∧
      CarvedFrom lanNetworks "lan" greenNetwork "green" "10.32.21.7/24" ∧
      blueNetwork ≠ greenNetwork ∧
      ∃ a a' left left', (lanResolver.resolve (lanRequest "blue")).runOn macvlanNode = (.ok a, left) ∧
        (lanResolver.resolve (lanRequest "green")).runOn macvlanNode = (.ok a', left') ∧
        a.subnet = some "10.32.20.0/24" ∧ a'.subnet = some "10.32.21.7/24" ∧
        ∃ net net', Subnet.parse? "10.32.20.0/24" = some net ∧
          Subnet.parse? "10.32.21.7/24" = some net' ∧
          ∀ family address, ¬ (net.mem family address ∧ net'.mem family address) := by
  have known : lanCluster.Knows "default" lanNetworks := by
    refine ⟨rfl, by decide, fun n hn name hname => ?_⟩
    simp only [lanNetworks, List.mem_cons, List.not_mem_nil, or_false] at hn
    rcases hn with rfl | rfl | rfl
    all_goals
      cases hname
      rfl
  have blue : CarvedFrom lanNetworks "lan" blueNetwork "blue" "10.32.20.0/24" :=
    ⟨by simp [lanNetworks], rfl, by rfl, by rfl⟩
  have green : CarvedFrom lanNetworks "lan" greenNetwork "green" "10.32.21.7/24" :=
    ⟨by simp [lanNetworks], rfl, by rfl, by rfl⟩
  have different : blueNetwork ≠ greenNetwork := by decide
  obtain ⟨asked, -, hrun⟩ := finds_on_lan finds_blueCarving (by rfl)
  obtain ⟨asked', -, hrun'⟩ := finds_on_lan finds_greenCarving (by rfl)
  exact ⟨known, blue, green, different, _, _, _, _, hrun [], hrun' [],
    siblings_apart lanCluster "default" _ known "lan" _ _ _ _ _ _ blue green different lanResolver
      lanResolver rfl rfl (lanRequest "blue") (lanRequest "green") rfl rfl macvlanNode macvlanNode _ _
      _ _ (hrun []) (hrun' [])⟩

end Resolver

end PodNet
