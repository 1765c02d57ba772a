import PodNet.Annotation

/-!
# Resources of the cluster

What is looked up in the cluster: the pod that an invocation is for, logical networks, the physical
networks they are carved from, and definitions of further attachments. Fields that a person fills in
count as absent when they are blank.
-/

namespace PodNet

/-- A pod, as far as it matters here. -/
structure Pod where
  name : Option String
  annotations : Option Annotations
  deriving Repr, DecidableEq

/-- A logical network: a plugin, a subnet, or both, possibly carved from a physical network. -/
structure LogicalNetwork where
  name : Option String
  physicalNet : Option String
  subSubnet : Option String
  plugin : Option String
  deriving Repr, DecidableEq

namespace LogicalNetwork

/-- The physical network, unless it is blank. -/
def physicalName (n : LogicalNetwork) : Option String :=
  n.physicalNet.bind Text.nonBlank

/-- The subnet, unless it is blank. -/
def subnet (n : LogicalNetwork) : Option String :=
  n.subSubnet.bind Text.nonBlank

/-- The plugin, unless it is blank. -/
def pluginName (n : LogicalNetwork) : Option String :=
  n.plugin.bind Text.nonBlank

/-- Reads the specification of a logical network with the name. -/
def ofSpec? (name : Option String) (d : Json.Document) : Option LogicalNetwork := do
  let [physicalNet, subSubnet, plugin] ← d.record?
    [["physicalNet"], ["sub_subnet"], ["plugin"]] | none
  return {
    name
    physicalNet := ← Json.Document.withDefault none Json.Document.textOrNull? physicalNet
    subSubnet := ← Json.Document.withDefault none Json.Document.textOrNull? subSubnet
    plugin := ← Json.Document.withDefault none Json.Document.textOrNull? plugin }

/-- The specification as a record. -/
def spec (n : LogicalNetwork) : Json :=
  .obj (optionalMember "physicalNet" n.physicalNet ++ optionalMember "sub_subnet" n.subSubnet ++
    optionalMember "plugin" n.plugin)

end LogicalNetwork

/-- A physical network: a network card, and a plugin and a subnet if it is dedicated to one. -/
structure PhysicalNetwork where
  name : Option String
  nic : String
  plugin : Option String
  outerSubnet : Option String
  dedicated : Bool
  deriving Repr, DecidableEq

namespace PhysicalNetwork

/-- The plugin that owns the network, unless it is blank. -/
def owner (n : PhysicalNetwork) : Option String :=
  n.plugin.bind Text.nonBlank

/-- The subnet that all carved ones must lie in, unless it is blank. -/
def outer (n : PhysicalNetwork) : Option String :=
  n.outerSubnet.bind Text.nonBlank

/-- The network card, unless it is blank. -/
def card (n : PhysicalNetwork) : Option String :=
  Text.nonBlank n.nic

/-- How a network is shared: its owner, its subnet, and whether it is dedicated. -/
def shared? (d : Json.Document) : Option (Option String × Option String × Bool) := do
  let [plugin, subnet, dedicated] ← d.record?
    [["plugin"], ["subnet"], ["dedicatedNetwork"]] | none
  return (← Json.Document.withDefault none Json.Document.textOrNull? plugin,
    ← Json.Document.withDefault none Json.Document.textOrNull? subnet,
    ← Json.Document.withDefault false Json.Document.bool? dedicated)

/-- Reads the specification of a physical network with the name. -/
def ofSpec? (name : Option String) (d : Json.Document) : Option PhysicalNetwork := do
  let [nic, shared] ← d.record? [["refer_nic"], ["sharedStatus"]] | none
  let nic ← Json.Document.withDefault "" Json.Document.text? nic
  let (plugin, outerSubnet, dedicated) ← Json.Document.withDefault (none, none, false) shared? shared
  return { name, nic, plugin, outerSubnet, dedicated }

/-- The specification as a record. -/
def spec (n : PhysicalNetwork) : Json :=
  .obj [("refer_nic", .str n.nic),
    ("sharedStatus", .obj (optionalMember "plugin" n.plugin ++
      optionalMember "subnet" n.outerSubnet ++ [("dedicatedNetwork", .bool n.dedicated)]))]

end PhysicalNetwork

/-- The definition of a further attachment: a configuration, or the name of one. -/
structure NetAttachDef where
  name : Option String
  config : Option String
  deriving Repr, DecidableEq

namespace NetAttachDef

/-- The configuration that the definition carries, unless it is blank. -/
def inlineConfig (n : NetAttachDef) : Option String :=
  n.config.filter fun c => (Text.nonBlank c).isSome

/-- Reads the specification of a definition with the name. -/
def ofSpec? (name : Option String) (d : Json.Document) : Option NetAttachDef := do
  let [config] ← d.record? [["config"]] | none
  return { name, config := ← Json.Document.withDefault none Json.Document.textOrNull? config }

/-- The specification as a record. -/
def spec (n : NetAttachDef) : Json :=
  .obj (optionalMember "config" n.config)

end NetAttachDef

end PodNet
