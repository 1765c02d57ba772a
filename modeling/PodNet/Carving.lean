import PodNet.ConfList
import PodNet.Resource
import PodNet.Subnet

/-!
# Carving logical networks

A logical network may be carved from a physical one. A physical network that is dedicated has one
owner, whose plugin serves all networks carved from it, and may have a subnet that theirs must lie
in; on a shared one every logical network has to bring a plugin and a subnet of its own. Networks
carved from the same physical network must not share addresses.
-/

namespace PodNet

/-- What serves a logical network, as far as it is stated. -/
structure Carving where
  plugin : Option String
  subnet : Option String
  /-- The network card of the physical network. -/
  nic : Option String
  deriving Repr, DecidableEq

namespace Carving

/-- Reads the subnet of a resource. -/
def subnetOf (kind : ResourceKind) (ns name subnet : String) : Except Failure Subnet :=
  match Subnet.parse? subnet with
  | some n => .ok n
  | none => .error (.invalidResource kind ns name (.badSubnet subnet))

/-- Refuses a subnet that does not lie in that of the physical network. -/
def checkInside (ns name physicalName inner outer : String) : Except Failure Unit := do
  let innerNet ← subnetOf .logicalNetwork ns name inner
  let outerNet ← subnetOf .physicalNetwork ns physicalName outer
  if outerNet.contains innerNet then .ok ()
  else
    .error (.invalidResource .logicalNetwork ns name (.outsideOf inner outer physicalName))

/-- The subnet of a network that is carved from one with a subnet: its own, or all of that. -/
def subnetWithin (ns name physicalName outer : String) (own : Option String) :
    Except Failure String :=
  match own with
  | some inner => (checkInside ns name physicalName inner outer).map fun _ => inner
  | none => .ok outer

/-- What serves a network that is carved from a dedicated one. -/
def ofDedicated (ns name physicalName : String) (logical : LogicalNetwork)
    (physical : PhysicalNetwork) : Except Failure Carving := do
  let some owner := physical.owner
    | .error (.invalidResource .physicalNetwork ns physicalName .dedicatedWithoutPlugin)
  if let some requested := logical.pluginName.filter (· != owner) then
    .error (.invalidResource .logicalNetwork ns name
      (.pluginConflict requested physicalName owner))
  let subnet ← match physical.outer with
    | some outer => (subnetWithin ns name physicalName outer logical.subnet).map some
    | none => .ok logical.subnet
  return ⟨some (logical.pluginName.getD owner), subnet, physical.card⟩

/-- What serves a network that is carved from a shared one. -/
def ofShared (ns name physicalName : String) (logical : LogicalNetwork)
    (physical : PhysicalNetwork) : Except Failure Carving :=
  if logical.pluginName.isNone || logical.subnet.isNone then
    .error (.invalidResource .logicalNetwork ns name (.incompleteOnShared physicalName))
  else .ok ⟨logical.pluginName, logical.subnet, physical.card⟩

/-- What serves a network that is carved from a physical one. -/
def ofPhysical (ns name physicalName : String) (logical : LogicalNetwork)
    (physical : PhysicalNetwork) : Except Failure Carving :=
  if physical.dedicated then ofDedicated ns name physicalName logical physical
  else ofShared ns name physicalName logical physical

/-- The subnet of a sibling: a network of another name that is carved from the same physical one and
has a subnet that can be read. -/
def siblingSubnet? (name physicalName : String) (n : LogicalNetwork) :
    Option (String × Subnet × String) :=
  let siblingName := n.name.getD ""
  if siblingName = name ∨ n.physicalName ≠ some physicalName then none
  else n.subnet.bind fun s => (Subnet.parse? s).map fun net => (s, net, siblingName)

/-- Refuses a subnet that shares addresses with a sibling's. -/
def checkSiblings (ns name physicalName own : String) (ownNet : Subnet)
    (siblings : List LogicalNetwork) : Except Failure Unit :=
  match (siblings.filterMap (siblingSubnet? name physicalName)).find? fun s =>
      ownNet.overlaps s.2.1 with
  | some (taken, _, sibling) =>
    .error (.invalidResource .logicalNetwork ns name (.overlapsSibling own taken sibling))
  | none => .ok ()

/-- The plugin that serves the network; it must be stated by now, and the subnet be readable. -/
def complete (ns name : String) (c : Carving) : Except Failure String := do
  let some plugin := c.plugin | .error (.invalidResource .logicalNetwork ns name .noPlugin)
  if let some subnet := c.subnet then
    let _ ← subnetOf .logicalNetwork ns name subnet
  return plugin

/-- The configuration with the subnet and the network card set. -/
def configure (c : Carving) (l : ConfList) : ConfList :=
  let l := match c.subnet with
    | some subnet => l.setSubnet subnet
    | none => l
  match c.nic with
  | some nic => l.setMaster nic
  | none => l

end Carving

end PodNet
