import PodNet.Proofs.ValidLists
import PodNet.Proofs.Subnets

/-!
# Carving and rewriting

What serves a logical network is decided by its own resource and by that of the physical network it
is carved from: `Carving.Serves` says which plugin and which subnet that may be, and every successful
branch of the decision gives one that serves (`serves_of_ofPhysical`). The configuration of the
plugin is then rewritten in two places and no others, `ConfList.Rewritten`.
-/

namespace PodNet

namespace Carving

variable {ns name physicalName : String} {logical : LogicalNetwork} {physical : PhysicalNetwork}
  {c : Carving}

/-! ### Carving from a physical network -/

theorem parse?_of_subnetOf {kind : ResourceKind} {s : String} {n : Subnet}
    (h : subnetOf kind ns name s = .ok n) : Subnet.parse? s = some n := by
  unfold subnetOf at h
  split at h
  · rename_i m hparse
    rw [hparse, Except.ok.inj h]
  · cases h

/-- The first subnet lies in the second one: both can be read, and every address of the first one is
an address of the second. -/
def Inside (inner outer : String) : Prop :=
  ∃ innerNet outerNet, Subnet.parse? inner = some innerNet ∧ Subnet.parse? outer = some outerNet ∧
    ∀ family address, innerNet.mem family address → outerNet.mem family address

theorem inside_of_checkInside {inner outer : String}
    (h : checkInside ns name physicalName inner outer = .ok ()) : Inside inner outer := by
  unfold checkInside at h
  cases hinner : subnetOf .logicalNetwork ns name inner with
  | error f => rw [hinner] at h; cases h
  | ok innerNet =>
    cases houter : subnetOf .physicalNetwork ns physicalName outer with
    | error f => rw [hinner, houter] at h; cases h
    | ok outerNet =>
      rw [hinner, houter] at h
      cases hcontains : outerNet.contains innerNet with
      | false => simp [bind, Except.bind, hcontains] at h
      | true =>
        exact ⟨innerNet, outerNet, parse?_of_subnetOf hinner, parse?_of_subnetOf houter,
          fun _ _ => Subnet.mem_of_contains hcontains⟩

theorem subnetWithin_eq_ok {outer : String} {own : Option String} {subnet : String}
    (h : subnetWithin ns name physicalName outer own = .ok subnet) :
    subnet = own.getD outer ∧ ∀ inner, own = some inner → Inside inner outer := by
  cases own with
  | none =>
    cases h
    exact ⟨rfl, fun inner hinner => by cases hinner⟩
  | some inner =>
    rw [subnetWithin] at h
    cases hinside : checkInside ns name physicalName inner outer with
    | error f => rw [hinside] at h; cases h
    | ok _ =>
      rw [hinside] at h
      cases h
      exact ⟨rfl, fun inner hinner => by cases hinner; exact inside_of_checkInside hinside⟩

/-- The physical network, if it is dedicated. -/
def dedicated? (physical : Option PhysicalNetwork) : Option PhysicalNetwork :=
  physical.filter (·.dedicated)

theorem dedicated?_of_dedicated (h : physical.dedicated = true) :
    dedicated? (some physical) = some physical :=
  Option.filter_some_pos h

theorem dedicated?_of_shared (h : physical.dedicated = false) :
    dedicated? (some physical) = none :=
  Option.filter_some_neg (by simp [h])

/-- **What serves a logical network** that is carved from a physical one, or from none. -/
structure Serves (logical : LogicalNetwork) (physical : Option PhysicalNetwork) (c : Carving) :
    Prop where
  /-- The plugin is the network's own, or else the owner of the dedicated physical network. -/
  plugin : c.plugin = logical.pluginName.or ((dedicated? physical).bind (·.owner))
  /-- On a dedicated network it is the owner in any case. -/
  owner : ∀ p, physical = some p → p.dedicated = true → p.owner = c.plugin
  /-- The subnet is the network's own, or else all of the dedicated physical network. -/
  subnet : c.subnet = logical.subnet.or ((dedicated? physical).bind (·.outer))
  /-- Its own subnet lies in that of the dedicated physical network. -/
  inside : ∀ p inner outer, physical = some p → p.dedicated = true → logical.subnet = some inner →
    p.outer = some outer → Inside inner outer
  /-- On a shared network it brings a plugin and a subnet. -/
  stated : ∀ p, physical = some p → p.dedicated = false →
    logical.pluginName.isSome = true ∧ logical.subnet.isSome = true
  nic : c.nic = physical.bind (·.card)

/-- A network that is carved from none is served by what it brings. -/
theorem serves_none (logical : LogicalNetwork) :
    Serves logical none ⟨logical.pluginName, logical.subnet, none⟩ where
  plugin := (Option.or_none ..).symm
  owner _ h := by cases h
  subnet := (Option.or_none ..).symm
  inside _ _ _ h := by cases h
  stated _ h := by cases h
  nic := rfl

/-- On a dedicated network the owner serves. -/
theorem serves_of_ofDedicated (dedicated : physical.dedicated = true)
    (h : ofDedicated ns name physicalName logical physical = .ok c) :
    Serves logical (some physical) c := by
  unfold ofDedicated at h
  cases howner : physical.owner with
  | none => simp [howner] at h
  | some owner =>
    cases hother : logical.pluginName.filter (· != owner) with
    | some requested => simp [howner, hother, bind, Except.bind] at h
    | none =>
      have hplugin : logical.pluginName.or (some owner) = some owner := by
        cases hname : logical.pluginName with
        | none => rfl
        | some plugin => simpa [hname] using hother
      have hsubnet : ∃ subnet, c = ⟨some owner, subnet, physical.card⟩ ∧
          subnet = logical.subnet.or physical.outer ∧
          ∀ inner outer, logical.subnet = some inner → physical.outer = some outer →
            Inside inner outer := by
        rw [Option.or_some, Option.some.injEq] at hplugin
        cases houter : physical.outer with
        | none =>
          simp only [howner, hother, houter, hplugin, bind, Except.bind, pure, Except.pure,
            Except.ok.injEq] at h
          exact ⟨_, h.symm, (Option.or_none ..).symm, fun _ _ _ hnone => by cases hnone⟩
        | some outer =>
          cases hwithin : subnetWithin ns name physicalName outer logical.subnet with
          | error f => simp [howner, hother, houter, hwithin, bind, Except.bind, Except.map] at h
          | ok subnet =>
            simp only [howner, hother, houter, hplugin, hwithin, bind, Except.bind, pure,
              Except.pure, Except.map, Except.ok.injEq] at h
            obtain ⟨hsubnet, hinside⟩ := subnetWithin_eq_ok hwithin
            refine ⟨_, h.symm, by rw [hsubnet, Option.or_some], fun inner _ hinner houter' => ?_⟩
            cases houter'
            exact hinside inner hinner
      obtain ⟨subnet, rfl, rfl, hinside⟩ := hsubnet
      exact {
        plugin := by rw [dedicated?_of_dedicated dedicated, Option.bind_some, howner, hplugin]
        owner := fun p hp _ => by cases hp; exact howner
        subnet := by rw [dedicated?_of_dedicated dedicated, Option.bind_some]
        inside := fun p inner outer hp _ => by cases hp; exact hinside inner outer
        stated := fun p hp hshared => by cases hp; rw [dedicated] at hshared; cases hshared
        nic := rfl }

/-- On a shared network only a network that brings everything is served. -/
theorem serves_of_ofShared (shared : physical.dedicated = false)
    (h : ofShared ns name physicalName logical physical = .ok c) :
    Serves logical (some physical) c := by
  unfold ofShared at h
  split at h
  · cases h
  · rename_i hstated
    cases h
    exact {
      plugin := by rw [dedicated?_of_shared shared, Option.bind_none, Option.or_none]
      owner := fun p hp hdedicated => by cases hp; rw [shared] at hdedicated; cases hdedicated
      subnet := by rw [dedicated?_of_shared shared, Option.bind_none, Option.or_none]
      inside := fun p _ _ hp hdedicated => by
        cases hp; rw [shared] at hdedicated; cases hdedicated
      stated := fun p hp _ => by
        simpa [Option.isSome_iff_ne_none] using hstated
      nic := rfl }

theorem serves_of_ofPhysical (h : ofPhysical ns name physicalName logical physical = .ok c) :
    Serves logical (some physical) c := by
  unfold ofPhysical at h
  split at h
  · rename_i hdedicated
    exact serves_of_ofDedicated hdedicated h
  · rename_i hshared
    exact serves_of_ofShared (Bool.not_eq_true _ ▸ hshared) h

/-- A carving that is complete has a plugin, and a subnet only if that can be read. -/
theorem complete_eq_ok {plugin : String} (h : c.complete ns name = .ok plugin) :
    c.plugin = some plugin ∧ ∀ s, c.subnet = some s → ∃ n, Subnet.parse? s = some n := by
  unfold complete at h
  cases hplugin : c.plugin with
  | none => simp [hplugin] at h
  | some stated =>
    cases hsubnet : c.subnet with
    | none =>
      simp only [hplugin, hsubnet, pure, Except.pure, Except.ok.injEq] at h
      exact ⟨by rw [h], fun s hs => by cases hs⟩
    | some s =>
      cases hread : subnetOf .logicalNetwork ns name s with
      | error f => simp [hplugin, hsubnet, hread, bind, Except.bind] at h
      | ok n =>
        simp only [hplugin, hsubnet, hread, bind, Except.bind, pure, Except.pure,
          Except.ok.injEq] at h
        refine ⟨by rw [h], fun t ht => ?_⟩
        cases ht
        exact ⟨n, parse?_of_subnetOf hread⟩

end Carving

/-! ### The configuration -/

/-- **The configuration is rewritten** for a subnet and a network card, and otherwise as it was: in
its first plugin the address management gets the subnet, if there is one, and keeps its other
settings, and the master interface is the card, if there is one and the plugin has a master. -/
structure ConfList.Rewritten (subnet nic : Option String) (base l : ConfList) : Prop where
  cniVersion : l.cniVersion = base.cniVersion
  name : l.name = base.name
  extra : l.extra = base.extra
  plugins : ∃ p q rest, base.plugins = p :: rest ∧ l.plugins = q :: rest ∧
    (∀ key, key ≠ "ipam" → key ≠ "master" → Table.get? key q = Table.get? key p) ∧
    (subnet = none → Table.get? "ipam" q = Table.get? "ipam" p) ∧
    (∀ s, subnet = some s → ∃ ipam, Table.get? "ipam" q = some (.obj ipam) ∧
      Table.get? "subnet" ipam = some (.str s) ∧
      ∀ key, key ≠ "subnet" → Table.get? key ipam =
        Table.get? key (((Table.get? "ipam" p).bind Json.members?).getD [])) ∧
    Table.get? "master" q = (Table.get? "master" p).map fun m => (nic.map Json.str).getD m

/-- The plugin with its subnet set, if there is one to set. -/
def ConfList.carved (subnet : Option String) (plugin : Object) : Object :=
  match subnet with
  | some s => ConfList.withSubnet s plugin
  | none => plugin

/-- The plugin with its master interface set, if there is one to set and the plugin has one. -/
def ConfList.bound (nic : Option String) (plugin : Object) : Object :=
  match nic with
  | some nic => if Table.has "master" plugin then Table.insert "master" (.str nic) plugin else plugin
  | none => plugin

namespace ConfList

variable {plugin : Object} {key : String}

theorem get?_carved_of_ne (h : key ≠ "ipam") (subnet : Option String) :
    Table.get? key (carved subnet plugin) = Table.get? key plugin := by
  cases subnet with
  | none => rfl
  | some s => exact Table.get?_insert_of_ne h _ _

theorem get?_bound_of_ne (h : key ≠ "master") (nic : Option String) :
    Table.get? key (bound nic plugin) = Table.get? key plugin := by
  cases nic with
  | none => rfl
  | some nic =>
    rw [bound]
    split
    · exact Table.get?_insert_of_ne h _ _
    · rfl

theorem get?_bound_master (nic : Option String) (plugin : Object) :
    Table.get? "master" (bound nic plugin) =
      (Table.get? "master" plugin).map fun m => (nic.map Json.str).getD m := by
  cases hmaster : Table.get? "master" plugin <;> cases nic <;>
    simp [bound, Table.has, hmaster]

variable {l : ConfList} {rest : List Object}

theorem setSubnet_eq (h : l.plugins = plugin :: rest) (s : String) :
    l.setSubnet s = { l with plugins := carved (some s) plugin :: rest } := by
  rw [setSubnet, h]
  rfl

theorem setMaster_eq (h : l.plugins = plugin :: rest) (nic : String) :
    l.setMaster nic = { l with plugins := bound (some nic) plugin :: rest } := by
  rw [setMaster_cons h, bound]
  split
  · rfl
  · rw [← h]

end ConfList

theorem Carving.configure_eq (c : Carving) {l : ConfList} {p : Object} {rest : List Object}
    (hplugins : l.plugins = p :: rest) :
    c.configure l =
      { l with plugins := ConfList.bound c.nic (ConfList.carved c.subnet p) :: rest } := by
  obtain ⟨_, _ | subnet, _ | nic⟩ := c
  · simp [configure, ConfList.bound, ConfList.carved, ← hplugins]
  · simp [configure, ConfList.setMaster_eq hplugins, ConfList.carved]
  · simp [configure, ConfList.setSubnet_eq hplugins, ConfList.bound]
  · have hcarved : (l.setSubnet subnet).plugins = ConfList.carved (some subnet) p :: rest := by
      rw [ConfList.setSubnet_eq hplugins]
    simp only [configure]
    rw [ConfList.setMaster_eq hcarved, ConfList.setSubnet_eq hplugins]

theorem Carving.configure_rewritten (c : Carving) {base : ConfList} (valid : base.Valid) :
    ConfList.Rewritten c.subnet c.nic base (c.configure base) := by
  obtain ⟨p, rest, hplugins⟩ := List.exists_cons_of_ne_nil ((ConfList.valid_iff base).mp valid).1
  rw [c.configure_eq hplugins]
  have hmaster := ConfList.get?_bound_master c.nic (ConfList.carved c.subnet p)
  rw [ConfList.get?_carved_of_ne (by decide)] at hmaster
  have hipam : Table.get? "ipam" (ConfList.bound c.nic (ConfList.carved c.subnet p)) =
      Table.get? "ipam" (ConfList.carved c.subnet p) := ConfList.get?_bound_of_ne (by decide) _
  refine ⟨rfl, rfl, rfl, p, _, rest, hplugins, rfl, ?_, ?_, ?_, hmaster⟩
  · intro key hkeyIpam hkeyMaster
    rw [ConfList.get?_bound_of_ne hkeyMaster, ConfList.get?_carved_of_ne hkeyIpam]
  · intro hnone
    rw [hipam, hnone, ConfList.carved]
  · intro s hs
    rw [hipam, hs, ConfList.carved]
    exact ⟨_, Table.get?_insert_self _ _ _, Table.get?_insert_self _ _ _,
      fun key hkey => Table.get?_insert_of_ne hkey _ _⟩

end PodNet
