import PodNet.Dns

/-!
# Annotations of a pod

A pod says which networks it wants, and is told which it got, in its annotations. This module holds
what the annotations carry in JSON: the elements of the standard selection of networks, the entries
of the standard status, and the older status that counts addresses.
-/

namespace PodNet

/-- The annotations of an object. -/
abbrev Annotations := Table String

/-- The annotation that lists logical networks. -/
def networksKey : String := "networks"

/-- The annotation with the standard status of networks. -/
def statusKey : String := "k8s.v1.cni.cncf.io/network-status"

/-- The annotation with the older status that counts addresses. -/
def multiIpKey : String := "multi-ip-preferences"

/-- One network of the standard selection. -/
structure SelectionElement where
  name : String
  /-- The namespace of the definition; that of the pod if it is empty. -/
  ns : String
  ips : List String
  mac : String
  interface : String
  deriving Repr, DecidableEq

namespace SelectionElement

/-- Reads an element of a document. -/
def ofDocument? (d : Json.Document) : Option SelectionElement := do
  let [name, ns, ips, mac, interface] ← d.record?
    [["name"], ["namespace"], ["ips"], ["mac"], ["interface"]] | none
  return {
    name := ← Json.Document.required Json.Document.text? name
    ns := ← Json.Document.withDefault "" Json.Document.text? ns
    ips := ← Json.Document.withDefault [] Dns.texts? ips
    mac := ← Json.Document.withDefault "" Json.Document.text? mac
    interface := ← Json.Document.withDefault "" Json.Document.text? interface }

/-- Reads a selection. -/
def listOfBytes? (b : Bytes) : Option (List SelectionElement) :=
  (Json.Document.read? b).bind (Json.Document.list? ofDocument?)

/-- The element as a record. -/
def toJson (e : SelectionElement) : Json :=
  .obj ([("name", .str e.name)] ++ textMember "namespace" e.ns ++ listMember "ips" e.ips ++
    textMember "mac" e.mac ++ textMember "interface" e.interface)

end SelectionElement

/-- One network of the standard status. -/
structure NetworkStatus where
  name : String
  interface : String
  ips : List String
  mac : String
  default : Bool
  dns : Dns
  deriving Repr, DecidableEq

namespace NetworkStatus

/-- Reads an entry of a document. -/
def ofDocument? (d : Json.Document) : Option NetworkStatus := do
  let [name, interface, ips, mac, default, dns] ← d.record?
    [["name"], ["interface"], ["ips"], ["mac"], ["default"], ["dns"]] | none
  return {
    name := ← Json.Document.required Json.Document.text? name
    interface := ← Json.Document.withDefault "" Json.Document.text? interface
    ips := ← Json.Document.withDefault [] Dns.texts? ips
    mac := ← Json.Document.withDefault "" Json.Document.text? mac
    default := ← Json.Document.withDefault false Json.Document.bool? default
    dns := ← Json.Document.withDefault .empty Dns.ofDocument? dns }

/-- Reads a status. -/
def listOfBytes? (b : Bytes) : Option (List NetworkStatus) :=
  (Json.Document.read? b).bind (Json.Document.list? ofDocument?)

/-- The entry as a record. -/
def toJson (s : NetworkStatus) : Json :=
  .obj ([("name", .str s.name)] ++ textMember "interface" s.interface ++ listMember "ips" s.ips ++
    textMember "mac" s.mac ++ [("default", .bool s.default)] ++ s.dns.member)

end NetworkStatus

/-- One address of the older status. -/
structure IpPreference where
  ip : String
  interface : String
  deriving Repr, DecidableEq

/-- The older status: a count, and the addresses under the keys `ip1`, `ip2` and so on. -/
structure MultiIp where
  entries : Nat
  ips : Table IpPreference
  deriving Repr, DecidableEq

namespace IpPreference

/-- Reads an address of a document. -/
def ofDocument? (d : Json.Document) : Option IpPreference := do
  let [ip, interface] ← d.record? [["ip"], ["interfaces", "interface"]] | none
  return {
    ip := ← Json.Document.required Json.Document.text? ip
    interface := ← Json.Document.required Json.Document.text? interface }

/-- The address as a record. -/
def toJson (p : IpPreference) : Json :=
  .obj [("ip", .str p.ip), ("interfaces", .str p.interface)]

end IpPreference

namespace MultiIp

/-- A status without addresses. -/
def empty : MultiIp := ⟨0, []⟩

/-- Reads a status of a document. -/
def ofDocument? (d : Json.Document) : Option MultiIp := do
  let [entries, ips] ← d.record? [["multi-entry", "multi_entry"], ["ips"]] | none
  return {
    entries := ← Json.Document.withDefault 0 (Json.Document.nat? 32) entries
    ips := ← Json.Document.withDefault [] (Json.Document.table? IpPreference.ofDocument?) ips }

/-- Reads a status. -/
def ofBytes? (b : Bytes) : Option MultiIp :=
  (Json.Document.read? b).bind ofDocument?

/-- The key of the address with a number. -/
def key (n : Nat) : String :=
  "ip" ++ toString n

/-- The status with a further address under the next number. The count is kept in a word of 32 bits;
how it goes on when that is full is left open. -/
def push (ip interface : String) (m : MultiIp) : MultiIp :=
  ⟨m.entries + 1, Table.insert (key (m.entries + 1)) ⟨ip, interface⟩ m.ips⟩

/-- The status as a record. -/
def toJson (m : MultiIp) : Json :=
  .obj [("multi-entry", .nat m.entries),
    ("ips", .obj (m.ips.map fun e => (e.1, e.2.toJson)))]

end MultiIp

end PodNet
