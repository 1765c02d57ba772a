import PodNet.Dns

/-!
# Results of an attachment

A plugin that attached an interface prints what it set up: interfaces, addresses, routes and a name
service. Plugins of version 0.2.0 print one block for each family of addresses instead; these are
taken into the same form when a result is read. `AddResult.merge` puts the results of several
attachments together. An address names its interface by position, so positions move by the number
of interfaces that come before.
-/

namespace PodNet

/-- An interface that a plugin set up; on the host, if it has no sandbox. -/
structure Interface where
  name : String
  mac : String
  sandbox : String
  deriving Repr, DecidableEq

/-- An address that a plugin set up. -/
structure IpConfig where
  /-- `4` or `6`, which results from 1.0.0 on do not state. -/
  version : Option String
  /-- The address with the length of its network part. -/
  address : String
  gateway : Option String
  /-- The position of the interface that has the address. -/
  interface : Option Nat
  deriving Repr, DecidableEq

/-- A route that a plugin set up. -/
structure Route where
  dst : String
  gw : Option String
  deriving Repr, DecidableEq

/-- The result of an attachment. -/
structure AddResult where
  cniVersion : String
  interfaces : List Interface
  ips : List IpConfig
  routes : List Route
  dns : Dns
  deriving Repr, DecidableEq

namespace Interface

/-- Reads an interface of a document. -/
def ofDocument? (d : Json.Document) : Option Interface := do
  let [name, mac, sandbox] ← d.record? [["name"], ["mac"], ["sandbox"]] | none
  return {
    name := ← Json.Document.required Json.Document.text? name
    mac := ← Json.Document.withDefault "" Json.Document.text? mac
    sandbox := ← Json.Document.withDefault "" Json.Document.text? sandbox }

/-- The interface as a record. -/
def toJson (i : Interface) : Json :=
  .obj ([("name", .str i.name)] ++ textMember "mac" i.mac ++ textMember "sandbox" i.sandbox)

end Interface

namespace IpConfig

/-- A position or null. -/
def position? : Json.Document → Option (Option Nat)
  | .null => some none
  | d => (d.nat? 64).map some

/-- Reads an address of a document. -/
def ofDocument? (d : Json.Document) : Option IpConfig := do
  let [version, address, gateway, interface] ← d.record?
    [["version"], ["address"], ["gateway"], ["interface"]] | none
  return {
    version := ← Json.Document.withDefault none Json.Document.textOrNull? version
    address := ← Json.Document.required Json.Document.text? address
    gateway := ← Json.Document.withDefault none Json.Document.textOrNull? gateway
    interface := ← Json.Document.withDefault none position? interface }

/-- The address as a record. -/
def toJson (ip : IpConfig) : Json :=
  .obj (optionalMember "version" ip.version ++ [("address", .str ip.address)] ++
    optionalMember "gateway" ip.gateway ++
    (ip.interface.map fun n => ("interface", Json.nat n)).toList)

/-- The address without the length of its network part. -/
def plain (ip : IpConfig) : String :=
  ((Text.cut '/' ip.address).map (·.1)).getD ip.address

/-- The version that the address is of. -/
def inferredVersion (ip : IpConfig) : String :=
  if Text.hasChar ':' ip.plain then "6" else "4"

/-- The address with its interface moved by so many positions. -/
def shifted (offset : Nat) (ip : IpConfig) : IpConfig :=
  { ip with interface := ip.interface.map (· + offset) }

/-- The address as a result of a version states it: before 1.0.0 with its version, which is inferred
where it is missing, and afterwards without it. -/
def forOutput (legacy : Bool) (ip : IpConfig) : IpConfig :=
  { ip with version := if legacy then some (ip.version.getD ip.inferredVersion) else none }

end IpConfig

namespace Route

/-- Reads a route of a document. -/
def ofDocument? (d : Json.Document) : Option Route := do
  let [dst, gw] ← d.record? [["dst"], ["gw"]] | none
  return {
    dst := ← Json.Document.required Json.Document.text? dst
    gw := ← Json.Document.withDefault none Json.Document.textOrNull? gw }

/-- The route as a record. -/
def toJson (r : Route) : Json :=
  .obj ([("dst", .str r.dst)] ++ optionalMember "gw" r.gw)

end Route

/-- The block that a plugin of version 0.2.0 prints for one family. -/
structure LegacyBlock where
  ip : String
  gateway : Option String
  routes : List Route

namespace LegacyBlock

/-- Reads a block of a document. -/
def ofDocument? (d : Json.Document) : Option LegacyBlock := do
  let [ip, gateway, routes] ← d.record? [["ip"], ["gateway"], ["routes"]] | none
  return {
    ip := ← Json.Document.required Json.Document.text? ip
    gateway := ← Json.Document.withDefault none Json.Document.textOrNull? gateway
    routes := ← Json.Document.withDefault [] (Json.Document.list? Route.ofDocument?) routes }

end LegacyBlock

namespace AddResult

/-- A result that sets up nothing. -/
def empty (cniVersion : String) : AddResult :=
  ⟨cniVersion, [], [], [], .empty⟩

/-- Reads a result of a document, without blocks of version 0.2.0. -/
def ofDocument? (d : Json.Document) : Option AddResult := do
  let [cniVersion, interfaces, ips, routes, dns] ← d.record?
    [["cniVersion"], ["interfaces"], ["ips"], ["routes"], ["dns"]] | none
  return {
    cniVersion := ← Json.Document.withDefault "" Json.Document.text? cniVersion
    interfaces := ← Json.Document.withDefault [] (Json.Document.list? Interface.ofDocument?) interfaces
    ips := ← Json.Document.withDefault [] (Json.Document.list? IpConfig.ofDocument?) ips
    routes := ← Json.Document.withDefault [] (Json.Document.list? Route.ofDocument?) routes
    dns := ← Json.Document.withDefault .empty Dns.ofDocument? dns }

/-- The member for a list of records that is not empty. -/
def recordsMember (key : String) (l : List Json) : List (String × Json) :=
  if l.isEmpty then [] else [(key, .arr l)]

/-- The result as a record. -/
def toJson (r : AddResult) : Json :=
  .obj ([("cniVersion", .str r.cniVersion)] ++
    recordsMember "interfaces" (r.interfaces.map Interface.toJson) ++
    recordsMember "ips" (r.ips.map IpConfig.toJson) ++
    recordsMember "routes" (r.routes.map Route.toJson) ++ r.dns.member)

/-- The result as a generic value. -/
def toValue (r : AddResult) : Json :=
  r.toJson.sorted

/-- Reads a result of a generic value, without blocks of version 0.2.0. -/
def ofValue (v : Json) : Except Failure AddResult :=
  match ofDocument? (.ofJson v) with
  | some r => .ok r
  | none => .error .undecodable

/-- The result with the address and the routes of a block of version 0.2.0. -/
def withBlock (version : String) (block : LegacyBlock) (r : AddResult) : AddResult :=
  { r with
    ips := r.ips ++ [⟨some version, block.ip, block.gateway, none⟩]
    routes := r.routes ++ block.routes }

/-- The block under a key, none if there is none; refused where it cannot be read. -/
def block? (key : String) (members : Object) : Option (Option LegacyBlock) :=
  match Table.get? key members with
  | none => some none
  | some v => (LegacyBlock.ofDocument? (.ofJson v)).map some

/-- The result that the members of a printed object hold. -/
def ofMembers? (members : Object) : Option AddResult := do
  let four ← block? "ip4" members
  let six ← block? "ip6" members
  let rest := Table.erase "ip6" (Table.erase "ip4" members)
  let r ← ofDocument? (.ofJson (.obj rest))
  let r := match four with
    | some block => r.withBlock "4" block
    | none => r
  return match six with
    | some block => r.withBlock "6" block
    | none => r

/-- Reads the result that a plugin printed. -/
def ofBytes (b : Bytes) : Except Failure AddResult :=
  match Json.read? b with
  | none => .error .undecodable
  | some (.obj members) =>
    match ofMembers? members with
    | some r => .ok r
    | none => .error .undecodable
  | some _ => .error (.invalidConfig .resultNotAnObject)

/-- Puts a further result behind the merged ones. -/
def append (merged r : AddResult) : AddResult :=
  { merged with
    interfaces := merged.interfaces ++ r.interfaces
    ips := merged.ips ++ r.ips.map (IpConfig.shifted merged.interfaces.length)
    routes := merged.routes ++ r.routes }

/-- The results of several attachments as one. The name service is that of the first. -/
def merge (cniVersion : String) (results : List AddResult) : AddResult :=
  let start := { empty cniVersion with dns := (results.head?.map (·.dns)).getD .empty }
  results.foldl append start

/-- Does the version want every address to state its own version? -/
def isLegacy (cniVersion : String) : Bool :=
  ['0', '.'].isPrefixOf cniVersion.toList

/-- The result as it is stated in a version. -/
def forVersion (cniVersion : String) (r : AddResult) : AddResult :=
  { r with cniVersion := cniVersion, ips := r.ips.map (IpConfig.forOutput (isLegacy cniVersion)) }

/-- The text that is printed for the result in a version. -/
def output (cniVersion : String) (r : AddResult) : String :=
  (r.forVersion cniVersion).toJson.compact

/-- The addresses without the length of their network part. -/
def addresses (r : AddResult) : List String :=
  r.ips.map IpConfig.plain

/-- The hardware address of the first interface with the name that has one. -/
def macFor (interface : String) (r : AddResult) : Option String :=
  (r.interfaces.find? fun i => i.name == interface && i.mac != "").map (·.mac)

end AddResult

end PodNet
