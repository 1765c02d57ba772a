import PodNet.Settings

/-!
# Configuration lists

A network is configured by a list of plugins, each an object of its own that is handed to the plugin
as it stands. A document may hold a list, or the configuration of a single plugin, which counts as a
list of one. A list must have plugins and every plugin a type. Only two things in a list are ever
rewritten, both in the first plugin: the subnet of its address management, and its master interface
where it has one.
-/

namespace PodNet

/-- A network configuration list. -/
structure ConfList where
  cniVersion : String
  name : String
  plugins : List Object
  /-- The other members of the document. -/
  extra : Object
  deriving Repr

namespace ConfList

/-- The list as a record, its further members after the known ones. -/
def toJson (l : ConfList) : Json :=
  .obj ([("cniVersion", .str l.cniVersion), ("name", .str l.name),
    ("plugins", .arr (l.plugins.map .obj))] ++ l.extra)

/-- The text of the list. -/
def text (l : ConfList) : String :=
  l.toJson.compact

/-- The bytes of the list. -/
def toBytes (l : ConfList) : Bytes :=
  Bytes.ofString l.text

instance : BEq ConfList := ⟨fun a b => a.toJson == b.toJson⟩

/-- The text under a key, empty if there is none. -/
def textAt (key : String) (o : Object) : String :=
  ((Table.get? key o).bind Json.str?).getD ""

/-- The type of a plugin, if it has one. -/
def typeOf (plugin : Object) : Option String :=
  (Table.get? "type" plugin).bind Json.str?

/-! ### What a list must have -/

/-- The position of the first plugin without a type, counted from the given number. -/
def firstUntyped (index : Nat) : List Object → Option Nat
  | [] => none
  | p :: rest =>
    if Text.trim ((typeOf p).getD "") = "" then some index else firstUntyped (index + 1) rest

/-- Refuses a list without plugins or with a plugin without a type. -/
def validated (l : ConfList) : Except Failure ConfList :=
  if l.plugins.isEmpty then .error (.invalidConfig (.noPlugins l.name))
  else
    match firstUntyped 0 l.plugins with
    | some index => .error (.invalidConfig (.noType l.name index))
    | none => .ok l

/-! ### Reading -/

/-- The names of the members that a list knows. -/
def knownKeys : List String := ["cniVersion", "name", "plugins"]

/-- The plugins of a document: an array of objects. They stand two levels below the list. -/
def plugins? (d : Json.Document) : Option (List Object) :=
  d.list? fun p => (p.toJson? (Json.Document.maxDepth - 2)).bind Json.members?

/-- The list that a document holds. It must be an object; members that are not known are kept. -/
def ofDocument? (d : Json.Document) : Option ConfList :=
  match d with
  | .obj members => do
    let [cniVersion, name, plugins] ← d.record? (knownKeys.map ([·])) | none
    let others := members.filter fun m => !(m.1.any knownKeys.contains)
    return {
      cniVersion := ← Json.Document.withDefault "" Json.Document.text? cniVersion
      name := ← Json.Document.withDefault "" Json.Document.text? name
      plugins := ← Json.Document.required plugins? plugins
      extra := Table.ofList (← Json.Document.membersToJson? (Json.Document.maxDepth - 1) others) }
  | _ => none

/-- Reads a document that holds a list. -/
def parse (b : Bytes) : Except Failure ConfList :=
  match (Json.Document.read? b).bind ofDocument? with
  | some l => l.validated
  | none => .error (.invalidConfig .badList)

/-- The list of a single plugin. -/
def ofConf (conf : Object) : Except Failure ConfList :=
  validated ⟨textAt "cniVersion" conf, textAt "name" conf, [conf], []⟩

/-- Reads a document that holds the configuration of a single plugin. -/
def parseConf (b : Bytes) : Except Failure ConfList :=
  match Json.read? b with
  | some (.obj conf) => ofConf conf
  | some _ => .error (.invalidConfig .notAnObject)
  | none => .error (.invalidConfig .badConf)

/-- The list that a generic value holds, in either form. -/
def ofJson (v : Json) : Except Failure ConfList :=
  match v with
  | .obj members =>
    if Table.has "plugins" members then
      match ofDocument? (Json.Document.ofJson v) with
      | some l => l.validated
      | none => .error (.invalidConfig .badList)
    else ofConf members
  | _ => .error (.invalidConfig .notAnObject)

/-- Reads a document that holds either form, and gives a name to a network without one. -/
def parseAny (b : Bytes) (fallback : String) : Except Failure ConfList :=
  match Json.read? b with
  | none => .error (.invalidConfig .badDocument)
  | some v => do
    let l ← ofJson v
    return if Text.nonBlank l.name = none then { l with name := fallback } else l

/-! ### Looking -/

/-- The version of the plugin interface that the network uses. -/
def version (l : ConfList) : String :=
  cniVersionOr l.cniVersion

/-- The types of the plugins, in order. -/
def pluginTypes (l : ConfList) : List String :=
  l.plugins.filterMap typeOf

/-- The type of the first plugin, which names the attachment. -/
def primaryType (l : ConfList) : String :=
  l.pluginTypes.head?.getD ""

/-- The capabilities that a plugin declares to have, in the order of their names. -/
def capabilitiesOf (plugin : Object) : List String :=
  match (Table.get? "capabilities" plugin).bind Json.members? with
  | some caps => caps.filterMap fun c => if c.2.bool? = some true then some c.1 else none
  | none => []

/-- The capabilities of the plugin at a position; a plugin that is not there has none. -/
def capabilities (l : ConfList) (index : Nat) : List String :=
  match l.plugins[index]? with
  | some p => capabilitiesOf p
  | none => []

/-! ### Rewriting -/

/-- The plugin with the subnet of its address management set, its other settings kept. -/
def withSubnet (subnet : String) (plugin : Object) : Object :=
  let ipam := ((Table.get? "ipam" plugin).bind Json.members?).getD []
  Table.insert "ipam" (.obj (Table.insert "subnet" (.str subnet) ipam)) plugin

/-- Sets the subnet of the first plugin's address management. -/
def setSubnet (l : ConfList) (subnet : String) : ConfList :=
  match l.plugins with
  | [] => l
  | p :: rest => { l with plugins := withSubnet subnet p :: rest }

/-- Does the first plugin have a master interface? -/
def hasMaster (l : ConfList) : Bool :=
  match l.plugins with
  | [] => false
  | p :: _ => Table.has "master" p

/-- Sets the master interface of the first plugin, where it has one. -/
def setMaster (l : ConfList) (nic : String) : ConfList :=
  if l.hasMaster then
    { l with plugins := l.plugins.modifyHead (Table.insert "master" (.str nic)) }
  else l

/-- A list without plugins has no master interface to set. -/
theorem setMaster_nil {l : ConfList} (h : l.plugins = []) (nic : String) : l.setMaster nic = l := by
  rw [setMaster, hasMaster, h, if_neg Bool.false_ne_true]

/-- Setting the master interface is a matter of the first plugin. -/
theorem setMaster_cons {l : ConfList} {p : Object} {rest : List Object} (h : l.plugins = p :: rest)
    (nic : String) :
    l.setMaster nic =
      if Table.has "master" p then { l with plugins := Table.insert "master" (.str nic) p :: rest }
      else l := by
  rw [setMaster, hasMaster, h, List.modifyHead_cons]

end ConfList

end PodNet
