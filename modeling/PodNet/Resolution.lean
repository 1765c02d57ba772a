import PodNet.Builtin
import PodNet.Carving
import PodNet.Directory
import PodNet.Task

/-!
# Resolution

A request is resolved to the configuration list that serves it. A plugin is served by the first
configuration file with its name in the file name, else by its built-in configuration, which may be
written to the directory on that occasion. The default network of the cluster is the first one in the
directory. A definition of a further attachment carries its configuration or names a network of the
directory. A logical network is served by a plugin, with its subnet and network card set.
-/

namespace PodNet

/-- What requests are resolved with. -/
structure Resolver where
  /-- The cluster, if there is access to it. -/
  cluster : Option Cluster
  directory : Directory
  /-- The plugin that stands in for a default network. -/
  defaultPlugin : String
  /-- Are built-in configurations written to the directory? -/
  persistBuiltins : Bool
  /-- What they are written on. -/
  disk : Disk := .sound

namespace Resolver

/-- The cluster, which requests for its networks cannot do without. -/
def needCluster (r : Resolver) : Task Cluster :=
  match r.cluster with
  | some c => return c
  | none => throw (.invalidEnvelope .noClusterForNetwork)

/-- The built-in configuration of a plugin whose binary exists. -/
def builtinConf (d : Directory) (fs : FileSystem) (plugin : String) : Except Failure Object :=
  match Builtin.conf? plugin with
  | none => .error (.unknownPlugin plugin)
  | some conf =>
    if (d.findBinary fs plugin).isSome then .ok conf
    else .error (.binaryMissing plugin d.searchPath)

/-- The list that serves a plugin. -/
def pluginList (r : Resolver) (plugin : String) : Task ConfList := do
  match ← Task.look fun fs => r.directory.findConf fs plugin with
  | some path => Task.look fun fs => Directory.load fs path
  | none =>
    let conf ← Task.look fun fs => builtinConf r.directory fs plugin
    if r.persistBuiltins then
      Task.change fun fs => r.directory.write fs (Builtin.fileName plugin) r.disk (.obj conf)
    Task.ofExcept (ConfList.ofConf conf)

/-- The list that a definition of a further attachment stands for. -/
def netAttachDefList (r : Resolver) (ns name : String) : Task ConfList := do
  let cluster ← r.needCluster
  let definition ← Task.query (.netAttachDef ns name) (cluster.netAttachDef ns name)
  match definition.inlineConfig with
  | some conf => Task.ofExcept (ConfList.parseAny (Bytes.ofString conf) name)
  | none =>
    match ← Task.look fun fs => r.directory.networkNamed fs name with
    | some l => return l
    | none => throw (.invalidConfig (.nowhereDefined ns name r.directory.networks))

/-- What serves a logical network that is carved from a physical one. -/
def carve (cluster : Cluster) (ns name physicalName : String) (logical : LogicalNetwork) :
    Task Carving := do
  if physicalName = name then
    throw (.invalidResource .logicalNetwork ns name .ownPhysicalNetwork)
  let physical ← Task.query (.physicalNetwork ns physicalName)
    (cluster.physicalNetwork ns physicalName)
  let carving ← Task.ofExcept (Carving.ofPhysical ns name physicalName logical physical)
  if let some own := logical.subnet then
    let ownNet ← Task.ofExcept (Carving.subnetOf .logicalNetwork ns name own)
    let siblings ← Task.query (.logicalNetworks ns) (cluster.logicalNetworks ns)
    Task.ofExcept (Carving.checkSiblings ns name physicalName own ownNet siblings)
  return carving

/-- What serves a logical network. -/
def logicalCarving (r : Resolver) (ns name : String) : Task Carving := do
  let cluster ← r.needCluster
  let logical ← Task.query (.logicalNetwork ns name) (cluster.logicalNetwork ns name)
  match logical.physicalName with
  | some physicalName => carve cluster ns name physicalName logical
  | none => return ⟨logical.pluginName, logical.subnet, none⟩

/-- The attachment with the plugin filled in where the request leaves it open. -/
def attachment (request : AttachmentRequest) (conf : ConfList) (subnet : Option String) :
    Attachment where
  request := if request.plugin = "" then { request with plugin := conf.primaryType } else request
  conf
  subnet

/-- Resolves a request for a logical network. -/
def resolveLogical (r : Resolver) (request : AttachmentRequest) (ns name : String) :
    Task Attachment := do
  let carving ← r.logicalCarving ns name
  let plugin ← Task.ofExcept (carving.complete ns name)
  let l ← r.pluginList plugin
  return attachment { request with plugin } (carving.configure l) carving.subnet

/-- Resolves a request for the default network of the cluster. -/
def resolveDefault (r : Resolver) (request : AttachmentRequest) : Task Attachment := do
  match ← Task.look fun fs => r.directory.defaultNetwork fs with
  | some l => return attachment request l none
  | none =>
    let l ← r.pluginList r.defaultPlugin
    return attachment { request with plugin := r.defaultPlugin } l none

/-- Resolves a request. -/
def resolve (r : Resolver) (request : AttachmentRequest) : Task Attachment := do
  match request.source with
  | .plugin name => return attachment request (← r.pluginList name) none
  | .clusterDefault => r.resolveDefault request
  | .netAttachDef ns name => return attachment request (← r.netAttachDefList ns name) none
  | .logicalNetwork ns name => r.resolveLogical request ns name

/-- Resolves requests in order, all of them. -/
def resolveAll (r : Resolver) : List AttachmentRequest → Task (List Attachment)
  | [] => return []
  | request :: rest => do
    let a ← r.resolve request
    return a :: (← resolveAll r rest)

/-- Resolves requests in order, leaving out those that cannot be resolved. -/
def resolveSome (r : Resolver) : List AttachmentRequest → Task (List Attachment)
  | [] => return []
  | request :: rest => do
    match ← Task.attempt (r.resolve request) with
    | .ok a => return a :: (← resolveSome r rest)
    | .error _ => resolveSome r rest

end Resolver

end PodNet
