import PodNet.ConfList
import PodNet.InterfaceName

/-!
# Attachments

A pod asks for attachments: each a network, named in one of four ways, and perhaps a name for the
interface, addresses, and arguments for the plugins. A request becomes an attachment when it is known
which configuration list serves it.
-/

namespace PodNet

/-- Where the configuration of an attachment comes from. -/
inductive Source where
  /-- A plugin, named directly. -/
  | plugin (name : String)
  | logicalNetwork (ns name : String)
  | netAttachDef (ns name : String)
  /-- The default network of the cluster. -/
  | clusterDefault
  deriving Repr, DecidableEq

/-- How a source is shown. -/
def Source.text : Source → String
  | plugin name => "plugin " ++ name
  | logicalNetwork ns name => "logical network " ++ ns ++ "/" ++ name
  | netAttachDef ns name => "net-attach-def " ++ ns ++ "/" ++ name
  | clusterDefault => "cluster default network"

/-- One attachment that a pod asks for. -/
structure AttachmentRequest where
  source : Source
  /-- The plugin, empty as long as it is not known. -/
  plugin : String
  /-- The interface in the pod, empty if any will do. -/
  interface : String
  ips : List String
  mac : Option String
  /-- Further arguments for the plugins. -/
  args : Table String
  deriving Repr, DecidableEq

namespace AttachmentRequest

/-- A request for what a source names, on an interface, and nothing more. -/
def plain (source : Source) (interface : String) : AttachmentRequest where
  source
  plugin := match source with
    | .plugin name => name
    | _ => ""
  interface
  ips := []
  mac := none
  args := []

/-- The requests with their interfaces assigned. -/
def assign (requests : List AttachmentRequest) : Except Failure (List AttachmentRequest) :=
  (InterfaceName.assign (requests.map (·.interface))).map fun names =>
    requests.zipWith (fun r name => { r with interface := name }) names

/-- Assigns the interfaces of requests in place: the outcome, and the requests afterwards. All names
are checked before the first of the requests is changed. -/
def assignInPlace (requests : List AttachmentRequest) :
    Except Failure Unit × List AttachmentRequest :=
  match assign requests with
  | .ok assigned => (.ok (), assigned)
  | .error f => (.error f, requests)

end AttachmentRequest

/-- A request with the configuration list that serves it. -/
structure Attachment where
  request : AttachmentRequest
  conf : ConfList
  /-- The subnet that was set in the configuration. -/
  subnet : Option String
  deriving Repr

/-- The name of the attachment in the status of the pod. -/
def Attachment.statusName (a : Attachment) : String :=
  match a.request.source with
  | .plugin name => name
  | .logicalNetwork _ name => name
  | .netAttachDef ns name => ns ++ "/" ++ name
  | .clusterDefault => a.conf.name

end PodNet
