import PodNet.Annotation
import PodNet.Attachment
import PodNet.Builtin
import PodNet.Directory
import PodNet.HardwareAddress
import PodNet.Subnet

/-!
# What a pod asks for

Three annotations say which networks a pod wants, and the first of them that is not blank decides:

1. the standard selection, either a JSON array or tokens `[namespace/]name[@interface]`. The default
   network of the cluster comes in addition, on `eth0`;
2. `cni`, tokens `plugin`, `plugin@interface` or `network:interface`;
3. `networks`, tokens `network` or `network:interface`.

Tokens are separated by commas. A pod without any of them gets a default.
-/

namespace PodNet

/-- What the annotations of a pod ask for. -/
inductive Intent where
  | requests (requests : List AttachmentRequest)
  /-- No annotation says anything. -/
  | default
  deriving Repr, DecidableEq

namespace Intent

/-- The value of an annotation, unless it is blank. -/
def value? (key : String) (annotations : Annotations) : Option String :=
  (Table.get? key annotations).bind Text.nonBlank

/-! ### The standard selection -/

/-- The element that a token `[namespace/]name[@interface]` stands for. -/
def selectionToken (token : String) : Except Failure SelectionElement :=
  let malformed := .error (.invalidAnnotations (.badSelectionEntry token))
  let (reference, interface) := (Text.cut '@' token).getD (token, "")
  if Text.hasChar '@' token && interface = "" then malformed
  else
    let (ns, name) := (Text.cut '/' reference).getD ("", reference)
    if Text.hasChar '/' reference && ns = "" then malformed
    else if name = "" then malformed
    else .ok { name, ns, ips := [], mac := "", interface }

/-- The elements of a selection, in either form. -/
def selectionElements (value : String) : Except Failure (List SelectionElement) :=
  if value.toList.head? = some '[' then
    match SelectionElement.listOfBytes? (Bytes.ofString value) with
    | some elements => .ok elements
    | none => .error (.invalidAnnotations .badSelection)
  else (Text.split ',' value).mapM fun token => selectionToken (Text.trim token)

/-- The arguments that hand the wanted addresses on to the plugins. -/
def addressArgs (ips : List String) (mac : Option String) : Table String :=
  let ipArgs := if ips.isEmpty then [] else [("ips", Text.join "," ips)]
  ipArgs ++ (mac.map fun m => ("mac", m)).toList

/-- The request of an element of a selection made in a namespace. -/
def selectionRequest (podNamespace : String) (e : SelectionElement) :
    Except Failure AttachmentRequest := do
  let name := Text.trim e.name
  if name = "" then .error (.invalidAnnotations .emptyNetworkName)
  if let some ip := e.ips.find? fun ip => (Subnet.parse? ip).isNone then
    .error (.invalidAnnotations (.badIp name ip))
  let mac := Text.nonBlank e.mac
  if let some m := mac.filter fun m => !HardwareAddress.isValid m then
    .error (.invalidAnnotations (.badMac name m))
  let ips := e.ips.map Text.trim
  let source := Source.netAttachDef ((Text.nonBlank e.ns).getD podNamespace) name
  return { AttachmentRequest.plain source (Text.trim e.interface) with
    ips, mac, args := addressArgs ips mac }

/-- The requests of a selection: the default network first, then one for each element. -/
def ofSelection (podNamespace value : String) : Except Failure (List AttachmentRequest) := do
  let wanted ← (← selectionElements value).mapM (selectionRequest podNamespace)
  return .plain .clusterDefault InterfaceName.default :: wanted

/-! ### Plugins and logical networks -/

/-- The request for a logical network, on an interface if one is named. -/
def logicalRequest (podNamespace network : String) (interface : Option String) :
    Except Failure AttachmentRequest :=
  let network := Text.trim network
  let interface := interface.map Text.trim
  if network = "" ∨ interface = some "" then .error (.invalidAnnotations (.badReference network))
  else .ok (.plain (.logicalNetwork podNamespace network) (interface.getD ""))

/-- Is there a configuration file, a built-in configuration or a binary for the plugin? -/
def isKnown (d : Directory) (fs : FileSystem) (plugin : String) : Except Failure Bool :=
  (d.findConf fs plugin).map fun conf =>
    conf.isSome || Builtin.isBuiltin plugin || (d.findBinary fs plugin).isSome

/-- The request for a plugin, on an interface if one is named. -/
def pluginRequest (d : Directory) (fs : FileSystem) (token : String) :
    Except Failure AttachmentRequest := do
  let (plugin, interface) := match Text.cut '@' token with
    | some (plugin, interface) => (Text.trim plugin, some (Text.trim interface))
    | none => (token, none)
  if plugin = "" ∨ interface = some "" then .error (.invalidAnnotations (.badEntry token))
  if !(← isKnown d fs plugin) then .error (.unknownPlugin plugin)
  return .plain (.plugin plugin) (interface.getD "")

/-- The request of a token of the annotation `cni` with a value. -/
def cniRequest (d : Directory) (fs : FileSystem) (podNamespace value token : String) :
    Except Failure AttachmentRequest :=
  if token = "" then .error (.invalidAnnotations (.emptyEntry value))
  else if Text.hasChar ':' token && Text.hasChar '@' token then
    .error (.invalidAnnotations (.mixedSeparators token))
  else
    match Text.cut ':' token with
    | some (network, interface) => logicalRequest podNamespace network (some interface)
    | none => pluginRequest d fs token

/-- The requests of the annotation `cni`. -/
def ofCni (d : Directory) (fs : FileSystem) (podNamespace value : String) :
    Except Failure (List AttachmentRequest) :=
  (Text.split ',' value).mapM fun token => cniRequest d fs podNamespace value (Text.trim token)

/-- The request of a token of the annotation `networks`. -/
def networkRequest (podNamespace token : String) : Except Failure AttachmentRequest :=
  match Text.cut ':' token with
  | some (network, interface) => logicalRequest podNamespace network (some interface)
  | none => logicalRequest podNamespace token none

/-- The requests of the annotation `networks`. -/
def ofNetworks (podNamespace value : String) : Except Failure (List AttachmentRequest) :=
  (Text.split ',' value).mapM fun token => networkRequest podNamespace (Text.trim token)

/-! ### All annotations -/

/-- The requests that the annotations state, before interfaces are assigned. -/
def stated (d : Directory) (fs : FileSystem) (podNamespace : String) (annotations : Annotations) :
    Except Failure (Option (List AttachmentRequest)) :=
  if let some value := value? selectionKey annotations then
    (ofSelection podNamespace value).map some
  else if let some value := value? cniKey annotations then
    (ofCni d fs podNamespace value).map some
  else if let some value := value? networksKey annotations then
    (ofNetworks podNamespace value).map some
  else .ok none

/-- What the annotations of a pod in a namespace ask for. -/
def ofAnnotations (d : Directory) (fs : FileSystem) (podNamespace : String)
    (annotations : Annotations) : Except Failure Intent := do
  match ← stated d fs podNamespace annotations with
  | some wanted => return .requests (← AttachmentRequest.assign wanted)
  | none => return .default

end Intent

end PodNet
