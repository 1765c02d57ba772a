import PodNet.Cluster
import PodNet.Http.Message
import PodNet.Http.Uri
import PodNet.Json.Printer
import PodNet.Kubernetes.Object

/-!
# The cluster behind its API

Every lookup is one request to the API of the cluster, and so is the patch of a pod. A lookup fails
as the API says: what is absent is not found, what cannot be decoded is an invalid resource, and
everything else is a failure of the API.
-/

namespace PodNet.Kubernetes

/-! ### Requests -/

/-- The path of the resources of a kind in a namespace. -/
def collection (kind : ResourceKind) (ns : String) : String :=
  match kind with
  | .pod => "/api/v1/namespaces/" ++ ns ++ "/pods"
  | .logicalNetwork => "/apis/alpha.network.k8s.io/v1/namespaces/" ++ ns ++ "/logicalnetworks"
  | .physicalNetwork => "/apis/alpha.network.k8s.io/v1/namespaces/" ++ ns ++ "/physicalnetworks"
  | .netAttachDef =>
    "/apis/k8s.cni.cncf.io/v1/namespaces/" ++ ns ++ "/network-attachment-definitions"

/-- A request for a path, if it can stand in one. -/
def request? (method path : String) (contentType : Option String) (body : Bytes) :
    Option Http.Request :=
  (Http.Uri.target? (path ++ "?").toList).map fun target =>
    { method, endpoint := none, target := String.ofList target, contentType, body }

/-- The request for a resource, which must have a name. -/
def getRequest? (kind : ResourceKind) (ns name : String) : Option Http.Request :=
  if name = "" then none else request? "GET" (collection kind ns ++ "/" ++ name) none []

/-- The request for what is asked of the cluster. -/
def requestOf? : Query → Option Http.Request
  | .pod ns name => getRequest? .pod ns name
  | .logicalNetwork ns name => getRequest? .logicalNetwork ns name
  | .physicalNetwork ns name => getRequest? .physicalNetwork ns name
  | .netAttachDef ns name => getRequest? .netAttachDef ns name
  | .logicalNetworks ns => request? "GET" (collection .logicalNetwork ns) none []

/-- The request that merges annotations into those of a pod. -/
def patchRequest? (ns name : String) (annotations : Annotations) : Option Http.Request :=
  if name = "" then none
  else
    request? "PATCH" (collection .pod ns ++ "/" ++ name)
      (some "application/strategic-merge-patch+json")
      (Bytes.ofString (Json.compact
        (.obj [("metadata", .obj [("annotations", Json.ofTexts annotations)])])))

/-- A request as it goes to a service at a base: its path behind that of the base. -/
def through (base : Http.Uri) (r : Http.Request) : Http.Request :=
  let front := String.ofList (Text.dropEnd (· == '/') base.path.toList)
  { r with endpoint := base.endpoint?, target := front ++ r.target }

/-- What answers requests to the API, by the services that it is one of. -/
def throughService (base : Http.Uri) (service : Http.Service) : Http.Service := fun r =>
  service (through base r)

/-! ### Answers -/

/-- The code of an error that a service answers with: that of its report, or the status. -/
def refusal (status : Nat) (body : String) : ApiFault :=
  .refused (((Json.Document.read? (Bytes.ofString body)).bind errorCode?).getD status)

/-- The text that answers a request. -/
def answerText (service : Http.Service) (request : Option Http.Request) :
    Except ApiFault String :=
  match request with
  | none => .error .badRequest
  | some r =>
    match service r with
    | none => .error .unreachable
    | some answer =>
      match Bytes.toString? answer.body with
      | none => .error .notText
      | some text =>
        if answer.isError then .error (refusal answer.status text)
        else .ok text

/-- What answers a request, decoded. -/
def answer {α : Type} (service : Http.Service) (read : Json.Document → Option α)
    (request : Option Http.Request) : Except ApiFault α :=
  match answerText service request with
  | .error f => .error f
  | .ok text =>
    match (Json.Document.read? (Bytes.ofString text)).bind read with
    | some a => .ok a
    | none => .error .undecodable

/-- The failure of a lookup. -/
def lookupFailure (kind : ResourceKind) (ns name : String) : ApiFault → Failure
  | .refused code =>
    if code ≠ 404 then .cluster (.refused code)
    else
      match kind with
      | .pod => .podNotFound ns name
      | _ => .resourceNotFound kind ns name
  | .undecodable => .invalidResource kind ns name .undecodable
  | f => .cluster f

/-- Looks a resource up. -/
def lookup {α : Type} (service : Http.Service) (read : Json.Document → Option α)
    (kind : ResourceKind) (ns name : String) : Except Failure α :=
  (answer service read (getRequest? kind ns name)).mapError (lookupFailure kind ns name)

/-- The cluster that a service gives access to. -/
def cluster (service : Http.Service) : Cluster where
  pod := lookup service pod? .pod
  logicalNetwork := lookup service (resource? LogicalNetwork.ofSpec?) .logicalNetwork
  logicalNetworks ns :=
    (answer service (resourceList? LogicalNetwork.ofSpec?)
      (requestOf? (.logicalNetworks ns))).mapError .cluster
  physicalNetwork := lookup service (resource? PhysicalNetwork.ofSpec?) .physicalNetwork
  netAttachDef := lookup service (resource? NetAttachDef.ofSpec?) .netAttachDef
  patchPod ns name annotations :=
    match answer service pod? (patchRequest? ns name annotations) with
    | .ok _ => .ok ()
    | .error f => .error (.patchFailed (.refused ns name f))

end PodNet.Kubernetes
