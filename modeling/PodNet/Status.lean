import PodNet.AddResult
import PodNet.Annotation
import PodNet.Attachment

/-!
# The status of a pod

After all attachments are made the pod is told about them: in the standard status, one entry for each
in order, and in the older status that counts addresses, if the pod carries that one already.
-/

namespace PodNet.Status

/-- The entries of the standard status. The first attachment is the default one. -/
def entries (attachments : List Attachment) (results : List AddResult) : List NetworkStatus :=
  (attachments.zip results).mapIdx fun n (a, r) =>
    { name := a.statusName
      interface := a.request.interface
      ips := r.addresses
      mac := (r.macFor a.request.interface).getD ""
      default := n == 0
      dns := r.dns }

/-- The standard status as a list of records. -/
def entriesJson (attachments : List Attachment) (results : List AddResult) : Json :=
  .arr ((entries attachments results).map NetworkStatus.toJson)

/-- The older status with an address for each attachment, blank where there is none. What stands in
the pod is kept if it can be read. -/
def multiIp (existing : Option String) (attachments : List Attachment) (results : List AddResult) :
    MultiIp :=
  let start := (existing.bind fun s => MultiIp.ofBytes? (Bytes.ofString s)).getD .empty
  (attachments.zip results).foldl
    (fun m (a, r) => m.push (r.addresses.head?.getD "") a.request.interface) start

/-- The annotations that describe the attachments of a pod. -/
def annotations (podAnnotations : Annotations) (attachments : List Attachment)
    (results : List AddResult) : Annotations :=
  let status : Annotations := [(statusKey, (entriesJson attachments results).pretty)]
  match Table.get? multiIpKey podAnnotations with
  | some existing =>
    Table.insert multiIpKey (multiIp (some existing) attachments results).toJson.compact status
  | none => status

end PodNet.Status
