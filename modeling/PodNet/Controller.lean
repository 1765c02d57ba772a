import PodNet.Delegation
import PodNet.Intent
import PodNet.Resolution
import PodNet.Selector
import PodNet.Status

/-!
# The controller

Attaching goes from the invocation to the pod, from its annotations to requests, from requests to
configurations, runs the plugins, and tells the pod what it got. Nothing is run before everything is
resolved, and the pod is told only after everything is attached; that this fails does not matter.

Detaching goes the same way with fewer demands: a pod that is gone or whose annotations say nothing
legible has the default network, and what cannot be resolved is left out.
-/

namespace PodNet

/-- The pod that an invocation is for. -/
structure PodContext where
  ns : String
  name : String
  annotations : Annotations
  deriving Repr, DecidableEq

/-- What is to be attached, and the plugin that was chosen if it must be noted in the pod. -/
structure Plan where
  requests : List AttachmentRequest
  noted : Option String
  deriving Repr, DecidableEq

/-- What invocations are served with. -/
structure Controller where
  settings : Settings
  directory : Directory
  /-- The cluster, if there is access to it. -/
  cluster : Option Cluster
  executor : Executor
  selector : Selector
  /-- What built-in configurations are written on. -/
  disk : Disk := .sound

namespace Controller

/-- The resolver of the controller. -/
def resolver (c : Controller) : Resolver where
  cluster := c.cluster
  directory := c.directory
  defaultPlugin := c.settings.pluginOrDefault
  persistBuiltins := c.settings.persistBuiltins
  disk := c.disk

/-- What the executions of an invocation share. -/
def sandbox (i : Invocation) (pod : Option PodContext) : Sandbox where
  containerId := i.containerId
  netns := i.netns
  pod := pod.map fun p => (p.ns, p.name)
  args := argPairs i.args

/-- The cluster, which an invocation for a pod cannot do without. -/
def needCluster (c : Controller) : Task Cluster :=
  match c.cluster with
  | some cluster => return cluster
  | none => throw (.invalidEnvelope .noCluster)

/-- The pod that the invocation is for, if it is for one. -/
def lookupPod (c : Controller) (i : Invocation) : Task (Option PodContext) := do
  match (← Task.ofExcept i.podArgs).pod with
  | none => return none
  | some (ns, name) =>
    let cluster ← c.needCluster
    let pod ← Task.query (.pod ns name) (cluster.pod ns name)
    return some ⟨ns, name, pod.annotations.getD []⟩

/-- The one request of a pod that asks for nothing. -/
def defaultRequests (plugin : String) : List AttachmentRequest :=
  [.plain (.plugin plugin) InterfaceName.default]

/-! ### Attaching -/

/-- Has the selector choose a plugin. -/
def choosePlugin (c : Controller) : Task String := do
  let choice := c.selector.choose c.settings c.directory (← get).files
  choice.requests.forM fun request => Task.note (.requested request)
  Task.ofExcept choice.plugin

/-- What the annotations of the pod ask for. -/
def intentOf (c : Controller) (fs : FileSystem) : Option PodContext → Except Failure Intent
  | some pod => Intent.ofAnnotations c.directory fs pod.ns pod.annotations
  | none => .ok .default

/-- What is to be attached. -/
def planAdd (c : Controller) (pod : Option PodContext) : Task Plan := do
  match ← Task.look fun fs => c.intentOf fs pod with
  | .requests wanted => return ⟨wanted, none⟩
  | .default =>
    let plugin ← c.choosePlugin
    return ⟨defaultRequests plugin, if c.selector.isDynamic then some plugin else none⟩

/-- The annotations that tell the pod what it got. -/
def statusFor (pod : PodContext) (plan : Plan) (attachments : List Attachment)
    (results : List AddResult) : Annotations :=
  let annotations := Status.annotations pod.annotations attachments results
  match plan.noted with
  | some plugin => Table.insert cniKey plugin annotations
  | none => annotations

/-- Tells the pod what it got. -/
def writeStatus (c : Controller) (plan : Plan) (attachments : List Attachment)
    (results : List AddResult) : Option PodContext → Task Unit
  | none => return ()
  | some pod =>
    match c.cluster with
    | none => return ()
    | some cluster => do
      let _ ← Task.attempt
        (Task.patch cluster pod.ns pod.name (statusFor pod plan attachments results))

/-- Attaches what the pod asks for. -/
def add (c : Controller) (i : Invocation) : Task AddResult := do
  let pod ← c.lookupPod i
  let plan ← c.planAdd pod
  let attachments ← c.resolver.resolveAll plan.requests
  let results ← Delegation.addAll c.executor (sandbox i pod) attachments
  c.writeStatus plan attachments results pod
  return AddResult.merge c.settings.cniVersion results

/-! ### Detaching -/

/-- The pod that the invocation is for, if it is for one that still exists. -/
def lookupRemainingPod (c : Controller) (i : Invocation) : Task (Option PodContext) := do
  match ← Task.attempt (c.lookupPod i) with
  | .ok pod => return pod
  | .error (.podNotFound _ _) => return none
  | .error f => throw f

/-- What is to be detached. -/
def planDel (c : Controller) (fs : FileSystem) (pod : Option PodContext) :
    List AttachmentRequest :=
  match c.intentOf fs pod with
  | .ok (.requests wanted) => wanted
  | _ => defaultRequests c.settings.pluginOrDefault

/-- Detaches what the pod asked for. -/
def del (c : Controller) (i : Invocation) : Task Unit := do
  let pod ← c.lookupRemainingPod i
  let wanted := c.planDel (← get).files pod
  let attachments ← c.resolver.resolveSome wanted
  Delegation.delAll c.executor (sandbox i pod) attachments

/-! ### Checking -/

/-- Checks the invocation. -/
def check (i : Invocation) : Task Unit := do
  let _ ← Task.ofExcept i.podArgs

end Controller

end PodNet
