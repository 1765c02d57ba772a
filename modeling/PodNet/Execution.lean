import PodNet.Attachment
import PodNet.Invocation

/-!
# Executions of plugins

A plugin is executed with a command for one interface of one sandbox. Its arguments are those of the
invocation, then who the pod is, then those of the attachment; of each key that this program sets the
first occurrence is overwritten. Its configuration is that of the list, with the name and the version
of the network, the result of the plugins before it, and the addresses that the attachment asks for
where the plugin declares to take them.
-/

namespace PodNet

/-- What all executions of one invocation share. -/
structure Sandbox where
  containerId : String
  netns : String
  /-- Namespace and name of the pod, when the invocation is for one. -/
  pod : Option (String × String)
  /-- The arguments of the invocation. -/
  args : List (String × String)
  deriving Repr, DecidableEq

/-- What a plugin is executed with, its configuration aside. -/
structure Parameters where
  containerId : String
  netns : String
  interface : String
  args : List (String × String)
  ips : List String
  mac : Option String
  deriving Repr, DecidableEq

/-- An execution of a plugin. -/
structure Execution where
  plugin : String
  command : Command
  parameters : Parameters
  stdin : Bytes
  deriving Repr, DecidableEq

/-- The arguments with a value for a key: instead of that of its first occurrence, or at the end. -/
def setArg (key value : String) : List (String × String) → List (String × String)
  | [] => [(key, value)]
  | pair :: rest =>
    if pair.1 = key then (key, value) :: rest else pair :: setArg key value rest

/-- Sets the arguments that say who the pod is; the container only if no argument says it already. -/
def setPodArgs (s : Sandbox) (args : List (String × String)) : List (String × String) :=
  match s.pod with
  | none => args
  | some (ns, name) =>
    let args := setArg "K8S_POD_NAME" name (setArg "K8S_POD_NAMESPACE" ns args)
    if args.any (·.1 == "K8S_POD_INFRA_CONTAINER_ID") then args
    else setArg "K8S_POD_INFRA_CONTAINER_ID" s.containerId args

namespace Parameters

/-- What the plugins of an attachment are executed with. -/
def forRequest (s : Sandbox) (r : AttachmentRequest) : Parameters :=
  let own := ("IgnoreUnknown", "1") :: s.args.filter (·.1 != "IgnoreUnknown")
  { containerId := s.containerId
    netns := s.netns
    interface := r.interface
    args := r.args.foldl (fun args e => setArg e.1 e.2 args) (setPodArgs s own)
    ips := r.ips
    mac := r.mac }

/-- The arguments as text. -/
def argText (p : Parameters) : String :=
  Text.join ";" (p.args.map fun a => a.1 ++ "=" ++ a.2)

/-- What a plugin with the capabilities is told about the wanted addresses. -/
def runtimeConfig (p : Parameters) (capabilities : List String) : Object :=
  (if capabilities.contains "ips" && !p.ips.isEmpty then [("ips", Json.strings p.ips)] else []) ++
    (if capabilities.contains "mac" then (p.mac.map fun m => ("mac", Json.str m)).toList else [])

/-- The configuration that a plugin of a list gets. -/
def stdinObject (p : Parameters) (l : ConfList) (plugin : Object) (previous : Option Json) :
    Object :=
  let conf := Table.insert "cniVersion" (.str l.version) (Table.insert "name" (.str l.name) plugin)
  let conf := match previous with
    | some result => Table.insert "prevResult" result conf
    | none => conf
  let runtime := p.runtimeConfig (ConfList.capabilitiesOf plugin)
  if runtime.isEmpty then conf else Table.insert "runtimeConfig" (.obj runtime) conf

end Parameters

/-- The execution of a plugin of a list. -/
def Execution.ofPlugin (command : Command) (p : Parameters) (l : ConfList) (previous : Option Json)
    (plugin : String × Object) : Execution where
  plugin := plugin.1
  command
  parameters := p
  stdin := Bytes.ofString (Json.compact (.obj (p.stdinObject l plugin.2 previous)))

end PodNet
