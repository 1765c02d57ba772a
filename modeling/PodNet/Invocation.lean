import PodNet.Failure

/-!
# Invocations

A container runtime invokes a plugin with a command, with the container and the interface in the
environment, and with a network configuration on standard input. `Invocation.ofEnvironment` decodes
the environment; what a command does not need may be missing. The extra arguments are `key=value`
pairs between semicolons. They are read in two ways: `argPairs` keeps all pairs in order, to hand
them on, and `PodArgs.parse` reads who the invocation is for and refuses keys that it does not know,
unless the caller asks to ignore these.
-/

namespace PodNet

/-- What a runtime asks for. -/
inductive Command where
  | add
  | del
  | check
  | version
  deriving Repr, DecidableEq

namespace Command

/-- The word for a command. -/
def word : Command → String
  | add => "ADD"
  | del => "DEL"
  | check => "CHECK"
  | version => "VERSION"

/-- The command that a word stands for. -/
def parse (word : String) : Except Failure Command :=
  match [add, del, check, version].find? (·.word == word) with
  | some c => .ok c
  | none => .error (.invalidEnvelope (.unknownCommand word))

end Command

/-- The decoded envelope of an invocation. -/
structure Invocation where
  command : Command
  containerId : String
  netns : String
  interface : String
  args : String
  /-- The directories to look for plugins in. -/
  path : List String
  stdin : Bytes
  deriving Repr

namespace Invocation

/-- Are the bytes empty but for ASCII blanks? -/
def isBlankInput (b : Bytes) : Bool :=
  b.all Text.isAsciiBlank

/-- Refuses what the command cannot do without: a container unless only the version is asked for, a
network namespace unless something is deleted or the version is asked for, and a configuration. -/
def checkPresent (command : Command) (containerId netns : String) (stdin : Bytes) :
    Except Failure Unit :=
  if command = .version then .ok ()
  else if containerId = "" then .error (.invalidEnvelope .containerUnset)
  else if command ≠ .del ∧ netns = "" then .error (.invalidEnvelope .netnsUnset)
  else if isBlankInput stdin then .error (.invalidEnvelope .configMissing)
  else .ok ()

/-- Decodes the envelope from the environment. -/
def ofEnvironment (lookup : String → Option String) (stdin : Bytes) : Except Failure Invocation := do
  let some word := lookup "CNI_COMMAND" | .error (.invalidEnvelope .commandUnset)
  let command ← Command.parse (Text.trim word)
  let var (key : String) : String := Text.trim ((lookup key).getD "")
  let interface := var "CNI_IFNAME"
  checkPresent command (var "CNI_CONTAINERID") (var "CNI_NETNS") stdin
  return {
    command
    containerId := var "CNI_CONTAINERID"
    netns := var "CNI_NETNS"
    interface := if interface = "" then "eth0" else interface
    args := var "CNI_ARGS"
    path := (Text.split ':' (var "CNI_PATH")).filter (· != "")
    stdin }

end Invocation

/-- The `key=value` pairs of an argument list, in order; what is no pair is dropped. -/
def argPairs (args : String) : List (String × String) :=
  (Text.split ';' args).filterMap fun piece => Text.cut '=' (Text.trim piece)

/-- Who an invocation is for. -/
structure PodArgs where
  podName : Option String
  podNamespace : Option String
  deriving Repr, DecidableEq

namespace PodArgs

/-- What has been read of an argument list. -/
structure Reading where
  pod : PodArgs
  ignoreUnknown : Bool
  unknown : List String
  deriving Repr, DecidableEq

/-- Nothing read yet. -/
def Reading.empty : Reading := ⟨⟨none, none⟩, false, []⟩

/-- The value of a pair, none if it is empty. -/
def value? (s : String) : Option String :=
  if s = "" then none else some s

/-- Does the value ask to ignore unknown keys: `1` or `true`, in letters of any case? -/
def isTrue (s : String) : Bool :=
  s == "1" || s.toList.map Char.toLower == ['t', 'r', 'u', 'e']

/-- Reads one pair. Of pairs with the same key the last counts. -/
def Reading.pair (r : Reading) (key value : String) : Reading :=
  if key = "K8S_POD_NAME" then { r with pod := { r.pod with podName := value? value } }
  else if key = "K8S_POD_NAMESPACE" then { r with pod := { r.pod with podNamespace := value? value } }
  else if key = "K8S_POD_INFRA_CONTAINER_ID" ∨ key = "K8S_POD_UID" then r
  else if key = "IgnoreUnknown" then { r with ignoreUnknown := isTrue value }
  else { r with unknown := r.unknown ++ [key] }

/-- Reads the pieces of an argument list. -/
def readAll (r : Reading) : List String → Except Failure Reading
  | [] => .ok r
  | piece :: rest =>
    match Text.cut '=' piece with
    | some (key, value) => readAll (r.pair key value) rest
    | none => .error (.invalidEnvelope (.badPair piece))

/-- Reads an argument list. -/
def parse (raw : String) : Except Failure PodArgs := do
  let pieces := ((Text.split ';' raw).map Text.trim).filter (· != "")
  let r ← readAll .empty pieces
  if !r.ignoreUnknown && !r.unknown.isEmpty then
    .error (.invalidEnvelope (.unknownKeys r.unknown))
  else .ok r.pod

/-- Namespace and name of the pod, when the invocation is for one. -/
def pod (a : PodArgs) : Option (String × String) :=
  a.podName.map fun name => (a.podNamespace.getD "default", name)

end PodArgs

namespace Invocation

/-- Who the invocation is for. -/
def podArgs (i : Invocation) : Except Failure PodArgs :=
  PodArgs.parse i.args

end Invocation

end PodNet
