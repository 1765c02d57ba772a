import PodNet.Controller
import PodNet.Kubernetes.Access
import PodNet.PluginProcess

/-!
# The command line

The program is run once for each invocation. The invocation comes in the environment, the settings on
standard input; what is printed is the result of attaching, or nothing, or a report of an error. Only
an invocation that names a pod needs access to the cluster. Plugins are looked for in the directories
that the invocation names, and then in that of the settings.

`CommandLine.run` is the whole program as a function: from the surroundings, standard input and the
files to the answer, and to what the run left on the node.
-/

namespace PodNet

/-- What the program runs in. -/
structure Surroundings where
  /-- The value of an environment variable. -/
  environment : String → Option String
  machine : Machine
  service : Http.Service
  /-- What files are written on. -/
  disk : Disk := .sound
  /-- What clients of the cluster are made with. -/
  library : Kubernetes.Library := .files

namespace CommandLine

/-- Why there is no answer. -/
inductive Fault where
  | failed (failure : Failure)
  /-- The cluster is needed, and there is no way to reach it. -/
  | noAccess (fault : Kubernetes.ClientFault)
  deriving Repr, DecidableEq

/-- How a fault is reported. -/
def Fault.report : Fault → CniError
  | failed failure => failure.report
  | noAccess fault => .ofCode .tryAgainLater "genie initialization failed" (some fault.details)

/-- Does the program end at once, without a report? -/
def Fault.aborts : Fault → Bool
  | failed _ => false
  | noAccess fault => fault.aborts

/-- What the program prints, and the status it ends with. -/
structure Answer where
  status : Nat
  stdout : String
  deriving Repr, DecidableEq

/-- Does the program succeed? -/
def Answer.succeeded (a : Answer) : Bool :=
  a.status == 0

/-! ### Versions -/

/-- The versions of the plugin interface that the program supports. -/
def supportedVersions : List String := ["0.3.0", "0.3.1", "0.4.0", "1.0.0"]

/-- What is printed when the version is asked for. -/
def versionText (cniVersion : String) : String :=
  Json.compact (.obj [("cniVersion", .str cniVersion),
    ("supportedVersions", Json.strings supportedVersions)])

/-! ### Access -/

/-- The search path: what the invocation names, and the directory of the settings unless it is
among that. -/
def searchPath (i : Invocation) (s : Settings) : List String :=
  if i.path.any (Path.same s.binaries) then i.path else i.path ++ [s.binaries]

/-- The client of the cluster, if the invocation is for a pod. -/
def access (w : Surroundings) (files : FileSystem) (i : Invocation) (s : Settings) :
    Except Fault (Option Kubernetes.Client) := do
  let args ← i.podArgs.mapError .failed
  if args.pod.isNone then return none
  return some (← (Kubernetes.Client.ofSettings w.library s w.environment files).mapError .noAccess)

/-- What serves the invocation. -/
def controller (w : Surroundings) (i : Invocation) (s : Settings)
    (client : Option Kubernetes.Client) : Controller :=
  let directory : Directory := ⟨s.networks, searchPath i s⟩
  { settings := s
    directory
    cluster := client.map fun c => Kubernetes.cluster (c.service w.service)
    executor := PluginProcess.executor directory w.machine
    selector := Selector.ofSettings w.service s
    disk := w.disk }

/-! ### Runs -/

/-- Serves the invocation and gives what is printed. -/
def serve (c : Controller) (i : Invocation) : Task String := do
  match i.command with
  | .add => return (← c.add i).output c.settings.cniVersion
  | .del => c.del i; return ""
  | .check => Controller.check i; return ""
  | .version => return versionText c.settings.cniVersion

/-- Serves an invocation with settings. -/
def runWith (w : Surroundings) (files : FileSystem) (i : Invocation) (s : Settings) :
    Except Fault String × Node :=
  match access w files i s with
  | .error fault => (.error fault, ⟨files, []⟩)
  | .ok client =>
    let (outcome, node) := (serve (controller w i s client) i).run ⟨files, []⟩
    (outcome.mapError .failed, node)

/-- The greatest length of a configuration on standard input, in bytes. -/
def maxConfigLength : Nat := 1048576

/-- The invocation with the settings that come with it; none where the version is asked for and
nothing stands on standard input. -/
def decode (w : Surroundings) (stdin : Bytes) :
    Except Failure (Invocation × Option Settings) := do
  if maxConfigLength < stdin.length then .error (.invalidEnvelope (.configTooLong maxConfigLength))
  let i ← Invocation.ofEnvironment w.environment stdin
  if i.command = .version ∧ Invocation.isBlankInput stdin then return (i, none)
  return (i, some (← Settings.parse stdin))

/-- The answer that tells the outcome, in a version of the plugin interface. -/
def answer (cniVersion : String) : Except Fault String → Answer
  | .ok text => ⟨0, text⟩
  | .error fault =>
    if fault.aborts then ⟨101, ""⟩
    else ⟨1, (fault.report.printed cniVersion).compact ++ "\n"⟩

/-- The whole program. -/
def run (w : Surroundings) (stdin : Bytes) (files : FileSystem) : Answer × Node :=
  match decode w stdin with
  | .error failure => (answer defaultCniVersion (.error (.failed failure)), ⟨files, []⟩)
  | .ok (_, none) => (answer defaultCniVersion (.ok (versionText defaultCniVersion)), ⟨files, []⟩)
  | .ok (i, some s) =>
    let (outcome, node) := runWith w files i s
    (answer s.cniVersion outcome, node)

/-- The requests that an invocation with settings has made, given the files before it and its
journal. -/
def requests (w : Surroundings) (files : FileSystem) (i : Invocation) (s : Settings)
    (journal : List Event) : List Http.Request :=
  let client := (access w files i s).toOption.join
  journal.flatMap fun event =>
    match event with
    | .requested r => [r]
    | event => client.toList.flatMap fun c => c.requests event

end CommandLine

end PodNet
