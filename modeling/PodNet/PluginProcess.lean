import PodNet.Directory
import PodNet.Task
import PodNet.Text.Utf8

/-!
# Processes of plugins

A plugin is a binary on the search path. It is run with the command and the parameters in its
environment and the configuration on its standard input. What it prints is its answer if it ends
well; otherwise it is its report, or if it printed none, a report is made of how it ended and what it
wrote to standard error. What a process does is up to the machine.
-/

namespace PodNet

/-- How a process ended. -/
inductive Ending where
  | exited (status : Nat)
  | killed (signal : Nat)
  deriving Repr, DecidableEq

/-- What a process left. -/
structure Outcome where
  stdout : Bytes
  stderr : Bytes
  ending : Ending
  deriving Repr, DecidableEq

/-- How a process is started. -/
structure Launch where
  path : String
  environment : List (String × String)
  stdin : Bytes
  deriving Repr, DecidableEq

/-- Is the program given by a path? A name without a slash is none: the machine looks for a program of
that name where it keeps programs. -/
def Launch.isPath (l : Launch) : Bool :=
  Text.hasChar '/' l.path

/-- What starts processes, given the executions before. -/
abbrev Machine := List Execution → Launch → Except IoFault Outcome

namespace Ending

/-- The names of signals, by number. -/
def signalNames : List (Nat × String) :=
  [(1, "SIGHUP"), (2, "SIGINT"), (3, "SIGQUIT"), (4, "SIGILL"), (5, "SIGTRAP"), (6, "SIGABRT"),
   (7, "SIGBUS"), (8, "SIGFPE"), (9, "SIGKILL"), (10, "SIGUSR1"), (11, "SIGSEGV"),
   (12, "SIGUSR2"), (13, "SIGPIPE"), (14, "SIGALRM"), (15, "SIGTERM"), (16, "SIGSTKFLT"),
   (17, "SIGCHLD"), (18, "SIGCONT"), (19, "SIGSTOP"), (20, "SIGTSTP"), (21, "SIGTTIN"),
   (22, "SIGTTOU"), (23, "SIGURG"), (24, "SIGXCPU"), (25, "SIGXFSZ"), (26, "SIGVTALRM"),
   (27, "SIGPROF"), (28, "SIGWINCH"), (29, "SIGIO"), (30, "SIGPWR"), (31, "SIGSYS")]

/-- How an ending is shown. -/
def text : Ending → String
  | exited status => "exit status: " ++ toString status
  | killed signal =>
    match signalNames.lookup signal with
    | some name => "signal: " ++ toString signal ++ " (" ++ name ++ ")"
    | none => "signal: " ++ toString signal

end Ending

namespace PluginProcess

/-- The environment that a plugin is run in. -/
def environment (d : Directory) (e : Execution) : List (String × String) :=
  [("CNI_COMMAND", e.command.word),
   ("CNI_CONTAINERID", e.parameters.containerId),
   ("CNI_NETNS", e.parameters.netns),
   ("CNI_IFNAME", e.parameters.interface),
   ("CNI_ARGS", e.parameters.argText),
   ("CNI_PATH", d.searchPath)]

/-- How the process of an execution is started. -/
def launch (d : Directory) (fs : FileSystem) (e : Execution) : Except Failure Launch :=
  match d.findBinary fs e.plugin with
  | none => .error (.binaryMissing e.plugin d.searchPath)
  | some path =>
    let l : Launch := ⟨path, environment d e, e.stdin⟩
    if l.environment.any fun v => Text.hasChar (Char.ofNat 0) v.2 then .error (.io .nulInArgument)
    else if l.isPath → fs.mayRun path then .ok l
    else .error (.io .permissionDenied)

/-- The report of a plugin that failed. -/
def report (plugin : String) (o : Outcome) : CniError :=
  (CniError.ofBytes? o.stdout).getD
    (.ofCode .delegateFailed (plugin ++ " exited with " ++ o.ending.text)
      (some (Text.trim (Bytes.lossy o.stderr))))

/-- The answer of an execution whose process left something. -/
def answer (e : Execution) (o : Outcome) : Except Failure Bytes :=
  if o.ending = .exited 0 then .ok o.stdout
  else .error (.delegateFailed e.plugin e.parameters.interface (report e.plugin o))

/-- Executes plugins by running their binaries. -/
def executor (d : Directory) (machine : Machine) : Executor := fun fs history e => do
  let l ← launch d fs e
  match machine history l with
  | .ok o => answer e o
  | .error f => .error (.io f)

end PluginProcess

end PodNet
