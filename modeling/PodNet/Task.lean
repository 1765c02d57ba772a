import PodNet.Cluster
import PodNet.Execution
import PodNet.FileSystem.Basic
import PodNet.Http.Message

/-!
# Tasks

A task runs on a node: it may fail, it may change the files of the node, and it leaves its dealings
with the outside in a journal, in the order in which they happened. What the outside answers is given
by functions: a cluster by its answers, and plugins by an executor, whose answer may depend on the
files and on everything that was executed before.
-/

namespace PodNet

/-- A dealing with the outside. -/
inductive Event where
  /-- The cluster was asked something. -/
  | queried (query : Query)
  /-- A plugin was executed and answered. -/
  | executed (execution : Execution) (answer : Except Failure Bytes)
  /-- Annotations were sent to a pod and the cluster answered. -/
  | patched (ns name : String) (annotations : Annotations) (answer : Except Failure Unit)
  /-- Another service was sent a request. -/
  | requested (request : Http.Request)
  deriving Repr

/-- The execution that an event is. -/
def Event.execution? : Event → Option Execution
  | executed e _ => some e
  | _ => none

/-- The executions of a journal. -/
def executionsOf (journal : List Event) : List Execution :=
  journal.filterMap Event.execution?

/-- A node: its files, and the journal of what happened so far. -/
structure Node where
  files : FileSystem
  journal : List Event
  deriving Repr

/-- How plugins answer, given the files and the executions before. -/
abbrev Executor := FileSystem → List Execution → Execution → Except Failure Bytes

/-- What runs on a node and may fail. What happened before a failure stays. -/
abbrev Task := ExceptT Failure (StateM Node)

namespace Task

/-- Notes an event. -/
def note (event : Event) : Task Unit :=
  modify fun node => { node with journal := node.journal ++ [event] }

/-- The outcome of a task, as a value. -/
def attempt {α : Type} (task : Task α) : Task (Except Failure α) :=
  ExceptT.mk fun node =>
    let (outcome, node) := task.run node
    (.ok outcome, node)

/-- An answer that is known. -/
def ofExcept {α : Type} (answer : Except Failure α) : Task α :=
  ExceptT.mk (pure answer)

/-- Asks the cluster something it has an answer to. -/
def query {α : Type} (q : Query) (answer : Except Failure α) : Task α := do
  note (.queried q)
  ofExcept answer

/-- Executes a plugin. -/
def execute (executor : Executor) (e : Execution) : Task Bytes := do
  let node ← get
  let answer := executor node.files (executionsOf node.journal) e
  note (.executed e answer)
  ofExcept answer

/-- Sends annotations to a pod. -/
def patch (cluster : Cluster) (ns name : String) (annotations : Annotations) : Task Unit := do
  let answer := cluster.patchPod ns name annotations
  note (.patched ns name annotations answer)
  ofExcept answer

/-- Looks at the files. -/
def look {α : Type} (f : FileSystem → Except Failure α) : Task α := do
  ofExcept (f (← get).files)

/-- Changes the files, also where that fails in the end. -/
def change (f : FileSystem → Except Failure Unit × FileSystem) : Task Unit := do
  let (outcome, files) := f (← get).files
  modify fun node => { node with files }
  ofExcept outcome

end Task

end PodNet
