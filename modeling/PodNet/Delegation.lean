import PodNet.AddResult
import PodNet.Task

/-!
# Delegation

Attaching runs the plugins of a list in order, each with the result of those before it; detaching
runs them in reverse. Several attachments are attached in order, all or none: when one fails, those
before it are detached again, newest first, and the failure is reported whatever the detaching gives.
Several attachments are detached one after the other, past all failures, and the first failure is
reported. A plugin that does not know the container any more counts as having detached it.
-/

namespace PodNet.Delegation

/-- The plugins of a list with their types. -/
def typed (l : ConfList) : List (String × Object) :=
  l.pluginTypes.zip l.plugins

/-- Runs plugins of a list in order, given the latest result before them as a generic value. A plugin
that prints nothing leaves that result as it is. -/
def addEach (executor : Executor) (l : ConfList) (p : Parameters) :
    Option Json → List (String × Object) → Task (Option Json)
  | previous, [] => return previous
  | previous, plugin :: rest => do
    let out ← Task.execute executor (.ofPlugin .add p l previous plugin)
    if Invocation.isBlankInput out then addEach executor l p previous rest
    else
      let r ← Task.ofExcept (AddResult.ofBytes out)
      addEach executor l p (some r.toValue) rest

/-- The result of a list, read from the latest one; an empty one if nothing was printed. -/
def finalResult (l : ConfList) : Option Json → Except Failure AddResult
  | some result => AddResult.ofValue result
  | none => .ok (.empty l.version)

/-- Attaches with a list. -/
def addList (executor : Executor) (l : ConfList) (p : Parameters) : Task AddResult := do
  let result ← addEach executor l p none (typed l)
  Task.ofExcept (finalResult l result)

/-- Runs plugins of a list in order to detach, up to the first failure. -/
def delEach (executor : Executor) (l : ConfList) (p : Parameters) :
    List (String × Object) → Task Unit
  | [] => return ()
  | plugin :: rest => do
    match ← Task.attempt (Task.execute executor (.ofPlugin .del p l none plugin)) with
    | .ok _ => delEach executor l p rest
    | .error f => if f.isUnknownContainer then delEach executor l p rest else throw f

/-- Detaches with a list, in reverse order. -/
def delList (executor : Executor) (l : ConfList) (p : Parameters) : Task Unit :=
  delEach executor l p (typed l).reverse

/-- Attaches an attachment. -/
def add (executor : Executor) (s : Sandbox) (a : Attachment) : Task AddResult :=
  addList executor a.conf (.forRequest s a.request)

/-- Detaches an attachment. -/
def del (executor : Executor) (s : Sandbox) (a : Attachment) : Task Unit :=
  delList executor a.conf (.forRequest s a.request)

/-- Detaches what was attached, in the given order, whatever comes of it. -/
def rollback (executor : Executor) (s : Sandbox) : List Attachment → Task Unit
  | [] => return ()
  | a :: rest => do
    let _ ← Task.attempt (del executor s a)
    rollback executor s rest

/-- Attaches attachments in order, after others that are given newest first. -/
def addAfter (executor : Executor) (s : Sandbox) (done : List Attachment) :
    List Attachment → Task (List AddResult)
  | [] => return []
  | a :: rest => do
    match ← Task.attempt (add executor s a) with
    | .ok r => return r :: (← addAfter executor s (a :: done) rest)
    | .error f =>
      rollback executor s done
      throw f

/-- Attaches all attachments or none. -/
def addAll (executor : Executor) (s : Sandbox) (attachments : List Attachment) :
    Task (List AddResult) :=
  addAfter executor s [] attachments

/-- Detaches attachments in order and gives the first failure. -/
def sweep (executor : Executor) (s : Sandbox) (first : Option Failure) :
    List Attachment → Task (Option Failure)
  | [] => return first
  | a :: rest => do
    match ← Task.attempt (del executor s a) with
    | .ok () => sweep executor s first rest
    | .error f => sweep executor s (first.or (some f)) rest

/-- Detaches all attachments. -/
def delAll (executor : Executor) (s : Sandbox) (attachments : List Attachment) : Task Unit := do
  match ← sweep executor s none attachments with
  | some f => throw f
  | none => return ()

end PodNet.Delegation
