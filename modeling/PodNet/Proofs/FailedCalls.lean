import PodNet.Proofs.Footprint
import PodNet.Proofs.PodWrites

/-!
# What arrives of a failed call

When calls fail, one failure is the outcome of the invocation, and which one depends on the command.
Attaching stops at its first failure, and taking back what was attached before does not replace it
(`Controller.add_fails`). Detaching goes on, and the first failure that counts arrives
(`Controller.del_fails`). Every call is answered by the executor, on the files that are there in the
end and after the calls before it (`Node.AnsweredBy`), so a failure can be traced to the execution that
it comes from.
-/

namespace PodNet

/-! ### Calls on a node -/

/-- The calls that were made on the node. -/
def Node.calls (node : Node) : List Call :=
  node.journal.filterMap Event.call?

theorem Node.calls_after (node : Node) (calls : List Call) :
    (node.after calls).calls = node.calls ++ calls := by
  simp [Node.calls, Node.after, List.filterMap_map, Function.comp_def]

theorem executionsOf_journal (node : Node) :
    executionsOf node.journal = node.calls.map Call.execution := by
  rw [executionsOf, Node.calls, List.map_filterMap]
  refine List.filterMap_congr fun event _ => ?_
  cases event <;> rfl

/-- Where nothing has happened yet, the calls of a run are those on the node that is left. -/
theorem Task.calls_of_fresh {α : Type} {task : Task α} {node : Node} (fresh : node.journal = []) :
    task.calls node = (task.runOn node).2.calls := by
  rw [calls, events, fresh]
  rfl

/-- **The executor answered every call on the node**, on the files of the node and after the calls
before it. -/
def Node.AnsweredBy (executor : Executor) (node : Node) : Prop :=
  ∀ before call after, node.calls = before ++ call :: after →
    call.answer = executor node.files (before.map Call.execution) call.execution

/-- Calls that are all there are on a node were answered. -/
theorem Called.answeredBy {executor : Executor} {start last : Node}
    (h : Called executor start last.calls last) : last.AnsweredBy executor := by
  intro before call after hcalls
  have hsplit := congrArg Node.calls h.eq_after
  rw [Node.calls_after, List.self_eq_append_left] at hsplit
  have hfiles := h.files_eq
  rw [hcalls] at h
  rw [h.answer_eq, executionsOf_journal, hsplit, List.map_nil, List.nil_append, hfiles]

theorem Node.AnsweredBy.of_calls_eq_nil {executor : Executor} {node : Node} (h : node.calls = []) :
    node.AnsweredBy executor := by
  intro before call after hcalls
  rw [h] at hcalls
  cases List.append_ne_nil_of_right_ne_nil before (List.cons_ne_nil call after) hcalls.symm

/-! ### What arrives of a failure -/

namespace Delegation

variable {s : Sandbox} {attachments : List Attachment} {calls : List Call}

/-- **The failure of a call that attaches is the outcome**, whatever is detached afterwards. -/
theorem AddOutcome.eq_error_of_mem {outcome : Except Failure (List AddResult)} {call : Call}
    {f : Failure} (h : AddOutcome s [] attachments calls outcome) (hcall : call ∈ calls)
    (hadd : call.execution.command = .add) (hanswer : call.answer = .error f) :
    outcome = .error f := by
  have hfails : call.addFailure? = some f := by
    rw [Call.addFailure?, hanswer]
  cases outcome with
  | ok results => cases (h.forall_passed call hcall).symm.trans hfails
  | error g =>
    obtain ⟨made, failing, later, attached, failed, undone, -, rfl, hattached, hfailed, hundone⟩ :=
      h.exists_of_error
    rw [List.mem_append, List.mem_append] at hcall
    rcases hcall with (hcall | hcall) | hcall
    · cases (hattached.forall_passed call hcall).symm.trans hfails
    · rw [hfailed.eq_of_mem hcall hfails]
    · rw [hundone.command_eq call hcall] at hadd
      cases hadd

/-- When the first plugin of all fails, nothing else is called. -/
theorem addAll_of_first_fails {executor : Executor} {a : Attachment} {rest : List Attachment}
    {plugin : String × Object} {more : List (String × Object)} (hfirst : typed a.conf = plugin :: more)
    {node : Node} {f : Failure}
    (hanswer : (executor.call node
      (.ofPlugin .add (.forRequest s a.request) a.conf none plugin)).answer = .error f) :
    (addAll executor s (a :: rest)).runOn node = (.error f, node.after
      [executor.call node (.ofPlugin .add (.forRequest s a.request) a.conf none plugin)]) := by
  have hexecute := Task.runOn_execute executor
    (.ofPlugin .add (.forRequest s a.request) a.conf none plugin) node
  rw [hanswer] at hexecute
  have hadd : (add executor s a).runOn node = (.error f, node.after
      [executor.call node (.ofPlugin .add (.forRequest s a.request) a.conf none plugin)]) := by
    rw [add, addList, hfirst, addEach]
    exact Task.runOn_bind_error (Task.runOn_bind_error hexecute _) _
  rw [addAll, addAfter, Task.runOn_bind, Task.runOn_attempt, hadd]
  rfl

end Delegation

namespace Controller

variable (c : Controller) (i : Invocation)

/-- **Attaching fails with what its failed call answers.** -/
theorem add_fails {node : Node} {call : Call} {f : Failure} (hcall : call ∈ (c.add i).calls node)
    (hadd : call.execution.command = .add) (hanswer : call.answer = .error f) :
    ((c.add i).runOn node).1 = .error f := by
  obtain ⟨houtcome, -⟩ := c.attach_called i node
  rw [(c.add_events i node).1] at hcall
  have hfailed : ((c.attach i).runOn node).1 = .error f := by
    generalize (c.attach i).calls node = calls at houtcome hcall
    generalize ((c.attach i).runOn node).1 = outcome at houtcome
    cases houtcome with
    | hindered _ => cases hcall
    | called _ _ hadded =>
      rw [hadded.eq_error_of_mem hcall hadd hanswer]
      rfl
  rw [c.add_runOn, hfailed]
  rfl

/-- The executor answers what attaching calls. -/
theorem add_answeredBy {node : Node} (fresh : node.journal = []) :
    ((c.add i).runOn node).2.AnsweredBy c.executor := by
  obtain ⟨-, ⟨start, hcalled⟩, -⟩ := c.attach_called i node
  have hcalls := (c.add_events i node).1
  rw [Task.calls_of_fresh fresh, Task.calls_of_fresh fresh] at hcalls
  rw [Task.calls_of_fresh fresh] at hcalled
  intro before call after hsplit
  rw [hcalled.answeredBy before call after (hcalls.symm.trans hsplit), c.add_runOn]

/-- Detaching makes no calls, or it sweeps, and the executor answers. -/
theorem del_called (node : Node) :
    (c.del i).calls node = [] ∨
      (∃ start, Called c.executor start ((c.del i).calls node) ((c.del i).runOn node).2) ∧
        Delegation.failure? ((c.del i).runOn node).1 =
          ((c.del i).calls node).findSome? Call.delFailure? := by
  obtain ⟨f | pod, hpod⟩ := c.onlyLooks_lookupRemainingPod i node.files
  · obtain ⟨asked, hasked, hrun⟩ := hpod
    left
    have hleft : ((c.del i).runOn node).2 =
        ⟨node.files, node.journal ++ (asked ++ [].map Call.event ++ [])⟩ := by
      rw [del, Task.runOn_bind_error (hrun node.journal)]
      simp
    exact Task.calls_eq_of_left hasked (by simp) hleft
  · obtain ⟨left, hsettles⟩ := c.resolver.settles_resolveSome node.files (c.planDel node.files pod)
    have valid := c.resolver.yields_resolveSome _ (Task.runOn_eq_of_fst hsettles.runOn_fst)
    obtain ⟨hcalled, -, hfailure⟩ := del_swept hpod hsettles valid
    exact .inr ⟨hcalled, hfailure⟩

/-- **Detaching fails with what the first call answers that fails and counts.** -/
theorem del_fails {node : Node} {before after : List Call} {call : Call} {f : Failure}
    (hcalls : (c.del i).calls node = before ++ call :: after) (hbefore : ∀ b ∈ before, b.Tolerated)
    (hcounts : ¬ call.Tolerated) (hanswer : call.answer = .error f) :
    ((c.del i).runOn node).1 = .error f := by
  rcases c.del_called i node with hnone | ⟨-, hfailure⟩
  · rw [hnone] at hcalls
    cases List.append_ne_nil_of_right_ne_nil before (List.cons_ne_nil call after) hcalls.symm
  · have hfirst : (before ++ call :: after).findSome? Call.delFailure? = some f :=
      List.findSome?_eq_some_iff.mpr ⟨before, call, after, rfl,
        (call.delFailure?_eq_some_iff f).mpr ⟨hanswer, hcounts⟩,
        fun b hb => b.delFailure?_eq_none_iff.mpr (hbefore b hb)⟩
    rw [hcalls, hfirst] at hfailure
    exact (Delegation.failure?_eq_some_iff _ f).mp hfailure

/-- The executor answers what detaching calls. -/
theorem del_answeredBy {node : Node} (fresh : node.journal = []) :
    ((c.del i).runOn node).2.AnsweredBy c.executor := by
  have hcases := c.del_called i node
  rw [Task.calls_of_fresh fresh] at hcases
  rcases hcases with hnone | ⟨⟨start, hcalled⟩, -⟩
  · exact .of_calls_eq_nil hnone
  · exact hcalled.answeredBy

end Controller

end PodNet
