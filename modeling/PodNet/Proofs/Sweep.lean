import PodNet.Proofs.AttachmentCalls

/-!
# Detaching everything

A sweep over attachments goes through all of them in order, and what comes of one does not keep it
from the next: `SweepCalls`. Two loops of the program are sweeps. Detaching a pod is one from the
first attachment to the last, and its outcome is the first failure that counts (`delAll_called`);
taking back attachments that were made is the other, and its failures are dropped
(`rollback_called`).
-/

namespace PodNet.Delegation

/-- **The calls sweep over the attachments**: for each in order they detach with its plugins, up to
a failure that ends this attachment only. -/
def SweepCalls (s : Sandbox) : List Attachment → List Call → Prop :=
  InGroups fun a own => ∃ f, DetachCalls s a own f

/-- A sweep only detaches. -/
theorem SweepCalls.command_eq {s : Sandbox} {attachments : List Attachment} {calls : List Call}
    (h : SweepCalls s attachments calls) : ∀ c ∈ calls, c.execution.command = .del := by
  intro c hc
  obtain ⟨a, _, own, ⟨f, hown⟩, hc⟩ := h.exists_mem hc
  exact hown.command_eq c hc

variable (executor : Executor) (s : Sandbox)

/-- Taking back attachments is a sweep, and always succeeds. -/
theorem rollback_called (attachments : List Attachment)
    (valid : ∀ a ∈ attachments, a.conf.Valid) (node : Node) :
    ∃ calls last, (rollback executor s attachments).runOn node = (.ok (), last) ∧
      Called executor node calls last ∧ SweepCalls s attachments calls := by
  induction attachments generalizing node with
  | nil => exact ⟨[], node, rfl, .nil node, .nil⟩
  | cons a rest ih =>
    obtain ⟨own, hown, hdetach⟩ := del_called executor s (valid a List.mem_cons_self) node
    obtain ⟨calls, last, hrun, hcalled, hsweep⟩ :=
      ih (fun b hb => valid b (List.mem_cons_of_mem a hb)) ((del executor s a).runOn node).2
    refine ⟨own ++ calls, last, ?_, hown.append hcalled, .cons ⟨_, hdetach⟩ hsweep⟩
    rw [rollback, Task.runOn_bind, Task.runOn_attempt]
    exact hrun

/-- A sweep that keeps the first failure. -/
theorem sweep_called (first : Option Failure) (attachments : List Attachment)
    (valid : ∀ a ∈ attachments, a.conf.Valid) (node : Node) :
    ∃ calls last, (sweep executor s first attachments).runOn node =
        (.ok (first.or (calls.findSome? Call.delFailure?)), last) ∧
      Called executor node calls last ∧ SweepCalls s attachments calls := by
  induction attachments generalizing first node with
  | nil => exact ⟨[], node, by simp [sweep], .nil node, .nil⟩
  | cons a rest ih =>
    obtain ⟨own, hown, hdetach⟩ := del_called executor s (valid a List.mem_cons_self) node
    have hfirst := hdetach.failure_eq
    rcases hrun : (del executor s a).runOn node with ⟨outcome, left⟩
    rw [hrun] at hown hdetach hfirst
    obtain ⟨calls, last, hrest, hcalled, hsweep⟩ :=
      ih (first.or (failure? outcome)) (fun b hb => valid b (List.mem_cons_of_mem a hb)) left
    refine ⟨own ++ calls, last, ?_, hown.append hcalled, .cons ⟨_, hdetach⟩ hsweep⟩
    rw [List.findSome?_append, ← hfirst, ← Option.or_assoc, ← hrest, sweep, Task.runOn_bind,
      Task.runOn_attempt, hrun]
    cases outcome with
    | ok _ => rw [failure?, Option.or_none]
    | error f => rfl

/-- The outcome of detaching everything is the first failure that counts. -/
theorem delAll_called (attachments : List Attachment)
    (valid : ∀ a ∈ attachments, a.conf.Valid) (node : Node) :
    let run := (delAll executor s attachments).runOn node
    ∃ calls, Called executor node calls run.2 ∧ SweepCalls s attachments calls ∧
      failure? run.1 = calls.findSome? Call.delFailure? := by
  obtain ⟨calls, last, hrun, hcalled, hsweep⟩ := sweep_called executor s none attachments valid node
  rw [Option.none_or] at hrun
  rw [delAll, Task.runOn_bind_ok hrun]
  cases hfirst : calls.findSome? Call.delFailure? with
  | none => exact ⟨calls, hcalled, hsweep, hfirst.symm⟩
  | some f => exact ⟨calls, hcalled, hsweep, hfirst.symm⟩

/-- **Detaching everything sweeps over all attachments**: only detaching calls are made, it succeeds
exactly if all of them are tolerated, and fails exactly with the first failure that is not. -/
theorem delAll_sweeps (attachments : List Attachment)
    (valid : ∀ a ∈ attachments, a.conf.Valid) (node : Node) :
    let run := (delAll executor s attachments).runOn node
    let calls := (delAll executor s attachments).calls node
    Called executor node calls run.2 ∧ SweepCalls s attachments calls ∧
      (∀ c ∈ calls, c.execution.command = .del) ∧
      (run.1 = .ok () ↔ ∀ c ∈ calls, c.Tolerated) ∧
      ∀ f, run.1 = .error f ↔ ∃ before c after, calls = before ++ c :: after ∧
        (∀ b ∈ before, b.Tolerated) ∧ ¬ c.Tolerated ∧ c.answer = .error f := by
  obtain ⟨calls, hcalled, hsweep, hfailure⟩ := delAll_called executor s attachments valid node
  dsimp only at hcalled hfailure ⊢
  rw [hcalled.calls_eq]
  refine ⟨hcalled, hsweep, hsweep.command_eq, ?_, fun f => ?_⟩
  · rw [← failure?_eq_none_iff, hfailure, List.findSome?_eq_none_iff]
    exact forall₂_congr fun c _ => c.delFailure?_eq_none_iff
  · rw [← failure?_eq_some_iff, hfailure, List.findSome?_eq_some_iff]
    constructor
    · rintro ⟨before, c, after, rfl, hc, hbefore⟩
      rw [Call.delFailure?_eq_some_iff] at hc
      have htolerated : ∀ b ∈ before, b.Tolerated :=
        fun b hb => b.delFailure?_eq_none_iff.mp (hbefore b hb)
      exact ⟨before, c, after, rfl, htolerated, hc.2, hc.1⟩
    · rintro ⟨before, c, after, rfl, hbefore, hc⟩
      exact ⟨before, c, after, rfl, c.delFailure?_eq_some_iff f |>.mpr hc.symm,
        fun b hb => b.delFailure?_eq_none_iff.mpr (hbefore b hb)⟩

/-- A sandbox without a pod. -/
def loneSandbox : Sandbox := ⟨"c1", "/ns/c1", none, []⟩

/-- A network of one plugin, on `eth0`. -/
def flannelNetwork : Attachment where
  request := .plain (.plugin "flannel") "eth0"
  conf := ⟨"0.3.1", "cbr0", [[("type", .str "flannel")]], []⟩
  subnet := none

/-- A network of two plugins, on `eth1`. -/
def weaveNetwork : Attachment where
  request := .plain (.plugin "weave") "eth1"
  conf := ⟨"0.3.1", "weave", [[("type", .str "weave-net")], [("type", .str "portmap")]], []⟩
  subnet := none

/-- Nothing has happened on the node yet. -/
def freshNode : Node := ⟨⟨[], []⟩, []⟩

theorem valid_networks :
    ∀ a ∈ [flannelNetwork, weaveNetwork], a.conf.Valid := by
  intro a ha
  simp only [List.mem_cons, List.not_mem_nil, or_false] at ha
  rcases ha with rfl | rfl <;> rfl

/-- Answers that `flannel` is down and `portmap` has never heard of the container. -/
def flannelDown : Executor := fun _ _ e =>
  if e.plugin = "flannel" then .error (.delegateFailed "flannel" "eth0" ⟨5, "down", none⟩)
  else if e.plugin = "portmap" then .error (.delegateFailed "portmap" "eth1" ⟨3, "gone", none⟩)
  else .ok []

/-- With `flannel` down the other network is still detached, and the failure is that of `flannel`.
-/
theorem delAll_sweeps_flannel_down :
    (∀ a ∈ [flannelNetwork, weaveNetwork], a.conf.Valid) ∧
      ((delAll flannelDown loneSandbox [flannelNetwork, weaveNetwork]).calls freshNode).map
          (·.execution.plugin) = ["flannel", "portmap", "weave-net"] ∧
      ((delAll flannelDown loneSandbox [flannelNetwork, weaveNetwork]).runOn freshNode).1 =
        .error (.delegateFailed "flannel" "eth0" ⟨5, "down", none⟩) := by
  have h := delAll_sweeps flannelDown loneSandbox _ valid_networks freshNode
  refine ⟨valid_networks, by rfl, (h.2.2.2.2 _).mpr ?_⟩
  refine ⟨[], _, _, by rfl, by simp, ?_, by rfl⟩
  rw [← Call.delFailure?_eq_none_iff]
  decide

end PodNet.Delegation
