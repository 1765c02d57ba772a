import PodNet.Proofs.Sweep

/-!
# Attaching all or none

Attachments are attached one after the other. When one fails, those before it are detached again,
newest first, in a sweep whose failures are dropped, and the failure that attaching met is the
outcome whatever the sweep met: `AddOutcome`. The attachment that failed is not part of the sweep.
-/

namespace PodNet.Delegation

/-- The calls attach with all plugins of all attachments, in order, and none of them fails. -/
def AttachedCalls (s : Sandbox) : List Attachment → List Call → Prop :=
  InGroups fun a own => AttachCalls s a own none

theorem AttachedCalls.command_eq {s : Sandbox} {attachments : List Attachment} {calls : List Call}
    (h : AttachedCalls s attachments calls) : ∀ c ∈ calls, c.execution.command = .add := by
  intro c hc
  obtain ⟨a, _, own, hown, hc⟩ := h.exists_mem hc
  exact hown.command_eq c hc

/-- **A failure is rolled back**: the attachments `made` were attached, `failing` was not, and then
those that were made are swept away, newest first, and `done`, which is older, after them. -/
structure RolledBack (s : Sandbox) (done made : List Attachment) (failing : Attachment)
    (f : Failure) (attached failed undone : List Call) : Prop where
  attached : AttachedCalls s made attached
  failed : AttachCalls s failing failed (some f)
  undone : SweepCalls s (made.reverse ++ done) undone

/-- An attachment that was made before is the first one made. -/
theorem RolledBack.cons {s : Sandbox} {done made : List Attachment} {a failing : Attachment}
    {f : Failure} {own attached failed undone : List Call} (hown : AttachCalls s a own none)
    (h : RolledBack s (a :: done) made failing f attached failed undone) :
    RolledBack s done (a :: made) failing f (own ++ attached) failed undone where
  attached := .cons hown h.attached
  failed := h.failed
  undone := by
    rw [List.reverse_cons, List.append_assoc, List.singleton_append]
    exact h.undone

/-- What comes of attaching after others: every attachment has its result, or the failure is rolled
back. -/
inductive AddOutcome (s : Sandbox) (done attachments : List Attachment) :
    List Call → Except Failure (List AddResult) → Prop where
  /-- Everything is attached. -/
  | attached {calls : List Call} {results : List AddResult} :
    AttachedCalls s attachments calls → results.length = attachments.length →
      AddOutcome s done attachments calls (.ok results)
  /-- One attachment fails, and the later ones are not tried. -/
  | rolledBack {made later : List Attachment} {failing : Attachment} {f : Failure}
    {attached failed undone : List Call} :
    attachments = made ++ failing :: later →
      RolledBack s done made failing f attached failed undone →
      AddOutcome s done attachments (attached ++ failed ++ undone) (.error f)

/-- An attachment that succeeds comes before whatever comes of the rest. -/
theorem AddOutcome.cons {s : Sandbox} {done rest : List Attachment} {a : Attachment}
    {own calls : List Call} {outcome : Except Failure (List AddResult)} (r : AddResult)
    (hown : AttachCalls s a own none) (h : AddOutcome s (a :: done) rest calls outcome) :
    AddOutcome s done (a :: rest) (own ++ calls) (outcome.map fun results => r :: results) := by
  cases h with
  | attached hcalls hlength => exact .attached (.cons hown hcalls) (by simpa using hlength)
  | rolledBack hrest hback =>
    rw [← List.append_assoc, ← List.append_assoc]
    exact .rolledBack (by rw [hrest, List.cons_append]) (hback.cons hown)

/-- A failure with nothing older is rolled back to where attaching started. -/
theorem AddOutcome.exists_of_error {s : Sandbox} {attachments : List Attachment} {calls : List Call}
    {f : Failure} (h : AddOutcome s [] attachments calls (.error f)) :
    ∃ made failing later attached failed undone,
      attachments = made ++ failing :: later ∧ calls = attached ++ failed ++ undone ∧
      AttachedCalls s made attached ∧ AttachCalls s failing failed (some f) ∧
      SweepCalls s made.reverse undone := by
  cases h with
  | rolledBack hsplit hback =>
    have hundone := hback.undone
    rw [List.append_nil] at hundone
    exact ⟨_, _, _, _, _, _, hsplit, rfl, hback.attached, hback.failed, hundone⟩

variable (executor : Executor) (s : Sandbox)

/-- Attaching after others has one of the two outcomes. -/
theorem addAfter_called (done attachments : List Attachment)
    (valid : ∀ a ∈ attachments, a.conf.Valid)
    (validDone : ∀ a ∈ done, a.conf.Valid) (node : Node) :
    let run := (addAfter executor s done attachments).runOn node
    ∃ calls, Called executor node calls run.2 ∧ AddOutcome s done attachments calls run.1 := by
  induction attachments generalizing done node with
  | nil => exact ⟨[], .nil node, .attached .nil rfl⟩
  | cons a rest ih =>
    have validA := valid a List.mem_cons_self
    obtain ⟨own, hown, hattach⟩ := add_called executor s validA node
    rw [addAfter, Task.runOn_bind, Task.runOn_attempt]
    rcases hrun : (add executor s a).runOn node with ⟨f | r, left⟩
    · rw [hrun] at hown hattach
      obtain ⟨undone, last, hback, hcalled, hsweep⟩ :=
        rollback_called executor s done validDone left
      have hthrow := Task.runOn_bind_ok hback fun _ => (throw f : Task (List AddResult))
      rw [Task.runOn_throw] at hthrow
      dsimp only at hown ⊢
      rw [hthrow]
      have hnone : RolledBack s done [] a f [] own undone := ⟨.nil, hattach, hsweep⟩
      exact ⟨own ++ undone, hown.append hcalled, .rolledBack rfl hnone⟩
    · rw [hrun] at hown hattach
      have validDone' : ∀ b ∈ a :: done, b.conf.Valid := by
        rintro b (_ | ⟨_, hb⟩)
        · exact validA
        · exact validDone b hb
      obtain ⟨calls, hcalled, houtcome⟩ :=
        ih (a :: done) (fun b hb => valid b (List.mem_cons_of_mem a hb)) validDone' left
      dsimp only at hown ⊢
      rw [Task.runOn_bind_pure]
      exact ⟨own ++ calls, hown.append hcalled, houtcome.cons r hattach⟩

/-- Attaching has one of the two outcomes, with nothing older to take back. -/
theorem addAll_called (attachments : List Attachment)
    (valid : ∀ a ∈ attachments, a.conf.Valid) (node : Node) :
    let run := (addAll executor s attachments).runOn node
    ∃ calls, Called executor node calls run.2 ∧ AddOutcome s [] attachments calls run.1 :=
  addAfter_called executor s [] attachments valid (fun _ hb => absurd hb List.not_mem_nil) node

/-- **Attaching is rolled back in reverse order**: if it succeeds, every plugin of every attachment
was called to attach, in order, nothing else was called, and there is one result for each
attachment. If it fails, everything before the failing attachment is attached, the failing one up to
the call whose failure is the outcome, and then the attachments before it are swept away, newest
first. -/
theorem addAll_rolls_back (attachments : List Attachment)
    (valid : ∀ a ∈ attachments, a.conf.Valid) (node : Node) :
    let run := (addAll executor s attachments).runOn node
    let calls := (addAll executor s attachments).calls node
    Called executor node calls run.2 ∧
      match run.1 with
      | .ok results => AttachedCalls s attachments calls ∧
          (∀ c ∈ calls, c.execution.command = .add) ∧ results.length = attachments.length
      | .error f => ∃ made failing later attached failed undone,
          attachments = made ++ failing :: later ∧ calls = attached ++ failed ++ undone ∧
          AttachedCalls s made attached ∧ AttachCalls s failing failed (some f) ∧
          SweepCalls s made.reverse undone := by
  obtain ⟨calls, hcalled, houtcome⟩ := addAll_called executor s attachments valid node
  dsimp only at hcalled ⊢
  rw [hcalled.calls_eq]
  refine ⟨hcalled, ?_⟩
  cases hrun : ((addAll executor s attachments).runOn node).1 with
  | ok results =>
    rw [hrun] at houtcome
    cases houtcome with
    | attached hcalls hlength => exact ⟨hcalls, hcalls.command_eq, hlength⟩
  | error f =>
    rw [hrun] at houtcome
    exact houtcome.exists_of_error

/-- Answers that `portmap` is in the way, whatever it is called for. -/
def portmapStuck : Executor := fun _ _ e =>
  if e.plugin = "portmap" then .error (.delegateFailed "portmap" "eth1" ⟨11, "stuck", none⟩)
  else .ok []

/-- With `portmap` stuck the first network is detached again, and the failure is that of `portmap`.
-/
theorem addAll_rolls_back_portmap_stuck :
    (∀ a ∈ [flannelNetwork, weaveNetwork], a.conf.Valid) ∧
      ((addAll portmapStuck loneSandbox [flannelNetwork, weaveNetwork]).calls freshNode).map
          (fun c => (c.execution.command, c.execution.plugin)) =
        [(.add, "flannel"), (.add, "weave-net"), (.add, "portmap"), (.del, "flannel")] ∧
      ∃ made failing later attached failed undone,
        [flannelNetwork, weaveNetwork] = made ++ failing :: later ∧
        (addAll portmapStuck loneSandbox [flannelNetwork, weaveNetwork]).calls freshNode =
          attached ++ failed ++ undone ∧
        AttachedCalls loneSandbox made attached ∧
        AttachCalls loneSandbox failing failed
          (some (.delegateFailed "portmap" "eth1" ⟨11, "stuck", none⟩)) ∧
        SweepCalls loneSandbox made.reverse undone := by
  have h := addAll_rolls_back portmapStuck loneSandbox _ valid_networks freshNode
  exact ⟨valid_networks, by rfl, h.2⟩

end PodNet.Delegation
