import PodNet.Proofs.Calls
import PodNet.Proofs.Looking
import PodNet.Proofs.ResultRecords
import PodNet.Proofs.ValidLists

/-!
# The calls for one attachment

Attaching an attachment carries out the plan to execute every plugin of its list in order, and
detaching it the plan to execute every plugin in reverse order. Both end with the first call that
fails: for attaching a failed plugin or a result that cannot be read (`Call.addFailure?`), for
detaching a failed plugin that does know the container (`Call.delFailure?`). One call is one step of
the program (`runOn_addEach_cons`, `runOn_delEach_cons`), and the plans follow by induction.

The lists are valid ones, in which every plugin has a type.
-/

namespace PodNet

namespace Delegation

/-- A plugin with its type. -/
def withType (plugin : Object) : String × Object :=
  (ConfList.textAt "type" plugin, plugin)

theorem typed_of_valid {l : ConfList} (h : l.Valid) :
    typed l = l.plugins.map withType := by
  rw [typed, ConfList.pluginTypes_of_valid h]
  induction l.plugins with
  | nil => rfl
  | cons p rest ih => rw [List.map_cons, List.zip_cons_cons, ih, List.map_cons, withType]

/-! ### What the executions are -/

/-- The execution attaches with a plugin of the attachment, given some result before it. -/
def Attaches (s : Sandbox) (a : Attachment) (plugin : Object) (e : Execution) : Prop :=
  ∃ previous, e = .ofPlugin .add (.forRequest s a.request) a.conf previous (withType plugin)

/-- The execution detaches with a plugin of the attachment. -/
def Detaches (s : Sandbox) (a : Attachment) (plugin : Object) (e : Execution) : Prop :=
  e = .ofPlugin .del (.forRequest s a.request) a.conf none (withType plugin)

/-- The calls attach with the plugins of the attachment in order, up to a failure. -/
def AttachCalls (s : Sandbox) (a : Attachment) : List Call → Option Failure → Prop :=
  CarryOut (Attaches s a) Call.addFailure? a.conf.plugins

/-- The calls detach with the plugins of the attachment in reverse order, up to a failure. -/
def DetachCalls (s : Sandbox) (a : Attachment) : List Call → Option Failure → Prop :=
  CarryOut (Detaches s a) Call.delFailure? a.conf.plugins.reverse

theorem AttachCalls.command_eq {s : Sandbox} {a : Attachment} {calls : List Call}
    {f : Option Failure} (h : AttachCalls s a calls f) :
    ∀ c ∈ calls, c.execution.command = .add := by
  intro c hc
  obtain ⟨_, _, _, he⟩ := h.exists_mem c hc
  rw [he]
  rfl

theorem DetachCalls.command_eq {s : Sandbox} {a : Attachment} {calls : List Call}
    {f : Option Failure} (h : DetachCalls s a calls f) :
    ∀ c ∈ calls, c.execution.command = .del := by
  intro c hc
  obtain ⟨_, _, he⟩ := h.exists_mem c hc
  rw [he]
  rfl

theorem DetachCalls.interface_eq {s : Sandbox} {a : Attachment} {calls : List Call}
    {f : Option Failure} (h : DetachCalls s a calls f) :
    ∀ c ∈ calls, c.execution.parameters.interface = a.request.interface := by
  intro c hc
  obtain ⟨_, _, he⟩ := h.exists_mem c hc
  rw [he]
  rfl

/-- Detaching goes through all plugins if none of the calls counts as a failure. -/
theorem DetachCalls.complete {s : Sandbox} {a : Attachment} {calls : List Call} {f : Option Failure}
    (h : DetachCalls s a calls f) (tolerated : ∀ c ∈ calls, c.Tolerated) :
    DetachCalls s a calls none := by
  have hnone : calls.findSome? Call.delFailure? = none := by
    rw [List.findSome?_eq_none_iff]
    intro c hc
    exact c.delFailure?_eq_none_iff.mpr (tolerated c hc)
  have hf := h.failure_eq
  rw [hnone] at hf
  subst hf
  exact h

/-! ### Runs -/

/-- The failure that an outcome is. -/
def failure? {α : Type} : Except Failure α → Option Failure
  | .ok _ => none
  | .error f => some f

theorem failure?_eq_none_iff (outcome : Except Failure Unit) :
    failure? outcome = none ↔ outcome = .ok () := by
  cases outcome <;> simp [failure?]

theorem failure?_eq_some_iff {α : Type} (outcome : Except Failure α) (f : Failure) :
    failure? outcome = some f ↔ outcome = .error f := by
  cases outcome <;> simp [failure?]

variable (executor : Executor) (l : ConfList) (p : Parameters)

/-- One step of attaching. -/
theorem runOn_addEach_cons (previous : Option Json) (plugin : String × Object)
    (rest : List (String × Object)) (node : Node) :
    let c := executor.call node (.ofPlugin .add p l previous plugin)
    (addEach executor l p previous (plugin :: rest)).runOn node =
      match c.addFailure? with
      | some f => (.error f, node.after [c])
      | none =>
        (addEach executor l p ((c.result?.map AddResult.toValue).or previous) rest).runOn
          (node.after [c]) := by
  rw [addEach, Task.runOn_bind, Task.runOn_execute]
  generalize executor.call node _ = c
  obtain ⟨e, f | out⟩ := c
  · rfl
  · by_cases hblank : Invocation.isBlankInput out
    · simp [Call.addFailure?, Call.result?, hblank]
    · cases hread : AddResult.ofBytes out with
      | error f => simp [Call.addFailure?, Task.runOn_bind, hblank, hread]
      | ok r =>
        simp [Call.addFailure?, Call.result?, Task.runOn_bind, hblank, hread, Except.toOption]

/-- One step of detaching. -/
theorem runOn_delEach_cons (plugin : String × Object) (rest : List (String × Object))
    (node : Node) :
    let c := executor.call node (.ofPlugin .del p l none plugin)
    (delEach executor l p (plugin :: rest)).runOn node =
      match c.delFailure? with
      | some f => (.error f, node.after [c])
      | none => (delEach executor l p rest).runOn (node.after [c]) := by
  rw [delEach, Task.runOn_bind, Task.runOn_attempt, Task.runOn_execute]
  generalize executor.call node _ = c
  obtain ⟨e, f | out⟩ := c
  · by_cases hgone : f.isUnknownContainer
    · simp [Call.delFailure?, hgone]
    · simp [Call.delFailure?, hgone]
  · rfl

/-- **The calls hand results on** from plugin to plugin, beginning with a result before them: each
plugin gets the latest one, and the outcome is the latest of all or the failure of the last call. -/
inductive Chain : Option Json → List (String × Object) → List Call → Except Failure (Option Json) →
    Prop where
  /-- No plugin is left. -/
  | done {previous : Option Json} : Chain previous [] [] (.ok previous)
  /-- A plugin does what it is called for, and hands its result on if it printed one. -/
  | pass {previous : Option Json} {plugin : String × Object} {rest : List (String × Object)}
    {c : Call} {calls : List Call} {outcome : Except Failure (Option Json)} :
    c.execution = .ofPlugin .add p l previous plugin → c.addFailure? = none →
      Chain ((c.result?.map AddResult.toValue).or previous) rest calls outcome →
      Chain previous (plugin :: rest) (c :: calls) outcome
  /-- A plugin fails, and the rest is not tried. -/
  | fail {previous : Option Json} {plugin : String × Object} {rest : List (String × Object)}
    {c : Call} {f : Failure} :
    c.execution = .ofPlugin .add p l previous plugin → c.addFailure? = some f →
      Chain previous (plugin :: rest) [c] (.error f)

/-- Attaching with plugins hands results on. -/
theorem addEach_chained (previous : Option Json) (plugins : List (String × Object)) (node : Node) :
    let run := (addEach executor l p previous plugins).runOn node
    ∃ calls, Called executor node calls run.2 ∧ Chain l p previous plugins calls run.1 := by
  induction plugins generalizing previous node with
  | nil => exact ⟨[], .nil node, .done⟩
  | cons plugin rest ih =>
    have hstep := runOn_addEach_cons executor l p previous plugin rest node
    dsimp only at hstep ⊢
    rw [hstep]
    cases hc : Call.addFailure? _ with
    | some f => exact ⟨_, .cons (.nil _), .fail rfl hc⟩
    | none =>
      obtain ⟨calls, hcalled, hchain⟩ := ih _ _
      exact ⟨_ :: calls, .cons hcalled, .pass rfl hc hchain⟩

/-- Handing results on carries out the plan to execute every plugin. -/
theorem Chain.carryOut {l : ConfList} {p : Parameters} {previous : Option Json}
    {plugins : List (String × Object)} {calls : List Call} {outcome : Except Failure (Option Json)}
    (h : Chain l p previous plugins calls outcome) :
    CarryOut (fun plugin e => ∃ before, e = .ofPlugin .add p l before plugin) Call.addFailure? plugins
      calls (failure? outcome) := by
  induction h with
  | done => exact .done
  | pass he hc _ ih => exact .pass ⟨_, he⟩ hc ih
  | fail he hc => exact .fail ⟨_, he⟩ hc

/-- Detaching with plugins carries out the plan to execute each of them. -/
theorem delEach_called (plugins : List (String × Object)) (node : Node) :
    let run := (delEach executor l p plugins).runOn node
    ∃ calls, Called executor node calls run.2 ∧
      CarryOut (fun plugin e => e = .ofPlugin .del p l none plugin)
        Call.delFailure? plugins calls (failure? run.1) := by
  induction plugins generalizing node with
  | nil => exact ⟨[], .nil node, .done⟩
  | cons plugin rest ih =>
    have hstep := runOn_delEach_cons executor l p plugin rest node
    dsimp only at hstep ⊢
    rw [hstep]
    cases hc : Call.delFailure? _ with
    | some f => exact ⟨_, .cons (.nil _), .fail rfl hc⟩
    | none =>
      obtain ⟨calls, hcalled, hcarry⟩ := ih _
      exact ⟨_ :: calls, .cons hcalled, .pass rfl hc hcarry⟩

/-- What is handed on in the end can be read. -/
theorem yields_addEach {previous : Option Json} (h : ∃ r, finalResult l previous = .ok r)
    (plugins : List (String × Object)) :
    Task.Yields (fun result => ∃ r, finalResult l result = .ok r)
      (addEach executor l p previous plugins) := by
  induction plugins generalizing previous with
  | nil => exact .pure h
  | cons plugin rest ih =>
    refine .bind_of_forall fun out => ?_
    split
    · exact ih h
    · refine .bind (.ofExcept fun r hr => AddResult.positioned_of_ofBytes hr) fun r hr => ?_
      exact ih ⟨r, AddResult.ofValue_toValue hr⟩

/-- Attaching with a list reads its result from the latest one. -/
theorem runOn_addList (node : Node) :
    let each := (addEach executor l p none (typed l)).runOn node
    (addList executor l p).runOn node = (each.1.bind (finalResult l), each.2) := by
  rw [addList, Task.runOn_bind]
  rcases (addEach executor l p none (typed l)).runOn node with ⟨f | result, left⟩ <;> rfl

/-- Attaching with a list fails if and only if one of the plugins does. -/
theorem failure?_addList (node : Node) :
    failure? ((addList executor l p).runOn node).1 =
      failure? ((addEach executor l p none (typed l)).runOn node).1 := by
  rw [runOn_addList]
  rcases heach : (addEach executor l p none (typed l)).runOn node with ⟨f | result, left⟩
  · rfl
  · obtain ⟨r, hr⟩ := yields_addEach executor l p ⟨_, rfl⟩ (typed l) heach
    show failure? (finalResult l result) = none
    rw [hr]
    rfl

/-- Detaching with a list carries out the plan to execute its plugins in reverse order. -/
theorem delList_called {l : ConfList} (valid : l.Valid) (node : Node) :
    let run := (delList executor l p).runOn node
    ∃ calls, Called executor node calls run.2 ∧
      CarryOut (fun plugin e => e = .ofPlugin .del p l none (withType plugin)) Call.delFailure?
        l.plugins.reverse calls (failure? run.1) := by
  obtain ⟨calls, hcalled, hcarry⟩ := delEach_called executor l p (l.plugins.reverse.map withType) node
  rw [delList, typed_of_valid valid, ← List.map_reverse]
  exact ⟨calls, hcalled, hcarry.of_map⟩

variable (s : Sandbox) {a : Attachment} (valid : a.conf.Valid)

include valid in
/-- **Attaching an attachment** makes its calls up to the failure that is its outcome. -/
theorem add_called (node : Node) :
    let run := (add executor s a).runOn node
    ∃ calls, Called executor node calls run.2 ∧ AttachCalls s a calls (failure? run.1) := by
  have h := addEach_chained executor a.conf (.forRequest s a.request) none (typed a.conf) node
  rw [typed_of_valid valid] at h
  obtain ⟨calls, hcalled, hchain⟩ := h
  have hfailure := failure?_addList executor a.conf (.forRequest s a.request) node
  have hrun := runOn_addList executor a.conf (.forRequest s a.request) node
  dsimp only at hrun ⊢
  rw [typed_of_valid valid] at hfailure hrun
  rw [add, hfailure, hrun]
  exact ⟨calls, hcalled, hchain.carryOut.of_map⟩

include valid in
/-- **Detaching an attachment** makes its calls up to the failure that is its outcome. -/
theorem del_called (node : Node) :
    let run := (del executor s a).runOn node
    ∃ calls, Called executor node calls run.2 ∧ DetachCalls s a calls (failure? run.1) :=
  delList_called executor (.forRequest s a.request) valid node

end Delegation

end PodNet
