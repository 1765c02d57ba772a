import Mathlib.Data.List.Forall2
import PodNet.Delegation
import PodNet.Proofs.TaskRun

/-!
# Calls of plugins

A call is an execution of a plugin together with the answer. `Called` says that a node went through
calls and nothing else, each answered by the executor as the executions before it make it answer.
`CarryOut` says that calls carry out a plan: one call for each of its items, in order, up to and
including the first call that fails. `InGroups` says that they fall into one group for each item.
-/

namespace PodNet

/-- An execution of a plugin and what the plugin answered. -/
structure Call where
  execution : Execution
  answer : Except Failure Bytes

/-- The call that an event is. -/
def Event.call? : Event → Option Call
  | executed e answer => some ⟨e, answer⟩
  | _ => none

/-- The call that executing a plugin on a node is. -/
def Executor.call (executor : Executor) (node : Node) (e : Execution) : Call :=
  ⟨e, executor node.files (executionsOf node.journal) e⟩

theorem Failure.isUnknownContainer_iff (f : Failure) :
    f.isUnknownContainer = true ↔
      ∃ plugin interface report, f = .delegateFailed plugin interface report ∧ report.code = 3 := by
  cases f <;> simp [isUnknownContainer, CniError.isUnknownContainer, ErrorCode.number]

namespace Call

/-- The event that a call is. -/
def event (c : Call) : Event :=
  .executed c.execution c.answer

/-- The plugin did what it was called for. -/
def Served (c : Call) : Prop :=
  ∃ out, c.answer = .ok out

/-- The plugin did what it was called for, or says that the container is gone already (code 3). -/
def Tolerated (c : Call) : Prop :=
  c.Served ∨ ∃ plugin interface report,
    c.answer = .error (.delegateFailed plugin interface report) ∧ report.code = 3

/-- Why attaching ends with the call: the plugin failed, or what it printed is no result. -/
def addFailure? (c : Call) : Option Failure :=
  match c.answer with
  | .error f => some f
  | .ok out =>
    if Invocation.isBlankInput out then none
    else
      match AddResult.ofBytes out with
      | .error f => some f
      | .ok _ => none

/-- The result that the call printed. -/
def result? (c : Call) : Option AddResult :=
  match c.answer with
  | .error _ => none
  | .ok out => if Invocation.isBlankInput out then none else (AddResult.ofBytes out).toOption

/-- Why detaching an attachment ends with the call: the plugin failed, and does know the container.
-/
def delFailure? (c : Call) : Option Failure :=
  match c.answer with
  | .error f => if f.isUnknownContainer then none else some f
  | .ok _ => none

@[simp] theorem call?_event (c : Call) : c.event.call? = some c := rfl

theorem served_of_addFailure?_eq_none {c : Call} (h : c.addFailure? = none) : c.Served := by
  rcases c with ⟨e, f | out⟩
  · simp [addFailure?] at h
  · exact ⟨out, rfl⟩

theorem delFailure?_eq_none_iff (c : Call) : c.delFailure? = none ↔ c.Tolerated := by
  obtain ⟨e, f | out⟩ := c
  · simp [delFailure?, Tolerated, Served, Failure.isUnknownContainer_iff]
  · simp [delFailure?, Tolerated, Served]

theorem delFailure?_eq_some_iff (c : Call) (f : Failure) :
    c.delFailure? = some f ↔ c.answer = .error f ∧ ¬ c.Tolerated := by
  rw [← delFailure?_eq_none_iff]
  obtain ⟨e, g | out⟩ := c
  · by_cases hgone : g.isUnknownContainer <;> simp [delFailure?, hgone]
  · simp [delFailure?]

end Call

/-- The node after calls. -/
def Node.after (node : Node) (calls : List Call) : Node :=
  { node with journal := node.journal ++ calls.map Call.event }

@[simp] theorem Node.after_nil (node : Node) : node.after [] = node := by
  simp [Node.after]

theorem Node.after_append (node : Node) (calls more : List Call) :
    node.after (calls ++ more) = (node.after calls).after more := by
  simp [Node.after]

@[simp] theorem Task.runOn_execute (executor : Executor) (e : Execution) (node : Node) :
    (Task.execute executor e).runOn node =
      ((executor.call node e).answer, node.after [executor.call node e]) := rfl

/-- **The calls lead from a node to a node**: they are made one after the other, the executor
answers each, and nothing else happens. -/
inductive Called (executor : Executor) : Node → List Call → Node → Prop where
  /-- No call, no change. -/
  | nil (node : Node) : Called executor node [] node
  /-- A call, and further calls after it. -/
  | cons {node last : Node} {e : Execution} {calls : List Call} :
    Called executor (node.after [executor.call node e]) calls last →
      Called executor node (executor.call node e :: calls) last

namespace Called

variable {executor : Executor} {node left last : Node} {calls more : List Call}

theorem append (h : Called executor node calls left) (h' : Called executor left more last) :
    Called executor node (calls ++ more) last := by
  induction h with
  | nil => exact h'
  | cons _ ih => exact .cons (ih h')

/-- What holds of everything that the executor answers holds of the calls. -/
theorem forall_call {P : Call → Prop} (h : Called executor node calls last)
    (hP : ∀ files before e, P ⟨e, executor files before e⟩) : ∀ c ∈ calls, P c := by
  induction h with
  | nil => simp
  | cons _ ih => exact List.forall_mem_cons.mpr ⟨hP _ _ _, ih⟩

/-- Every call is answered as the executions before it make the executor answer. -/
theorem answer_eq {c : Call} {before after : List Call}
    (h : Called executor node (before ++ c :: after) last) :
    c.answer = executor node.files (executionsOf node.journal ++ before.map Call.execution)
      c.execution := by
  induction before generalizing node with
  | nil =>
    cases h
    rw [List.map_nil, List.append_nil]
    rfl
  | cons b before ih =>
    cases h with
    | cons hrest =>
      rw [ih hrest, List.map_cons]
      simp [Node.after, executionsOf, Call.event, Event.execution?]

theorem eq_after (h : Called executor node calls last) : last = node.after calls := by
  induction h with
  | nil => simp
  | cons _ ih => rw [ih, ← Node.after_append, List.singleton_append]

end Called

/-- The calls that were made while the task ran on the node. -/
def Task.calls {α : Type} (task : Task α) (node : Node) : List Call :=
  (task.events node).filterMap Event.call?

theorem Called.calls_eq {α : Type} {executor : Executor} {task : Task α} {node : Node}
    {calls : List Call} (h : Called executor node calls (task.runOn node).2) :
    task.calls node = calls := by
  simp [Task.calls, Task.events, h.eq_after, Node.after, List.filterMap_map, Function.comp_def]

/-! ### Carrying out a plan -/

/-- **The calls carry out a plan** as far as nothing fails: call by call they do what the items ask
for, and they end with the plan or with the first call that fails, whose failure is given then. -/
inductive CarryOut {α : Type} (does : α → Execution → Prop) (failure? : Call → Option Failure) :
    List α → List Call → Option Failure → Prop where
  /-- Everything is done. -/
  | done : CarryOut does failure? [] [] none
  /-- One item is done, and the rest goes on. -/
  | pass {a : α} {rest : List α} {c : Call} {calls : List Call} {f : Option Failure} :
    does a c.execution → failure? c = none → CarryOut does failure? rest calls f →
      CarryOut does failure? (a :: rest) (c :: calls) f
  /-- One item fails, and the rest is not tried. -/
  | fail {a : α} {rest : List α} {c : Call} {f : Failure} :
    does a c.execution → failure? c = some f → CarryOut does failure? (a :: rest) [c] (some f)

namespace CarryOut

variable {α β : Type} {does : α → Execution → Prop} {failure? : Call → Option Failure}
  {plan : List α} {calls : List Call}

/-- The failure is that of the first call that fails. -/
theorem failure_eq {f : Option Failure} (h : CarryOut does failure? plan calls f) :
    f = calls.findSome? failure? := by
  induction h with
  | done => rfl
  | pass _ hc _ ih => rw [List.findSome?_cons, hc, ih]
  | fail _ hc => rw [List.findSome?_cons, hc]

/-- Every call does what the item at its place asks for. -/
theorem of_getElem? {f : Option Failure} (h : CarryOut does failure? plan calls f) {n : Nat} {c : Call}
    (hc : calls[n]? = some c) : ∃ a, plan[n]? = some a ∧ does a c.execution := by
  induction h generalizing n with
  | done => cases hc
  | @pass a rest first calls f hd _ _ ih =>
    cases n with
    | zero =>
      cases hc
      exact ⟨a, rfl, hd⟩
    | succ n => exact ih hc
  | @fail a rest first f hd _ =>
    cases n with
    | zero =>
      cases hc
      exact ⟨a, rfl, hd⟩
    | succ n => cases hc

/-- Every call does what an item of the plan asks for. -/
theorem exists_mem {f : Option Failure} (h : CarryOut does failure? plan calls f) :
    ∀ c ∈ calls, ∃ a ∈ plan, does a c.execution := by
  intro c hc
  obtain ⟨n, hn⟩ := List.mem_iff_getElem?.mp hc
  obtain ⟨a, ha, hac⟩ := h.of_getElem? hn
  exact ⟨a, List.mem_of_getElem? ha, hac⟩

/-- Without a failure every item has its call. -/
theorem forall₂_of_none (h : CarryOut does failure? plan calls none) :
    List.Forall₂ (fun a c => does a c.execution ∧ failure? c = none) plan calls := by
  induction plan generalizing calls with
  | nil => cases h; exact .nil
  | cons a plan ih =>
    cases h with
    | pass hd hc h => exact .cons ⟨hd, hc⟩ (ih h)

/-- Without a failure what an item asks for is done. -/
theorem exists_call (h : CarryOut does failure? plan calls none) {a : α} (ha : a ∈ plan) :
    ∃ c ∈ calls, does a c.execution := by
  have hall := h.forall₂_of_none
  induction hall with
  | nil => cases ha
  | cons hd _ ih =>
    cases h with
    | pass _ _ h =>
      rcases List.mem_cons.mp ha with rfl | ha
      · exact ⟨_, List.mem_cons_self, hd.1⟩
      · obtain ⟨c, hc, hac⟩ := ih h ha
        exact ⟨c, List.mem_cons_of_mem _ hc, hac⟩

/-- With a failure the last call is the one that fails, and all calls before it pass. -/
theorem exists_of_some {f : Failure} (h : CarryOut does failure? plan calls (some f)) :
    ∃ passed c, calls = passed ++ [c] ∧ failure? c = some f ∧ ∀ p ∈ passed, failure? p = none := by
  induction plan generalizing calls with
  | nil => cases h
  | cons a plan ih =>
    cases h with
    | pass _ hc h =>
      obtain ⟨passed, last, rfl, hlast, hpassed⟩ := ih h
      exact ⟨_ :: passed, last, rfl, hlast, by simpa [hc] using hpassed⟩
    | fail _ hc => exact ⟨[], _, rfl, hc, by simp⟩

/-- No other call fails. -/
theorem eq_of_mem {f g : Failure} (h : CarryOut does failure? plan calls (some f)) {c : Call}
    (hc : c ∈ calls) (hfails : failure? c = some g) : f = g := by
  obtain ⟨passed, last, rfl, hlast, hpassed⟩ := h.exists_of_some
  rcases List.mem_append.mp hc with hmem | hmem
  · cases (hpassed c hmem).symm.trans hfails
  · rw [List.mem_singleton.mp hmem] at hfails
    exact Option.some.inj (hlast.symm.trans hfails)

/-- Calls that carry out the image of a plan carry out the plan. -/
theorem of_map {g : β → α} {plan : List β} {f : Option Failure}
    (h : CarryOut does failure? (plan.map g) calls f) :
    CarryOut (fun b => does (g b)) failure? plan calls f := by
  induction plan generalizing calls f with
  | nil => cases h; exact .done
  | cons b plan ih =>
    cases h with
    | pass hd hc h => exact .pass hd hc (ih h)
    | fail hd hc => exact .fail hd hc

end CarryOut

/-! ### One plan after another -/

/-- The calls fall into groups, one for each item in order, of which the relation holds. -/
def InGroups {α : Type} (R : α → List Call → Prop) (items : List α) (calls : List Call) : Prop :=
  ∃ groups, calls = groups.flatten ∧ List.Forall₂ R items groups

namespace InGroups

variable {α : Type} {R : α → List Call → Prop} {items : List α} {calls : List Call}

theorem nil : InGroups R [] [] :=
  ⟨[], rfl, .nil⟩

theorem cons {a : α} {own : List Call} (h : R a own) (hrest : InGroups R items calls) :
    InGroups R (a :: items) (own ++ calls) := by
  obtain ⟨groups, rfl, hgroups⟩ := hrest
  exact ⟨own :: groups, rfl, .cons h hgroups⟩

/-- Every call is in the group of an item. -/
theorem exists_mem (h : InGroups R items calls) {c : Call} (hc : c ∈ calls) :
    ∃ a ∈ items, ∃ own, R a own ∧ c ∈ own := by
  obtain ⟨groups, rfl, hgroups⟩ := h
  induction hgroups with
  | nil => cases hc
  | cons hR _ ih =>
    rw [List.flatten_cons, List.mem_append] at hc
    rcases hc with hc | hc
    · exact ⟨_, List.mem_cons_self, _, hR, hc⟩
    · obtain ⟨a, ha, rest⟩ := ih hc
      exact ⟨a, List.mem_cons_of_mem _ ha, rest⟩

/-- What follows from the relation, given which calls there are. -/
theorem imp {S : α → List Call → Prop} (h : InGroups R items calls)
    (himp : ∀ a own, (∀ c ∈ own, c ∈ calls) → R a own → S a own) : InGroups S items calls := by
  obtain ⟨groups, rfl, hgroups⟩ := h
  refine ⟨groups, rfl, ?_⟩
  induction hgroups with
  | nil => exact .nil
  | cons hR _ ih =>
    refine .cons (himp _ _ (fun c hc => List.mem_append_left _ hc) hR) (ih fun a own hown => ?_)
    exact himp a own fun c hc => List.mem_append_right _ (hown c hc)

/-- Every item has its group, which is one run of calls. -/
theorem exists_infix (h : InGroups R items calls) {a : α} (ha : a ∈ items) :
    ∃ own, R a own ∧ own <:+: calls := by
  obtain ⟨groups, rfl, hgroups⟩ := h
  obtain ⟨own, hown, hR⟩ : ∃ own ∈ groups, R a own := by
    induction hgroups with
    | nil => cases ha
    | cons hR _ ih =>
      rcases List.mem_cons.mp ha with rfl | ha
      · exact ⟨_, List.mem_cons_self, hR⟩
      · obtain ⟨own, hown, hR⟩ := ih ha
        exact ⟨own, List.mem_cons_of_mem _ hown, hR⟩
  exact ⟨own, hR, List.infix_of_mem_flatten hown⟩

/-- Every item has its group. -/
theorem exists_group (h : InGroups R items calls) {a : α} (ha : a ∈ items) :
    ∃ own, R a own ∧ ∀ c ∈ own, c ∈ calls := by
  obtain ⟨own, hR, hinfix⟩ := h.exists_infix ha
  exact ⟨own, hR, fun c hc => hinfix.subset hc⟩

end InGroups

end PodNet
