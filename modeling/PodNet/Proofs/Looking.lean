import PodNet.Proofs.TaskRun

/-!
# Tasks that only look

Much of what an invocation does before it calls a plugin is looking: at the files, at what the
cluster answers. `Finds` says what a task comes to that does nothing else: the files stay as they
are, the journal gains questions and nothing more, and the outcome does not depend on the journal
before. So a second run on the same files comes to the same (`Finds.unique`), whatever happened in
between.

`Yields` is the other half of what is said of lookups: that whatever they find has a property.
-/

namespace PodNet

/-- The event asks something and changes nothing. -/
def Event.IsQuestion : Event → Prop
  | queried _ => True
  | requested _ => True
  | _ => False

namespace Task

variable {α β : Type} {files : FileSystem}

/-- **On the files the task finds an outcome**: it only looks, and comes to that. -/
def Finds (task : Task α) (files : FileSystem) (outcome : Except Failure α) : Prop :=
  ∃ asked, (∀ e ∈ asked, Event.IsQuestion e) ∧
    ∀ journal, task.runOn ⟨files, journal⟩ = (outcome, ⟨files, journal ++ asked⟩)

/-- The task only looks, whatever the files are. -/
def OnlyLooks (task : Task α) : Prop :=
  ∀ files, ∃ outcome, task.Finds files outcome

namespace Finds

theorem unique {task : Task α} {outcome other : Except Failure α} (h : task.Finds files outcome)
    (h' : task.Finds files other) : outcome = other := by
  obtain ⟨_, -, hrun⟩ := h
  obtain ⟨_, -, hrun'⟩ := h'
  have hsame := hrun []
  rw [hrun' []] at hsame
  exact (congrArg Prod.fst hsame).symm

theorem of_eq {task : Task α} {outcome other : Except Failure α} (h : task.Finds files outcome)
    (heq : outcome = other) : task.Finds files other :=
  heq ▸ h

/-- A run comes to what is found. -/
theorem runOn_fst {task : Task α} {node : Node} {outcome : Except Failure α}
    (h : task.Finds node.files outcome) : (task.runOn node).1 = outcome := by
  obtain ⟨_, -, hrun⟩ := h
  exact congrArg Prod.fst (hrun node.journal)

/-- A task that leaves the node alone finds what it comes to. -/
theorem of_runOn {task : Task α} {outcome : Except Failure α}
    (h : ∀ journal, task.runOn ⟨files, journal⟩ = (outcome, ⟨files, journal⟩)) :
    task.Finds files outcome :=
  ⟨[], by simp, fun journal => by rw [h, List.append_nil]⟩

theorem pure (a : α) : (Pure.pure a : Task α).Finds files (.ok a) :=
  of_runOn fun _ => rfl

theorem throw (f : Failure) : (MonadExcept.throw f : Task α).Finds files (.error f) :=
  of_runOn fun _ => rfl

theorem ofExcept (answer : Except Failure α) : (Task.ofExcept answer).Finds files answer :=
  of_runOn fun _ => rfl

theorem look (f : FileSystem → Except Failure α) : (Task.look f).Finds files (f files) :=
  of_runOn fun _ => rfl

theorem note {e : Event} (h : e.IsQuestion) : (Task.note e).Finds files (.ok ()) :=
  ⟨[e], by simpa using h, fun _ => rfl⟩

theorem query (q : Query) (answer : Except Failure α) : (Task.query q answer).Finds files answer :=
  ⟨[.queried q], by simp [Event.IsQuestion], fun _ => rfl⟩

theorem attempt {task : Task α} {outcome : Except Failure α} (h : task.Finds files outcome) :
    (Task.attempt task).Finds files (.ok outcome) := by
  obtain ⟨asked, hasked, hrun⟩ := h
  exact ⟨asked, hasked, fun journal => by rw [runOn_attempt, hrun]⟩

/-- Looking at the whole node for its files. -/
theorem get_bind (next : FileSystem → Task β) {outcome : Except Failure β}
    (h : (next files).Finds files outcome) :
    (get >>= fun node : Node => next node.files : Task β).Finds files outcome := by
  obtain ⟨asked, hasked, hrun⟩ := h
  refine ⟨asked, hasked, fun journal => ?_⟩
  rw [runOn_bind_ok (runOn_get _)]
  exact hrun journal

theorem bind {task : Task α} {next : α → Task β} {a : α} {outcome : Except Failure β}
    (h : task.Finds files (.ok a)) (h' : (next a).Finds files outcome) :
    (task >>= next).Finds files outcome := by
  obtain ⟨asked, hasked, hrun⟩ := h
  obtain ⟨more, hmore, hrun'⟩ := h'
  refine ⟨asked ++ more, ?_, fun journal => ?_⟩
  · intro e he
    rcases List.mem_append.mp he with he | he
    · exact hasked e he
    · exact hmore e he
  · rw [runOn_bind_ok (hrun journal), hrun', List.append_assoc]

theorem bind_pure {task : Task α} {outcome : Except Failure α} (h : task.Finds files outcome)
    (g : α → β) : (task >>= fun a => Pure.pure (g a)).Finds files (outcome.map g) := by
  obtain ⟨asked, hasked, hrun⟩ := h
  exact ⟨asked, hasked, fun journal => by rw [runOn_bind_pure, hrun]⟩

theorem bind_error {task : Task α} {next : α → Task β} {f : Failure}
    (h : task.Finds files (.error f)) : (task >>= next).Finds files (.error f) := by
  obtain ⟨asked, hasked, hrun⟩ := h
  exact ⟨asked, hasked, fun journal => runOn_bind_error (hrun journal) next⟩

/-- What a task finds that begins with a look at the files. -/
theorem of_look_bind {f : FileSystem → Except Failure α} {next : α → Task β} {b : β}
    (h : (Task.look f >>= next).Finds files (.ok b)) :
    ∃ a, f files = .ok a ∧ (next a).Finds files (.ok b) := by
  cases hlook : f files with
  | error e =>
    have herror : (Task.look f).Finds files (.error e) := hlook ▸ look f
    cases h.unique herror.bind_error
  | ok a =>
    obtain ⟨asked, hasked, hrun⟩ := h
    refine ⟨a, rfl, asked, hasked, fun journal => ?_⟩
    rw [← hrun, runOn_bind_ok]
    rw [runOn_look, hlook]

end Finds

namespace OnlyLooks

theorem pure (a : α) : OnlyLooks (Pure.pure a) := fun _ => ⟨_, .pure a⟩

theorem throw (f : Failure) : OnlyLooks (MonadExcept.throw f : Task α) := fun _ => ⟨_, .throw f⟩

theorem ofExcept (answer : Except Failure α) : OnlyLooks (Task.ofExcept answer) :=
  fun _ => ⟨_, .ofExcept answer⟩

theorem look (f : FileSystem → Except Failure α) : OnlyLooks (Task.look f) := fun _ => ⟨_, .look f⟩

theorem query (q : Query) (answer : Except Failure α) : OnlyLooks (Task.query q answer) :=
  fun _ => ⟨_, .query q answer⟩

theorem bind {task : Task α} {next : α → Task β} (h : OnlyLooks task)
    (h' : ∀ a, OnlyLooks (next a)) : OnlyLooks (task >>= next) := by
  intro files
  obtain ⟨f | a, hfind⟩ := h files
  · exact ⟨_, hfind.bind_error⟩
  · obtain ⟨outcome, hnext⟩ := h' a files
    exact ⟨outcome, hfind.bind hnext⟩

/-- A run of a task that only looks. -/
theorem runOn_eq {task : Task α} (h : OnlyLooks task) {node left : Node}
    {outcome : Except Failure α} (hrun : task.runOn node = (outcome, left)) :
    task.Finds node.files outcome ∧ ∃ asked, (∀ e ∈ asked, Event.IsQuestion e) ∧
      left = ⟨node.files, node.journal ++ asked⟩ := by
  obtain ⟨found, asked, hasked, hall⟩ := h node.files
  have hsame := hall node.journal
  rw [hrun, Prod.mk.injEq] at hsame
  obtain ⟨rfl, rfl⟩ := hsame
  exact ⟨⟨asked, hasked, hall⟩, asked, hasked, rfl⟩

/-- What a sequence finds, its parts find. -/
theorem finds_of_bind {task : Task α} {next : α → Task β} (h : OnlyLooks task)
    (h' : ∀ a, OnlyLooks (next a)) {b : β} (hfind : (task >>= next).Finds files (.ok b)) :
    ∃ a, task.Finds files (.ok a) ∧ (next a).Finds files (.ok b) := by
  obtain ⟨f | a, htask⟩ := h files
  · cases htask.bind_error.unique hfind
  · obtain ⟨outcome, hnext⟩ := h' a files
    rw [(htask.bind hnext).unique hfind] at hnext
    exact ⟨a, htask, hnext⟩

end OnlyLooks

/-- **What the task comes to has a property**, whenever it succeeds. -/
def Yields (P : α → Prop) (task : Task α) : Prop :=
  ∀ ⦃node left a⦄, task.runOn node = (.ok a, left) → P a

namespace Yields

variable {P : α → Prop} {Q : β → Prop}

theorem pure {a : α} (h : P a) : Yields P (Pure.pure a) := by
  intro node left b hrun
  cases hrun
  exact h

theorem throw (f : Failure) : Yields P (MonadExcept.throw f) := by
  intro node left b hrun
  cases hrun

theorem ofExcept {answer : Except Failure α} (h : ∀ a, answer = .ok a → P a) :
    Yields P (Task.ofExcept answer) := by
  intro node left b hrun
  exact h b (congrArg Prod.fst hrun)

theorem look {f : FileSystem → Except Failure α} (h : ∀ files a, f files = .ok a → P a) :
    Yields P (Task.look f) := by
  intro node left b hrun
  exact h node.files b (congrArg Prod.fst hrun)

theorem query {q : Query} {answer : Except Failure α} (h : ∀ a, answer = .ok a → P a) :
    Yields P (Task.query q answer) := by
  intro node left b hrun
  exact h b (congrArg Prod.fst hrun)

/-- The property follows from what the first part yields. -/
theorem bind {task : Task α} {next : α → Task β} (h : Yields P task)
    (h' : ∀ a, P a → Yields Q (next a)) : Yields Q (task >>= next) := by
  intro node last b hrun
  obtain ⟨a, left, htask, hnext⟩ := runOn_bind_eq_ok.mp hrun
  exact h' a (h htask) hnext

/-- The property does not depend on what the first part yields. -/
theorem bind_of_forall {task : Task α} {next : α → Task β} (h : ∀ a, Yields Q (next a)) :
    Yields Q (task >>= next) :=
  bind (P := fun _ => True) (fun _ _ _ _ => trivial) fun a _ => h a

end Yields

end Task

end PodNet
