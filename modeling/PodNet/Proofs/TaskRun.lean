import PodNet.Resolution

/-!
# Running tasks

`Task.runOn` runs a task on a node: what the task comes to, and the node as it leaves it. The
equations here say it for steps and for sequences, so that no proof looks into the monad. What
happened while a task ran is what it added to the journal, `Task.events`.
-/

namespace PodNet

namespace Task

variable {α β : Type}

/-- What a task comes to on a node, and the node as the task leaves it. -/
def runOn (task : Task α) (node : Node) : Except Failure α × Node :=
  task.run node

/-- What happened while the task ran on the node. -/
def events (task : Task α) (node : Node) : List Event :=
  (task.runOn node).2.journal.drop node.journal.length

/-- A run, given what it comes to. -/
theorem runOn_eq_of_fst {task : Task α} {node : Node} {outcome : Except Failure α}
    (h : (task.runOn node).1 = outcome) : task.runOn node = (outcome, (task.runOn node).2) :=
  Prod.ext h rfl

/-! ### Single steps -/

@[simp] theorem runOn_pure (a : α) (node : Node) :
    (pure a : Task α).runOn node = (.ok a, node) := rfl

@[simp] theorem runOn_throw (f : Failure) (node : Node) :
    (throw f : Task α).runOn node = (.error f, node) := rfl

@[simp] theorem runOn_get (node : Node) : (get : Task Node).runOn node = (.ok node, node) := rfl

@[simp] theorem runOn_ofExcept (answer : Except Failure α) (node : Node) :
    (ofExcept answer).runOn node = (answer, node) := rfl

@[simp] theorem runOn_attempt (task : Task α) (node : Node) :
    (attempt task).runOn node = (.ok (task.runOn node).1, (task.runOn node).2) := rfl

@[simp] theorem runOn_look (f : FileSystem → Except Failure α) (node : Node) :
    (look f).runOn node = (f node.files, node) := rfl

/-! ### Tasks in sequence -/

theorem runOn_bind (task : Task α) (next : α → Task β) (node : Node) :
    (task >>= next).runOn node =
      match task.runOn node with
      | (.ok a, left) => (next a).runOn left
      | (.error f, left) => (.error f, left) := by
  show ExceptT.bindCont next (task.run node).1 (task.run node).2 = _
  unfold runOn
  rcases task.run node with ⟨_ | _, _⟩ <;> rfl

theorem runOn_bind_ok {task : Task α} {node left : Node} {a : α}
    (h : task.runOn node = (.ok a, left)) (next : α → Task β) :
    (task >>= next).runOn node = (next a).runOn left := by
  rw [runOn_bind, h]

theorem runOn_bind_error {task : Task α} {node left : Node} {f : Failure}
    (h : task.runOn node = (.error f, left)) (next : α → Task β) :
    (task >>= next).runOn node = (.error f, left) := by
  rw [runOn_bind, h]

theorem runOn_bind_pure (task : Task α) (g : α → β) (node : Node) :
    (task >>= fun a => pure (g a)).runOn node =
      ((task.runOn node).1.map g, (task.runOn node).2) := by
  rw [runOn_bind]
  rcases task.runOn node with ⟨_ | _, _⟩ <;> rfl

/-- A sequence succeeds when its parts do. -/
theorem runOn_bind_eq_ok {task : Task α} {next : α → Task β} {node last : Node} {b : β} :
    (task >>= next).runOn node = (.ok b, last) ↔
      ∃ a left, task.runOn node = (.ok a, left) ∧ (next a).runOn left = (.ok b, last) := by
  constructor
  · intro h
    rw [runOn_bind] at h
    rcases hrun : task.runOn node with ⟨f | a, left⟩
    · rw [hrun] at h
      cases h
    · rw [hrun] at h
      exact ⟨a, left, rfl, h⟩
  · rintro ⟨a, left, hrun, h⟩
    rw [runOn_bind_ok hrun, h]

end Task

end PodNet
