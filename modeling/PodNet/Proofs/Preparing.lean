import Mathlib.Data.List.Forall2
import PodNet.Proofs.Resolving

/-!
# Tasks that prepare

Where built-in configurations are written to the directory, resolving does more than look: it may
change the files. It still calls no plugin and tells no pod anything, and what it comes to depends on
the files alone. `Settles` says what such a task comes to and which files it leaves, `Prepares` that
it is such a task whatever the files are. Resolving prepares (`prepares_resolve`), and leaving out
what cannot be resolved leaves the attachments that the other requests come to, each in its turn
(`settles_resolveSome`).
-/

namespace PodNet

namespace Task

variable {α β : Type} {files left : FileSystem}

/-- **On the files the task settles on an outcome** and leaves files: all that it has to do with the
outside is to ask. -/
def Settles (task : Task α) (files : FileSystem) (outcome : Except Failure α) (left : FileSystem) :
    Prop :=
  ∃ asked, (∀ e ∈ asked, Event.IsQuestion e) ∧
    ∀ journal, task.runOn ⟨files, journal⟩ = (outcome, ⟨left, journal ++ asked⟩)

/-- The task settles on an outcome, whatever the files are. -/
def Prepares (task : Task α) : Prop :=
  ∀ files, ∃ outcome left, task.Settles files outcome left

namespace Settles

/-- A task that only looks leaves the files as they are. -/
theorem of_finds {task : Task α} {outcome : Except Failure α} (h : task.Finds files outcome) :
    task.Settles files outcome files :=
  h

/-- A task settles on one outcome. -/
theorem unique {task : Task α} {outcome other : Except Failure α} {left' : FileSystem}
    (h : task.Settles files outcome left) (h' : task.Settles files other left') :
    outcome = other := by
  obtain ⟨_, -, hrun⟩ := h
  obtain ⟨_, -, hrun'⟩ := h'
  have hsame := hrun []
  rw [hrun' []] at hsame
  exact (congrArg Prod.fst hsame).symm

/-- A task that only looks settles on what it finds. -/
theorem of_onlyLooks {task : Task α} {outcome : Except Failure α}
    (h : task.Settles files outcome left) (hlooks : OnlyLooks task) :
    left = files ∧ task.Finds files outcome := by
  obtain ⟨found, asked, hasked, hrun⟩ := hlooks files
  obtain ⟨_, -, hsettled⟩ := h
  have hsame := hrun []
  rw [hsettled []] at hsame
  cases hsame
  exact ⟨rfl, asked, hasked, hrun⟩

/-- A run comes to what the task settles on. -/
theorem runOn_fst {task : Task α} {node : Node} {outcome : Except Failure α}
    (h : task.Settles node.files outcome left) : (task.runOn node).1 = outcome := by
  obtain ⟨_, -, hrun⟩ := h
  exact congrArg Prod.fst (hrun node.journal)

/-- A run leaves the files that the task settles on. -/
theorem runOn_files {task : Task α} {node : Node} {outcome : Except Failure α}
    (h : task.Settles node.files outcome left) : (task.runOn node).2.files = left := by
  obtain ⟨_, -, hrun⟩ := h
  exact congrArg (fun r => r.2.files) (hrun node.journal)

theorem attempt {task : Task α} {outcome : Except Failure α}
    (h : task.Settles files outcome left) : (Task.attempt task).Settles files (.ok outcome) left := by
  obtain ⟨asked, hasked, hrun⟩ := h
  exact ⟨asked, hasked, fun journal => by rw [runOn_attempt, hrun]⟩

theorem bind {task : Task α} {next : α → Task β} {a : α} {outcome : Except Failure β}
    {mid : FileSystem} (h : task.Settles files (.ok a) mid)
    (h' : (next a).Settles mid outcome left) : (task >>= next).Settles files outcome left := by
  obtain ⟨asked, hasked, hrun⟩ := h
  obtain ⟨more, hmore, hrun'⟩ := h'
  refine ⟨asked ++ more, ?_, fun journal => ?_⟩
  · intro e he
    rcases List.mem_append.mp he with he | he
    · exact hasked e he
    · exact hmore e he
  · rw [runOn_bind_ok (hrun journal), hrun', List.append_assoc]

theorem bind_error {task : Task α} {next : α → Task β} {f : Failure}
    (h : task.Settles files (.error f) left) : (task >>= next).Settles files (.error f) left := by
  obtain ⟨asked, hasked, hrun⟩ := h
  exact ⟨asked, hasked, fun journal => runOn_bind_error (hrun journal) next⟩

end Settles

namespace Prepares

theorem of_onlyLooks {task : Task α} (h : OnlyLooks task) : Prepares task := fun files =>
  let ⟨outcome, hfind⟩ := h files
  ⟨outcome, files, hfind⟩

theorem change (f : FileSystem → Except Failure Unit × FileSystem) : Prepares (Task.change f) :=
  fun files => ⟨(f files).1, (f files).2, [], by simp, fun journal => by rw [List.append_nil]; rfl⟩

theorem bind {task : Task α} {next : α → Task β} (h : Prepares task)
    (h' : ∀ a, Prepares (next a)) : Prepares (task >>= next) := by
  intro files
  obtain ⟨f | a, mid, htask⟩ := h files
  · exact ⟨_, mid, htask.bind_error⟩
  · obtain ⟨outcome, left, hnext⟩ := h' a mid
    exact ⟨outcome, left, htask.bind hnext⟩

/-- A run of a task that prepares. -/
theorem runOn_eq {task : Task α} (h : Prepares task) {node last : Node}
    {outcome : Except Failure α} (hrun : task.runOn node = (outcome, last)) :
    task.Settles node.files outcome last.files ∧ ∃ asked, (∀ e ∈ asked, Event.IsQuestion e) ∧
      last = ⟨last.files, node.journal ++ asked⟩ := by
  obtain ⟨found, left, asked, hasked, hall⟩ := h node.files
  have hsame := hall node.journal
  rw [hrun, Prod.mk.injEq] at hsame
  obtain ⟨rfl, rfl⟩ := hsame
  exact ⟨⟨asked, hasked, hall⟩, asked, hasked, rfl⟩

/-- What the task comes to depends on the files alone. -/
theorem runOn_fst_congr {task : Task α} (h : Prepares task) {node other : Node}
    (hfiles : node.files = other.files) : (task.runOn node).1 = (task.runOn other).1 := by
  obtain ⟨outcome, left, hsettles⟩ := h other.files
  rw [hsettles.runOn_fst]
  exact (hfiles ▸ hsettles : task.Settles node.files outcome left).runOn_fst

end Prepares

end Task

/-! ### Resolving prepares -/

namespace Resolver

theorem prepares_pluginList (r : Resolver) (plugin : String) :
    Task.Prepares (r.pluginList plugin) := by
  cases hpersist : r.persistBuiltins with
  | false => exact .of_onlyLooks (onlyLooks_pluginList hpersist plugin)
  | true =>
    unfold pluginList
    refine .bind (.of_onlyLooks (.look _)) fun found => ?_
    split
    · exact .of_onlyLooks (.look _)
    · refine .bind (.of_onlyLooks (.look _)) fun conf => ?_
      rw [hpersist]
      exact .bind (.change _) fun _ => .of_onlyLooks (.ofExcept _)

/-- **Resolving a request prepares.** -/
theorem prepares_resolve (r : Resolver) (request : AttachmentRequest) :
    Task.Prepares (r.resolve request) := by
  unfold resolve
  split
  · exact .bind (r.prepares_pluginList _) fun l => .of_onlyLooks (.pure _)
  · refine .bind (.of_onlyLooks (.look _)) fun found => ?_
    split
    · exact .of_onlyLooks (.pure _)
    · exact .bind (r.prepares_pluginList _) fun l => .of_onlyLooks (.pure _)
  · exact .of_onlyLooks (.bind (r.onlyLooks_netAttachDefList _ _) fun l => .pure _)
  · refine .bind (.of_onlyLooks (r.onlyLooks_logicalCarving _ _)) fun carving => ?_
    refine .bind (.of_onlyLooks (.ofExcept _)) fun plugin => ?_
    exact .bind (r.prepares_pluginList _) fun l => .of_onlyLooks (.pure _)

theorem prepares_resolveAll (r : Resolver) (requests : List AttachmentRequest) :
    Task.Prepares (r.resolveAll requests) := by
  induction requests with
  | nil => exact .of_onlyLooks (.pure _)
  | cons request rest ih =>
    exact .bind (r.prepares_resolve request) fun a =>
      .bind ih fun attachments => .of_onlyLooks (.pure _)

/-! ### Each request in its turn -/

/-- What an attachment that was resolved asks for is what was asked for, but for the plugin, which
may have been open. -/
def Answers (a : Attachment) (request : AttachmentRequest) : Prop :=
  ∃ plugin, a.request = { request with plugin }

theorem answers_attachment (request : AttachmentRequest) (conf : ConfList)
    (subnet : Option String) : Answers (attachment request conf subnet) request := by
  unfold attachment
  split
  · exact ⟨conf.primaryType, rfl⟩
  · exact ⟨request.plugin, rfl⟩

/-- **A request is resolved to an attachment that answers it.** -/
theorem yields_answers (r : Resolver) (request : AttachmentRequest) :
    Task.Yields (fun a => Answers a request) (r.resolve request) := by
  unfold resolve
  split
  · exact .bind_of_forall fun l => .pure (answers_attachment _ _ _)
  · refine .bind_of_forall fun found => ?_
    split
    · exact .pure (answers_attachment _ _ _)
    · exact .bind_of_forall fun l => .pure (answers_attachment _ _ _)
  · exact .bind_of_forall fun l => .pure (answers_attachment _ _ _)
  · exact .bind_of_forall fun carving => .bind_of_forall fun plugin => .bind_of_forall fun l =>
      .pure (answers_attachment _ _ _)

/-- All requests are resolved to attachments that answer them. -/
theorem yields_forall₂_answers (r : Resolver) (requests : List AttachmentRequest) :
    Task.Yields (List.Forall₂ Answers · requests) (r.resolveAll requests) := by
  induction requests with
  | nil => exact .pure .nil
  | cons request rest ih =>
    exact .bind (r.yields_answers request) fun a ha =>
      .bind ih fun attachments hrest => .pure (.cons ha hrest)

/-- What the requests come to when each is resolved in its turn, on the files that resolving those
before it leaves. -/
def outcomes (r : Resolver) (files : FileSystem) :
    List AttachmentRequest → List (Except Failure Attachment)
  | [] => []
  | request :: rest =>
    let run := (r.resolve request).runOn ⟨files, []⟩
    run.1 :: outcomes r run.2.files rest

/-- The attachments among outcomes. -/
def resolved (found : List (Except Failure Attachment)) : List Attachment :=
  found.filterMap Except.toOption

/-- Leaving out what cannot be resolved leaves the other outcomes. -/
theorem settles_resolveSome (r : Resolver) (files : FileSystem)
    (requests : List AttachmentRequest) :
    ∃ left, (r.resolveSome requests).Settles files (.ok (resolved (r.outcomes files requests)))
      left := by
  induction requests generalizing files with
  | nil => exact ⟨files, .of_finds (.pure _)⟩
  | cons request rest ih =>
    obtain ⟨outcome, mid, hresolve⟩ := r.prepares_resolve request files
    obtain ⟨left, hrest⟩ := ih mid
    have hfirst : ((r.resolve request).runOn ⟨files, []⟩).1 = outcome := hresolve.runOn_fst
    have hmid : ((r.resolve request).runOn ⟨files, []⟩).2.files = mid := hresolve.runOn_files
    rw [outcomes, hfirst, hmid, resolveSome]
    refine ⟨left, .bind hresolve.attempt ?_⟩
    cases outcome with
    | ok a => exact .bind hrest (.of_finds (.pure _))
    | error f => exact hrest

/-- Where nothing is written, the turn makes no difference. -/
theorem outcomes_eq_map {r : Resolver} (persist : r.persistBuiltins = false) (files : FileSystem)
    (requests : List AttachmentRequest) :
    r.outcomes files requests =
      requests.map fun request => ((r.resolve request).runOn ⟨files, []⟩).1 := by
  induction requests with
  | nil => rfl
  | cons request rest ih =>
    obtain ⟨outcome, hfind⟩ := onlyLooks_resolve persist request files
    have hfiles : ((r.resolve request).runOn ⟨files, []⟩).2.files = files :=
      (Task.Settles.of_finds hfind).runOn_files
    rw [outcomes, hfiles, ih, List.map_cons]

/-- **An attachment among the outcomes** is valid and answers the request at its place. -/
theorem of_getElem?_outcomes {r : Resolver} {files : FileSystem}
    {requests : List AttachmentRequest} {n : Nat} {a : Attachment}
    (h : (r.outcomes files requests)[n]? = some (.ok a)) :
    a.conf.Valid ∧ ∃ request, requests[n]? = some request ∧ Answers a request := by
  induction requests generalizing files n with
  | nil => simp [outcomes] at h
  | cons request rest ih =>
    cases n with
    | zero =>
      have hrun := Task.runOn_eq_of_fst (Option.some.inj h)
      exact ⟨r.yields_resolve request hrun, request, rfl, r.yields_answers request hrun⟩
    | succ n => exact ih h

theorem mem_resolved {found : List (Except Failure Attachment)} {a : Attachment} :
    a ∈ resolved found ↔ ∃ n : Nat, found[n]? = some (.ok a) := by
  rw [resolved, List.mem_filterMap]
  constructor
  · rintro ⟨outcome, hmem, h⟩
    cases outcome with
    | error f => cases h
    | ok b =>
      cases h
      exact List.mem_iff_getElem?.mp hmem
  · rintro ⟨n, h⟩
    exact ⟨.ok a, List.mem_of_getElem? h, rfl⟩

end Resolver

end PodNet
