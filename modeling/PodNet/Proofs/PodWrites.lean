import PodNet.Proofs.StatusWritten

/-!
# When a pod is told

A run that attaches prepares, calls plugins, and then tells the pod, in that order. Everything up to
the calls is `attach`, and `AttachOutcome` says what may come of it: something stands in the way
(`Hindered`) and no plugin is called, or the plugins are called as `Delegation.AddOutcome` says. The
pod is told only where that succeeds, once, and last (`add_tells`). What the cluster answers to it
makes no difference.
-/

namespace PodNet

/-- The event sends annotations to a pod. -/
def Event.IsPatch : Event → Prop
  | patched _ _ _ _ => True
  | _ => False

theorem Event.IsQuestion.not_isPatch {e : Event} (h : e.IsQuestion) : ¬ e.IsPatch := by
  cases e with
  | patched _ _ _ _ => cases h
  | _ => exact id

/-! ### Pods that ask for nothing -/

namespace Intent

/-- No annotation that asks for networks has a value other than blanks. -/
def AsksForNothing (annotations : Annotations) : Prop :=
  ∀ key ∈ [selectionKey, cniKey, networksKey], value? key annotations = none

theorem ofAnnotations_eq_default_iff (d : Directory) (fs : FileSystem) (podNamespace : String)
    (annotations : Annotations) :
    ofAnnotations d fs podNamespace annotations = .ok .default ↔ AsksForNothing annotations := by
  have hsome (outcome : Except Failure (List AttachmentRequest))
      (h : stated d fs podNamespace annotations = outcome.map some) :
      ofAnnotations d fs podNamespace annotations ≠ .ok .default := by
    rw [ofAnnotations, h]
    intro hdefault
    cases outcome with
    | error f => cases hdefault
    | ok wanted =>
      cases hassign : AttachmentRequest.assign wanted <;>
        simp [Except.map, bind, Except.bind, hassign, pure, Except.pure] at hdefault
  cases hselection : value? selectionKey annotations with
  | some value =>
    have hstated := hsome (ofSelection podNamespace value) (by rw [stated, hselection])
    simp [AsksForNothing, hselection, hstated]
  | none =>
    cases hcni : value? cniKey annotations with
    | some value =>
      have hstated := hsome (ofCni d fs podNamespace value)
        (by rw [stated, hselection, hcni])
      simp [AsksForNothing, hcni, hstated]
    | none =>
      cases hnetworks : value? networksKey annotations with
      | some value =>
        have hstated := hsome (ofNetworks podNamespace value)
          (by rw [stated, hselection, hcni, hnetworks])
        simp [AsksForNothing, hnetworks, hstated]
      | none =>
        have hstated : stated d fs podNamespace annotations = .ok none := by
          rw [stated, hselection, hcni, hnetworks]
        simp [AsksForNothing, hselection, hcni, hnetworks, ofAnnotations, hstated, bind, Except.bind,
          pure, Except.pure]

end Intent

/-! ### Resolving all requests -/

/-- All requests are resolved if and only if each is, in its turn. -/
theorem Resolver.settles_resolveAll (r : Resolver) (files : FileSystem)
    (requests : List AttachmentRequest) :
    ∃ outcome left, (r.resolveAll requests).Settles files outcome left ∧
      ((∃ f, outcome = .error f) ↔ ∃ f, .error f ∈ r.outcomes files requests) := by
  induction requests generalizing files with
  | nil => exact ⟨_, files, .of_finds (.pure _), by simp [outcomes]⟩
  | cons request rest ih =>
    obtain ⟨outcome, mid, hresolve⟩ := r.prepares_resolve request files
    have hfirst : ((r.resolve request).runOn ⟨files, []⟩).1 = outcome := hresolve.runOn_fst
    have hmid : ((r.resolve request).runOn ⟨files, []⟩).2.files = mid := hresolve.runOn_files
    rw [outcomes, hfirst, hmid, resolveAll]
    cases outcome with
    | error f => exact ⟨.error f, mid, hresolve.bind_error, by simp⟩
    | ok a =>
      obtain ⟨outcome, left, hrest, hiff⟩ := ih mid
      cases outcome with
      | error f => exact ⟨.error f, left, hresolve.bind hrest.bind_error, by simpa using hiff⟩
      | ok attachments =>
        exact ⟨_, left, hresolve.bind (hrest.bind (.of_finds (.pure _))), by simpa using hiff⟩

/-! ### Calls that fail -/

/-- Where everything is attached no call fails. -/
theorem Delegation.AttachedCalls.forall_passed {s : Sandbox} {attachments : List Attachment}
    {calls : List Call} (h : AttachedCalls s attachments calls) :
    ∀ call ∈ calls, call.addFailure? = none := by
  intro call hcall
  obtain ⟨_, _, own, hown, hmem⟩ := h.exists_mem hcall
  exact List.findSome?_eq_none_iff.mp hown.failure_eq.symm call hmem

namespace Delegation.AddOutcome

variable {s : Sandbox} {done attachments : List Attachment} {calls : List Call}

/-- A failure is that of a call that attaches. -/
theorem exists_failed {f : Failure} (h : AddOutcome s done attachments calls (.error f)) :
    ∃ call ∈ calls, call.execution.command = .add ∧ call.addFailure? = some f := by
  cases h with
  | rolledBack _ hback =>
    obtain ⟨passed, call, rfl, hfailed, -⟩ := hback.failed.exists_of_some
    have hmem : call ∈ passed ++ [call] := List.mem_append_right _ List.mem_cons_self
    exact ⟨call, List.mem_append_left _ (List.mem_append_right _ hmem),
      hback.failed.command_eq call hmem, hfailed⟩

/-- Without a failure no call fails. -/
theorem forall_passed {results : List AddResult}
    (h : AddOutcome s done attachments calls (.ok results)) :
    ∀ call ∈ calls, call.addFailure? = none := by
  cases h with
  | attached hcalls _ => exact hcalls.forall_passed

end Delegation.AddOutcome

namespace Controller

variable {c : Controller} {i : Invocation} {files : FileSystem}

/-! ### What stands in the way -/

/-- **Something stands in the way of attaching**, before any plugin is called. -/
inductive Hindered (c : Controller) (i : Invocation) (files : FileSystem) : Prop where
  /-- The arguments do not say whom the invocation is for, or that pod cannot be looked up. -/
  | lookup {f : Failure} : c.LookedUp i (.error f) → Hindered c i files
  /-- What the pod asks for is refused. -/
  | intent {pod : Option PodContext} {f : Failure} :
    c.LookedUp i (.ok pod) → c.intentOf files pod = .error f → Hindered c i files
  /-- The pod asks for nothing, and no plugin is chosen for it. -/
  | selection {pod : Option PodContext} {f : Failure} :
    c.LookedUp i (.ok pod) → c.intentOf files pod = .ok .default →
      (c.selector.choose c.settings c.directory files).plugin = .error f → Hindered c i files
  /-- One of the planned requests, each in its turn, cannot be resolved. -/
  | resolution {pod : Option PodContext} {plan : Plan} {f : Failure} :
    c.LookedUp i (.ok pod) → (c.planAdd pod).Finds files (.ok plan) →
      .error f ∈ c.resolver.outcomes files plan.requests → Hindered c i files

/-- A plan that cannot be made stands in the way. -/
theorem Hindered.of_planAdd {pod : Option PodContext} {f : Failure}
    (hpod : c.LookedUp i (.ok pod)) (h : (c.planAdd pod).Finds files (.error f)) :
    Hindered c i files := by
  cases hintent : c.intentOf files pod with
  | error g => exact .intent hpod hintent
  | ok intent =>
    have hlook := (Task.Finds.look fun fs => c.intentOf fs pod).of_eq hintent
    cases intent with
    | requests wanted => cases h.unique (hlook.bind (.pure _))
    | default =>
      cases hchoice : (c.selector.choose c.settings c.directory files).plugin with
      | error g => exact .selection hpod hintent hchoice
      | ok plugin =>
        have hchosen := (c.finds_choosePlugin files).of_eq hchoice
        cases h.unique (hlook.bind (hchosen.bind (.pure _)))

/-! ### Preparing -/

/-- What a run has found out before it calls a plugin. -/
structure Prepared where
  pod : Option PodContext
  plan : Plan
  attachments : List Attachment

/-- Finds out what to attach. -/
def prepare (c : Controller) (i : Invocation) : Task Prepared := do
  let pod ← c.lookupPod i
  let plan ← c.planAdd pod
  let attachments ← c.resolver.resolveAll plan.requests
  return ⟨pod, plan, attachments⟩

/-- What was found out is what the program looks up, plans and resolves. -/
structure Prepared.Sound (c : Controller) (i : Invocation) (files : FileSystem) (p : Prepared) :
    Prop where
  lookedUp : c.LookedUp i (.ok p.pod)
  planned : (c.planAdd p.pod).Finds files (.ok p.plan)
  valid : ∀ a ∈ p.attachments, a.conf.Valid

/-- What stands in the way is met while preparing. -/
theorem Hindered.settles_prepare (h : c.Hindered i files) :
    ∃ f left, (c.prepare i).Settles files (.error f) left := by
  cases h with
  | lookup hfailed => exact ⟨_, files, .bind_error hfailed.finds⟩
  | intent hpod hfailed =>
    have hlook := (Task.Finds.look fun fs => c.intentOf fs _).of_eq hfailed
    exact ⟨_, files, .bind hpod.finds (.bind_error hlook.bind_error)⟩
  | selection hpod hdefault hfailed =>
    have hlook := (Task.Finds.look fun fs => c.intentOf fs _).of_eq hdefault
    have hchosen := (c.finds_choosePlugin files).of_eq hfailed
    exact ⟨_, files, .bind hpod.finds (.bind_error (hlook.bind hchosen.bind_error))⟩
  | resolution hpod hplan hfailed =>
    obtain ⟨outcome, left, hresolve, hiff⟩ := c.resolver.settles_resolveAll files _
    obtain ⟨f, rfl⟩ := hiff.mpr ⟨_, hfailed⟩
    exact ⟨f, left, .bind hpod.finds (.bind hplan hresolve.bind_error)⟩

/-- **Preparing fails if and only if something stands in the way.** -/
theorem settles_prepare (c : Controller) (i : Invocation) (files : FileSystem) :
    (∃ f left, (c.prepare i).Settles files (.error f) left ∧ c.Hindered i files) ∨
      ∃ p left, (c.prepare i).Settles files (.ok p) left ∧ ¬ c.Hindered i files ∧
        p.Sound c i files := by
  obtain ⟨f | pod, hpod⟩ := c.exists_lookedUp i
  · exact .inl ⟨f, files, .bind_error hpod.finds, .lookup hpod⟩
  obtain ⟨f | plan, hplan⟩ := c.onlyLooks_planAdd pod files
  · exact .inl ⟨f, files, .bind hpod.finds (.bind_error hplan), .of_planAdd hpod hplan⟩
  obtain ⟨f | attachments, left, hresolve, hiff⟩ := c.resolver.settles_resolveAll files plan.requests
  · obtain ⟨g, hg⟩ := hiff.mp ⟨f, rfl⟩
    exact .inl ⟨f, left, .bind hpod.finds (.bind hplan hresolve.bind_error),
      .resolution hpod hplan hg⟩
  · have hsettles : (c.prepare i).Settles files (.ok ⟨pod, plan, attachments⟩) left :=
      .bind hpod.finds (.bind hplan (hresolve.bind (.of_finds (.pure _))))
    obtain ⟨_, -, hrun⟩ := hresolve
    refine .inr ⟨_, left, hsettles, fun hindered => ?_, hpod, hplan,
      c.resolver.yields_resolveAll plan.requests (hrun [])⟩
    obtain ⟨f, other, herror⟩ := hindered.settles_prepare
    cases hsettles.unique herror

/-! ### Up to the point where the pod is told -/

/-- Prepares and calls plugins. -/
def attach (c : Controller) (i : Invocation) : Task (Prepared × List AddResult) := do
  let p ← c.prepare i
  let results ← Delegation.addAll c.executor (sandbox i p.pod) p.attachments
  return (p, results)

/-- **What comes of it**, and the calls that are made: something stands in the way and nothing is
called, or the plugins are called for what was found out. -/
inductive AttachOutcome (c : Controller) (i : Invocation) (files : FileSystem) :
    List Call → Except Failure (Prepared × List AddResult) → Prop where
  /-- Something stands in the way. -/
  | hindered {f : Failure} : c.Hindered i files → AttachOutcome c i files [] (.error f)
  /-- Nothing does, and attaching has one of its two outcomes. -/
  | called {p : Prepared} {calls : List Call} {outcome : Except Failure (List AddResult)} :
    ¬ c.Hindered i files → p.Sound c i files →
      Delegation.AddOutcome (sandbox i p.pod) [] p.attachments calls outcome →
      AttachOutcome c i files calls (outcome.map fun results => (p, results))

/-- A run asks, and then calls, and the executor answers the calls. -/
theorem attach_called (c : Controller) (i : Invocation) (node : Node) :
    let run := (c.attach i).runOn node
    let calls := (c.attach i).calls node
    AttachOutcome c i node.files calls run.1 ∧ (∃ start, Called c.executor start calls run.2) ∧
      ∃ asked, (∀ e ∈ asked, Event.IsQuestion e) ∧
        run.2.journal = node.journal ++ (asked ++ calls.map Call.event) := by
  suffices h : ∃ asked calls start, (∀ e ∈ asked, Event.IsQuestion e) ∧
      AttachOutcome c i node.files calls ((c.attach i).runOn node).1 ∧
      Called c.executor start calls ((c.attach i).runOn node).2 ∧
      ((c.attach i).runOn node).2.journal = node.journal ++ (asked ++ calls.map Call.event) by
    obtain ⟨asked, calls, start, hasked, houtcome, hcalled, hjournal⟩ := h
    have hleft : ((c.attach i).runOn node).2 = ⟨((c.attach i).runOn node).2.files,
        node.journal ++ (asked ++ calls.map Call.event ++ [])⟩ := by
      rw [List.append_nil, ← hjournal]
    have hcalls := Task.calls_eq_of_left hasked (by simp) hleft
    dsimp only
    rw [hcalls]
    exact ⟨houtcome, ⟨start, hcalled⟩, asked, hasked, hjournal⟩
  rcases c.settles_prepare i node.files with
    ⟨f, left, ⟨asked, hasked, hrun⟩, hindered⟩ | ⟨p, left, ⟨asked, hasked, hrun⟩, clear, sound⟩
  · rw [attach, Task.runOn_bind_error (hrun node.journal)]
    exact ⟨asked, [], _, hasked, .hindered hindered, .nil _, by simp⟩
  · obtain ⟨calls, hcalled, houtcome⟩ := Delegation.addAll_called c.executor (sandbox i p.pod)
      p.attachments sound.valid ⟨left, node.journal ++ asked⟩
    rw [attach, Task.runOn_bind_ok (hrun node.journal), Task.runOn_bind_pure]
    refine ⟨asked, calls, _, hasked, .called clear sound houtcome, hcalled, ?_⟩
    dsimp only
    rw [hcalled.eq_after, Node.after, List.append_assoc]

/-! ### Telling the pod -/

/-- What is sent in the end: the status, if there is a pod and something to tell. -/
def statusSent (c : Controller) : Except Failure (Prepared × List AddResult) → List Event
  | .error _ => []
  | .ok (p, results) =>
    match p.pod, c.cluster with
    | some pod, some cluster =>
      let annotations := statusFor pod p.plan p.attachments results
      [.patched pod.ns pod.name annotations (cluster.patchPod pod.ns pod.name annotations)]
    | _, _ => []

/-- Attaching is calling plugins and then telling the pod. -/
theorem add_eq (c : Controller) (i : Invocation) :
    c.add i = c.attach i >>= fun made => do
      c.writeStatus made.1.plan made.1.attachments made.2 made.1.pod
      return AddResult.merge c.settings.cniVersion made.2 := by
  simp only [add, attach, prepare, bind_assoc, pure_bind]

/-- The outcome of a run is settled when the pod is told. -/
theorem add_runOn (c : Controller) (i : Invocation) (node : Node) :
    let run := (c.attach i).runOn node
    (c.add i).runOn node =
      (run.1.map fun made => AddResult.merge c.settings.cniVersion made.2,
        ⟨run.2.files, run.2.journal ++ c.statusSent run.1⟩) := by
  rw [add_eq, Task.runOn_bind]
  rcases (c.attach i).runOn node with ⟨f | ⟨p, results⟩, left⟩
  · simp [statusSent, Except.map]
  · obtain ⟨pod, plan, attachments⟩ := p
    cases pod with
    | none => simp [writeStatus, statusSent, Except.map]
    | some pod =>
      cases hcluster : c.cluster with
      | none => simp [writeStatus, statusSent, hcluster, Except.map]
      | some cluster =>
        simp only [writeStatus, statusSent, hcluster]
        rfl

/-- **A run asks, then calls, then tells**, and nothing else happens. -/
theorem add_events (c : Controller) (i : Invocation) (node : Node) :
    let calls := (c.attach i).calls node
    (c.add i).calls node = calls ∧ ∃ asked, (∀ e ∈ asked, Event.IsQuestion e) ∧
      (c.add i).events node =
        asked ++ calls.map Call.event ++ c.statusSent ((c.attach i).runOn node).1 := by
  obtain ⟨-, -, asked, hasked, hjournal⟩ := c.attach_called i node
  have hrun := c.add_runOn i node
  generalize (c.attach i).calls node = calls at hjournal ⊢
  generalize (c.attach i).runOn node = run at hjournal hrun ⊢
  obtain ⟨outcome, left⟩ := run
  dsimp only at hjournal hrun ⊢
  have hleft : ((c.add i).runOn node).2 =
      ⟨left.files, node.journal ++ (asked ++ calls.map Call.event ++ c.statusSent outcome)⟩ := by
    rw [hrun, hjournal, List.append_assoc]
  have hsent : ∀ e ∈ c.statusSent outcome, e.call? = none := by
    intro e he
    unfold statusSent at he
    split at he
    · cases he
    · split at he
      · rw [List.mem_singleton.mp he]
        rfl
      · cases he
  exact ⟨Task.calls_eq_of_left hasked hsent hleft, asked, hasked, Task.events_eq hleft⟩

/-! ### Keys -/

/-- A pod with annotations is told something under the key. -/
def IsStatusKey (c : Controller) (annotations : Annotations) (key : String) : Prop :=
  key = statusKey ∨ (key = multiIpKey ∧ Table.has multiIpKey annotations = true) ∨
    (key = cniKey ∧ Intent.AsksForNothing annotations ∧ c.selector.isDynamic = true)

theorem has_statusFor (pod : PodContext) (plan : Plan) (attachments : List Attachment)
    (results : List AddResult) (key : String) :
    Table.has key (statusFor pod plan attachments results) = true ↔
      key = statusKey ∨ (key = multiIpKey ∧ Table.has multiIpKey pod.annotations = true) ∨
        (key = cniKey ∧ plan.noted.isSome = true) := by
  have hstatus : Table.has key (Status.annotations pod.annotations attachments results) = true ↔
      key = statusKey ∨ (key = multiIpKey ∧ Table.has multiIpKey pod.annotations = true) := by
    unfold Status.annotations Table.has
    cases Table.get? multiIpKey pod.annotations with
    | none => simp [Table.get?_cons]
    | some existing =>
      rw [Table.get?_insert]
      by_cases h : key = multiIpKey <;> simp [h, Table.get?_cons]
  unfold statusFor
  cases hnoted : plan.noted with
  | none => simp [hstatus]
  | some plugin =>
    simp only [Table.has, Table.get?_insert] at hstatus ⊢
    by_cases h : key = cniKey
    · simp [h]
    · simp [h, hstatus]

/-- A plugin is noted if and only if it was chosen dynamically for a pod that asks for nothing. -/
theorem noted_isSome_iff {pod : PodContext} {plan : Plan}
    (h : (c.planAdd (some pod)).Finds files (.ok plan)) :
    plan.noted.isSome = true ↔
      Intent.AsksForNothing pod.annotations ∧ c.selector.isDynamic = true := by
  rw [← Intent.ofAnnotations_eq_default_iff c.directory files pod.ns]
  rcases finds_planAdd h with ⟨hintent, hnoted⟩ | ⟨hintent, plugin, -, rfl⟩
  · rw [intentOf] at hintent
    simp [hintent, hnoted]
  · rw [intentOf] at hintent
    cases hdynamic : c.selector.isDynamic <;> simp [hintent]

/-! ### The run -/

/-- The controller with a cluster that answers otherwise when a pod is told. -/
def answering (c : Controller)
    (patchPod : String → String → Annotations → Except Failure Unit) : Controller :=
  { c with cluster := c.cluster.map fun cluster => { cluster with patchPod } }

theorem resolveAll_answering (c : Controller)
    (patchPod : String → String → Annotations → Except Failure Unit)
    (requests : List AttachmentRequest) :
    (c.answering patchPod).resolver.resolveAll requests = c.resolver.resolveAll requests := by
  induction requests with
  | nil => rfl
  | cons request rest ih =>
    have hresolve : (c.answering patchPod).resolver.resolve request =
        c.resolver.resolve request := by
      obtain ⟨settings, directory, _ | cluster, executor, selector⟩ := c
      · rfl
      · rfl
    rw [Resolver.resolveAll, Resolver.resolveAll, hresolve, ih]

/-- What comes before the pod is told does not depend on what the cluster answers to it. -/
theorem attach_answering (c : Controller)
    (patchPod : String → String → Annotations → Except Failure Unit) (i : Invocation) :
    (c.answering patchPod).attach i = c.attach i := by
  have hlookup : (c.answering patchPod).lookupPod i = c.lookupPod i := by
    obtain ⟨settings, directory, _ | cluster, executor, selector⟩ := c
    · rfl
    · rfl
  simp only [attach, prepare, hlookup, resolveAll_answering]
  rfl

/-- **What the cluster answers when the pod is told makes no difference**: neither to the outcome nor
to the calls nor to the files. -/
theorem add_answering (c : Controller)
    (patchPod : String → String → Annotations → Except Failure Unit) (i : Invocation) (node : Node) :
    let run := (c.add i).runOn node
    let other := ((c.answering patchPod).add i).runOn node
    other.1 = run.1 ∧ ((c.answering patchPod).add i).calls node = (c.add i).calls node ∧
      other.2.files = run.2.files := by
  have hrun := c.add_runOn i node
  have hother := (c.answering patchPod).add_runOn i node
  have hcalls := ((c.answering patchPod).add_events i node).1
  rw [attach_answering] at hother hcalls
  dsimp only
  rw [hother, hrun, hcalls, (c.add_events i node).1]
  exact ⟨rfl, rfl, rfl⟩

/-- Where nothing stands in the way, what is sent in the end is the status of the pod that the
arguments name. -/
theorem Prepared.Sound.statusSent_eq {p : Prepared} (h : p.Sound c i files)
    (results : List AddResult) :
    ∃ args, i.podArgs = .ok args ∧ (args.pod = none → c.statusSent (.ok (p, results)) = []) ∧
      ∀ ns name, args.pod = some (ns, name) → ∃ cluster pod annotations,
        c.cluster = some cluster ∧ cluster.pod ns name = .ok pod ∧
        c.statusSent (.ok (p, results)) =
          [.patched ns name annotations (cluster.patchPod ns name annotations)] ∧
        ∀ key, Table.has key annotations = true ↔
          c.IsStatusKey (pod.annotations.getD []) key := by
  obtain ⟨pod, plan, attachments⟩ := p
  obtain ⟨hpod, hplan, -⟩ := h
  dsimp only at hpod hplan
  cases hpod with
  | nobody hargs hnone =>
    refine ⟨_, hargs, fun _ => rfl, fun ns name hsome => ?_⟩
    rw [hnone] at hsome
    cases hsome
  | @found args ns name cluster found hargs hwho hcluster hfound =>
    refine ⟨args, hargs, fun hnone => ?_, fun ns' name' hsome => ?_⟩
    · rw [hnone] at hwho
      cases hwho
    · rw [hwho, Option.some.injEq, Prod.mk.injEq] at hsome
      obtain ⟨rfl, rfl⟩ := hsome
      let pod : PodContext := ⟨ns, name, found.annotations.getD []⟩
      refine ⟨cluster, found, statusFor pod plan attachments results, hcluster, hfound, ?_,
        fun key => ?_⟩
      · simp only [statusSent, hcluster, pod]
      · rw [has_statusFor, noted_isSome_iff hplan, IsStatusKey]

/-- **The pod is told once, last, and only of success.** If something stands in the way, no plugin is
called and the pod is told nothing; if a call that attaches fails, the pod is told nothing. If neither
happens, the run succeeds, and a pod that the arguments name is told under the keys of the status,
after everything else. What the cluster answers to that changes neither the outcome nor the calls nor
the files. -/
theorem add_tells (c : Controller) (i : Invocation) (node : Node) :
    let run := (c.add i).runOn node
    let calls := (c.add i).calls node
    let events := (c.add i).events node
    (c.Hindered i node.files →
      (∃ f, run.1 = .error f) ∧ calls = [] ∧ ∀ e ∈ events, ¬ e.IsPatch) ∧
    ((∃ call ∈ calls, call.execution.command = .add ∧ call.addFailure? ≠ none) →
      (∃ f, run.1 = .error f) ∧ ∀ e ∈ events, ¬ e.IsPatch) ∧
    (¬ c.Hindered i node.files →
      (∀ call ∈ calls, call.execution.command = .add → call.addFailure? = none) →
      ∃ r args, run.1 = .ok r ∧ i.podArgs = .ok args ∧
        (args.pod = none → ∀ e ∈ events, ¬ e.IsPatch) ∧
        ∀ ns name, args.pod = some (ns, name) → ∃ cluster pod annotations before,
          c.cluster = some cluster ∧ cluster.pod ns name = .ok pod ∧
          events = before ++
            [.patched ns name annotations (cluster.patchPod ns name annotations)] ∧
          (∀ e ∈ before, ¬ e.IsPatch) ∧
          ∀ key, Table.has key annotations = true ↔
            c.IsStatusKey (pod.annotations.getD []) key) ∧
    ∀ patchPod, let other := (c.answering patchPod).add i
      (other.runOn node).1 = run.1 ∧ other.calls node = calls ∧
        (other.runOn node).2.files = run.2.files := by
  obtain ⟨houtcome, -⟩ := c.attach_called i node
  obtain ⟨hcalls, asked, hasked, hevents⟩ := c.add_events i node
  have hresult := congrArg Prod.fst (c.add_runOn i node)
  have hquiet : ∀ e ∈ asked ++ ((c.attach i).calls node).map Call.event, ¬ e.IsPatch := by
    intro e he
    rcases List.mem_append.mp he with he | he
    · exact (hasked e he).not_isPatch
    · obtain ⟨call, -, rfl⟩ := List.mem_map.mp he
      exact id
  have hanswering := fun patchPod => c.add_answering patchPod i node
  dsimp only at hanswering ⊢
  rw [hcalls, hevents, hresult]
  rw [hcalls, hresult] at hanswering
  generalize (c.attach i).calls node = calls at *
  generalize ((c.attach i).runOn node).1 = outcome at *
  cases houtcome with
  | hindered hindered =>
    simp only [statusSent, List.append_nil]
    refine ⟨fun _ => ⟨⟨_, rfl⟩, trivial, hquiet⟩, ?_, fun clear => absurd hindered clear, hanswering⟩
    rintro ⟨call, hcall, -⟩
    cases hcall
  | @called p calls outcome clear sound houtcome =>
    refine ⟨fun hindered => absurd hindered clear, ?_⟩
    cases outcome with
    | error f =>
      simp only [Except.map, statusSent, List.append_nil]
      refine ⟨fun _ => ⟨⟨f, rfl⟩, hquiet⟩, fun _ passed => ?_, hanswering⟩
      obtain ⟨call, hcall, hadd, hfailed⟩ := houtcome.exists_failed
      rw [passed call hcall hadd] at hfailed
      cases hfailed
    | ok results =>
      refine ⟨?_, fun _ _ => ?_, hanswering⟩
      · rintro ⟨call, hcall, -, hfailed⟩
        exact absurd (houtcome.forall_passed call hcall) hfailed
      · obtain ⟨args, hargs, hnone, hsome⟩ := sound.statusSent_eq results
        refine ⟨_, args, rfl, hargs, fun hpod => ?_, fun ns name hpod => ?_⟩
        · rw [Except.map, hnone hpod, List.append_nil]
          exact hquiet
        · obtain ⟨cluster, pod, annotations, hcluster, hfound, hsent, hkeys⟩ := hsome ns name hpod
          refine ⟨cluster, pod, annotations, _, hcluster, hfound, ?_, hquiet, hkeys⟩
          rw [Except.map, hsent]

/-- The pod that asks for nothing is told, after everything else, the status and the plugin that was
chosen for it. -/
theorem add_tells_bridge : ∃ annotations before,
    (bridgeController.add webInvocation).events bridgeNode =
      before ++ [.patched "default" "web" annotations (.ok ())] ∧
    (∀ e ∈ before, ¬ e.IsPatch) ∧
    ∀ key, Table.has key annotations = true ↔ key = statusKey ∨ key = cniKey := by
  obtain ⟨r, left, -, hrun, -⟩ := add_bridge
  obtain ⟨hindered, failed, tells, -⟩ := add_tells bridgeController webInvocation bridgeNode
  rw [hrun] at hindered failed tells
  have clear : ¬ bridgeController.Hindered webInvocation bridgeNode.files := by
    intro h
    obtain ⟨⟨f, hf⟩, -⟩ := hindered h
    cases hf
  have passed : ∀ call ∈ (bridgeController.add webInvocation).calls bridgeNode,
      call.execution.command = .add → call.addFailure? = none := by
    intro call hcall hadd
    by_contra hfailed
    obtain ⟨⟨f, hf⟩, -⟩ := failed ⟨call, hcall, hadd, hfailed⟩
    cases hf
  obtain ⟨_, args, -, hargs, -, htold⟩ := tells clear passed
  have hweb : webInvocation.podArgs.map PodArgs.pod = .ok (some ("default", "web")) := by rfl
  rw [hargs, Except.map, Except.ok.injEq] at hweb
  obtain ⟨cluster, pod, annotations, before, hcluster, hpod, hevents, hbefore, hkeys⟩ :=
    htold "default" "web" hweb
  cases hcluster
  cases hpod
  refine ⟨annotations, before, hevents, hbefore, fun key => ?_⟩
  have hnothing : Intent.AsksForNothing [] := fun key _ => rfl
  rw [hkeys]
  simp [IsStatusKey, hnothing, bridgeController, Table.has]

end Controller

end PodNet
