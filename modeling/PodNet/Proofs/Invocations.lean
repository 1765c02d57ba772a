import PodNet.Proofs.Preparing
import PodNet.Proofs.Replanning
import PodNet.Proofs.Results
import PodNet.Proofs.Rollback

/-!
# What an invocation does

Attaching prepares first, then calls plugins, then tells the pod. `Attached` says all that a
successful run did, event by event (`exists_attached`). Unless built-in configurations are written,
preparing is looking, and the files stay as they are (`AttachedInPlace`). Detaching prepares and then
calls plugins (`del_swept`).
-/

namespace PodNet

/-! ### Events of a run -/

theorem Task.events_eq {α : Type} {task : Task α} {node : Node} {files : FileSystem}
    {more : List Event} (h : (task.runOn node).2 = ⟨files, node.journal ++ more⟩) :
    task.events node = more := by
  rw [events, h, List.drop_left]

/-- Questions are no calls. -/
theorem Event.IsQuestion.call?_eq_none {e : Event} (h : e.IsQuestion) : e.call? = none := by
  cases e with
  | queried _ => rfl
  | requested _ => rfl
  | executed _ _ => cases h
  | patched _ _ _ _ => cases h

/-- The calls of a run that asks, calls, and then does something else. -/
theorem Task.calls_eq_of_left {α : Type} {task : Task α} {node : Node} {files : FileSystem}
    {asked told : List Event} {calls : List Call} (hasked : ∀ e ∈ asked, e.IsQuestion)
    (htold : ∀ e ∈ told, e.call? = none)
    (h : (task.runOn node).2 =
      ⟨files, node.journal ++ (asked ++ calls.map Call.event ++ told)⟩) :
    task.calls node = calls := by
  have hnone : asked.filterMap Event.call? = [] :=
    List.filterMap_eq_nil_iff.mpr fun e he => (hasked e he).call?_eq_none
  rw [Task.calls, events_eq h, List.filterMap_append, List.filterMap_append, hnone,
    List.filterMap_eq_nil_iff.mpr htold]
  simp [List.filterMap_map, Function.comp_def]

namespace Controller

variable {c : Controller} {i : Invocation} {files : FileSystem}

/-! ### Looking up the pod -/

theorem finds_needCluster {cluster : Cluster} (h : c.cluster = some cluster) :
    c.needCluster.Finds files (.ok cluster) := by
  rw [needCluster, h]
  exact .pure _

/-- **What the lookup of the pod comes to**, by the arguments of the invocation and the answers of
the cluster. -/
inductive LookedUp (c : Controller) (i : Invocation) : Except Failure (Option PodContext) → Prop where
  /-- The arguments do not say whom the invocation is for. -/
  | illegible {f : Failure} : i.podArgs = .error f → LookedUp c i (.error f)
  /-- The invocation is for no pod. -/
  | nobody {args : PodArgs} : i.podArgs = .ok args → args.pod = none → LookedUp c i (.ok none)
  /-- The pod is in a cluster to which there is no access. -/
  | noAccess {args : PodArgs} {who : String × String} :
    i.podArgs = .ok args → args.pod = some who → c.cluster = none →
      LookedUp c i (.error (.invalidEnvelope .noCluster))
  /-- The cluster does not give the pod. -/
  | missing {args : PodArgs} {ns name : String} {cluster : Cluster} {f : Failure} :
    i.podArgs = .ok args → args.pod = some (ns, name) → c.cluster = some cluster →
      cluster.pod ns name = .error f → LookedUp c i (.error f)
  /-- The cluster gives the pod. -/
  | found {args : PodArgs} {ns name : String} {cluster : Cluster} {pod : Pod} :
    i.podArgs = .ok args → args.pod = some (ns, name) → c.cluster = some cluster →
      cluster.pod ns name = .ok pod →
      LookedUp c i (.ok (some ⟨ns, name, pod.annotations.getD []⟩))

/-- The lookup of a pod, given whom the invocation is for and a cluster. -/
theorem finds_lookupPod {args : PodArgs} {ns name : String} {cluster : Cluster}
    (hargs : i.podArgs = .ok args) (hpod : args.pod = some (ns, name))
    (hcluster : c.cluster = some cluster) :
    (c.lookupPod i).Finds files
      ((cluster.pod ns name).map fun pod => some ⟨ns, name, pod.annotations.getD []⟩) := by
  rw [lookupPod, hargs]
  refine .bind (.ofExcept _) ?_
  rw [hpod]
  exact .bind (finds_needCluster hcluster) (.bind_pure (.query _ _) _)

theorem LookedUp.finds {outcome : Except Failure (Option PodContext)} (h : LookedUp c i outcome) :
    (c.lookupPod i).Finds files outcome := by
  cases h with
  | illegible hargs =>
    rw [lookupPod, hargs]
    exact .bind_error (.ofExcept _)
  | nobody hargs hpod =>
    rw [lookupPod, hargs]
    refine .bind (.ofExcept _) ?_
    rw [hpod]
    exact .pure _
  | noAccess hargs hpod hcluster =>
    rw [lookupPod, hargs]
    refine .bind (.ofExcept _) ?_
    rw [hpod, needCluster, hcluster]
    exact .bind_error (.throw _)
  | missing hargs hpod hcluster hmissing =>
    exact (finds_lookupPod hargs hpod hcluster).of_eq (by rw [hmissing]; rfl)
  | found hargs hpod hcluster hfound =>
    exact (finds_lookupPod hargs hpod hcluster).of_eq (by rw [hfound]; rfl)

/-- The lookup comes to something. -/
theorem exists_lookedUp (c : Controller) (i : Invocation) : ∃ outcome, LookedUp c i outcome := by
  cases hargs : i.podArgs with
  | error f => exact ⟨_, .illegible hargs⟩
  | ok args =>
    cases hpod : args.pod with
    | none => exact ⟨_, .nobody hargs hpod⟩
    | some who =>
      cases hcluster : c.cluster with
      | none => exact ⟨_, .noAccess hargs hpod hcluster⟩
      | some cluster =>
        cases hfound : cluster.pod who.1 who.2 with
        | error f => exact ⟨_, .missing hargs hpod hcluster hfound⟩
        | ok pod => exact ⟨_, .found hargs hpod hcluster hfound⟩

/-- What the lookup finds is what it comes to. -/
theorem lookedUp_of_finds {outcome : Except Failure (Option PodContext)}
    (h : (c.lookupPod i).Finds files outcome) : LookedUp c i outcome := by
  obtain ⟨other, hother⟩ := c.exists_lookedUp i
  rwa [h.unique hother.finds]

theorem onlyLooks_lookupPod (c : Controller) (i : Invocation) : Task.OnlyLooks (c.lookupPod i) :=
  fun _ => (c.exists_lookedUp i).imp fun _ h => h.finds

/-- Where a pod was found. -/
theorem of_finds_lookupPod {pod : PodContext} (h : (c.lookupPod i).Finds files (.ok (some pod))) :
    ∃ args cluster found, i.podArgs = .ok args ∧ args.pod = some (pod.ns, pod.name) ∧
      c.cluster = some cluster ∧ cluster.pod pod.ns pod.name = .ok found ∧
      pod.annotations = found.annotations.getD [] := by
  cases lookedUp_of_finds h with
  | found hargs hpod hcluster hfound => exact ⟨_, _, _, hargs, hpod, hcluster, hfound, rfl⟩

/-- The controller with annotations sent to a pod. -/
def patched (c : Controller) (ns name : String) (annotations : Annotations) : Controller :=
  { c with cluster := c.cluster.map fun cluster => cluster.patched ns name annotations }

/-- A pod that was found is found again, with the annotations that were sent to it. -/
theorem finds_lookupPod_patched {pod : PodContext}
    (h : (c.lookupPod i).Finds files (.ok (some pod))) (annotations : Annotations) :
    ((c.patched pod.ns pod.name annotations).lookupPod i).Finds files
      (.ok (some { pod with annotations := Table.merge pod.annotations annotations })) := by
  obtain ⟨args, cluster, found, hargs, hpod, hcluster, hfound, hannotations⟩ := of_finds_lookupPod h
  have hpatched : (c.patched pod.ns pod.name annotations).cluster =
      some (cluster.patched pod.ns pod.name annotations) := by
    rw [patched, hcluster, Option.map_some]
  have hagain := Cluster.pod_patched hfound annotations
  rw [← hannotations] at hagain
  refine (finds_lookupPod hargs hpod hpatched).of_eq ?_
  rw [hagain]
  rfl

/-- A pod that is found is one that remains. -/
theorem finds_lookupRemainingPod {pod : Option PodContext}
    (h : (c.lookupPod i).Finds files (.ok pod)) : (c.lookupRemainingPod i).Finds files (.ok pod) :=
  .bind (.attempt h) (.pure _)

/-! ### Attaching -/

theorem onlyLooks_planAdd (c : Controller) (pod : Option PodContext) :
    Task.OnlyLooks (c.planAdd pod) := by
  unfold planAdd
  refine .bind (.look _) fun intent => ?_
  split
  · exact .pure _
  · exact .bind (fun files => ⟨_, c.finds_choosePlugin files⟩) fun plugin => .pure _

/-- Telling the pod succeeds, whatever the cluster answers, and sends at most the status. -/
theorem writeStatus_runOn (c : Controller) (plan : Plan) (attachments : List Attachment)
    (results : List AddResult) (pod : Option PodContext) (node : Node) :
    ∃ told, (c.writeStatus plan attachments results pod).runOn node =
        (.ok (), ⟨node.files, node.journal ++ told⟩) ∧
      ∀ e ∈ told, ∃ p answer, pod = some p ∧
        e = .patched p.ns p.name (statusFor p plan attachments results) answer := by
  unfold writeStatus
  split
  · exact ⟨[], by rw [List.append_nil]; rfl, by simp⟩
  · rename_i p
    split
    · exact ⟨[], by rw [List.append_nil]; rfl, by simp⟩
    · refine ⟨[_], rfl, fun e he => ?_⟩
      exact ⟨p, _, rfl, List.mem_singleton.mp he⟩

/-- What attaching attaches: the attachments that the pod's requests are resolved to. -/
def toAttach (c : Controller) (i : Invocation) : Task (List Attachment) := do
  let pod ← c.lookupPod i
  let plan ← c.planAdd pod
  c.resolver.resolveAll plan.requests

/-- **What a successful run that attaches did**: it found a pod and a plan by looking, resolved the
plan to attachments, attached them, and told at most the pod, and at most what it got. -/
structure Attached (c : Controller) (i : Invocation) (node left : Node) (pod : Option PodContext)
    (plan : Plan) (attachments : List Attachment) (results : List AddResult) (calls : List Call)
    (asked told : List Event) : Prop where
  pod_found : (c.lookupPod i).Finds node.files (.ok pod)
  planned : (c.planAdd pod).Finds node.files (.ok plan)
  settled : (c.resolver.resolveAll plan.requests).Settles node.files (.ok attachments) left.files
  prepared : (c.toAttach i).runOn node = (.ok attachments, ⟨left.files, node.journal ++ asked⟩)
  valid : ∀ a ∈ attachments, a.conf.Valid
  added : Delegation.Added c.executor (sandbox i pod) ⟨left.files, node.journal ++ asked⟩
    attachments results (Node.after ⟨left.files, node.journal ++ asked⟩ calls)
  attached : Delegation.AttachedCalls (sandbox i pod) attachments calls
  asked_questions : ∀ e ∈ asked, e.IsQuestion
  told_status : ∀ e ∈ told, ∃ p answer, pod = some p ∧
    e = .patched p.ns p.name (statusFor p plan attachments results) answer
  left_eq : left = ⟨left.files, node.journal ++ (asked ++ calls.map Call.event ++ told)⟩

/-- A run that attaches and succeeds did that, and gives the merged results. -/
theorem exists_attached {node left : Node} {r : AddResult}
    (h : (c.add i).runOn node = (.ok r, left)) :
    ∃ pod plan attachments results calls asked told,
      Attached c i node left pod plan attachments results calls asked told ∧
        r = AddResult.merge c.settings.cniVersion results := by
  rw [add] at h
  obtain ⟨pod, n₁, hrunPod, h₁⟩ := Task.runOn_bind_eq_ok.mp h
  obtain ⟨plan, n₂, hrunPlan, h₂⟩ := Task.runOn_bind_eq_ok.mp h₁
  obtain ⟨attachments, n₃, hrunResolve, h₃⟩ := Task.runOn_bind_eq_ok.mp h₂
  obtain ⟨results, n₄, hrunAdd, h₄⟩ := Task.runOn_bind_eq_ok.mp h₃
  have hvalid := c.resolver.yields_resolveAll plan.requests hrunResolve
  have hprepared : (c.toAttach i).runOn node = (.ok attachments, n₃) := by
    rw [toAttach, Task.runOn_bind_ok hrunPod, Task.runOn_bind_ok hrunPlan, hrunResolve]
  -- what happens before the first call
  obtain ⟨hpod, asked₁, hasked₁, rfl⟩ := (c.onlyLooks_lookupPod i).runOn_eq hrunPod
  obtain ⟨hplan, asked₂, hasked₂, rfl⟩ := (c.onlyLooks_planAdd pod).runOn_eq hrunPlan
  obtain ⟨hresolve, asked₃, hasked₃, hn₃⟩ :=
    (c.resolver.prepares_resolveAll plan.requests).runOn_eq hrunResolve
  -- the calls
  obtain ⟨calls, hcalled, houtcome⟩ :=
    Delegation.addAll_called c.executor (sandbox i pod) attachments hvalid n₃
  rw [hrunAdd] at hcalled houtcome
  have hcalls : Delegation.AttachedCalls (sandbox i pod) attachments calls := by
    cases houtcome with
    | attached hcalls _ => exact hcalls
  have hn₄ : n₄ = n₃.after calls := hcalled.eq_after
  -- what the pod is told
  obtain ⟨told, hrunWrite, htold⟩ := c.writeStatus_runOn plan attachments results pod n₄
  rw [Task.runOn_bind_ok hrunWrite] at h₄
  cases h₄
  have hfiles : n₄.files = n₃.files := by rw [hn₄, Node.after]
  have hstart : n₃ = ⟨n₃.files, node.journal ++ (asked₁ ++ asked₂ ++ asked₃)⟩ := by
    rw [hn₃]
    simp [List.append_assoc]
  refine ⟨pod, plan, attachments, results, calls, asked₁ ++ asked₂ ++ asked₃, told,
    ⟨hpod, hplan, hfiles ▸ hresolve, ?_, hvalid, ?_, hcalls, ?_, htold, ?_⟩, rfl⟩
  · rw [hprepared]
    show _ = (_, Node.mk n₄.files _)
    rw [hfiles, ← hstart]
  · show Delegation.Added _ _ ⟨n₄.files, _⟩ _ _ (Node.after ⟨n₄.files, _⟩ calls)
    rw [hfiles, ← hstart, ← hn₄]
    exact Delegation.added_of_addAll hrunAdd
  · intro e he
    simp only [List.mem_append] at he
    rcases he with (he | he) | he
    · exact hasked₁ e he
    · exact hasked₂ e he
    · exact hasked₃ e he
  · rw [hn₄, hstart]
    simp [Node.after, List.append_assoc]

/-- What a run did that found its attachments by looking alone. -/
structure AttachedInPlace (c : Controller) (i : Invocation) (node left : Node)
    (pod : Option PodContext) (plan : Plan) (attachments : List Attachment)
    (results : List AddResult) (calls : List Call) (asked told : List Event) : Prop extends
    Attached c i node left pod plan attachments results calls asked told where
  resolved : (c.resolver.resolveAll plan.requests).Finds node.files (.ok attachments)
  files_eq : left.files = node.files

/-- Unless built-in configurations are written, a run that attaches and succeeds did no more than
that. -/
theorem attached_of_runOn (persist : c.settings.persistBuiltins = false) {node left : Node}
    {r : AddResult} (h : (c.add i).runOn node = (.ok r, left)) :
    ∃ pod plan attachments results calls asked told,
      AttachedInPlace c i node left pod plan attachments results calls asked told := by
  obtain ⟨pod, plan, attachments, results, calls, asked, told, hattached, -⟩ := exists_attached h
  obtain ⟨hfiles, hfinds⟩ := hattached.settled.of_onlyLooks
    (Resolver.onlyLooks_resolveAll (r := c.resolver) persist plan.requests)
  exact ⟨pod, plan, attachments, results, calls, asked, told, hattached, hfinds, hfiles⟩

namespace Attached

variable {node left : Node} {pod : Option PodContext} {plan : Plan} {attachments : List Attachment}
  {results : List AddResult} {calls : List Call} {asked told : List Event}

/-- The attachments answer the planned requests. -/
theorem answers (h : Attached c i node left pod plan attachments results calls asked told) :
    List.Forall₂ Resolver.Answers attachments plan.requests := by
  obtain ⟨asked, -, hrun⟩ := h.settled
  exact c.resolver.yields_forall₂_answers plan.requests (hrun [])

/-- The calls of the run are those that attach. -/
theorem calls_eq (h : Attached c i node left pod plan attachments results calls asked told)
    (hleft : ((c.add i).runOn node).2 = left) : (c.add i).calls node = calls := by
  rw [h.left_eq] at hleft
  refine Task.calls_eq_of_left h.asked_questions (fun e he => ?_) hleft
  obtain ⟨p, answer, -, rfl⟩ := h.told_status e he
  rfl

/-- Annotations that were sent are the status of the pod that was found. -/
theorem of_patched_mem (h : Attached c i node left pod plan attachments results calls asked told)
    (hleft : ((c.add i).runOn node).2 = left) {ns name : String} {annotations : Annotations}
    {answer : Except Failure Unit}
    (hmem : .patched ns name annotations answer ∈ (c.add i).events node) :
    ∃ p, pod = some p ∧ p.ns = ns ∧ p.name = name ∧
      annotations = statusFor p plan attachments results := by
  rw [h.left_eq] at hleft
  rw [Task.events_eq hleft, List.mem_append, List.mem_append] at hmem
  rcases hmem with (hmem | hmem) | hmem
  · cases h.asked_questions _ hmem
  · obtain ⟨call, -, hcall⟩ := List.mem_map.mp hmem
    cases hcall
  · obtain ⟨p, _, hpod, heq⟩ := h.told_status _ hmem
    cases heq
    exact ⟨p, hpod, rfl, rfl, rfl⟩

end Attached

/-! ### Detaching -/

/-- **What a run that detaches does**, given what it comes to before the first call: it sweeps over
that, nothing else is called, and the outcome is the first failure that counts. -/
theorem del_swept {node : Node} {pod : Option PodContext} {attachments : List Attachment}
    {left : FileSystem} (hpod : (c.lookupRemainingPod i).Finds node.files (.ok pod))
    (hresolve : (c.resolver.resolveSome (c.planDel node.files pod)).Settles node.files
      (.ok attachments) left)
    (valid : ∀ a ∈ attachments, a.conf.Valid) :
    let run := (c.del i).runOn node
    let calls := (c.del i).calls node
    (∃ start, Called c.executor start calls run.2) ∧
      Delegation.SweepCalls (sandbox i pod) attachments calls ∧
      Delegation.failure? run.1 = calls.findSome? Call.delFailure? := by
  obtain ⟨asked₁, hasked₁, hrunPod⟩ := hpod
  obtain ⟨asked₂, hasked₂, hrunResolve⟩ := hresolve
  let start : Node := ⟨left, node.journal ++ asked₁ ++ asked₂⟩
  obtain ⟨calls, hcalled, hsweep, hfailure⟩ :=
    Delegation.delAll_called c.executor (sandbox i pod) attachments valid start
  have hrun : (c.del i).runOn node =
      (Delegation.delAll c.executor (sandbox i pod) attachments).runOn start := by
    rw [del, Task.runOn_bind_ok (hrunPod node.journal), Task.runOn_bind_ok (Task.runOn_get _),
      Task.runOn_bind_ok (hrunResolve _)]
  have hasked : ∀ e ∈ asked₁ ++ asked₂, e.IsQuestion := by
    intro e he
    rcases List.mem_append.mp he with he | he
    · exact hasked₁ e he
    · exact hasked₂ e he
  have hleft : ((c.del i).runOn node).2 =
      ⟨left, node.journal ++ (asked₁ ++ asked₂ ++ calls.map Call.event ++ [])⟩ := by
    rw [hrun, hcalled.eq_after]
    simp [start, Node.after, List.append_assoc]
  have hcalls : (c.del i).calls node = calls := Task.calls_eq_of_left hasked (by simp) hleft
  dsimp only
  rw [hcalls, hrun]
  exact ⟨⟨start, hcalled⟩, hsweep, hfailure⟩

end Controller

end PodNet
