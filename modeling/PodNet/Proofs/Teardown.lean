import PodNet.Proofs.Invocations

/-!
# Detaching tears down what was attached

Attaching and detaching come to their attachments separately: each looks up the pod, reads its
annotations and resolves what they ask for. When attaching succeeded, and the cluster took what the
pod was told, detaching comes to the same attachments in the same order (`AttachedInPlace.swept_again`),
and for each of them calls the same plugins in reverse order, with the same parameters and the same
input but for the result of earlier plugins (`SweepCalls.tearsDown`).
-/

namespace PodNet

/-- A result of earlier plugins makes no difference to the rest of a plugin's input. -/
theorem Parameters.erase_stdinObject (p : Parameters) (l : ConfList) (plugin : Object)
    (previous : Option Json) :
    Table.erase "prevResult" (p.stdinObject l plugin previous) =
      Table.erase "prevResult" (p.stdinObject l plugin none) := by
  cases previous with
  | none => rfl
  | some result =>
    unfold stdinObject
    dsimp only
    split
    · rw [Table.erase_insert_self]
    · have hlater : "prevResult" < "runtimeConfig" := by decide
      rw [Table.erase_insert_of_lt hlater, Table.erase_insert_of_lt hlater, Table.erase_insert_self]

/-- **The execution tears down another one**: it detaches where the other one attached, with the
same plugin and parameters, and its input is that of the other one but for the result of earlier
plugins. -/
structure TearsDown (d e : Execution) : Prop where
  attaches : e.command = .add
  detaches : d.command = .del
  plugin : d.plugin = e.plugin
  parameters : d.parameters = e.parameters
  stdin : ∃ own other : Object, d.stdin = Bytes.ofString (Json.compact (.obj own)) ∧
    e.stdin = Bytes.ofString (Json.compact (.obj other)) ∧
    Table.erase "prevResult" own = Table.erase "prevResult" other

/-- The calls tear down those of one attachment, in reverse order. -/
def TearDownCalls (undoing own : List Call) : Prop :=
  List.Forall₂ (fun d c => TearsDown d.execution c.execution) undoing own.reverse

namespace Delegation

variable {s : Sandbox} {a : Attachment} {attachments : List Attachment}

/-- For one plugin, detaching tears down attaching. -/
theorem Detaches.tearsDown {plugin : Object} {d e : Execution} (hd : Detaches s a plugin d)
    (he : Attaches s a plugin e) : TearsDown d e := by
  obtain ⟨previous, rfl⟩ := he
  subst hd
  exact ⟨rfl, rfl, rfl, rfl, _, _, rfl, rfl, (Parameters.erase_stdinObject _ _ _ previous).symm⟩

/-- Lists that stand in relations to one list, item by item, stand in what follows from these. -/
theorem forall₂_of_common {α β γ : Type} {R : α → β → Prop} {S : α → γ → Prop} {T : γ → β → Prop}
    (h : ∀ a b c, R a b → S a c → T c b) {as : List α} {bs : List β} {cs : List γ}
    (hbs : List.Forall₂ R as bs) (hcs : List.Forall₂ S as cs) : List.Forall₂ T cs bs := by
  induction hbs generalizing cs with
  | nil => cases hcs; exact .nil
  | cons hR _ ih =>
    cases hcs with
    | cons hS hcs => exact .cons (h _ _ _ hR hS) (ih hcs)

/-- For one attachment, detaching with all plugins tears down attaching with all plugins, in
reverse. -/
theorem DetachCalls.tearsDown {own undoing : List Call} (hdetach : DetachCalls s a undoing none)
    (hattach : AttachCalls s a own none) : TearDownCalls undoing own :=
  forall₂_of_common (fun _ _ _ hc hd => hd.1.tearsDown hc.1)
    (List.forall₂_reverse_iff.mpr hattach.forall₂_of_none) hdetach.forall₂_of_none

/-- **A tolerated sweep tears down what was attached**, attachment by attachment. -/
theorem SweepCalls.tearsDown {attached undone : List Call}
    (hsweep : SweepCalls s attachments undone) (tolerated : ∀ c ∈ undone, c.Tolerated)
    (hattached : AttachedCalls s attachments attached) :
    ∃ adds dels, attached = adds.flatten ∧ undone = dels.flatten ∧
      List.Forall₂ (fun a own => AttachCalls s a own none) attachments adds ∧
      List.Forall₂ TearDownCalls dels adds := by
  have hcomplete : InGroups (fun a own => DetachCalls s a own none) attachments undone :=
    hsweep.imp fun a own hown ⟨f, h⟩ => h.complete fun c hc => tolerated c (hown c hc)
  obtain ⟨adds, hadds, hattach⟩ := hattached
  obtain ⟨dels, hdels, hdetach⟩ := hcomplete
  exact ⟨adds, dels, hadds, hdels, hattach,
    forall₂_of_common (fun _ _ _ hown hundoing => hundoing.tearsDown hown) hattach hdetach⟩

end Delegation

namespace Controller

/-- The controller with annotations sent to a pod and plugins that answer in some other way. -/
def afterwards (c : Controller) (ns name : String) (annotations : Annotations)
    (executor : Executor) : Controller :=
  { c.patched ns name annotations with executor }

/-- After a run that attached and told the pod, detaching sweeps over what was attached. -/
theorem AttachedInPlace.swept_again {c : Controller} {i : Invocation} {node left : Node} {p : PodContext}
    {plan : Plan} {attachments : List Attachment} {results : List AddResult} {calls : List Call}
    {asked told : List Event}
    (h : AttachedInPlace c i node left (some p) plan attachments results calls asked told)
    (persist : c.settings.persistBuiltins = false) (retraceable : c.Retraceable node.files)
    (executor : Executor) {later : Node} (files_eq : later.files = left.files) :
    let again := (c.afterwards p.ns p.name (statusFor p plan attachments results) executor).del
      { i with command := .del }
    (∃ start, Called executor start (again.calls later) (again.runOn later).2) ∧
      Delegation.SweepCalls (sandbox i (some p)) attachments (again.calls later) ∧
      Delegation.failure? (again.runOn later).1 =
        (again.calls later).findSome? Call.delFailure? := by
  have hfiles : later.files = node.files := by
    rw [files_eq, h.files_eq]
  let c' := c.afterwards p.ns p.name (statusFor p plan attachments results) executor
  let i' : Invocation := { i with command := .del }
  let p' := Controller.told p plan attachments results
  have hpod : (c'.lookupRemainingPod i').Finds later.files (.ok (some p')) := by
    rw [hfiles]
    exact finds_lookupRemainingPod (finds_lookupPod_patched h.pod_found _)
  have hplan : c'.planDel later.files (some p') = plan.requests := by
    rw [hfiles]
    exact planDel_told (c := c) persist retraceable h.planned h.resolved
  have hresolve : (c'.resolver.resolveSome (c'.planDel later.files (some p'))).Finds later.files
      (.ok attachments) := by
    have hpatched := Resolver.resolveSome_patched c.resolver p.ns p.name
      (statusFor p plan attachments results) plan.requests
    rw [hplan, hfiles]
    exact hpatched ▸ Resolver.finds_resolveSome (r := c.resolver) persist h.resolved
  exact del_swept hpod (.of_finds hresolve) h.valid

/-- **Detaching tears down what attaching set up**: after a run that attached and succeeded, whose
status the cluster took, on files that are the same, and with all calls tolerated. It comes to the
same attachments, in the same order, and for each of them tears down what each plugin did, in
reverse. -/
theorem del_tears_down (c : Controller) (persist : c.settings.persistBuiltins = false)
    (i : Invocation) (node : Node) (retraceable : c.Retraceable node.files) (r : AddResult)
    (left : Node) (attaches : (c.add i).runOn node = (.ok r, left)) (ns name : String)
    (annotations : Annotations)
    (patched : .patched ns name annotations (.ok ()) ∈ (c.add i).events node) (executor : Executor)
    (later : Node) (files_eq : later.files = left.files)
    (tolerated : ∀ call ∈
      ((c.afterwards ns name annotations executor).del { i with command := .del }).calls later,
      call.Tolerated) :
    let again := (c.afterwards ns name annotations executor).del { i with command := .del }
    (again.runOn later).1 = .ok () ∧
      ∃ pod attachments adds dels,
        ((c.lookupPod i).runOn node).1 = .ok pod ∧ ((c.toAttach i).runOn node).1 = .ok attachments ∧
        (c.add i).calls node = adds.flatten ∧ again.calls later = dels.flatten ∧
        List.Forall₂ (fun a own => Delegation.AttachCalls (sandbox i pod) a own none)
          attachments adds ∧
        List.Forall₂ TearDownCalls dels adds := by
  obtain ⟨pod, plan, attachments, results, calls, asked, told, h⟩ :=
    attached_of_runOn persist attaches
  have hleft : ((c.add i).runOn node).2 = left := congrArg Prod.snd attaches
  obtain ⟨p, rfl, rfl, rfl, rfl⟩ := h.of_patched_mem hleft patched
  obtain ⟨-, hsweep, hfailure⟩ := h.swept_again persist retraceable executor files_eq
  obtain ⟨adds, dels, hadds, hdels, hattach, htears⟩ := hsweep.tearsDown tolerated h.attached
  have htoAttach : (c.toAttach i).Finds node.files (.ok attachments) :=
    .bind h.pod_found (.bind h.planned h.resolved)
  refine ⟨?_, some p, attachments, adds, dels, h.pod_found.runOn_fst, htoAttach.runOn_fst, ?_,
    hdels, hattach, htears⟩
  · rw [← Delegation.failure?_eq_none_iff, hfailure, List.findSome?_eq_none_iff]
    intro d hd
    exact d.delFailure?_eq_none_iff.mpr (tolerated d hd)
  · rw [h.calls_eq hleft, hadds]

/-! ### A plugin that was chosen -/

/-- A node on which the binary of `bridge` is installed, and nothing is configured. -/
def bridgeNode : Node := ⟨⟨[(["bridge"], .file [] 0o755)], []⟩, []⟩

/-- Answers every call with nothing. -/
def silent : Executor := fun _ _ _ => .ok []

/-- A cluster with one pod, `default/web`, which asks for nothing. -/
def webCluster : Cluster where
  pod ns name := if name = "web" then .ok ⟨some "web", none⟩ else .error (.podNotFound ns name)
  logicalNetwork ns name := .error (.podNotFound ns name)
  logicalNetworks _ := .ok []
  physicalNetwork ns name := .error (.podNotFound ns name)
  netAttachDef ns name := .error (.podNotFound ns name)
  patchPod _ _ _ := .ok ()

/-- A controller that chooses `bridge` for pods that ask for nothing, and notes it. -/
def bridgeController : Controller where
  settings := { Settings.default with persistBuiltins := false }
  directory := ⟨"", ["/"]⟩
  cluster := some webCluster
  executor := silent
  selector := ⟨fun _ _ _ => ⟨.ok "bridge", []⟩, true⟩

/-- The invocation that attaches the pod. -/
def webInvocation : Invocation := ⟨.add, "c1", "/ns/c1", "eth0", "K8S_POD_NAME=web", [], []⟩

theorem isToken_bridge : IsToken "bridge" :=
  ⟨by decide, by decide, by decide, by decide, by decide⟩

theorem isFile_bridge : bridgeNode.files.isFile "/bridge" = true := by
  have hresolve : bridgeNode.files.resolve "/bridge" =
      bridgeNode.files.follow FileSystem.maxLinks [] ["", "bridge"] := by rfl
  have hentry : bridgeNode.files.at? ["bridge"] = some (.file [] 0o755) := by rfl
  rw [FileSystem.isFile_root hresolve (by rfl) (by decide) (by decide) (by simp [hentry]), hentry]
  rfl

/-- What `bridge` is attached with. -/
def bridgeAttachment : Attachment :=
  ⟨.plain (.plugin "bridge") "eth0", ⟨"", "mybridgenet", [Builtin.bridge], []⟩, none⟩

theorem findBinary_bridge :
    bridgeController.directory.findBinary bridgeNode.files "bridge" = some "/bridge" := by
  show [Path.join "/" "bridge"].find? bridgeNode.files.isFile = _
  rw [show Path.join "/" "bridge" = "/bridge" by rfl, List.find?_cons, isFile_bridge]

/-- The list of `bridge` is the one that is built in. -/
theorem finds_bridgeConf {r : Resolver} (hdirectory : r.directory = bridgeController.directory)
    (persist : r.persistBuiltins = false) :
    (r.pluginList "bridge").Finds bridgeNode.files (.ok bridgeAttachment.conf) := by
  have hnone : r.directory.findConf bridgeNode.files "bridge" = .ok none := by
    rw [hdirectory]
    rfl
  have hconf : Resolver.builtinConf r.directory bridgeNode.files "bridge" = .ok Builtin.bridge := by
    rw [hdirectory, Resolver.builtinConf, findBinary_bridge]
    rfl
  unfold Resolver.pluginList
  rw [persist]
  refine .bind (a := none) ((Task.Finds.look _).of_eq hnone) ?_
  exact .bind ((Task.Finds.look _).of_eq hconf) ((Task.Finds.ofExcept _).of_eq (by rfl))

theorem finds_bridge :
    (bridgeController.resolver.resolveAll (defaultRequests "bridge")).Finds bridgeNode.files
      (.ok [bridgeAttachment]) :=
  .bind (.bind (finds_bridgeConf rfl rfl) (.pure _)) (.bind (.pure _) (.pure _))

/-- The pod that asks for nothing. -/
def webPod : PodContext := ⟨"default", "web", []⟩

/-- Attaching for a pod, stage by stage. -/
theorem runOn_add_of_stages {c : Controller} {cluster : Cluster} (hcluster : c.cluster = some cluster)
    {i : Invocation} {pod : PodContext} {plan : Plan} {attachments : List Attachment}
    {results : List AddResult} {start asked planned resolved added : Node}
    (hpod : (c.lookupPod i).runOn start = (.ok (some pod), asked))
    (hplan : (c.planAdd (some pod)).runOn asked = (.ok plan, planned))
    (hresolve : (c.resolver.resolveAll plan.requests).runOn planned = (.ok attachments, resolved))
    (hadd : (Delegation.addAll c.executor (sandbox i (some pod)) attachments).runOn resolved =
      (.ok results, added)) :
    let annotations := statusFor pod plan attachments results
    (c.add i).runOn start = (.ok (AddResult.merge c.settings.cniVersion results),
      ⟨added.files, added.journal ++
        [.patched pod.ns pod.name annotations (cluster.patchPod pod.ns pod.name annotations)]⟩) := by
  intro annotations
  rw [add, Task.runOn_bind_ok hpod, Task.runOn_bind_ok hplan, Task.runOn_bind_ok hresolve,
    Task.runOn_bind_ok hadd, writeStatus, hcluster]
  rfl

/-- Attaching the pod succeeds, and the cluster takes what it is told. -/
theorem add_bridge : ∃ r left annotations,
    (bridgeController.add webInvocation).runOn bridgeNode = (.ok r, left) ∧
      .patched "default" "web" annotations (.ok ()) ∈
        (bridgeController.add webInvocation).events bridgeNode := by
  let query : Event := .queried (.pod "default" "web")
  have hrunPod : (bridgeController.lookupPod webInvocation).runOn bridgeNode =
      (.ok (some webPod), ⟨bridgeNode.files, [query]⟩) := by rfl
  have hrunPlan : (bridgeController.planAdd (some webPod)).runOn ⟨bridgeNode.files, [query]⟩ =
      (.ok ⟨defaultRequests "bridge", some "bridge"⟩, ⟨bridgeNode.files, [query]⟩) := by rfl
  obtain ⟨asked, -, hrunResolve⟩ := finds_bridge
  have hrunAdd : ∃ call r, (Delegation.addAll bridgeController.executor
      (sandbox webInvocation (some webPod)) [bridgeAttachment]).runOn
        ⟨bridgeNode.files, [query] ++ asked⟩ =
      (.ok [r], ⟨bridgeNode.files, [query] ++ asked ++ [call]⟩) := ⟨_, _, by rfl⟩
  obtain ⟨call, r, hrunAdd⟩ := hrunAdd
  have hrun := runOn_add_of_stages rfl hrunPod hrunPlan (hrunResolve _) hrunAdd
  refine ⟨_, _, statusFor webPod ⟨defaultRequests "bridge", some "bridge"⟩ [bridgeAttachment] [r],
    hrun, ?_⟩
  have hevents : (bridgeController.add webInvocation).events bridgeNode = [query] ++ asked ++
      [call] ++ [.patched "default" "web" _ (.ok ())] := Task.events_eq (congrArg Prod.snd hrun)
  rw [hevents]
  exact List.mem_append_right _ List.mem_cons_self

/-- The chosen plugin is noted and torn down, whatever would be chosen now. -/
theorem del_tears_down_bridge :
    bridgeController.settings.persistBuiltins = false ∧
      bridgeController.Retraceable bridgeNode.files ∧
      ∃ r left annotations,
        (bridgeController.add webInvocation).runOn bridgeNode = (.ok r, left) ∧
        .patched "default" "web" annotations (.ok ()) ∈
          (bridgeController.add webInvocation).events bridgeNode ∧
        (∀ call ∈ ((bridgeController.afterwards "default" "web" annotations silent).del
          { webInvocation with command := .del }).calls left, call.Tolerated) ∧
        (((bridgeController.afterwards "default" "web" annotations silent).del
          { webInvocation with command := .del }).runOn left).1 = .ok () := by
  have retraceable : bridgeController.Retraceable bridgeNode.files :=
    .inr ⟨rfl, fun plugin h => by cases h; exact isToken_bridge⟩
  obtain ⟨r, left, annotations, hrun, hpatched⟩ := add_bridge
  have htolerated : ∀ call ∈ ((bridgeController.afterwards "default" "web" annotations silent).del
      { webInvocation with command := .del }).calls left, call.Tolerated := by
    obtain ⟨pod, plan, attachments, results, calls, asked, told, h⟩ := attached_of_runOn rfl hrun
    obtain ⟨p, rfl, hns, hname, rfl⟩ := h.of_patched_mem (congrArg Prod.snd hrun) hpatched
    obtain ⟨⟨start, hcalled⟩, -⟩ := h.swept_again rfl retraceable silent rfl
    rw [hns, hname] at hcalled
    exact hcalled.forall_call fun _ _ _ => .inl ⟨[], rfl⟩
  have h := del_tears_down bridgeController rfl webInvocation bridgeNode retraceable r left hrun
    "default" "web" annotations hpatched silent left rfl htolerated
  exact ⟨rfl, retraceable, r, left, annotations, hrun, hpatched, htolerated, h.1⟩

end Controller

end PodNet
