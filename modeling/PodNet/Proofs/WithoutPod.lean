import PodNet.Proofs.RankedPlugins
import PodNet.Proofs.Teardown
import PodNet.Proofs.WrittenConfigurations

/-!
# Invocations for no pod

An invocation need not be for a pod. Attaching asks the selector for a plugin then, as it does for a
pod that asks for nothing. Detaching takes the configured plugin: a choice is noted in the pod, and
there is none. So what was attached is detached just if the configured plugin now comes to a list
with the same types (`Controller.del_mirrors_iff`). For a selector that follows traffic that is a
coincidence. Where the configured plugin was chosen it is so as long as the plugin stays with its
file, and then detaching tears down what attaching set up.
-/

namespace PodNet

/-- One item has all the calls. -/
theorem InGroups.singleton_iff {α : Type} {R : α → List Call → Prop} {a : α} {calls : List Call} :
    InGroups R [a] calls ↔ R a calls := by
  constructor
  · rintro ⟨groups, rfl, hgroups⟩
    cases hgroups with
    | cons hown hrest =>
      cases hrest
      rwa [List.flatten_cons, List.flatten_nil, List.append_nil]
  · intro h
    exact ⟨[calls], (List.append_nil calls).symm, .cons h .nil⟩

/-- **The calls mirror** other ones: they detach from the first interface, with the same plugins in
reverse. -/
structure Mirrors (undoing own : List Call) : Prop where
  plugins : undoing.map (·.execution.plugin) = (own.map (·.execution.plugin)).reverse
  detach : ∀ d ∈ undoing, d.execution.command = .del ∧
    d.execution.parameters.interface = InterfaceName.default

theorem ConfList.pluginTypes_ne_nil {l : ConfList} (valid : l.Valid) : l.pluginTypes ≠ [] := by
  rw [pluginTypes_of_valid valid, ne_eq, List.map_eq_nil_iff]
  exact ((valid_iff l).mp valid).1

namespace Delegation

variable {s : Sandbox} {a : Attachment} {calls : List Call}

/-- Attaching that goes through calls the plugins in order. -/
theorem AttachCalls.plugins_eq (h : AttachCalls s a calls none) (valid : a.conf.Valid) :
    calls.map (·.execution.plugin) = a.conf.pluginTypes := by
  rw [ConfList.pluginTypes_of_valid valid, eq_comm, ← List.forall₂_eq_eq_eq,
    List.forall₂_map_left_iff, List.forall₂_map_right_iff]
  refine h.forall₂_of_none.imp fun plugin c hc => ?_
  obtain ⟨⟨previous, he⟩, -⟩ := hc
  rw [he]
  rfl

/-- Detaching that goes through calls the plugins in reverse. -/
theorem DetachCalls.plugins_eq (h : DetachCalls s a calls none) (valid : a.conf.Valid) :
    calls.map (·.execution.plugin) = a.conf.pluginTypes.reverse := by
  rw [ConfList.pluginTypes_of_valid valid, ← List.map_reverse, eq_comm, ← List.forall₂_eq_eq_eq,
    List.forall₂_map_left_iff, List.forall₂_map_right_iff]
  refine h.forall₂_of_none.imp fun plugin c hc => ?_
  rw [hc.1]
  rfl

/-- **Detaching from the first interface mirrors attaching** just if the lists have the same types. -/
theorem DetachCalls.mirrors_iff {b : Attachment} {adds : List Call} (h : DetachCalls s a calls none)
    (valid : a.conf.Valid) (first : a.request.interface = InterfaceName.default)
    (attached : AttachCalls s b adds none) (attachedValid : b.conf.Valid) :
    Mirrors calls adds ↔ a.conf.pluginTypes = b.conf.pluginTypes := by
  constructor
  · intro hmirrors
    have htypes := hmirrors.plugins
    rwa [h.plugins_eq valid, attached.plugins_eq attachedValid, List.reverse_inj] at htypes
  · intro htypes
    refine ⟨by rw [h.plugins_eq valid, attached.plugins_eq attachedValid, htypes], fun d hd => ?_⟩
    exact ⟨h.command_eq d hd, (h.interface_eq d hd).trans first⟩

end Delegation

namespace Controller

/-- The attachment of a pod that asks for nothing, given the list that serves the plugin. -/
def defaultAttachment (plugin : String) (l : ConfList) : Attachment :=
  Resolver.attachment (.plain (.plugin plugin) InterfaceName.default) l none

theorem interface_defaultAttachment (plugin : String) (l : ConfList) :
    (defaultAttachment plugin l).request.interface = InterfaceName.default := by
  unfold defaultAttachment Resolver.attachment
  split <;> rfl

/-- What the one request of a pod that asks for nothing is resolved to. -/
theorem of_runOn_resolveAll {r : Resolver} {plugin : String} {node last : Node}
    {attachments : List Attachment}
    (h : (r.resolveAll (defaultRequests plugin)).runOn node = (.ok attachments, last)) :
    ∃ l, (r.pluginList plugin).runOn node = (.ok l, last) ∧
      attachments = [defaultAttachment plugin l] := by
  rw [defaultRequests, Resolver.resolveAll] at h
  obtain ⟨a, n₁, hresolve, h₁⟩ := Task.runOn_bind_eq_ok.mp h
  cases h₁
  obtain ⟨l, n₂, hlist, h₂⟩ := Task.runOn_bind_eq_ok.mp hresolve
  cases h₂
  exact ⟨l, hlist, rfl⟩

/-- What is left of that request when it is left out if it cannot be resolved. -/
theorem resolved_defaultRequests (r : Resolver) (files : FileSystem) (plugin : String) :
    Resolver.resolved (r.outcomes files (defaultRequests plugin)) =
      match ((r.pluginList plugin).runOn ⟨files, []⟩).1 with
      | .ok l => [defaultAttachment plugin l]
      | .error _ => [] := by
  have hrun : ((r.resolve (.plain (.plugin plugin) InterfaceName.default)).runOn ⟨files, []⟩).1 =
      ((r.pluginList plugin).runOn ⟨files, []⟩).1.map (defaultAttachment plugin) :=
    congrArg Prod.fst (Task.runOn_bind_pure _ _ _)
  rw [defaultRequests, Resolver.outcomes, Resolver.outcomes, hrun]
  cases ((r.pluginList plugin).runOn ⟨files, []⟩).1 <;> rfl

variable {c : Controller} {i : Invocation} {args : PodArgs}

/-- **What detaching for no pod does**: it detaches with what the configured plugin comes to, and does
nothing if that is a failure. -/
theorem del_without_pod (legible : i.podArgs = .ok args) (nobody : args.pod = none) (node : Node) :
    (∃ start, Called c.executor start ((c.del i).calls node) ((c.del i).runOn node).2) ∧
      Delegation.failure? ((c.del i).runOn node).1 =
        ((c.del i).calls node).findSome? Call.delFailure? ∧
      match ((c.resolver.pluginList c.settings.pluginOrDefault).runOn node).1 with
      | .ok l => l.Valid ∧ ∃ f, Delegation.DetachCalls (sandbox i none)
          (defaultAttachment c.settings.pluginOrDefault l) ((c.del i).calls node) f
      | .error _ => (c.del i).calls node = [] := by
  have hpod : (c.lookupRemainingPod i).Finds node.files (.ok none) :=
    finds_lookupRemainingPod (LookedUp.nobody legible nobody).finds
  obtain ⟨left, hresolve⟩ :=
    c.resolver.settles_resolveSome node.files (c.planDel node.files none)
  have hplan : c.planDel node.files none = defaultRequests c.settings.pluginOrDefault := rfl
  have hsame : ((c.resolver.pluginList c.settings.pluginOrDefault).runOn ⟨node.files, []⟩).1 =
      ((c.resolver.pluginList c.settings.pluginOrDefault).runOn node).1 :=
    (c.resolver.prepares_pluginList _).runOn_fst_congr rfl
  rw [hplan, resolved_defaultRequests, hsame, ← hplan] at hresolve
  cases hlist : ((c.resolver.pluginList c.settings.pluginOrDefault).runOn node).1 with
  | error f =>
    rw [hlist] at hresolve
    obtain ⟨hcalled, hsweep, hfailure⟩ := del_swept hpod hresolve (by simp)
    obtain ⟨groups, hcalls, hgroups⟩ := hsweep
    cases hgroups
    exact ⟨hcalled, hfailure, hcalls⟩
  | ok l =>
    rw [hlist] at hresolve
    have valid : l.Valid := c.resolver.yields_pluginList _ (Task.runOn_eq_of_fst hlist)
    obtain ⟨hcalled, hsweep, hfailure⟩ := del_swept hpod hresolve
      fun a ha => List.mem_singleton.mp ha ▸ valid
    exact ⟨hcalled, hfailure, valid, InGroups.singleton_iff.mp hsweep⟩

/-- **What attaching for no pod does**: it attaches with what the chosen plugin comes to. -/
theorem add_without_pod (legible : i.podArgs = .ok args) (nobody : args.pod = none)
    {node left : Node} {r : AddResult} (attaches : (c.add i).runOn node = (.ok r, left)) :
    ∃ plugin l, (c.selector.choose c.settings c.directory node.files).plugin = .ok plugin ∧
      c.resolver.Serves node.files plugin l left.files ∧ l.Valid ∧
      Delegation.AttachCalls (sandbox i none) (defaultAttachment plugin l) ((c.add i).calls node)
        none := by
  obtain ⟨pod, plan, attachments, results, calls, asked, told, h, -⟩ := exists_attached attaches
  cases (LookedUp.nobody legible nobody).finds.unique h.pod_found
  rcases finds_planAdd h.planned with ⟨hintent, -⟩ | ⟨-, plugin, hchoice, rfl⟩
  · cases hintent
  · obtain ⟨_, -, hrun⟩ := h.settled
    obtain ⟨l, hlist, rfl⟩ := of_runOn_resolveAll (hrun [])
    have valid : l.Valid := c.resolver.yields_pluginList plugin hlist
    rw [h.calls_eq (congrArg Prod.snd attaches)]
    exact ⟨plugin, l, hchoice, (Resolver.runOn_pluginList_eq_ok_iff.mp hlist).1, valid,
      InGroups.singleton_iff.mp h.attached⟩

/-- Detaching for no pod, with whatever executor, where all calls are tolerated. -/
theorem again_tolerated (legible : i.podArgs = .ok args) (nobody : args.pod = none)
    {executor : Executor} {node : Node}
    (tolerated : ∀ call ∈ (({ c with executor } : Controller).del
      { i with command := .del }).calls node, call.Tolerated) :
    let again := ({ c with executor } : Controller).del { i with command := .del }
    (again.runOn node).1 = .ok () ∧
      match ((c.resolver.pluginList c.settings.pluginOrDefault).runOn node).1 with
      | .ok l => l.Valid ∧ Delegation.DetachCalls (sandbox i none)
          (defaultAttachment c.settings.pluginOrDefault l) (again.calls node) none
      | .error _ => again.calls node = [] := by
  intro again
  obtain ⟨-, hfailure, hdetach⟩ := del_without_pod (c := { c with executor })
    (i := { i with command := .del }) legible nobody node
  have htolerated : (again.calls node).findSome? Call.delFailure? = none :=
    List.findSome?_eq_none_iff.mpr fun d hd => d.delFailure?_eq_none_iff.mpr (tolerated d hd)
  refine ⟨by rw [← Delegation.failure?_eq_none_iff, hfailure, htolerated], ?_⟩
  -- the executor plays no part in what a plugin is resolved to
  have hsame : ({ c with executor } : Controller).resolver = c.resolver := rfl
  rw [hsame] at hdetach
  cases hlist : ((c.resolver.pluginList c.settings.pluginOrDefault).runOn node).1 with
  | error f =>
    rw [hlist] at hdetach
    exact hdetach
  | ok l =>
    rw [hlist] at hdetach
    obtain ⟨hvalid, f, hdetach⟩ := hdetach
    exact ⟨hvalid, hdetach.complete tolerated⟩

/-- **Detaching for no pod mirrors attaching** just if the configured plugin comes to a list with the
types of the one that was attached, the chosen one's. If the configured plugin was chosen and stays
with its file, detaching tears down what attaching set up. -/
theorem del_mirrors_iff (c : Controller) (i : Invocation) (args : PodArgs)
    (legible : i.podArgs = .ok args) (nobody : args.pod = none) (node left : Node) (r : AddResult)
    (attaches : (c.add i).runOn node = (.ok r, left)) (executor : Executor) (later : Node)
    (files_eq : later.files = left.files)
    (tolerated : ∀ call ∈ (({ c with executor } : Controller).del
      { i with command := .del }).calls later, call.Tolerated) :
    let again := ({ c with executor } : Controller).del { i with command := .del }
    let adds := (c.add i).calls node
    let dels := again.calls later
    (again.runOn later).1 = .ok () ∧
      ∃ plugin l, (c.selector.choose c.settings c.directory node.files).plugin = .ok plugin ∧
        ((c.resolver.pluginList plugin).runOn node).1 = .ok l ∧
        Delegation.AttachCalls (sandbox i none) (defaultAttachment plugin l) adds none ∧
        (Mirrors dels adds ↔
          ∃ m, ((c.resolver.pluginList c.settings.pluginOrDefault).runOn later).1 = .ok m ∧
            m.pluginTypes = l.pluginTypes) ∧
        (plugin = c.settings.pluginOrDefault → c.resolver.Stays node.files left.files plugin →
          TearDownCalls dels adds) := by
  intro again adds dels
  obtain ⟨plugin, l, hchoice, hserves, hvalid, hattach⟩ := add_without_pod legible nobody attaches
  obtain ⟨hok, hdetach⟩ := again_tolerated legible nobody tolerated
  refine ⟨hok, plugin, l, hchoice, congrArg Prod.fst (hserves.runOn node.journal), hattach, ?_, ?_⟩
  · cases hlist : ((c.resolver.pluginList c.settings.pluginOrDefault).runOn later).1 with
    | error f =>
      rw [hlist] at hdetach
      have hnothing : dels = [] := hdetach
      have hadds : adds.map (·.execution.plugin) = l.pluginTypes := hattach.plugins_eq hvalid
      refine ⟨fun hmirrors => ?_, fun ⟨m, hm, _⟩ => by cases hm⟩
      have htypes := hmirrors.plugins
      rw [hnothing, hadds, List.map_nil, eq_comm, List.reverse_eq_nil_iff] at htypes
      exact absurd htypes (ConfList.pluginTypes_ne_nil hvalid)
    | ok m =>
      rw [hlist] at hdetach
      obtain ⟨hmvalid, hdetach⟩ := hdetach
      rw [hdetach.mirrors_iff hmvalid (interface_defaultAttachment _ m) hattach hvalid]
      exact ⟨fun htypes => ⟨m, rfl, htypes⟩, fun ⟨m', hm', htypes⟩ => by cases hm'; exact htypes⟩
  · rintro rfl hstays
    obtain ⟨last, hagain⟩ := hserves.again hstays
    have hlist : ((c.resolver.pluginList c.settings.pluginOrDefault).runOn later).1 = .ok l :=
      congrArg Prod.fst ((files_eq ▸ hagain).runOn later.journal)
    rw [hlist] at hdetach
    exact hdetach.2.tearsDown hattach

/-! ### The configured plugin and another -/

/-- **Attaching for no pod** is resolving the chosen plugin and attaching that, after questions. -/
theorem exists_add_runOn_choosing (legible : i.podArgs = .ok args) (nobody : args.pod = none)
    {node : Node} {plugin : String}
    (hchoice : (c.selector.choose c.settings c.directory node.files).plugin = .ok plugin) :
    ∃ asked, (∀ e ∈ asked, Event.IsQuestion e) ∧ (c.add i).runOn node =
      (c.resolver.resolveAll (defaultRequests plugin) >>= fun attachments =>
        Delegation.addAll c.executor (sandbox i none) attachments >>= fun results =>
          pure (AddResult.merge c.settings.cniVersion results)).runOn
            ⟨node.files, node.journal ++ asked⟩ := by
  obtain ⟨asked, hasked, hpod⟩ := (LookedUp.nobody (c := c) legible nobody).finds
  have hplan : (c.planAdd none).Finds node.files
      (.ok ⟨defaultRequests plugin, if c.selector.isDynamic then some plugin else none⟩) :=
    .bind (.look _) (.bind ((c.finds_choosePlugin node.files).of_eq hchoice) (.pure _))
  obtain ⟨asked', hasked', hplan⟩ := hplan
  refine ⟨asked ++ asked', fun e he => (List.mem_append.mp he).elim (hasked e) (hasked' e), ?_⟩
  rw [add, Task.runOn_bind_ok (hpod node.journal), Task.runOn_bind_ok (hplan _), List.append_assoc]
  rfl

/-- The one request of a pod that asks for nothing settles as its plugin does. -/
theorem settles_defaultRequests {r : Resolver} {plugin : String} {files left : FileSystem}
    {outcome : Except Failure ConfList} (h : (r.pluginList plugin).Settles files outcome left) :
    (r.resolveAll (defaultRequests plugin)).Settles files
      (outcome.map fun l => [defaultAttachment plugin l]) left := by
  cases outcome with
  | error f => exact .bind_error (.bind_error h)
  | ok l => exact .bind (.bind h (.of_finds (.pure _))) (.bind (.of_finds (.pure _)) (.of_finds (.pure _)))

/-- **Attaching for no pod is attaching the chosen plugin**, after questions, when it is served. -/
theorem exists_add_runOn_without_pod (legible : i.podArgs = .ok args) (nobody : args.pod = none)
    {node : Node} {left : FileSystem} {plugin : String} {l : ConfList}
    (hchoice : (c.selector.choose c.settings c.directory node.files).plugin = .ok plugin)
    (hserves : c.resolver.Serves node.files plugin l left) :
    ∃ asked, (∀ e ∈ asked, Event.IsQuestion e) ∧ (c.add i).runOn node =
      (Delegation.addAll c.executor (sandbox i none) [defaultAttachment plugin l] >>=
        fun results => pure (AddResult.merge c.settings.cniVersion results)).runOn
          ⟨left, node.journal ++ asked⟩ := by
  obtain ⟨asked, hasked, hrun⟩ := exists_add_runOn_choosing legible nobody hchoice
  have hsettles : (c.resolver.pluginList plugin).Settles node.files (.ok l) left :=
    ⟨[], by simp, fun journal => by rw [hserves.runOn journal, List.append_nil]⟩
  obtain ⟨asked', hasked', hresolve⟩ := settles_defaultRequests hsettles
  refine ⟨asked ++ asked', fun e he => (List.mem_append.mp he).elim (hasked e) (hasked' e), ?_⟩
  rw [hrun, Task.runOn_bind_ok (hresolve _), List.append_assoc]

/-- Attaching for no pod succeeds when a plugin is chosen and served, and calling it succeeds. -/
theorem exists_add_without_pod (legible : i.podArgs = .ok args) (nobody : args.pod = none)
    {node : Node} {left : FileSystem} {plugin : String} {l : ConfList}
    (hchoice : (c.selector.choose c.settings c.directory node.files).plugin = .ok plugin)
    (hserves : c.resolver.Serves node.files plugin l left)
    (hadd : ∀ journal, ∃ results last,
      (Delegation.addAll c.executor (sandbox i none) [defaultAttachment plugin l]).runOn
        ⟨left, journal⟩ = (.ok results, last)) :
    ∃ r last, (c.add i).runOn node = (.ok r, last) := by
  obtain ⟨asked, -, hrun⟩ := exists_add_runOn_without_pod legible nobody hchoice hserves
  obtain ⟨results, last, hall⟩ := hadd (node.journal ++ asked)
  rw [Task.runOn_bind_ok hall] at hrun
  exact ⟨_, last, hrun⟩

/-- An invocation for no pod. -/
def loneInvocation : Invocation := ⟨.add, "c1", "/ns/c1", "eth0", "", [], []⟩

/-- A controller that always takes `bridge`. -/
def configuredController : Controller where
  settings := { Settings.default with defaultPlugin := some "bridge", persistBuiltins := false }
  directory := ⟨"", ["/"]⟩
  cluster := none
  executor := silent
  selector := .configured

/-- The built-in configuration of `bridge`, as a list. -/
def bridgeList : ConfList := ⟨"", "mybridgenet", [Builtin.bridge], []⟩

theorem serves_bridge :
    configuredController.resolver.Serves bridgeNode.files "bridge" bridgeList bridgeNode.files := by
  have hbinary : configuredController.directory.findBinary bridgeNode.files "bridge" =
      some "/bridge" := by
    show [Path.join "/" "bridge"].find? bridgeNode.files.isFile = _
    rw [show Path.join "/" "bridge" = "/bridge" by rfl, List.find?_cons, isFile_bridge]
  have husable : Resolver.builtinConf configuredController.directory bridgeNode.files "bridge" =
      .ok Builtin.bridge := Resolver.builtinConf_eq_ok_iff.mpr ⟨rfl, by rw [hbinary]; rfl⟩
  exact .builtin (by rfl) husable (by rfl) rfl

/-- The configured plugin is detached as it was attached. -/
theorem del_mirrors_bridge :
    ∃ r left, (configuredController.add loneInvocation).runOn bridgeNode = (.ok r, left) ∧
      TearDownCalls
        ((configuredController.del { loneInvocation with command := .del }).calls left)
        ((configuredController.add loneInvocation).calls bridgeNode) := by
  obtain ⟨args, hargs, hnobody⟩ : ∃ args, loneInvocation.podArgs = .ok args ∧ args.pod = none :=
    ⟨_, by rfl, by rfl⟩
  obtain ⟨r, left, hrun⟩ := exists_add_without_pod (c := configuredController) hargs hnobody rfl
    serves_bridge fun journal => ⟨_, _, by rfl⟩
  refine ⟨r, left, hrun, ?_⟩
  obtain ⟨⟨start, hcalled⟩, -⟩ := del_without_pod (c := configuredController)
    (i := { loneInvocation with command := .del }) hargs hnobody left
  obtain ⟨-, plugin, l, hchoice, -, -, -, htears⟩ := del_mirrors_iff configuredController
    loneInvocation args hargs hnobody bridgeNode left r hrun silent left rfl
    (hcalled.forall_call fun _ _ _ => .inl ⟨[], rfl⟩)
  exact htears (Except.ok.inj hchoice).symm (.inl rfl)

/-- Settings that have traffic followed; `bridge` is configured, and not installed. -/
def trafficSettings : Settings :=
  { Settings.default with
    defaultPlugin := some "bridge"
    persistBuiltins := false
    usageAddress := some "http://monitor" }

/-- A controller with those settings. -/
def trafficController : Controller where
  settings := trafficSettings
  directory := Resolver.weaveResolver.directory
  cluster := none
  executor := silent
  selector := .ofSettings Resolver.weaveService trafficSettings

/-- A node on which `weave-net` is configured. -/
def trafficNode : Node := Resolver.weaveNode "10-weave-net.conf"

theorem load_trafficNode :
    trafficController.directory.confNames trafficNode.files = .ok ["10-weave-net.conf"] ∧
      Directory.load trafficNode.files (trafficController.directory.file "10-weave-net.conf") =
        .ok Resolver.weaveList :=
  Resolver.load_weaveNode _ (by decide) (by decide) (by rfl) (by rfl) (by rfl)

/-- The plugin with traffic is chosen. -/
theorem choose_weave :
    (trafficController.selector.choose trafficController.settings trafficController.directory
      trafficNode.files).plugin = .ok "weave-net" := by
  have hranked : Selector.ranked? Resolver.weaveService "http://monitor" trafficSettings.usageSamples
      trafficController.directory trafficNode.files = some "weave-net" :=
    Resolver.ranked_weaveNode _ load_trafficNode.1 load_trafficNode.2
  have hselector : trafficController.selector =
      .leastUsed Resolver.weaveService "http://monitor" trafficSettings.usageSamples := by rfl
  rw [hselector, Selector.choose_leastUsed, hranked]
  rfl

theorem serves_weave : trafficController.resolver.Serves trafficNode.files "weave-net"
    Resolver.weaveList trafficNode.files := by
  have hnamed : trafficController.directory.findConf trafficNode.files "weave-net" =
      .ok (some (trafficController.directory.file "10-weave-net.conf")) :=
    (Directory.findConf_eq_some_iff load_trafficNode.1).mpr
      ⟨_, Directory.isFirst_singleton (by rfl), rfl⟩
  exact .found hnamed load_trafficNode.2

/-- The configured plugin cannot be resolved. -/
theorem runOn_configured (journal : List Event) :
    (trafficController.resolver.pluginList "bridge").runOn ⟨trafficNode.files, journal⟩ =
      (.error (.binaryMissing "bridge" ""), ⟨trafficNode.files, journal⟩) := by
  have hunnamed : trafficController.directory.findConf trafficNode.files "bridge" = .ok none := by
    refine (Directory.findConf_eq_none_iff load_trafficNode.1).mpr fun n hn => ?_
    rw [List.mem_singleton.mp hn]
    rfl
  rw [Resolver.pluginList, Task.runOn_bind_ok (by rw [Task.runOn_look]; exact Prod.ext hunnamed rfl),
    Task.runOn_bind_error (by rw [Task.runOn_look]; rfl)]
  rfl

/-- **What followed traffic is not detached**: `weave-net` was attached, and nothing is called to detach
it, although detaching succeeds. -/
theorem del_misses_weave :
    ∃ r left, (trafficController.add loneInvocation).runOn trafficNode = (.ok r, left) ∧
      ((trafficController.add loneInvocation).calls trafficNode).map (·.execution.plugin) =
        ["weave-net"] ∧
      ((trafficController.del { loneInvocation with command := .del }).runOn left).1 = .ok () ∧
      (trafficController.del { loneInvocation with command := .del }).calls left = [] := by
  obtain ⟨args, hargs, hnobody⟩ : ∃ args, loneInvocation.podArgs = .ok args ∧ args.pod = none :=
    ⟨_, by rfl, by rfl⟩
  obtain ⟨r, left, hrun⟩ := exists_add_without_pod (c := trafficController) hargs hnobody
    choose_weave serves_weave fun journal => ⟨_, _, by rfl⟩
  obtain ⟨plugin, l, hchoice, hserves, hvalid, hattach⟩ := add_without_pod hargs hnobody hrun
  rw [choose_weave] at hchoice
  cases hchoice
  have hsame := (hserves.runOn []).symm.trans (serves_weave.runOn [])
  simp only [Prod.mk.injEq, Except.ok.injEq, Node.mk.injEq, and_true] at hsame
  obtain ⟨rfl, hfiles⟩ := hsame
  obtain ⟨-, hfailure, hnothing⟩ := del_without_pod (c := trafficController)
    (i := { loneInvocation with command := .del }) hargs hnobody left
  have hmissing : ((trafficController.resolver.pluginList
      trafficController.settings.pluginOrDefault).runOn left).1 =
        .error (.binaryMissing "bridge" "") := by
    obtain ⟨files, journal⟩ := left
    cases hfiles
    exact congrArg Prod.fst (runOn_configured journal)
  rw [hmissing] at hnothing
  rw [hnothing] at hfailure
  exact ⟨r, left, hrun, hattach.plugins_eq hvalid,
    (Delegation.failure?_eq_none_iff _).mp hfailure, hnothing⟩

end Controller

end PodNet
