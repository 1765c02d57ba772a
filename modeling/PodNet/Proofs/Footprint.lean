import Mathlib.Logic.Relation
import PodNet.CommandLine
import PodNet.Proofs.LogicalNetworks
import PodNet.Proofs.StableBuiltins
import PodNet.Proofs.WithoutPod

/-!
# What invocations do to the files

The only files that an invocation changes are those of built-in configurations that it persists, which
resolving a plugin may do, for attaching and for detaching alike (`Resolver.changesBy_pluginList`,
`CommandLine.changesBy_serve`). Calling plugins and telling the pod change no files. So whatever
invocations are served one after the other, with whatever clusters, plugins and failures, each change
is one that persists a configuration that is due, every configuration file stands as it did, and where
built-in configurations are not persisted no file changes at all (`CommandLine.serveAll_footprint`).
-/

namespace PodNet

open Relation (ReflTransGen)

namespace Task

variable {α β : Type} {R : FileSystem → FileSystem → Prop}

/-- **The task changes files by steps** of the relation, and not otherwise. -/
def ChangesBy (R : FileSystem → FileSystem → Prop) (task : Task α) : Prop :=
  ∀ node, ReflTransGen R node.files (task.runOn node).2.files

namespace ChangesBy

theorem of_files_eq {task : Task α} (h : ∀ node, (task.runOn node).2.files = node.files) :
    ChangesBy R task := by
  intro node
  rw [h]

theorem of_onlyLooks {task : Task α} (h : OnlyLooks task) : ChangesBy R task := by
  refine of_files_eq fun node => ?_
  obtain ⟨-, asked, -, hleft⟩ := h.runOn_eq (runOn_eq_of_fst (rfl : (task.runOn node).1 = _))
  rw [hleft]

/-- What comes after may depend on what the first part yields. -/
theorem bind_of_yields {P : α → Prop} {task : Task α} {next : α → Task β}
    (h : ChangesBy R task) (hyields : Yields P task) (h' : ∀ a, P a → ChangesBy R (next a)) :
    ChangesBy R (task >>= next) := by
  intro node
  have hfirst := h node
  rw [runOn_bind]
  rcases hrun : task.runOn node with ⟨f | a, left⟩
  · rw [hrun] at hfirst
    exact hfirst
  · rw [hrun] at hfirst
    exact hfirst.trans (h' a (hyields hrun) left)

theorem bind {task : Task α} {next : α → Task β} (h : ChangesBy R task)
    (h' : ∀ a, ChangesBy R (next a)) : ChangesBy R (task >>= next) :=
  bind_of_yields (P := fun _ => True) h (fun _ _ _ _ => trivial) fun a _ => h' a

theorem attempt {task : Task α} (h : ChangesBy R task) : ChangesBy R (Task.attempt task) :=
  fun node => h node

end ChangesBy

end Task

/-! ### Resolving -/

namespace Resolver

/-- What resolving does to files: a built-in configuration is persisted, if that is asked for. -/
def Persists (r : Resolver) (fs left : FileSystem) : Prop :=
  r.persistBuiltins = true ∧ r.directory.Persists r.disk fs left

/-- **Resolving a plugin** persists its built-in configuration if it is due, and changes nothing
else. -/
theorem changesBy_pluginList (r : Resolver) (plugin : String) :
    Task.ChangesBy r.Persists (r.pluginList plugin) := by
  intro node
  unfold pluginList
  rw [Task.runOn_bind, Task.runOn_look]
  rcases hunnamed : r.directory.findConf node.files plugin with f | _ | path
  · exact .refl
  · dsimp only
    rw [Task.runOn_bind, Task.runOn_look]
    cases husable : builtinConf r.directory node.files plugin with
    | error f => exact .refl
    | ok conf =>
      obtain ⟨hbuiltin, hbinary⟩ := builtinConf_eq_ok_iff.mp husable
      have due : r.directory.Due node.files plugin conf := ⟨hbuiltin, hunnamed, hbinary⟩
      cases hpersist : r.persistBuiltins with
      | false => exact .refl
      | true =>
        have hstep : r.Persists node.files _ := ⟨hpersist, due.persists r.disk⟩
        dsimp only
        rw [if_pos rfl, Task.runOn_bind, Task.runOn_change]
        rcases hwrite : r.directory.write node.files (Builtin.fileName plugin) r.disk (.obj conf) with
          ⟨f | _, left⟩
        · rw [hwrite] at hstep
          exact .single hstep
        · rw [hwrite] at hstep
          exact .single hstep
  · exact .refl

theorem changesBy_resolve (r : Resolver) (request : AttachmentRequest) :
    Task.ChangesBy r.Persists (r.resolve request) := by
  unfold resolve
  split
  · exact .bind (r.changesBy_pluginList _) fun l => .of_onlyLooks (.pure _)
  · refine .bind (.of_onlyLooks (.look _)) fun found => ?_
    split
    · exact .of_onlyLooks (.pure _)
    · exact .bind (r.changesBy_pluginList _) fun l => .of_onlyLooks (.pure _)
  · exact .of_onlyLooks (.bind (r.onlyLooks_netAttachDefList _ _) fun l => .pure _)
  · refine .bind (.of_onlyLooks (r.onlyLooks_logicalCarving _ _)) fun carving => ?_
    refine .bind (.of_onlyLooks (.ofExcept _)) fun plugin => ?_
    exact .bind (r.changesBy_pluginList _) fun l => .of_onlyLooks (.pure _)

theorem changesBy_resolveAll (r : Resolver) (requests : List AttachmentRequest) :
    Task.ChangesBy r.Persists (r.resolveAll requests) := by
  induction requests with
  | nil => exact .of_onlyLooks (.pure _)
  | cons request rest ih =>
    exact .bind (r.changesBy_resolve request) fun a =>
      .bind ih fun attachments => .of_onlyLooks (.pure _)

theorem changesBy_resolveSome (r : Resolver) (requests : List AttachmentRequest) :
    Task.ChangesBy r.Persists (r.resolveSome requests) := by
  induction requests with
  | nil => exact .of_onlyLooks (.pure _)
  | cons request rest ih =>
    refine .bind (.attempt (r.changesBy_resolve request)) fun outcome => ?_
    split
    · exact .bind ih fun attachments => .of_onlyLooks (.pure _)
    · exact ih

/-- Whatever is not left out has a valid list. -/
theorem yields_resolveSome (r : Resolver) (requests : List AttachmentRequest) :
    Task.Yields (fun attachments => ∀ a ∈ attachments, a.conf.Valid) (r.resolveSome requests) := by
  intro node left attachments h
  obtain ⟨_, hsettles⟩ := r.settles_resolveSome node.files requests
  have hfound := hsettles.runOn_fst
  rw [h] at hfound
  cases hfound
  intro a ha
  obtain ⟨n, hn⟩ := mem_resolved.mp ha
  exact (of_getElem?_outcomes hn).1

end Resolver

/-! ### Calling plugins -/

theorem Called.files_eq {executor : Executor} {node last : Node} {calls : List Call}
    (h : Called executor node calls last) : last.files = node.files := by
  rw [h.eq_after, Node.after]

namespace Delegation

variable {R : FileSystem → FileSystem → Prop} (executor : Executor) (s : Sandbox)
  {attachments : List Attachment}

theorem changesBy_addAll (valid : ∀ a ∈ attachments, a.conf.Valid) :
    Task.ChangesBy R (addAll executor s attachments) := by
  refine .of_files_eq fun node => ?_
  obtain ⟨calls, hcalled, -⟩ := addAll_called executor s attachments valid node
  exact hcalled.files_eq

theorem changesBy_delAll (valid : ∀ a ∈ attachments, a.conf.Valid) :
    Task.ChangesBy R (delAll executor s attachments) := by
  refine .of_files_eq fun node => ?_
  obtain ⟨calls, hcalled, -⟩ := delAll_called executor s attachments valid node
  exact hcalled.files_eq

end Delegation

/-! ### Invocations -/

namespace Controller

variable (c : Controller) (i : Invocation)

theorem changesBy_add : Task.ChangesBy c.resolver.Persists (c.add i) := by
  unfold add
  refine .bind (.of_onlyLooks (c.onlyLooks_lookupPod i)) fun pod => ?_
  refine .bind (.of_onlyLooks (c.onlyLooks_planAdd pod)) fun plan => ?_
  refine .bind_of_yields (c.resolver.changesBy_resolveAll _) (c.resolver.yields_resolveAll _)
    fun attachments valid => ?_
  refine .bind (Delegation.changesBy_addAll _ _ valid) fun results => ?_
  refine .bind (.of_files_eq fun node => ?_) fun _ => .of_onlyLooks (.pure _)
  obtain ⟨told, hrun, -⟩ := c.writeStatus_runOn plan attachments results pod node
  rw [hrun]

theorem onlyLooks_lookupRemainingPod : Task.OnlyLooks (c.lookupRemainingPod i) := by
  unfold lookupRemainingPod
  refine .bind (fun files => ?_) fun outcome => ?_
  · obtain ⟨outcome, hfind⟩ := c.onlyLooks_lookupPod i files
    exact ⟨_, hfind.attempt⟩
  · split
    · exact .pure _
    · exact .pure _
    · exact .throw _

theorem changesBy_del : Task.ChangesBy c.resolver.Persists (c.del i) := by
  unfold del
  refine .bind (.of_onlyLooks (c.onlyLooks_lookupRemainingPod i)) fun pod => ?_
  refine .bind (.of_files_eq fun _ => rfl) fun node => ?_
  exact .bind_of_yields (c.resolver.changesBy_resolveSome _) (c.resolver.yields_resolveSome _)
    fun attachments valid => Delegation.changesBy_delAll _ _ valid

variable {c i} in
/-- **Attaching for no pod leaves the files that resolving the chosen plugin leaves**, also where that
fails. -/
theorem files_add_without_pod {args : PodArgs} (legible : i.podArgs = .ok args)
    (nobody : args.pod = none) {node : Node} {plugin : String}
    (hchoice : (c.selector.choose c.settings c.directory node.files).plugin = .ok plugin)
    {outcome : Except Failure ConfList} {left : FileSystem}
    (h : (c.resolver.pluginList plugin).Settles node.files outcome left) :
    ((c.add i).runOn node).2.files = left := by
  obtain ⟨asked, -, hrun⟩ := exists_add_runOn_choosing legible nobody hchoice
  obtain ⟨asked', -, hresolve⟩ := settles_defaultRequests h
  rw [hrun]
  cases outcome with
  | error f => rw [Task.runOn_bind_error (hresolve _)]
  | ok l =>
    have hserved : ((c.resolver.pluginList plugin).runOn node).1 = .ok l := h.runOn_fst
    have valid : l.Valid := c.resolver.yields_pluginList plugin (Task.runOn_eq_of_fst hserved)
    obtain ⟨calls, hcalled, -⟩ := Delegation.addAll_called c.executor (sandbox i none)
      [defaultAttachment plugin l] (fun a ha => List.mem_singleton.mp ha ▸ valid)
      ⟨left, node.journal ++ asked ++ asked'⟩
    rw [Task.runOn_bind_ok (hresolve _), Task.runOn_bind_pure]
    exact hcalled.files_eq

variable {c i} in
/-- Where the chosen plugin's built-in configuration is due and is persisted, attaching for no pod leaves
the files that writing it leaves. -/
theorem files_add_of_due {args : PodArgs} (legible : i.podArgs = .ok args) (nobody : args.pod = none)
    (persist : c.settings.persistBuiltins = true) {node : Node} {plugin : String} {conf : Object}
    (hchoice : (c.selector.choose c.settings c.directory node.files).plugin = .ok plugin)
    (due : c.directory.Due node.files plugin conf) :
    ((c.add i).runOn node).2.files =
      (c.directory.write node.files (Builtin.fileName plugin) c.disk (.obj conf)).2 := by
  obtain ⟨l, list, -⟩ := Builtin.exists_list due.builtin
  have hsame : c.resolver.persisting true = c.resolver := by
    simp only [Resolver.persisting, resolver, persist]
  have hrun := fun journal => Resolver.runOn_persisting (r := c.resolver) due list journal
  rw [hsame] at hrun
  rcases hwrite : c.directory.write node.files (Builtin.fileName plugin) c.disk (.obj conf) with
    ⟨outcome, left⟩
  have hsettles : (c.resolver.pluginList plugin).Settles node.files (outcome.map fun _ => l) left := by
    refine ⟨[], by simp, fun journal => ?_⟩
    rw [hrun journal, show c.resolver.directory.write node.files (Builtin.fileName plugin)
      c.resolver.disk (.obj conf) = (outcome, left) from hwrite, List.append_nil]
    cases outcome <;> rfl
  exact files_add_without_pod legible nobody hchoice hsettles

end Controller

namespace CommandLine

/-- **Serving an invocation** changes files by persisting built-in configurations, and not
otherwise. -/
theorem changesBy_serve (c : Controller) (i : Invocation) :
    Task.ChangesBy c.resolver.Persists (serve c i) := by
  unfold serve
  split
  · exact .bind (c.changesBy_add i) fun r => .of_onlyLooks (.pure _)
  · exact .bind (c.changesBy_del i) fun _ => .of_onlyLooks (.pure _)
  · refine .bind (.of_onlyLooks ?_) fun _ => .of_onlyLooks (.pure _)
    exact .bind (.ofExcept _) fun _ => .pure _
  · exact .of_onlyLooks (.pure _)

/-- Serves invocations one after the other, each with what serves it, and gives the node that is
left. -/
def serveAll (node : Node) (steps : List (Controller × Invocation)) : Node :=
  steps.foldl (fun node step => ((serve step.1 step.2).runOn node).2) node

variable {steps : List (Controller × Invocation)}

/-- One of the invocations persists a built-in configuration. -/
def Persists (steps : List (Controller × Invocation)) (fs left : FileSystem) : Prop :=
  ∃ step ∈ steps, step.1.resolver.Persists fs left

/-- A run changes files as its invocations do, one after the other. -/
theorem reaches_serveAll (node : Node) (steps : List (Controller × Invocation)) :
    ReflTransGen (Persists steps) node.files (serveAll node steps).files := by
  induction steps generalizing node with
  | nil => exact .refl
  | cons step rest ih =>
    have hfirst := changesBy_serve step.1 step.2 node
    have hrest := ih ((serve step.1 step.2).runOn node).2
    have hown : ∀ fs left, step.1.resolver.Persists fs left → Persists (step :: rest) fs left :=
      fun _ _ h => ⟨step, List.mem_cons_self, h⟩
    have hothers : ∀ fs left, Persists rest fs left → Persists (step :: rest) fs left :=
      fun _ _ ⟨other, hmem, h⟩ => ⟨other, List.mem_cons_of_mem _ hmem, h⟩
    exact (ReflTransGen.mono hown _ _ hfirst).trans (ReflTransGen.mono hothers _ _ hrest)

/-- **What stands at the place was put there** by one of the invocations, on the way from the first
files to the last. -/
def PutBy (steps : List (Controller × Invocation)) (fs left : FileSystem) (place : Place) : Prop :=
  ∃ step ∈ steps, step.1.settings.persistBuiltins = true ∧ ∃ before made entry,
    ReflTransGen (Persists steps) fs before ∧
    step.1.directory.Puts step.1.disk before made place entry ∧
    ReflTransGen (Persists steps) (made.put place entry) left ∧ left.at? place = some entry

/-- **What stands at the place is accounted for**: it stood there before, or it is a directory where
nothing stood, or one of the invocations put it there. -/
def Accounted (steps : List (Controller × Invocation)) (fs left : FileSystem) (place : Place) :
    Prop :=
  left.at? place = fs.at? place ∨ (fs.at? place = none ∧ left.at? place = some .directory) ∨
    PutBy steps fs left place

/-- A step that does nothing to a place does nothing to how it is accounted for. -/
theorem Accounted.keep {fs mid left : FileSystem} {place : Place} (h : Accounted steps fs mid place)
    (hstep : Persists steps mid left) (heq : left.at? place = mid.at? place) :
    Accounted steps fs left place := by
  rcases h with hsame | ⟨hnone, hdirectory⟩ | ⟨step, hmem, persist, before, made, entry, hbefore, puts,
    hafter, hentry⟩
  · exact .inl (heq.trans hsame)
  · exact .inr (.inl ⟨hnone, heq.trans hdirectory⟩)
  · exact .inr (.inr ⟨step, hmem, persist, before, made, entry, hbefore, puts, hafter.tail hstep,
      heq.trans hentry⟩)

theorem accounted_of_reaches {fs left : FileSystem} (h : ReflTransGen (Persists steps) fs left)
    (place : Place) : Accounted steps fs left place := by
  induction h with
  | refl => exact .inl rfl
  | @tail mid left hreaches hstep ih =>
    obtain ⟨step, hmem, persist, hpersists⟩ := hstep
    rcases hpersists.at? place with heq | ⟨hnone, hdirectory⟩ | ⟨made, entry, puts, hleft⟩
    · exact ih.keep ⟨step, hmem, persist, hpersists⟩ heq
    · -- nothing stood there, so nothing was put there before
      rcases ih with hsame | ⟨-, hstands⟩ | ⟨_, _, _, _, _, _, _, _, _, hstands⟩
      · exact .inr (.inl ⟨hsame ▸ hnone, hdirectory⟩)
      · rw [hnone] at hstands
        cases hstands
      · rw [hnone] at hstands
        cases hstands
    · subst hleft
      refine .inr (.inr ⟨step, hmem, persist, mid, made, entry, hreaches, puts, .refl, ?_⟩)
      exact FileSystem.at?_put_self puts.ne_nil entry

/-- A configuration file of the directory that all invocations work in stands as it did. -/
theorem stands_of_reaches {d : Directory}
    (here : ∀ step ∈ steps, step.1.directory.networks = d.networks) {fs left : FileSystem}
    {name : String} {place : Place} {content : Bytes} {mode : Nat}
    (h : ReflTransGen (Persists steps) fs left) (hstands : d.Stands fs name place content mode) :
    d.Stands left name place content mode := by
  induction h with
  | refl => exact hstands
  | tail _ hstep ih =>
    obtain ⟨step, hmem, -, hpersists⟩ := hstep
    exact (hpersists.stands (ih.congr (here step hmem))).congr (here step hmem).symm

/-- **What invocations do to the files**, any number of them, whatever their pods, clusters, plugins,
disks and failures. Every change persists a built-in configuration that is due at that moment. In the
end what stands anywhere is what stood there, a directory where nothing stood, or what was put where the
file of such a configuration goes: just its text with the mode 0644, unless the disk spoiled it. Every
configuration file that there was stands as it did. Where built-in configurations are not persisted, no
file changes. -/
theorem serveAll_footprint (d : Directory) (steps : List (Controller × Invocation))
    (here : ∀ step ∈ steps, step.1.directory.networks = d.networks) (node : Node) :
    let left := serveAll node steps
    ReflTransGen (Persists steps) node.files left.files ∧
      (∀ place, Accounted steps node.files left.files place) ∧
      (∀ names, d.confNames node.files = .ok names → ∀ name ∈ names, ∃ place content mode,
        d.Stands node.files name place content mode ∧
          d.Stands left.files name place content mode) ∧
      ((∀ step ∈ steps, step.1.settings.persistBuiltins = false) → left.files = node.files) := by
  intro left
  have hreaches := reaches_serveAll node steps
  refine ⟨hreaches, accounted_of_reaches hreaches, fun names hnames name hname => ?_, fun keep => ?_⟩
  · obtain ⟨place, content, mode, hstands⟩ := Directory.exists_stands hnames hname
    exact ⟨place, content, mode, hstands, stands_of_reaches here hreaches hstands⟩
  · rcases hreaches.cases_head with heq | ⟨_, ⟨step, hmem, persist, -⟩, -⟩
    · exact heq.symm
    · have hkeep : step.1.resolver.persistBuiltins = false := keep step hmem
      rw [hkeep] at persist
      cases persist

/-! ### Attaching for no pod -/

/-- A controller that persists the built-in configuration of a plugin in a directory. -/
def persistingController (networks plugin : String) (disk : Disk) : Controller where
  settings := { Settings.default with defaultPlugin := some plugin }
  directory := ⟨networks, ["/"]⟩
  cluster := none
  executor := Controller.silent
  selector := .configured
  disk := disk

/-- Where the configuration is due, such a controller writes it. -/
theorem files_serve_of_due {networks plugin : String} {disk : Disk} {files : FileSystem}
    {conf : Object} (due : Directory.Due ⟨networks, ["/"]⟩ files plugin conf)
    (hplugin : Text.nonBlank plugin = some plugin) :
    ((serve (persistingController networks plugin disk) Controller.loneInvocation).runOn
        ⟨files, []⟩).2.files =
      (Directory.write ⟨networks, ["/"]⟩ files (Builtin.fileName plugin) disk (.obj conf)).2 := by
  obtain ⟨args, hargs, hnobody⟩ :
      ∃ args, Controller.loneInvocation.podArgs = .ok args ∧ args.pod = none := ⟨_, by rfl, by rfl⟩
  have hserve : (serve (persistingController networks plugin disk) Controller.loneInvocation).runOn
    ⟨files, []⟩ = _ := Task.runOn_bind_pure _ _ _
  have hchoice : (persistingController networks plugin disk).settings.pluginOrDefault = plugin := by
    rw [Settings.pluginOrDefault, persistingController, Option.bind_some, hplugin, Option.getD_some]
  rw [hserve]
  exact Controller.files_add_of_due (c := persistingController networks plugin disk) hargs hnobody rfl
    (congrArg Except.ok hchoice) due

/-- A controller for a node where `vlan` is configured. -/
def macvlanController : Controller := persistingController "/" "macvlan" .sound

/-- Attaching and detaching for no pod. -/
def attachAndDetach : List (Controller × Invocation) :=
  [(macvlanController, Controller.loneInvocation),
    (macvlanController, { Controller.loneInvocation with command := .del })]

/-- Attaching with `macvlan` and detaching again leaves the file of `vlan` as it was, although attaching
writes another file. -/
theorem serveAll_footprint_macvlan :
    (∀ step ∈ attachAndDetach,
        step.1.directory.networks = macvlanController.directory.networks) ∧
      ((serve macvlanController Controller.loneInvocation).runOn
        ⟨Resolver.vlanFiles, []⟩).2.files = Resolver.persisted "macvlan" Builtin.macvlan ∧
      ∃ place content mode,
        macvlanController.directory.Stands Resolver.vlanFiles "20-vlan.conf" place content mode ∧
        macvlanController.directory.Stands
          (serveAll ⟨Resolver.vlanFiles, []⟩ attachAndDetach).files "20-vlan.conf" place content
          mode := by
  have here : ∀ step ∈ attachAndDetach,
      step.1.directory.networks = macvlanController.directory.networks := by
    intro step hstep
    simp only [attachAndDetach, List.mem_cons, List.not_mem_nil, or_false] at hstep
    rcases hstep with rfl | rfl
    · rfl
    · rfl
  obtain ⟨-, -, hkept, -⟩ := serveAll_footprint macvlanController.directory attachAndDetach here
    ⟨Resolver.vlanFiles, []⟩
  refine ⟨here, ?_, hkept _ Resolver.confNames_vlan "20-vlan.conf" (List.mem_singleton_self _)⟩
  have hconf : Builtin.conf? "macvlan" = some Builtin.macvlan := rfl
  have hlist : ConfList.ofConf Builtin.macvlan = .ok Resolver.macvlanList := by rfl
  obtain ⟨unnamed, hrun⟩ := Resolver.runOn_persisted hconf hlist (by rfl)
  obtain ⟨conf, due, -, writes, -⟩ :=
    (Resolver.runOn_pluginList_eq_ok_iff.mp hrun).1.persists rfl unnamed
  cases hconf.symm.trans due.builtin
  exact (files_serve_of_due due (by rfl)).trans (congrArg Prod.snd writes)

/-! ### Other files -/

/-- The files of a node where `macvlan` is configured, and a link in the root has the name of the file of
`bridge` and leads nowhere. -/
def wildFiles : FileSystem :=
  ⟨[(["10-bridge.conf"], .link "bridge.txt"), (["10-macvlan.conf"], .file (Bytes.ofString "{}") 0o600),
    (["bridge"], .file [] 0o755), (["macvlan"], .file [] 0o755), (["sriov"], .file [] 0o755)], []⟩

/-- Those files with a directory made. -/
def wildMade : FileSystem := wildFiles.put ["gone"] .directory

/-- The root, by way of a directory that is missing. -/
def roundabout : Directory := ⟨"/gone/..", ["/"]⟩

/-- The root. -/
def straight : Directory := ⟨"/", ["/"]⟩

/-- A disk that is full, where new files are for their owners only. -/
def fullDisk : Disk where
  refuses _ _ := none
  spoils _ _ := some ⟨0, .other "No space left on device (os error 28)"⟩
  permits := 0o700

theorem isSome_findBinary_wild {d : Directory} {plugin : String} {conf : Object}
    (hbinaries : d.binaries = ["/"]) (hconf : Builtin.conf? plugin = some conf) :
    (d.findBinary wildFiles plugin).isSome = true := by
  obtain ⟨hname, hshort, hcheck, hbinary⟩ := Builtin.forall_conf? (P := fun plugin _ =>
    Path.IsName plugin ∧ plugin.utf8ByteSize ≤ FileSystem.maxNameLength ∧
      FileSystem.checkPath (Path.join "/" plugin) = .ok () ∧
      wildFiles.at? [plugin] = some (.file [] 0o755)) (by decide) (by decide) (by decide) hconf
  have hfile : wildFiles.isFile (Path.join "/" plugin) = true := by
    rw [FileSystem.isFile, FileSystem.resolve_root hname hshort hcheck hbinary]
  rw [Directory.findBinary, hbinaries, List.map_cons, List.find?_cons, hfile]
  rfl

/-- The directory that is missing is made, and its path leads back to the root. -/
theorem ensureDirectories_roundabout :
    wildFiles.ensureDirectories .sound "/gone/.." = (.ok (), wildMade) := by
  have hgone : wildFiles.follow FileSystem.maxLinks [] ["", "gone"] = .ok (.vacant ["gone"]) :=
    FileSystem.follow_eq_ok_iff.mpr (.stay (by rfl) (.vacant (by decide) (by rfl)))
  have hroot : wildFiles.follow FileSystem.maxLinks [] [""] = .ok (.entry [] .directory) :=
    FileSystem.follow_eq_ok_iff.mpr (.stay (by rfl) .here)
  have hback : wildMade.resolve "/gone/.." = .ok (.entry [] .directory) :=
    FileSystem.resolve_eq_ok_iff.mpr
      ⟨by decide, .stay (by rfl) (.enter (by decide) (by rfl) (.up .here))⟩
  have hmissing : wildFiles.makeDirectory .sound "/gone/.." = .error .notFound := by
    simp [FileSystem.makeDirectory, show FileSystem.checkPath "/gone/.." = .ok () by decide,
      show Path.parts "/gone/.." = ["", "gone", ".."] by decide,
      show wildFiles.start "/gone/.." = [] by rfl, hgone, bind, Except.bind]
  have hmade : wildFiles.makeDirectory .sound "/gone" = .ok wildMade := by
    simp [FileSystem.makeDirectory, show FileSystem.checkPath "/gone" = .ok () by decide,
      show Path.parts "/gone" = ["", "gone"] by decide, show wildFiles.start "/gone" = [] by rfl,
      hroot, bind, Except.bind, show ¬FileSystem.maxNameLength < "gone".utf8ByteSize by decide,
      show wildFiles.at? ["gone"] = none by rfl, Disk.sound, wildMade]
  have hthere : wildMade.ensureDirectory .sound "/gone/.." = .ok wildMade := by
    rw [FileSystem.ensureDirectory, FileSystem.makeDirectory_of_resolve hback,
      FileSystem.isDirectory, hback]
    rfl
  rw [FileSystem.ensureDirectories,
    show Path.ancestors "/gone/.." = ["/gone/..", "/gone"] by decide, FileSystem.ensureAmong,
    FileSystem.ensureDirectory, hmissing]
  dsimp only
  rw [FileSystem.ensureAmong, FileSystem.ensureDirectory, hmade]
  dsimp only
  rw [hthere]

/-- There the configuration of `macvlan` is due, and the file in the root is replaced. -/
theorem write_roundabout :
    roundabout.Due wildFiles "macvlan" Builtin.macvlan ∧
      roundabout.write wildFiles "10-macvlan.conf" .sound (.obj Builtin.macvlan) =
        (.ok (), wildMade.put ["10-macvlan.conf"] (Directory.builtinFile Builtin.macvlan)) := by
  have hmissing : wildFiles.readDirectory "/gone/.." = .error .notFound := by
    have hresolve : wildFiles.resolve "/gone/.." = .error .notFound := by
      rw [FileSystem.resolve, show FileSystem.checkPath "/gone/.." = .ok () by decide]
      dsimp only
      rw [show Path.parts "/gone/.." = ["", "gone", ".."] by decide,
        FileSystem.follow_stay (by decide), FileSystem.follow_step (by decide),
        show wildFiles.at? (wildFiles.start "/gone/.." ++ ["gone"]) = none by rfl]
      rfl
    rw [FileSystem.readDirectory, hresolve]
  have hnames : roundabout.confNames wildFiles = .ok [] := by
    rw [Directory.confNames, show roundabout.networks = "/gone/.." from rfl, hmissing]
  refine ⟨⟨rfl, (Directory.findConf_eq_none_iff hnames).mpr (by simp),
    isSome_findBinary_wild rfl rfl⟩, ?_⟩
  have hfile : roundabout.file "10-macvlan.conf" = "/gone/../10-macvlan.conf" := by decide
  have hend : "/gone/../10-macvlan.conf".toList.getLast? ≠ some '/' := by decide
  have hleads : wildMade.follow FileSystem.maxLinks (wildMade.start "/gone/../10-macvlan.conf")
      (Path.parts "/gone/../10-macvlan.conf") =
        .ok (.entry ["10-macvlan.conf"] (.file (Bytes.ofString "{}") 0o600)) :=
    FileSystem.follow_eq_ok_iff.mpr
      (.stay (by rfl) (.enter (by decide) (by rfl) (.up (.file (by decide) (by rfl)))))
  rw [Directory.write, show roundabout.networks = "/gone/.." from rfl, ensureDirectories_roundabout,
    hfile]
  dsimp only
  rw [FileSystem.writeFile, FileSystem.writePlace,
    show FileSystem.checkPath "/gone/../10-macvlan.conf" = .ok () by decide, if_neg hend, hleads]
  rfl

/-- The link leads to where nothing stands. -/
theorem leads_wildLink : FileSystem.Leads wildFiles FileSystem.maxLinks [] ["10-bridge.conf"]
    (.vacant ["bridge.txt"]) := by
  have hvacant : FileSystem.Leads wildFiles 39 [] ["bridge.txt"] (.vacant ["bridge.txt"]) :=
    .vacant (by decide) (by rfl)
  have hlink : wildFiles.at? ["10-bridge.conf"] = some (.link "bridge.txt") := by rfl
  exact .link (by decide) hlink hvacant

/-- In the root the configurations of plugins without a file there are due. -/
theorem due_straight {plugin : String} {conf : Object} (hconf : Builtin.conf? plugin = some conf)
    (hother : Directory.isFor plugin "10-macvlan.conf" = false) :
    straight.Due wildFiles plugin conf := by
  have hall : wildFiles.readDirectory straight.networks =
      .ok ["10-bridge.conf", "10-macvlan.conf", "bridge", "macvlan", "sriov"] :=
    FileSystem.readDirectory_slash wildFiles
  have hlink : wildFiles.isFile (straight.file "10-bridge.conf") = false := by
    have hresolve : wildFiles.resolve (straight.file "10-bridge.conf") =
        .ok (.vacant ["bridge.txt"]) :=
      (FileSystem.resolve_root_iff (by decide) (by decide)).mpr leads_wildLink
    rw [FileSystem.isFile, hresolve]
  obtain ⟨names, hnames, hmem⟩ := Directory.exists_confNames hall
  refine ⟨hconf, (Directory.findConf_eq_none_iff hnames).mpr fun n hn => ?_,
    isSome_findBinary_wild rfl hconf⟩
  obtain ⟨hn, hisConf, hfile⟩ := (hmem n).mp hn
  simp only [List.mem_cons, List.not_mem_nil, or_false] at hn
  rcases hn with rfl | rfl | rfl | rfl | rfl
  · rw [hlink] at hfile
    cases hfile
  · exact hother
  · exact absurd hisConf (by decide)
  · exact absurd hisConf (by decide)
  · exact absurd hisConf (by decide)

/-- The configuration of `bridge` goes to where the link leads. -/
theorem write_bridge_linked :
    straight.write wildFiles "10-bridge.conf" .sound (.obj Builtin.bridge) =
      (.ok (), wildFiles.put ["bridge.txt"] (Directory.builtinFile Builtin.bridge)) := by
  have hplace : wildFiles.writePlace (Path.join "/" "10-bridge.conf") = .ok ["bridge.txt"] :=
    FileSystem.writePlace_root (by decide) (by decide) (by decide) leads_wildLink
  rw [Directory.write_of_listed (FileSystem.readDirectory_slash wildFiles),
    show straight.file "10-bridge.conf" = Path.join "/" "10-bridge.conf" from rfl,
    FileSystem.writeFile, hplace]
  rfl

/-- Of the configuration of `sriov` nothing is written to a disk that is full, but its file is made. -/
theorem write_sriov_full :
    (straight.write wildFiles "10-sriov.conf" fullDisk (.obj Builtin.sriov)).2 =
      wildFiles.put ["10-sriov.conf"] (.file [] 0o600) := by
  have hplace : wildFiles.writePlace (Path.join "/" "10-sriov.conf") = .ok ["10-sriov.conf"] :=
    FileSystem.writePlace_root (by decide) (by decide) (by decide)
      (.of_free (by decide) (by decide) (by rfl))
  rw [Directory.write_of_listed (FileSystem.readDirectory_slash wildFiles),
    show straight.file "10-sriov.conf" = Path.join "/" "10-sriov.conf" from rfl,
    FileSystem.writeFile, hplace]
  rfl

/-- **Other files are changed too.** Where the path of the directory leads through one that is missing,
the file of `macvlan` that is reached in the end is replaced. Where the name of the file of `bridge` is
that of a link, what it leads to is written. On a full disk the file of `sriov` is left empty, with a
mode of its own. -/
theorem serve_changes_other_files :
    let left := fun networks plugin disk =>
      ((serve (persistingController networks plugin disk) Controller.loneInvocation).runOn
        ⟨wildFiles, []⟩).2.files
    (wildFiles.at? ["10-macvlan.conf"] = some (.file (Bytes.ofString "{}") 0o600) ∧
        (left "/gone/.." "macvlan" .sound).resolve "/gone/.." = .ok (.entry [] .directory) ∧
        (left "/gone/.." "macvlan" .sound).at? ["10-macvlan.conf"] =
          some (Directory.builtinFile Builtin.macvlan)) ∧
      (wildFiles.at? ["bridge.txt"] = none ∧
        (left "/" "bridge" .sound).at? ["bridge.txt"] =
          some (Directory.builtinFile Builtin.bridge)) ∧
      (left "/" "sriov" fullDisk).at? ["10-sriov.conf"] = some (.file [] 0o600) := by
  intro left
  obtain ⟨dueMacvlan, hmacvlan⟩ := write_roundabout
  have hgone : left "/gone/.." "macvlan" .sound =
      wildMade.put ["10-macvlan.conf"] (Directory.builtinFile Builtin.macvlan) :=
    (files_serve_of_due dueMacvlan (by rfl)).trans (congrArg Prod.snd hmacvlan)
  have hlinked : left "/" "bridge" .sound =
      wildFiles.put ["bridge.txt"] (Directory.builtinFile Builtin.bridge) :=
    (files_serve_of_due (due_straight rfl (by decide)) (by rfl)).trans (congrArg Prod.snd write_bridge_linked)
  have hfull : left "/" "sriov" fullDisk = wildFiles.put ["10-sriov.conf"] (.file [] 0o600) :=
    (files_serve_of_due (due_straight rfl (by decide)) (by rfl)).trans write_sriov_full
  rw [hgone, hlinked, hfull]
  have hback : (wildMade.put ["10-macvlan.conf"] (Directory.builtinFile Builtin.macvlan)).resolve
      "/gone/.." = .ok (.entry [] .directory) :=
    FileSystem.resolve_eq_ok_iff.mpr
      ⟨by decide, .stay (by rfl) (.enter (by decide) (by rfl) (.up .here))⟩
  exact ⟨⟨rfl, hback, FileSystem.at?_put_self (by simp) _⟩, ⟨rfl, FileSystem.at?_put_self (by simp) _⟩,
    FileSystem.at?_put_self (by simp) _⟩

end CommandLine

end PodNet
