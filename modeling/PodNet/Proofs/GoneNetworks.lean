import PodNet.Proofs.Rereading
import PodNet.Proofs.Teardown

/-!
# Networks that are gone

Between attaching and detaching, networks may disappear from the directory. Detaching leaves out what
cannot be resolved any more, and still detaches every other attachment. But it reads the annotations
first, and refuses them as a whole when a plugin that they name is not known any more; then it
detaches the default network instead, and nothing that the annotations ask for. So the other
attachments are detached when all plugins that are named are still known
(`del_detaches_what_resolves`), and one plugin that is gone keeps them all attached
(`del_skips_bridge`).
-/

namespace PodNet.Controller

variable {c : Controller} {files : FileSystem} {pod : PodContext} {d : Directory}
  {fs : FileSystem} {wanted : List AttachmentRequest}

/-! ### What is planned and swept over -/

/-- What annotations asked for is planned, as long as every plugin that is named is known. -/
theorem planDel_of_allKnown
    (accepted : Intent.ofAnnotations d fs pod.ns pod.annotations = .ok (.requests wanted))
    (known : Intent.AllKnown c.directory files wanted) : c.planDel files (some pod) = wanted := by
  rw [planDel, intentOf, Intent.ofAnnotations_elsewhere accepted,
    Intent.checkSources_eq_ok_iff.mpr known]
  rfl

/-- With a plugin that is not known, the default is planned. -/
theorem planDel_of_not_allKnown
    (accepted : Intent.ofAnnotations d fs pod.ns pod.annotations = .ok (.requests wanted))
    (unknown : ¬ Intent.AllKnown c.directory files wanted) :
    c.planDel files (some pod) = defaultRequests c.settings.pluginOrDefault := by
  rw [planDel, intentOf, Intent.ofAnnotations_elsewhere accepted]
  cases hcheck : Intent.checkSources c.directory files (wanted.map (·.source)) with
  | error f => rfl
  | ok u => exact absurd (Intent.checkSources_eq_ok_iff.mp hcheck) unknown

/-- Detaching sweeps over what the planned requests are resolved to, each in its turn. -/
theorem del_sweeps_resolved {i : Invocation} {node : Node}
    (found : ((c.lookupPod i).runOn node).1 = .ok (some pod)) :
    Delegation.SweepCalls (sandbox i (some pod))
      (Resolver.resolved (c.resolver.outcomes node.files (c.planDel node.files (some pod))))
      ((c.del i).calls node) := by
  have hpod := ((c.onlyLooks_lookupPod i).runOn_eq (Task.runOn_eq_of_fst found)).1
  obtain ⟨left, hresolve⟩ :=
    c.resolver.settles_resolveSome node.files (c.planDel node.files (some pod))
  have valid : ∀ a ∈ Resolver.resolved (c.resolver.outcomes node.files
      (c.planDel node.files (some pod))), a.conf.Valid := by
    intro a ha
    obtain ⟨n, hn⟩ := Resolver.mem_resolved.mp ha
    exact (Resolver.of_getElem?_outcomes hn).1
  obtain ⟨-, hsweep, -⟩ := del_swept (finds_lookupRemainingPod hpod) hresolve valid
  exact hsweep

/-! ### A node that has lost a plugin -/

/-- The files of a node on which the binaries of `bridge` and `weave` are installed. -/
def weaveFiles : FileSystem :=
  ⟨[(["bridge"], .file [] 0o755), (["weave"], .file [] 0o755)], []⟩

/-- The controller of a cluster whose pod `default/web` has the annotation `cni`. -/
def annotatedController (cni : String) : Controller :=
  bridgeController.patched "default" "web" [(cniKey, cni)]

/-- That pod. -/
def annotatedPod (cni : String) : PodContext := ⟨"default", "web", [(cniKey, cni)]⟩

/-- The invocation that detaches the pod. -/
def webRemoval : Invocation := { webInvocation with command := .del }

theorem lookupPod_annotated (cni : String) :
    (((annotatedController cni).lookupPod webRemoval).runOn bridgeNode).1 =
      .ok (some (annotatedPod cni)) := by
  rfl

/-- That is what is left when `weave` is removed. -/
theorem remove_weave : weaveFiles.remove ["weave"] = bridgeNode.files := by
  rfl

theorem isToken_weave : IsToken "weave" :=
  ⟨by decide, by decide, by decide, by decide, by decide⟩

/-- The plugins `bridge` and `weave` are known where their binaries are. -/
theorem isKnown_on_weaveFiles :
    Intent.isKnown bridgeController.directory weaveFiles "bridge" = .ok true ∧
      Intent.isKnown bridgeController.directory weaveFiles "weave" = .ok true := by
  have hnone (plugin : String) :
      bridgeController.directory.findConf weaveFiles plugin = .ok none := by rfl
  have hresolve : weaveFiles.resolve "/weave" =
      weaveFiles.follow FileSystem.maxLinks [] ["", "weave"] := by rfl
  have hentry : weaveFiles.at? ["weave"] = some (.file [] 0o755) := by rfl
  have hfile : weaveFiles.isFile "/weave" = true := by
    rw [FileSystem.isFile_root hresolve (by rfl) (by decide) (by decide) (by simp [hentry]), hentry]
    rfl
  have hbinary : bridgeController.directory.findBinary weaveFiles "weave" = some "/weave" := by
    show [Path.join "/" "weave"].find? weaveFiles.isFile = _
    rw [show Path.join "/" "weave" = "/weave" by rfl, List.find?_cons, hfile]
  constructor
  · rw [Intent.isKnown, hnone]
    rfl
  · rw [Intent.isKnown, hnone, hbinary]
    rfl

/-- Where only `bridge` is installed, `weave` is not known. -/
theorem isKnown_weave_on_bridgeNode :
    Intent.isKnown bridgeController.directory bridgeNode.files "weave" = .ok false := by
  have hnone : bridgeController.directory.findConf bridgeNode.files "weave" = .ok none := by rfl
  have hresolve : bridgeNode.files.resolve "/weave" =
      bridgeNode.files.follow FileSystem.maxLinks [] ["", "weave"] := by rfl
  have hentry : bridgeNode.files.at? ["weave"] = none := by rfl
  have hfile : bridgeNode.files.isFile "/weave" = false := by
    rw [FileSystem.isFile_root hresolve (by rfl) (by decide) (by decide) (by simp [hentry]), hentry]
    rfl
  have hbinary : bridgeController.directory.findBinary bridgeNode.files "weave" = none := by
    show [Path.join "/" "weave"].find? bridgeNode.files.isFile = _
    rw [show Path.join "/" "weave" = "/weave" by rfl, List.find?_cons, hfile]
    rfl
  rw [Intent.isKnown, hnone, hbinary]
  rfl

/-- What annotations ask for of which only `cni` is set. -/
theorem ofAnnotations_cni {ns value : String} {stated assigned : List AttachmentRequest}
    (hcni : Intent.ofCni d fs ns value = .ok stated)
    (hassign : AttachmentRequest.assign stated = .ok assigned)
    (hvalue : Text.nonBlank value = some value) :
    Intent.ofAnnotations d fs ns [(cniKey, value)] = .ok (.requests assigned) := by
  have hselection : Intent.value? selectionKey [(cniKey, value)] = none := by rfl
  have hvalue' : Intent.value? cniKey [(cniKey, value)] = some value := hvalue
  rw [Intent.ofAnnotations, Intent.stated, hselection, hvalue']
  dsimp only
  rw [hcni]
  simp only [Except.map, bind, Except.bind, hassign, pure, Except.pure]

/-- What `bridge,weave` asks for, where both are installed. -/
def bridgeAndWeave : List AttachmentRequest :=
  [.plain (.plugin "bridge") "eth0", .plain (.plugin "weave") "eth1"]

theorem ofAnnotations_bridgeAndWeave :
    Intent.ofAnnotations bridgeController.directory weaveFiles "default"
      [(cniKey, "bridge,weave")] = .ok (.requests bridgeAndWeave) := by
  have hcni : Intent.ofCni bridgeController.directory weaveFiles "default" "bridge,weave" =
      .ok [.plain (.plugin "bridge") "", .plain (.plugin "weave") ""] := by
    rw [Intent.ofCni, show Text.split ',' "bridge,weave" = ["bridge", "weave"] by rfl,
      List.mapM_cons, List.mapM_cons, isToken_bridge.trimmed, isToken_weave.trimmed,
      Intent.cniRequest_of_isToken isToken_bridge isKnown_on_weaveFiles.1,
      Intent.cniRequest_of_isToken isToken_weave isKnown_on_weaveFiles.2]
    rfl
  exact ofAnnotations_cni hcni (by rfl) (by rfl)

/-- What `bridge,blue:eth7` asks for: a plugin and a logical network. -/
def bridgeAndBlue : List AttachmentRequest :=
  [.plain (.plugin "bridge") "eth0", .plain (.logicalNetwork "default" "blue") "eth7"]

theorem ofAnnotations_bridgeAndBlue :
    Intent.ofAnnotations bridgeController.directory weaveFiles "default"
      [(cniKey, "bridge,blue:eth7")] = .ok (.requests bridgeAndBlue) := by
  have hblue : Intent.cniRequest bridgeController.directory weaveFiles "default"
      "bridge,blue:eth7" (Text.trim "blue:eth7") =
        .ok (.plain (.logicalNetwork "default" "blue") "eth7") := by rfl
  have hcni : Intent.ofCni bridgeController.directory weaveFiles "default" "bridge,blue:eth7" =
      .ok [.plain (.plugin "bridge") "", .plain (.logicalNetwork "default" "blue") "eth7"] := by
    rw [Intent.ofCni, show Text.split ',' "bridge,blue:eth7" = ["bridge", "blue:eth7"] by rfl,
      List.mapM_cons, List.mapM_cons, isToken_bridge.trimmed,
      Intent.cniRequest_of_isToken isToken_bridge isKnown_on_weaveFiles.1, hblue]
    rfl
  exact ofAnnotations_cni hcni (by rfl) (by rfl)

/-- The plugin `bridge` is still there, and is resolved. -/
theorem resolve_bridge (cni : String) :
    ((annotatedController cni).resolver.resolve (.plain (.plugin "bridge") "eth0")).Finds
      bridgeNode.files (.ok bridgeAttachment) := by
  have hsame : (annotatedController cni).resolver.resolve (.plain (.plugin "bridge") "eth0") =
      bridgeController.resolver.resolve (.plain (.plugin "bridge") "eth0") :=
    Resolver.resolve_patched bridgeController.resolver _ _ _ _
  rw [hsame]
  obtain ⟨a, ha, hrest⟩ := (Resolver.onlyLooks_resolve (r := bridgeController.resolver) rfl
    (.plain (.plugin "bridge") "eth0")).finds_of_bind
      (fun a => .bind (.pure _) fun attachments => .pure _) finds_bridge
  cases hrest.unique (.bind (.pure _) (.pure _))
  exact ha

/-! ### Detaching what is left -/

/-- **Detaching detaches every attachment that can still be resolved**, on the interface that it was
assigned, if the annotations that were accepted once name only plugins that are still known. With a
plugin that is not known, it detaches the default network and nothing else. -/
theorem del_detaches_what_resolves (c : Controller) (i : Invocation) (node : Node)
    (pod : PodContext) (found : ((c.lookupPod i).runOn node).1 = .ok (some pod)) (d : Directory)
    (fs : FileSystem) (wanted : List AttachmentRequest)
    (accepted : Intent.ofAnnotations d fs pod.ns pod.annotations = .ok (.requests wanted)) :
    let outcomes := c.resolver.outcomes node.files wanted
    let calls := (c.del i).calls node
    (Intent.AllKnown c.directory node.files wanted →
      Delegation.SweepCalls (sandbox i (some pod)) (Resolver.resolved outcomes) calls ∧
      ∀ (n : Nat) request a, wanted[n]? = some request → outcomes[n]? = some (.ok a) →
        Resolver.Answers a request ∧ ∃ own f, own <:+: calls ∧
          Delegation.DetachCalls (sandbox i (some pod)) a own f ∧
          ∀ call ∈ own, call.execution.parameters.interface = request.interface) ∧
    (¬ Intent.AllKnown c.directory node.files wanted →
      Delegation.SweepCalls (sandbox i (some pod)) (Resolver.resolved
        (c.resolver.outcomes node.files (defaultRequests c.settings.pluginOrDefault))) calls) ∧
    (c.settings.persistBuiltins = false →
      outcomes = wanted.map fun request => ((c.resolver.resolve request).runOn node).1) := by
  dsimp only
  have hsweep := del_sweeps_resolved found
  refine ⟨fun known => ?_, fun unknown => ?_, fun persist => ?_⟩
  · rw [planDel_of_allKnown accepted known] at hsweep
    refine ⟨hsweep, fun n request a hrequest houtcome => ?_⟩
    obtain ⟨-, request', hrequest', hanswers⟩ := Resolver.of_getElem?_outcomes houtcome
    rw [hrequest, Option.some.injEq] at hrequest'
    subst hrequest'
    obtain ⟨own, ⟨f, hown⟩, hinfix⟩ :=
      hsweep.exists_infix (Resolver.mem_resolved.mpr ⟨n, houtcome⟩)
    refine ⟨hanswers, own, f, hinfix, hown, fun call hcall => ?_⟩
    obtain ⟨plugin, hplugin⟩ := hanswers
    rw [hown.interface_eq call hcall, hplugin]
  · rwa [planDel_of_not_allKnown accepted unknown] at hsweep
  · rw [Resolver.outcomes_eq_map (r := c.resolver) persist]
    refine List.map_congr_left fun request _ => ?_
    exact (c.resolver.prepares_resolve request).runOn_fst_congr rfl

/-- The network `blue` cannot be resolved, and `bridge` is still detached. -/
theorem del_detaches_what_resolves_bridge :
    (((annotatedController "bridge,blue:eth7").lookupPod webRemoval).runOn bridgeNode).1 =
        .ok (some (annotatedPod "bridge,blue:eth7")) ∧
      Intent.ofAnnotations bridgeController.directory weaveFiles "default"
        [(cniKey, "bridge,blue:eth7")] = .ok (.requests bridgeAndBlue) ∧
      ∃ own f, own <:+: ((annotatedController "bridge,blue:eth7").del webRemoval).calls bridgeNode ∧
        Delegation.DetachCalls (sandbox webRemoval (some (annotatedPod "bridge,blue:eth7")))
          bridgeAttachment own f := by
  have found := lookupPod_annotated "bridge,blue:eth7"
  have known : Intent.AllKnown (annotatedController "bridge,blue:eth7").directory bridgeNode.files
      bridgeAndBlue := by
    intro request hrequest plugin hplugin
    simp only [bridgeAndBlue, List.mem_cons, List.not_mem_nil, or_false] at hrequest
    rcases hrequest with rfl | rfl
    · cases hplugin
      rfl
    · cases hplugin
  have h := del_detaches_what_resolves (annotatedController "bridge,blue:eth7") webRemoval
    bridgeNode (annotatedPod "bridge,blue:eth7") found bridgeController.directory weaveFiles
    bridgeAndBlue ofAnnotations_bridgeAndBlue
  have houtcome : ((annotatedController "bridge,blue:eth7").resolver.outcomes bridgeNode.files
      bridgeAndBlue)[0]? = some (.ok bridgeAttachment) := by
    rw [h.2.2 rfl]
    exact congrArg some (resolve_bridge "bridge,blue:eth7").runOn_fst
  obtain ⟨-, own, f, hinfix, hown, -⟩ := (h.1 known).2 0 _ _ rfl houtcome
  exact ⟨found, ofAnnotations_bridgeAndBlue, own, f, hinfix, hown⟩

/-- **One plugin that is gone keeps another attached**: `weave` was removed, `bridge` can still be
resolved on its interface, and detaching the pod that asked for both calls no plugin at all. -/
theorem del_skips_bridge :
    weaveFiles.remove ["weave"] = bridgeNode.files ∧
      Intent.ofAnnotations bridgeController.directory weaveFiles "default"
        [(cniKey, "bridge,weave")] = .ok (.requests bridgeAndWeave) ∧
      (((annotatedController "bridge,weave").lookupPod webRemoval).runOn bridgeNode).1 =
        .ok (some (annotatedPod "bridge,weave")) ∧
      (((annotatedController "bridge,weave").resolver.resolve
        (.plain (.plugin "bridge") "eth0")).runOn bridgeNode).1 = .ok bridgeAttachment ∧
      ((annotatedController "bridge,weave").del webRemoval).calls bridgeNode = [] := by
  have unknown : ¬ Intent.AllKnown (annotatedController "bridge,weave").directory bridgeNode.files
      bridgeAndWeave := by
    intro known
    have hweave := known (.plain (.plugin "weave") "eth1") (by simp [bridgeAndWeave]) "weave" rfl
    have hgone := isKnown_weave_on_bridgeNode
    rw [show (annotatedController "bridge,weave").directory = bridgeController.directory by rfl,
      hgone] at hweave
    cases hweave
  have hsweep := del_sweeps_resolved (lookupPod_annotated "bridge,weave")
  have hplan : (annotatedController "bridge,weave").planDel bridgeNode.files
      (some (annotatedPod "bridge,weave")) = defaultRequests "weave" :=
    planDel_of_not_allKnown ofAnnotations_bridgeAndWeave unknown
  have hnothing : Resolver.resolved ((annotatedController "bridge,weave").resolver.outcomes
      bridgeNode.files (defaultRequests "weave")) = [] := by rfl
  rw [hplan, hnothing] at hsweep
  refine ⟨remove_weave, ofAnnotations_bridgeAndWeave, lookupPod_annotated _,
    (resolve_bridge _).runOn_fst, ?_⟩
  obtain ⟨groups, hgroups, hnil⟩ := hsweep
  cases hnil
  exact hgroups

end PodNet.Controller
