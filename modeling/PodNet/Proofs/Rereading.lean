import PodNet.Intent
import PodNet.Proofs.InterfaceNames

/-!
# Reading annotations again

What annotations ask for hardly depends on the directory of networks: the grammar does not, and the
interfaces do not. All that the directory decides is whether a plugin that is named is known. So when
annotations were accepted once, reading them again elsewhere gives the same requests, or an error if
one of the plugins is not known there (`ofAnnotations_elsewhere`). One unknown plugin is enough: no
request survives it.
-/

namespace PodNet.Intent

/-- Refuses a plugin that is not known. -/
def checkSource (d : Directory) (fs : FileSystem) : Source → Except Failure Unit
  | .plugin plugin =>
    match isKnown d fs plugin with
    | .ok true => .ok ()
    | .ok false => .error (.unknownPlugin plugin)
    | .error f => .error f
  | _ => .ok ()

/-- Refuses sources with a plugin that is not known. -/
def checkSources (d : Directory) (fs : FileSystem) : List Source → Except Failure Unit
  | [] => .ok ()
  | source :: rest =>
    match checkSource d fs source with
    | .ok () => checkSources d fs rest
    | .error f => .error f

/-- Every plugin that the requests name is known. -/
def AllKnown (d : Directory) (fs : FileSystem) (requests : List AttachmentRequest) : Prop :=
  ∀ request ∈ requests, ∀ plugin, request.source = .plugin plugin →
    isKnown d fs plugin = .ok true

variable {d d' : Directory} {fs fs' : FileSystem} {ns value token : String}

theorem checkSource_eq_ok_iff {source : Source} :
    checkSource d fs source = .ok () ↔
      ∀ plugin, source = .plugin plugin → isKnown d fs plugin = .ok true := by
  cases source with
  | plugin plugin =>
    rcases hknown : isKnown d fs plugin with f | _ | _ <;> simp [checkSource, hknown]
  | logicalNetwork _ _ => simp [checkSource]
  | netAttachDef _ _ => simp [checkSource]
  | clusterDefault => simp [checkSource]

theorem checkSources_eq_ok_iff {requests : List AttachmentRequest} :
    checkSources d fs (requests.map (·.source)) = .ok () ↔ AllKnown d fs requests := by
  induction requests with
  | nil => simp [checkSources, AllKnown]
  | cons request rest ih =>
    rw [AllKnown, List.forall_mem_cons, ← checkSource_eq_ok_iff, ← AllKnown, ← ih, List.map_cons,
      checkSources]
    rcases checkSource d fs request.source with f | u
    · simp
    · simp

/-! ### Tokens -/

/-- The plugin and the interface, if there is one, that a token names. -/
def pluginParts (token : String) : String × Option String :=
  match Text.cut '@' token with
  | some (plugin, interface) => (Text.trim plugin, some (Text.trim interface))
  | none => (token, none)

/-- The request of a token, with all that the directory decides in one place. -/
theorem pluginRequest_eq (d : Directory) (fs : FileSystem) (token : String) :
    pluginRequest d fs token =
      if (pluginParts token).1 = "" ∨ (pluginParts token).2 = some "" then
        .error (.invalidAnnotations (.badEntry token))
      else (checkSource d fs (.plugin (pluginParts token).1)).map fun _ =>
        .plain (.plugin (pluginParts token).1) ((pluginParts token).2.getD "") := by
  have hread : pluginRequest d fs token = (do
      if (pluginParts token).1 = "" ∨ (pluginParts token).2 = some "" then
        .error (.invalidAnnotations (.badEntry token))
      if !(← isKnown d fs (pluginParts token).1) then
        .error (.unknownPlugin (pluginParts token).1)
      return .plain (.plugin (pluginParts token).1) ((pluginParts token).2.getD "")) := by
    unfold pluginRequest pluginParts
    cases Text.cut '@' token <;> rfl
  rw [hread]
  generalize pluginParts token = parts
  by_cases hblank : parts.1 = "" ∨ parts.2 = some ""
  · rw [if_pos hblank, if_pos hblank]
    rfl
  · rw [if_neg hblank, if_neg hblank, checkSource]
    rcases isKnown d fs parts.1 with f | _ | _ <;> rfl

/-- The request of a token for a plugin, read again elsewhere. -/
theorem pluginRequest_elsewhere {request : AttachmentRequest}
    (h : pluginRequest d fs token = .ok request) :
    pluginRequest d' fs' token = (checkSource d' fs' request.source).map fun _ => request := by
  rw [pluginRequest_eq] at h ⊢
  split at h
  · cases h
  · rename_i hparts
    rw [if_neg hparts]
    cases hcheck : checkSource d fs (.plugin (pluginParts token).1) with
    | error f => rw [hcheck] at h; cases h
    | ok u => rw [hcheck] at h; cases h; rfl

/-- A request for a logical network is plain. -/
theorem of_logicalRequest {network : String} {interface : Option String}
    {request : AttachmentRequest} (h : logicalRequest ns network interface = .ok request) :
    ∃ name interface, request = .plain (.logicalNetwork ns name) interface := by
  unfold logicalRequest at h
  dsimp only at h
  split at h
  · cases h
  · cases h
    exact ⟨_, _, rfl⟩

/-- Nothing that the directory decides is asked for a logical network. -/
theorem checkSource_of_logicalRequest {network : String} {interface : Option String}
    {request : AttachmentRequest} (h : logicalRequest ns network interface = .ok request) :
    checkSource d fs request.source = .ok () := by
  obtain ⟨_, _, rfl⟩ := of_logicalRequest h
  rfl

/-- The request of a token of the annotation `cni`, read again elsewhere. -/
theorem cniRequest_elsewhere {request : AttachmentRequest}
    (h : cniRequest d fs ns value token = .ok request) :
    cniRequest d' fs' ns value token = (checkSource d' fs' request.source).map fun _ => request := by
  unfold cniRequest at h ⊢
  split
  · rename_i hempty
    rw [if_pos hempty] at h
    cases h
  · rename_i hempty
    rw [if_neg hempty] at h
    split
    · rename_i hmixed
      rw [if_pos hmixed] at h
      cases h
    · rename_i hmixed
      rw [if_neg hmixed] at h
      split
      · rename_i network interface hcut
        rw [hcut] at h
        dsimp only at h
        rw [h, checkSource_of_logicalRequest h]
        rfl
      · rename_i hcut
        rw [hcut] at h
        exact pluginRequest_elsewhere h

/-! ### Annotations -/

/-- Requests that are read one by one are the same elsewhere, unless one is refused there. -/
theorem mapM_elsewhere {α : Type} {read readAgain : α → Except Failure AttachmentRequest}
    (hagain : ∀ token request, read token = .ok request →
      readAgain token = (checkSource d' fs' request.source).map fun _ => request)
    {tokens : List α} {requests : List AttachmentRequest} (h : tokens.mapM read = .ok requests) :
    tokens.mapM readAgain =
      (checkSources d' fs' (requests.map (·.source))).map fun _ => requests := by
  induction tokens generalizing requests with
  | nil =>
    cases h
    rfl
  | cons token rest ih =>
    rw [List.mapM_cons] at h ⊢
    cases htoken : read token with
    | error f =>
      rw [htoken] at h
      cases h
    | ok request =>
      cases hrest : rest.mapM read with
      | error f =>
        rw [htoken, hrest] at h
        cases h
      | ok more =>
        rw [htoken, hrest] at h
        cases h
        rw [hagain token request htoken, ih hrest, List.map_cons, checkSources]
        generalize checkSource d' fs' request.source = first
        generalize checkSources d' fs' (more.map (·.source)) = others
        cases first <;> cases others <;> rfl

/-- Requests that are read one by one, none of them for a plugin, are not refused. -/
theorem checkSources_of_mapM {α : Type} {read : α → Except Failure AttachmentRequest}
    (hread : ∀ token request, read token = .ok request → checkSource d fs request.source = .ok ())
    {tokens : List α} {requests : List AttachmentRequest} (h : tokens.mapM read = .ok requests) :
    checkSources d fs (requests.map (·.source)) = .ok () := by
  have hagain : tokens.mapM read =
      (checkSources d fs (requests.map (·.source))).map fun _ => requests :=
    mapM_elsewhere (fun token request htoken => by rw [hread token request htoken, htoken]; rfl) h
  rw [h] at hagain
  cases hcheck : checkSources d fs (requests.map (·.source)) with
  | error f =>
    rw [hcheck] at hagain
    cases hagain
  | ok u => rfl

/-- A request of an element of a selection is for a definition of a further attachment, and the
addresses that it asks for were checked. -/
theorem of_selectionRequest {e : SelectionElement} {request : AttachmentRequest}
    (h : selectionRequest ns e = .ok request) :
    (∃ ns' name, request.source = .netAttachDef ns' name) ∧
      request.args = addressArgs (e.ips.map Text.trim) (Text.nonBlank e.mac) ∧
      (∀ ip ∈ e.ips, ∃ n, Subnet.parse? ip = some n) ∧
      ∀ m, Text.nonBlank e.mac = some m → HardwareAddress.isValid m = true := by
  unfold selectionRequest at h
  simp only [bind, Except.bind, pure, Except.pure] at h
  repeat' split at h
  all_goals cases h
  rename_i hips _ hmac
  refine ⟨⟨_, _, rfl⟩, rfl, fun ip hip => ?_, fun m hm => ?_⟩
  · have hfound : e.ips.find? (fun ip => (Subnet.parse? ip).isNone) = none :=
      Option.eq_none_iff_forall_ne_some.mpr hips
    exact Option.ne_none_iff_exists'.mp fun hnone =>
      List.find?_eq_none.mp hfound ip hip (by rw [hnone]; rfl)
  · have hrefused : (Text.nonBlank e.mac).filter (fun m => !HardwareAddress.isValid m) = none :=
      Option.eq_none_iff_forall_ne_some.mpr hmac
    simpa [hm] using hrefused

/-- A selection asks for the default network of the cluster and for its elements. -/
theorem of_ofSelection {requests : List AttachmentRequest}
    (h : ofSelection ns value = .ok requests) :
    ∃ (elements : List SelectionElement) (wanted : List AttachmentRequest),
      elements.mapM (selectionRequest ns) = .ok wanted ∧
      requests = .plain .clusterDefault InterfaceName.default :: wanted := by
  unfold ofSelection at h
  cases helements : selectionElements value with
  | error f =>
    rw [helements] at h
    cases h
  | ok elements =>
    cases hwanted : elements.mapM (selectionRequest ns) with
    | error f => simp [bind, Except.bind, helements, hwanted] at h
    | ok wanted =>
      simp only [bind, Except.bind, helements, hwanted] at h
      cases h
      exact ⟨elements, wanted, hwanted, rfl⟩

/-- Nothing that the directory decides is asked for a selection. -/
theorem checkSources_of_ofSelection {requests : List AttachmentRequest}
    (h : ofSelection ns value = .ok requests) :
    checkSources d fs (requests.map (·.source)) = .ok () := by
  obtain ⟨elements, wanted, hwanted, rfl⟩ := of_ofSelection h
  have hchecked : checkSources d fs (wanted.map (·.source)) = .ok () := by
    refine checkSources_of_mapM (fun e request hrequest => ?_) hwanted
    obtain ⟨⟨_, _, hsource⟩, -⟩ := of_selectionRequest hrequest
    rw [hsource]
    rfl
  exact hchecked

theorem checkSource_of_networkRequest {request : AttachmentRequest}
    (h : networkRequest ns token = .ok request) : checkSource d fs request.source = .ok () := by
  unfold networkRequest at h
  split at h
  · exact checkSource_of_logicalRequest h
  · exact checkSource_of_logicalRequest h

/-- Requests that are the same elsewhere are stated the same. -/
theorem map_some_elsewhere {read readAgain : Except Failure (List AttachmentRequest)}
    {requests : List AttachmentRequest}
    (hagain : ∀ wanted, read = .ok wanted →
      readAgain = (checkSources d' fs' (wanted.map (·.source))).map fun _ => wanted)
    (h : read.map some = .ok (some requests)) :
    readAgain.map some =
      (checkSources d' fs' (requests.map (·.source))).map fun _ => some requests := by
  cases read with
  | error f => cases h
  | ok wanted =>
    cases h
    rw [hagain requests rfl]
    cases checkSources d' fs' (requests.map (·.source)) <;> rfl

/-- What annotations state, read again elsewhere. -/
theorem stated_elsewhere {annotations : Annotations} {requests : List AttachmentRequest}
    (h : stated d fs ns annotations = .ok (some requests)) :
    stated d' fs' ns annotations =
      (checkSources d' fs' (requests.map (·.source))).map fun _ => some requests := by
  unfold stated at h ⊢
  cases hselection : value? selectionKey annotations with
  | some value =>
    rw [hselection] at h
    refine map_some_elsewhere (fun wanted hread => ?_) h
    rw [hread, checkSources_of_ofSelection hread]
    rfl
  | none =>
    rw [hselection] at h
    dsimp only at h ⊢
    cases hcni : value? cniKey annotations with
    | some value =>
      rw [hcni] at h
      exact map_some_elsewhere (fun wanted => mapM_elsewhere fun _ _ => cniRequest_elsewhere) h
    | none =>
      rw [hcni] at h
      dsimp only at h ⊢
      cases hnetworks : value? networksKey annotations with
      | some value =>
        rw [hnetworks] at h
        refine map_some_elsewhere (fun wanted hread => ?_) h
        rw [hread, checkSources_of_mapM (fun _ _ => checkSource_of_networkRequest) hread]
        rfl
      | none =>
        rw [hnetworks] at h
        cases h

/-- What annotations that ask for something state. -/
theorem of_ofAnnotations {annotations : Annotations} {wanted : List AttachmentRequest}
    (h : ofAnnotations d fs ns annotations = .ok (.requests wanted)) :
    ∃ requests, stated d fs ns annotations = .ok (some requests) ∧
      AttachmentRequest.assign requests = .ok wanted := by
  unfold ofAnnotations at h
  rcases hstated : stated d fs ns annotations with f | _ | requests
  · rw [hstated] at h
    cases h
  · rw [hstated] at h
    cases h
  · rw [hstated] at h
    cases hassign : AttachmentRequest.assign requests with
    | error f =>
      simp [bind, Except.bind, hassign] at h
    | ok assigned =>
      simp only [bind, Except.bind, hassign, pure, Except.pure] at h
      cases h
      exact ⟨requests, rfl, hassign⟩

/-- **Annotations that were accepted once ask for the same elsewhere**, unless they are refused there
because a plugin is not known. -/
theorem ofAnnotations_elsewhere {annotations : Annotations} {wanted : List AttachmentRequest}
    (h : ofAnnotations d fs ns annotations = .ok (.requests wanted)) :
    ofAnnotations d' fs' ns annotations =
      (checkSources d' fs' (wanted.map (·.source))).map fun _ => .requests wanted := by
  obtain ⟨requests, hstated, hassign⟩ := of_ofAnnotations h
  rw [(AttachmentRequest.of_assign hassign).2, ofAnnotations, stated_elsewhere hstated]
  cases checkSources d' fs' (requests.map (·.source)) with
  | error f => rfl
  | ok u =>
    show (do return Intent.requests (← AttachmentRequest.assign requests)) = _
    rw [hassign]
    rfl

end PodNet.Intent
