import PodNet.Proofs.AddressText
import PodNet.Proofs.InterfaceAssignment
import PodNet.Proofs.Rereading

/-!
# Arguments that annotations ask for

Annotations ask for arguments of two keys, `ips` and `mac`, and only a selection does. Their values
were checked as addresses, so they hold neither blanks nor the character that ends an argument
(`Intent.isAddressArg_of_ofAnnotations`): whoever may annotate a pod cannot say more to a plugin than
which addresses the pod wants.
-/

namespace PodNet

/-- The argument is for addresses, and its value is plain text. -/
def IsAddressArg (e : String × String) : Prop :=
  (e.1 = "ips" ∨ e.1 = "mac") ∧ ∀ c ∈ e.2.toList, Text.IsPlain c

namespace Intent

variable {d : Directory} {fs : FileSystem} {ns value token : String} {request : AttachmentRequest}

theorem isAddressArg_of_mem_addressArgs {ips : List String} {mac : Option String}
    (hips : ∀ ip ∈ ips, ∀ c ∈ ip.toList, Text.IsPlain c)
    (hmac : ∀ m, mac = some m → ∀ c ∈ m.toList, Text.IsPlain c) :
    ∀ e ∈ addressArgs ips mac, IsAddressArg e := by
  intro e he
  rcases List.mem_append.mp he with he | he
  · split at he
    · cases he
    · cases List.mem_singleton.mp he
      refine ⟨.inl rfl, fun c hc => ?_⟩
      rcases Text.eq_or_mem_of_mem_join ',' hc with rfl | ⟨ip, hip, hc⟩
      · exact ⟨by decide, by decide⟩
      · exact hips ip hip c hc
  · obtain ⟨m, hm, rfl⟩ := Option.map_eq_some_iff.mp (Option.mem_toList.mp he)
    exact ⟨.inr rfl, hmac m hm⟩

theorem isAddressArg_of_selectionRequest {e : SelectionElement}
    (h : selectionRequest ns e = .ok request) : ∀ b ∈ request.args, IsAddressArg b := by
  obtain ⟨-, hargs, hips, hmac⟩ := of_selectionRequest h
  rw [hargs]
  refine isAddressArg_of_mem_addressArgs ?_ fun m hm => HardwareAddress.isPlain_of_isValid (hmac m hm)
  rw [List.forall_mem_map]
  intro ip hip c hc
  obtain ⟨n, hn⟩ := hips ip hip
  rw [Text.trim, String.toList_ofList] at hc
  exact (Subnet.isAddressChar_of_ofChars? hn c hc).isPlain

/-! Requests for plugins and for logical networks have no arguments. -/

theorem args_of_logicalRequest {network : String} {interface : Option String}
    (h : logicalRequest ns network interface = .ok request) : request.args = [] := by
  obtain ⟨_, _, rfl⟩ := of_logicalRequest h
  rfl

theorem args_of_pluginRequest (h : pluginRequest d fs token = .ok request) :
    request.args = [] := by
  rw [pluginRequest_eq] at h
  split at h
  · cases h
  · cases hcheck : checkSource d fs (.plugin (pluginParts token).1) with
    | error f =>
      rw [hcheck] at h
      cases h
    | ok u =>
      rw [hcheck] at h
      cases h
      rfl

theorem args_of_cniRequest (h : cniRequest d fs ns value token = .ok request) :
    request.args = [] := by
  unfold cniRequest at h
  split at h
  · cases h
  · split at h
    · cases h
    · split at h
      · exact args_of_logicalRequest h
      · exact args_of_pluginRequest h

theorem args_of_networkRequest (h : networkRequest ns token = .ok request) :
    request.args = [] := by
  unfold networkRequest at h
  split at h
  · exact args_of_logicalRequest h
  · exact args_of_logicalRequest h

/-! A list of requests: what holds of the arguments of each way to read a token. -/

/-- The request has no arguments, or those of an element of a selection. -/
def AsksAs (ns : String) (request : AttachmentRequest) : Prop :=
  request.args = [] ∨ ∃ e r, selectionRequest ns e = .ok r ∧ request.args = r.args

theorem asksAs_of_mapM {α : Type} {read : α → Except Failure AttachmentRequest}
    (hread : ∀ token request, read token = .ok request → AsksAs ns request)
    {tokens : List α} {requests : List AttachmentRequest} (h : tokens.mapM read = .ok requests) :
    ∀ request ∈ requests, AsksAs ns request := by
  intro request hrequest
  obtain ⟨token, -, htoken⟩ := exists_of_mapM_eq_ok h request hrequest
  exact hread token request htoken

theorem asksAs_of_ofSelection {requests : List AttachmentRequest}
    (h : ofSelection ns value = .ok requests) : ∀ request ∈ requests, AsksAs ns request := by
  obtain ⟨elements, wanted, hwanted, rfl⟩ := of_ofSelection h
  refine List.forall_mem_cons.mpr ⟨.inl rfl, ?_⟩
  exact asksAs_of_mapM (fun e r hr => .inr ⟨e, r, hr, rfl⟩) hwanted

theorem asksAs_of_stated {annotations : Annotations} {requests : List AttachmentRequest}
    (h : stated d fs ns annotations = .ok (some requests)) :
    ∀ request ∈ requests, AsksAs ns request := by
  have hread {read : Except Failure (List AttachmentRequest)} (h : read.map some = .ok (some requests)) :
      read = .ok requests := by
    cases read with
    | error f => cases h
    | ok wanted =>
      cases h
      rfl
  unfold stated at h
  split at h
  · exact asksAs_of_ofSelection (hread h)
  · split at h
    · exact asksAs_of_mapM (fun _ _ h => .inl (args_of_cniRequest h)) (hread h)
    · split at h
      · exact asksAs_of_mapM (fun _ _ h => .inl (args_of_networkRequest h)) (hread h)
      · cases h

/-- Assigning interfaces leaves the arguments. -/
theorem asksAs_of_ofAnnotations {annotations : Annotations} {wanted : List AttachmentRequest}
    (h : ofAnnotations d fs ns annotations = .ok (.requests wanted)) :
    ∀ request ∈ wanted, AsksAs ns request := by
  obtain ⟨requests, hstated, hassign⟩ := of_ofAnnotations h
  intro request hrequest
  obtain ⟨n, hn, rfl⟩ := List.mem_iff_getElem.mp hrequest
  obtain ⟨hlength, hfilled⟩ :=
    List.forall₂_iff_get.mp (AttachmentRequest.forall₂_filled_of_assign hassign)
  have hn' : n < requests.length := hlength ▸ hn
  have hargs := congrArg AttachmentRequest.args (hfilled n hn' hn).1
  dsimp only [List.get_eq_getElem] at hargs
  rw [AsksAs, hargs]
  exact asksAs_of_stated hstated _ (List.getElem_mem hn')

/-- **Annotations ask for no arguments but those for addresses**, and for these in plain text. -/
theorem isAddressArg_of_ofAnnotations {annotations : Annotations} {wanted : List AttachmentRequest}
    (h : ofAnnotations d fs ns annotations = .ok (.requests wanted)) :
    ∀ request ∈ wanted, ∀ b ∈ request.args, IsAddressArg b := by
  intro request hrequest
  rcases asksAs_of_ofAnnotations h request hrequest with hnone | ⟨e, r, hr, hargs⟩
  · rw [hnone]
    exact fun b hb => absurd hb List.not_mem_nil
  · rw [hargs]
    exact isAddressArg_of_selectionRequest hr

/-- Annotations ask for one value of each key. -/
theorem nodup_keys_of_ofAnnotations {annotations : Annotations} {wanted : List AttachmentRequest}
    (h : ofAnnotations d fs ns annotations = .ok (.requests wanted)) :
    ∀ request ∈ wanted, (request.args.map (·.1)).Nodup := by
  intro request hrequest
  rcases asksAs_of_ofAnnotations h request hrequest with hnone | ⟨e, r, hr, hargs⟩
  · rw [hnone]
    exact List.nodup_nil
  · rw [hargs, (of_selectionRequest hr).2.1, addressArgs]
    cases Text.nonBlank e.mac <;> split_ifs <;> simp

end Intent

end PodNet
