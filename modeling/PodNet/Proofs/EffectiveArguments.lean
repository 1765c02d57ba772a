import PodNet.Proofs.HandedArguments

/-!
# Which value of an argument counts

A reader of arguments takes the last value of each key. Of a key that the program does not set, that is
the value it had in the invocation (`Parameters.filter_forRequest`). Of a key that annotations ask for
it should be the value they ask for. Setting an argument replaces the first of the values that the
invocation gives its key, so it is, as long as there is at most one. Where there are more the last of
them stays, and counts (`Parameters.asked_counts_iff`, `Parameters.asked_does_not_count`).
-/

namespace PodNet

variable {key value : String} {sets args : List (String × String)}

/-! ### Setting several arguments -/

/-- Setting arguments leaves the values of a key that is not among theirs. -/
theorem filter_foldl_setArg (h : key ∉ sets.map (·.1)) (args : List (String × String)) :
    (sets.foldl (fun args e => setArg e.1 e.2 args) args).filter (·.1 == key) =
      args.filter (·.1 == key) := by
  induction sets generalizing args with
  | nil => rfl
  | cons e rest ih =>
    rw [List.map_cons, List.mem_cons, not_or] at h
    rw [List.foldl_cons, ih h.2, filter_setArg_of_ne (Ne.symm h.1)]

/-- **Of arguments that are set, each is the last value of its key** unless the key stood more than
once. -/
theorem lastValue?_foldl_setArg (distinct : (sets.map (·.1)).Nodup) (h : (key, value) ∈ sets)
    (args : List (String × String)) :
    lastValue? key (sets.foldl (fun args e => setArg e.1 e.2 args) args) =
      if (args.filter (·.1 == key)).length ≤ 1 then some value else lastValue? key args := by
  induction sets generalizing args with
  | nil => cases h
  | cons e rest ih =>
    obtain ⟨hfirst, hrest⟩ := List.nodup_cons.mp distinct
    rw [List.foldl_cons]
    rcases List.mem_cons.mp h with rfl | h
    · rw [lastValue?, filter_foldl_setArg hfirst, ← lastValue?, lastValue?_setArg_self]
    · have hother : e.1 ≠ key := by
        rintro rfl
        exact hfirst (List.mem_map.mpr ⟨_, h, rfl⟩)
      rw [ih hrest h, lastValue?, filter_setArg_of_ne hother, ← lastValue?]

namespace Parameters

variable {s : Sandbox} {request : AttachmentRequest}

/-- **The program sets the key** for a request: it has unknown keys ignored, says who the pod is if
there is one, but names the container only if the invocation does not, and adds what the request asks
for. -/
def Sets (s : Sandbox) (request : AttachmentRequest) (key : String) : Prop :=
  key = "IgnoreUnknown" ∨
    s.pod.isSome = true ∧ (key = "K8S_POD_NAMESPACE" ∨ key = "K8S_POD_NAME" ∨
      key = "K8S_POD_INFRA_CONTAINER_ID" ∧ ∀ a ∈ s.args, a.1 ≠ key) ∨
    key ∈ request.args.map (·.1)

/-- Saying who the pod is leaves the values of other keys. -/
theorem filter_setPodArgs (h : s.pod.isSome = true → key ≠ "K8S_POD_NAMESPACE" ∧
      key ≠ "K8S_POD_NAME" ∧ (key = "K8S_POD_INFRA_CONTAINER_ID" → ∃ a ∈ args, a.1 = key)) :
    (setPodArgs s args).filter (·.1 == key) = args.filter (·.1 == key) := by
  unfold setPodArgs
  split
  · rfl
  · rename_i ns name hpod
    obtain ⟨hns, hname, hcontainer⟩ := h (by rw [hpod]; rfl)
    have hnamed : (setArg "K8S_POD_NAME" name (setArg "K8S_POD_NAMESPACE" ns args)).filter
        (·.1 == key) = args.filter (·.1 == key) := by
      rw [filter_setArg_of_ne (Ne.symm hname), filter_setArg_of_ne (Ne.symm hns)]
    dsimp only
    split_ifs with hthere
    · exact hnamed
    · have hother : "K8S_POD_INFRA_CONTAINER_ID" ≠ key := by
        rintro rfl
        -- a container that the invocation names is not set
        obtain ⟨a, ha, hkey⟩ := hcontainer rfl
        have hmem : a ∈ args.filter (·.1 == "K8S_POD_INFRA_CONTAINER_ID") :=
          List.mem_filter.mpr ⟨ha, beq_iff_eq.mpr hkey⟩
        rw [← hnamed] at hmem
        exact hthere (List.any_eq_true.mpr ⟨a, List.mem_filter.mp hmem⟩)
      rw [filter_setArg_of_ne hother, hnamed]

/-- **Keys that are not set keep their values.** -/
theorem filter_forRequest (h : ¬Sets s request key) :
    (forRequest s request).args.filter (·.1 == key) = s.args.filter (·.1 == key) := by
  unfold Sets at h
  push Not at h
  obtain ⟨hignore, hpod, hasked⟩ := h
  show (request.args.foldl (fun args e => setArg e.1 e.2 args)
    (setPodArgs s (ignoring s.args))).filter (·.1 == key) = _
  rw [filter_foldl_setArg hasked, filter_setPodArgs, filter_ignoring hignore]
  intro hsome
  obtain ⟨hns, hname, hcontainer⟩ := hpod hsome
  refine ⟨hns, hname, fun hkey => ?_⟩
  obtain ⟨a, ha, hkey⟩ := hcontainer hkey
  exact ⟨a, List.mem_cons_of_mem _ (List.mem_filter.mpr ⟨ha, by simpa [hkey] using hignore⟩), hkey⟩

/-- **Of what a request asks for, each is the last value of its key** unless the invocation gives the key
more than one. -/
theorem lastValue?_forRequest (distinct : (request.args.map (·.1)).Nodup)
    (haddress : ∀ e ∈ request.args, IsAddressArg e) (h : (key, value) ∈ request.args) :
    lastValue? key (forRequest s request).args =
      if (s.args.filter (·.1 == key)).length ≤ 1 then some value else lastValue? key s.args := by
  have hkey : key ≠ "IgnoreUnknown" ∧ key ≠ "K8S_POD_NAMESPACE" ∧ key ≠ "K8S_POD_NAME" ∧
      key ≠ "K8S_POD_INFRA_CONTAINER_ID" := by
    rcases (haddress _ h).1 with hkey | hkey <;> dsimp only at hkey <;> subst hkey <;> decide
  obtain ⟨hignore, hns, hname, hcontainer⟩ := hkey
  have hown : (setPodArgs s (ignoring s.args)).filter (·.1 == key) = s.args.filter (·.1 == key) := by
    rw [filter_setPodArgs fun _ => ⟨hns, hname, fun hkey => absurd hkey hcontainer⟩,
      filter_ignoring hignore]
  show lastValue? key (request.args.foldl (fun args e => setArg e.1 e.2 args)
    (setPodArgs s (ignoring s.args))) = _
  rw [lastValue?_foldl_setArg distinct h, lastValue?, hown, ← lastValue?]

/-! ### As text -/

theorem eq_or_mem_of_mem_foldl_setArg {a : String × String}
    (h : a ∈ sets.foldl (fun args e => setArg e.1 e.2 args) args) : a ∈ sets ∨ a ∈ args := by
  induction sets generalizing args with
  | nil => exact .inr h
  | cons e rest ih =>
    rcases ih h with hrest | hset
    · exact .inl (List.mem_cons_of_mem _ hrest)
    · rcases eq_or_mem_of_mem_setArg hset with rfl | hmem
      · exact .inl List.mem_cons_self
      · exact .inr hmem

variable {raw : String} {who : PodArgs}

/-- What plugins get can be written, if the container can. -/
theorem writable_forRequest (hwho : PodArgs.parse raw = .ok who) (hargs : s.args = argPairs raw)
    (hpod : ∀ pod, s.pod = some pod → who.pod = some pod)
    (hcontainer : WritablePair ("K8S_POD_INFRA_CONTAINER_ID", s.containerId))
    (haddress : ∀ e ∈ request.args, IsAddressArg e) :
    ∀ a ∈ (forRequest s request).args, WritablePair a := by
  have hignoring : ∀ a ∈ ignoring s.args, WritablePair a := by
    refine List.forall_mem_cons.mpr ⟨?_, fun a ha => ?_⟩
    · exact writablePair_of_isSetKey (by decide) (by decide) (by simp; decide)
    · exact writable_of_mem_argPairs (hargs ▸ (List.mem_filter.mp ha).1)
  have hset {key value : String} {args : List (String × String)} (hpair : WritablePair (key, value))
      (h : ∀ a ∈ args, WritablePair a) : ∀ a ∈ setArg key value args, WritablePair a := by
    intro a ha
    rcases eq_or_mem_of_mem_setArg ha with rfl | ha
    · exact hpair
    · exact h a ha
  intro a ha
  rcases eq_or_mem_of_mem_foldl_setArg ha with hasked | ha
  · exact ((haddress a hasked).settable "" "").writable
  · change a ∈ setPodArgs s (ignoring s.args) at ha
    unfold setPodArgs at ha
    split at ha
    · exact hignoring a ha
    · rename_i ns name hsome
      obtain ⟨hns, hname⟩ := writable_pod hwho (hpod _ hsome)
      have hnamed := hset hname (hset hns hignoring)
      dsimp only at ha
      split_ifs at ha
      · exact hnamed a ha
      · exact hset hcontainer hnamed a ha

/-- **What plugins get is read again as it is**, if the container can be written. -/
theorem argPairs_argText (hwho : PodArgs.parse raw = .ok who) (hargs : s.args = argPairs raw)
    (hpod : ∀ pod, s.pod = some pod → who.pod = some pod)
    (hcontainer : WritablePair ("K8S_POD_INFRA_CONTAINER_ID", s.containerId))
    (haddress : ∀ e ∈ request.args, IsAddressArg e) :
    argPairs (forRequest s request).argText = (forRequest s request).args := by
  by_cases hnil : (forRequest s request).args = []
  · rw [argText, hnil]
    rfl
  · exact argPairs_pairsText hnil (writable_forRequest hwho hargs hpod hcontainer haddress)

/-- **Which value of an argument counts.** Whatever the arguments of an invocation, and whatever the
annotations ask for: of a key that they ask for, the value that they ask for is the last one just if the
invocation gives the key at most one value, or gives it that value last. Of every key that the program
does not set, the last value is that of the invocation. Written as text, the arguments are read again
as they are, if the name of the container neither ends an argument nor begins or ends with a blank. -/
theorem asked_counts_iff (hwho : PodArgs.parse raw = .ok who) (hargs : s.args = argPairs raw)
    (hpod : ∀ pod, s.pod = some pod → who.pod = some pod) {d : Directory} {fs : FileSystem}
    {podNamespace : String} {annotations : Annotations} {wanted : List AttachmentRequest}
    (accepted : Intent.ofAnnotations d fs podNamespace annotations = .ok (.requests wanted))
    (hrequest : request ∈ wanted) {a : Attachment} (answers : Resolver.Answers a request) :
    let p := forRequest s a.request
    (∀ e ∈ request.args, lastValue? e.1 p.args = some e.2 ↔
        ((argPairs raw).filter (·.1 == e.1)).length ≤ 1 ∨
          lastValue? e.1 (argPairs raw) = some e.2) ∧
      (∀ key, ¬Sets s request key → lastValue? key p.args = lastValue? key (argPairs raw)) ∧
      (Text.hasChar ';' s.containerId = false → Text.trim s.containerId = s.containerId →
        argPairs p.argText = p.args) := by
  have hasked : a.request.args = request.args := by
    obtain ⟨plugin, heq⟩ := answers
    rw [heq]
  have haddress : ∀ e ∈ a.request.args, IsAddressArg e :=
    hasked ▸ Intent.isAddressArg_of_ofAnnotations accepted request hrequest
  have distinct : (a.request.args.map (·.1)).Nodup :=
    hasked ▸ Intent.nodup_keys_of_ofAnnotations accepted request hrequest
  refine ⟨fun e he => ?_, fun key hkey => ?_, fun hends htrim => ?_⟩
  · rw [lastValue?_forRequest distinct haddress (hasked ▸ he), hargs]
    split_ifs with honce
    · exact iff_of_true rfl (.inl honce)
    · exact (or_iff_right honce).symm
  · have hsets : ¬Sets s a.request key := by
      rw [Sets, hasked]
      exact hkey
    rw [lastValue?, filter_forRequest hsets, hargs, lastValue?]
  · exact argPairs_argText hwho hargs hpod (writable_container hends htrim) haddress

/-- Arguments of an invocation for the pod `web`, with an address. -/
def oneAddress : String := "IgnoreUnknown=1;K8S_POD_NAME=web;ips=10.0.0.1;TRACE=a;TRACE=b"

/-- Such arguments with two addresses. -/
def twoAddresses : String := "IgnoreUnknown=1;K8S_POD_NAME=web;ips=10.0.0.1;ips=10.0.0.2"

/-- A sandbox of the pod `default/web`, with the arguments. -/
def webSandbox (args : String) : Sandbox :=
  ⟨"c1", "/ns/c1", some ("default", "web"), argPairs args⟩

theorem argPairs_oneAddress : argPairs oneAddress =
    [("IgnoreUnknown", "1"), ("K8S_POD_NAME", "web"), ("ips", "10.0.0.1"), ("TRACE", "a"),
      ("TRACE", "b")] := by
  rfl

theorem argPairs_twoAddresses : argPairs twoAddresses =
    [("IgnoreUnknown", "1"), ("K8S_POD_NAME", "web"), ("ips", "10.0.0.1"), ("ips", "10.0.0.2")] := by
  rfl

/-- One address of the invocation is replaced by the one that is asked for, and of the values of another
key the last one is left. -/
theorem asked_counts_oneAddress :
    let p := forRequest (webSandbox oneAddress) Controller.blueAttachment.request
    lastValue? "ips" p.args = some "10.32.0.9/12" ∧ lastValue? "TRACE" p.args = some "b" ∧
      argPairs p.argText = p.args := by
  intro p
  have hwho : PodArgs.parse oneAddress = .ok ⟨some "web", none⟩ := by rfl
  have hsets : ¬Sets (webSandbox oneAddress) Controller.blueRequest "TRACE" := by
    rintro (h | ⟨-, h | h | ⟨h, -⟩⟩ | h) <;> exact absurd h (by decide)
  obtain ⟨hasked, hothers, htext⟩ := asked_counts_iff hwho
    (rfl : (webSandbox oneAddress).args = argPairs oneAddress) (fun _ h => h)
    (Controller.ofAnnotations_blue ⟨"/networks", []⟩ ⟨[], []⟩)
    (List.mem_cons_of_mem _ List.mem_cons_self)
    (Resolver.answers_attachment Controller.blueRequest _ none :
      Resolver.Answers Controller.blueAttachment Controller.blueRequest)
  rw [argPairs_oneAddress] at hasked hothers
  exact ⟨(hasked ("ips", "10.32.0.9/12") List.mem_cons_self).mpr (.inl (by decide)),
    hothers "TRACE" hsets, htext (by decide) (by decide)⟩

/-- **An address that is asked for does not count** where the invocation gives two: the second is left. -/
theorem asked_does_not_count :
    let p := forRequest (webSandbox twoAddresses) Controller.blueRequest
    PodArgs.parse twoAddresses = .ok ⟨some "web", none⟩ ∧
      Intent.ofAnnotations ⟨"/networks", []⟩ ⟨[], []⟩ "default" Controller.blueAnnotations =
        .ok (.requests [.plain .clusterDefault "eth0", Controller.blueRequest]) ∧
      ("ips", "10.32.0.9/12") ∈ Controller.blueRequest.args ∧
      lastValue? "ips" (argPairs p.argText) = some "10.0.0.2" := by
  intro p
  have hwho : PodArgs.parse twoAddresses = .ok ⟨some "web", none⟩ := by rfl
  have accepted := Controller.ofAnnotations_blue ⟨"/networks", []⟩ ⟨[], []⟩
  have hargs : (webSandbox twoAddresses).args = _ := argPairs_twoAddresses
  have hrequest : Controller.blueRequest ∈ [.plain .clusterDefault "eth0", Controller.blueRequest] :=
    List.mem_cons_of_mem _ List.mem_cons_self
  have haddress := Intent.isAddressArg_of_ofAnnotations accepted _ hrequest
  refine ⟨hwho, accepted, List.mem_cons_self, ?_⟩
  rw [argPairs_argText hwho rfl (fun _ h => h) (writable_container (by decide) (by decide)) haddress,
    lastValue?_forRequest (Intent.nodup_keys_of_ofAnnotations accepted _ hrequest) haddress
      (List.mem_cons_self : ("ips", "10.32.0.9/12") ∈ Controller.blueRequest.args), hargs]
  rfl

end Parameters

end PodNet
