import PodNet.Proofs.NotedPlugin

/-!
# Planning again

Detaching does not remember what attaching planned. It reads the annotations of the pod again, which
attaching has changed in the meantime: there is a status now, and a plugin may be noted. Still it
comes to the same requests (`planDel_told`), because the status is under keys that ask for nothing,
and a noted plugin asks for just the plugin that was attached.
-/

namespace PodNet

/-- The keys under which a status is written. -/
theorem Status.key_of_mem_annotations {old : Annotations} {attachments : List Attachment}
    {results : List AddResult} {e : String × String}
    (h : e ∈ Status.annotations old attachments results) : e.1 = statusKey ∨ e.1 = multiIpKey := by
  unfold Status.annotations at h
  split at h
  · rcases Table.eq_or_mem_of_mem_insert h with rfl | h
    · exact .inr rfl
    · exact .inl (by rw [List.mem_singleton.mp h])
  · exact .inl (by rw [List.mem_singleton.mp h])

/-- Only three annotations say what is asked for. -/
theorem Intent.ofAnnotations_congr {old new : Annotations}
    (hselection : Table.get? selectionKey new = Table.get? selectionKey old)
    (hcni : Table.get? cniKey new = Table.get? cniKey old)
    (hnetworks : Table.get? networksKey new = Table.get? networksKey old) (d : Directory)
    (fs : FileSystem) (podNamespace : String) :
    ofAnnotations d fs podNamespace new = ofAnnotations d fs podNamespace old := by
  have hstated : stated d fs podNamespace new = stated d fs podNamespace old := by
    rw [stated, stated, value?, value?, value?, value?, value?, value?, hselection, hcni, hnetworks]
  rw [ofAnnotations, ofAnnotations, hstated]

/-- Annotations without a selection are those that a default comes from. -/
theorem Intent.value?_of_ofAnnotations_default {d : Directory} {fs : FileSystem}
    {podNamespace : String} {annotations : Annotations}
    (h : ofAnnotations d fs podNamespace annotations = .ok .default) :
    value? selectionKey annotations = none := by
  cases hvalue : value? selectionKey annotations with
  | none => rfl
  | some value =>
    rw [ofAnnotations, stated, hvalue] at h
    dsimp only at h
    cases hselection : ofSelection podNamespace value with
    | error f => rw [hselection] at h; cases h
    | ok wanted =>
      rw [hselection] at h
      cases hassign : AttachmentRequest.assign wanted <;>
        simp [Except.map, bind, Except.bind, hassign, pure, Except.pure] at h

namespace Controller

variable {c : Controller} {pod : PodContext} {plan : Plan} {attachments : List Attachment}
  {results : List AddResult} {files : FileSystem}

/-! ### What the pod was told -/

/-- The pod after it was told what it got. -/
def told (pod : PodContext) (plan : Plan) (attachments : List Attachment)
    (results : List AddResult) : PodContext :=
  { pod with annotations := Table.merge pod.annotations (statusFor pod plan attachments results) }

theorem of_mem_statusFor {e : String × String} (h : e ∈ statusFor pod plan attachments results) :
    e.1 = statusKey ∨ e.1 = multiIpKey ∨
      ∃ plugin, plan.noted = some plugin ∧ e = (cniKey, plugin) := by
  unfold statusFor at h
  split at h
  · rename_i plugin hnoted
    rcases Table.eq_or_mem_of_mem_insert h with h | h
    · exact .inr (.inr ⟨plugin, hnoted, h⟩)
    · exact (Status.key_of_mem_annotations h).imp_right .inl
  · exact (Status.key_of_mem_annotations h).imp_right .inl

/-- Other annotations than those that are written stay. -/
theorem get?_told {key : String} (hstatus : statusKey ≠ key) (hmulti : multiIpKey ≠ key)
    (hcni : plan.noted = none ∨ cniKey ≠ key) :
    Table.get? key (told pod plan attachments results).annotations =
      Table.get? key pod.annotations := by
  refine Table.get?_merge_of_forall_ne (fun e he hkey => ?_) _
  subst hkey
  rcases of_mem_statusFor he with h | h | ⟨plugin, hnoted, rfl⟩
  · exact hstatus h.symm
  · exact hmulti h.symm
  · rcases hcni with hnone | hcni
    · rw [hnone] at hnoted
      cases hnoted
    · exact hcni rfl

/-- A noted plugin is noted. -/
theorem get?_told_of_noted {plugin : String} (hnoted : plan.noted = some plugin) :
    Table.get? cniKey (told pod plan attachments results).annotations = some plugin := by
  refine Table.get?_merge_of_mem ?_ (fun e he hkey => ?_) _
  · rw [statusFor, hnoted]
    exact Table.mem_insert_self _ _ _
  · rcases of_mem_statusFor he with h | h | ⟨other, hother, rfl⟩
    · rw [hkey] at h
      exact absurd h (by decide)
    · rw [hkey] at h
      exact absurd h (by decide)
    · rw [hnoted, Option.some.injEq] at hother
      exact hother.symm

/-- Without a noted plugin the annotations ask for what they asked for. -/
theorem intentOf_told (hnoted : plan.noted = none) :
    c.intentOf files (some (told pod plan attachments results)) = c.intentOf files (some pod) :=
  Intent.ofAnnotations_congr (get?_told (by decide) (by decide) (.inl hnoted))
    (get?_told (by decide) (by decide) (.inl hnoted))
    (get?_told (by decide) (by decide) (.inl hnoted)) _ _ _

/-- With a noted plugin they ask for that plugin, if they asked for nothing. -/
theorem intentOf_told_of_noted {plugin : String} (hnoted : plan.noted = some plugin)
    (htoken : IsToken plugin) (hknown : Intent.isKnown c.directory files plugin = .ok true)
    (hintent : c.intentOf files (some pod) = .ok .default) :
    c.intentOf files (some (told pod plan attachments results)) =
      .ok (.requests (defaultRequests plugin)) := by
  refine Intent.ofAnnotations_noted htoken hknown ?_ (get?_told_of_noted hnoted) _
  rw [Intent.value?, get?_told (by decide) (by decide) (.inr (by decide))]
  exact Intent.value?_of_ofAnnotations_default hintent

/-! ### Planning -/

/-- The requests of a selector are noted. -/
theorem finds_notes (requests : List Http.Request) :
    (requests.forM fun request => Task.note (.requested request)).Finds files (.ok ()) := by
  induction requests with
  | nil => exact .pure _
  | cons request rest ih => exact .bind (.note trivial) ih

theorem finds_choosePlugin (c : Controller) (files : FileSystem) :
    c.choosePlugin.Finds files (c.selector.choose c.settings c.directory files).plugin :=
  .get_bind
    (fun fs => do
      let choice := c.selector.choose c.settings c.directory fs
      choice.requests.forM fun request => Task.note (.requested request)
      Task.ofExcept choice.plugin)
    (.bind (finds_notes _) (.ofExcept _))

/-- What attaching plans: what the annotations ask for, or the plugin that is chosen. -/
theorem finds_planAdd {pod : Option PodContext} (h : (c.planAdd pod).Finds files (.ok plan)) :
    (c.intentOf files pod = .ok (.requests plan.requests) ∧ plan.noted = none) ∨
      (c.intentOf files pod = .ok .default ∧
        ∃ plugin, (c.selector.choose c.settings c.directory files).plugin = .ok plugin ∧
          plan = ⟨defaultRequests plugin, if c.selector.isDynamic then some plugin else none⟩) := by
  unfold planAdd at h
  obtain ⟨intent, hintent, h⟩ := Task.Finds.of_look_bind h
  cases intent with
  | requests wanted =>
    cases h.unique (.pure _)
    exact .inl ⟨hintent, rfl⟩
  | default =>
    obtain ⟨plugin, hchoice, h⟩ := Task.OnlyLooks.finds_of_bind
      (fun fs => ⟨_, c.finds_choosePlugin fs⟩) (fun plugin => .pure _) h
    cases h.unique (.pure _)
    exact .inr ⟨hintent, plugin, (c.finds_choosePlugin files).unique hchoice, rfl⟩

/-- What a selector chooses can be read again: it is the configured plugin, or it is noted and a
plain token. -/
def Retraceable (c : Controller) (files : FileSystem) : Prop :=
  c.selector = .configured ∨ c.selector.isDynamic = true ∧
    ∀ plugin, (c.selector.choose c.settings c.directory files).plugin = .ok plugin → IsToken plugin

/-- A plugin that the default was resolved to is one that annotations may name. -/
theorem isKnown_of_finds_default (persist : c.settings.persistBuiltins = false) {plugin : String}
    (h : (c.resolver.resolveAll (defaultRequests plugin)).Finds files (.ok attachments)) :
    Intent.isKnown c.directory files plugin = .ok true := by
  rw [defaultRequests, Resolver.resolveAll] at h
  have hresolve := Resolver.onlyLooks_resolve (r := c.resolver) persist
    (.plain (.plugin plugin) InterfaceName.default)
  obtain ⟨a, ha, -⟩ := hresolve.finds_of_bind
    (fun a => .bind (.pure _) fun attachments => .pure _) h
  have hlist : (do
      let l ← c.resolver.pluginList plugin
      return Resolver.attachment (.plain (.plugin plugin) InterfaceName.default) l none).Finds
        files (.ok a) := ha
  have hlooks := Resolver.onlyLooks_pluginList (r := c.resolver) persist plugin
  obtain ⟨l, hl, -⟩ := hlooks.finds_of_bind (fun l => .pure _) hlist
  exact Resolver.isKnown_of_finds (r := c.resolver) hl

/-- **Detaching plans what attaching planned**, when the pod was told what it got and all of that
could be resolved. -/
theorem planDel_told (persist : c.settings.persistBuiltins = false)
    (retraceable : c.Retraceable files)
    (hplan : (c.planAdd (some pod)).Finds files (.ok plan))
    (hresolve : (c.resolver.resolveAll plan.requests).Finds files (.ok attachments)) :
    c.planDel files (some (told pod plan attachments results)) = plan.requests := by
  rcases finds_planAdd hplan with ⟨hintent, hnoted⟩ | ⟨hintent, plugin, hchoice, rfl⟩
  · rw [planDel, intentOf_told hnoted, hintent]
  · rcases retraceable with hconfigured | ⟨hdynamic, htoken⟩
    · rw [hconfigured] at hchoice
      cases hchoice
      rw [planDel, intentOf_told (by rw [hconfigured]; rfl), hintent]
    · have hknown := isKnown_of_finds_default persist hresolve
      rw [planDel, intentOf_told_of_noted (by rw [hdynamic]; rfl) (htoken plugin hchoice) hknown
        hintent]

end Controller

end PodNet
