import PodNet.Proofs.Rollback

/-!
# What a failure leaves behind

Attaching is meant to be atomic: when it fails, whatever was attached is detached again (`Undone`).
It is so for attachments and not for plugins. The attachment that fails is not swept away, though
its plugins before the failing one did attach, and so did the failing one itself if all that is
wrong is what it printed. Nothing detaches those, unless an earlier attachment happens to have the
same plugin on the same interface. This is all that can be left behind (`undone_iff`), and a list of
two plugins of which the second fails does leave the first one behind.
-/

namespace PodNet

/-- The call detaches what the other one attached: the same plugin from the same interface. -/
def Call.TakesBack (d c : Call) : Prop :=
  d.execution.command = .del ∧ d.execution.plugin = c.execution.plugin ∧
    d.execution.parameters.interface = c.execution.parameters.interface

/-- **Nothing is left behind**: every plugin that attached is detached by a later call. -/
def Undone (calls : List Call) : Prop :=
  ∀ before c after, calls = before ++ c :: after → c.execution.command = .add → c.Served →
    ∃ d ∈ after, d.TakesBack c

/-- Where all attaching comes before all detaching, what matters is what the detaching calls take
back. -/
theorem undone_append_iff {attaching detaching : List Call}
    (hadd : ∀ c ∈ attaching, c.execution.command = .add)
    (hdel : ∀ d ∈ detaching, d.execution.command = .del) :
    Undone (attaching ++ detaching) ↔
      ∀ c ∈ attaching, c.Served → ∃ d ∈ detaching, d.TakesBack c := by
  constructor
  · intro h c hc hserved
    obtain ⟨before, after, rfl⟩ := List.append_of_mem hc
    obtain ⟨d, hd, hback⟩ :=
      h before c (after ++ detaching) (by simp) (hadd c hc) hserved
    rcases List.mem_append.mp hd with hd | hd
    · have hcommand := hadd d (by simp [hd])
      rw [hback.1] at hcommand
      cases hcommand
    · exact ⟨d, hd, hback⟩
  · intro h before c after hsplit hcommand hserved
    have habsurd : c ∉ detaching := by
      intro hc
      rw [hdel c hc] at hcommand
      cases hcommand
    rcases List.append_eq_append_iff.mp hsplit with ⟨l, rfl, hl⟩ | ⟨l, rfl, hl⟩
    · exact absurd (by simp [hl]) habsurd
    · rcases List.cons_eq_append_iff.mp hl with ⟨rfl, hdetaching⟩ | ⟨l, rfl, rfl⟩
      · exact absurd (by simp [hdetaching]) habsurd
      · obtain ⟨d, hd, hback⟩ := h c (by simp) hserved
        exact ⟨d, List.mem_append_right l hd, hback⟩

namespace Delegation

variable {s : Sandbox} {a : Attachment} {attachments : List Attachment} {calls : List Call}

/-- A sweep in which every plugin detaches takes back what the plugins of its attachments attached
on the interfaces of these, and nothing else. -/
theorem SweepCalls.exists_takesBack_iff (h : SweepCalls s attachments calls)
    (valid : ∀ a ∈ attachments, a.conf.Valid)
    (served : ∀ d ∈ calls, d.Served) (c : Call) :
    (∃ d ∈ calls, d.TakesBack c) ↔ ∃ a ∈ attachments,
      a.request.interface = c.execution.parameters.interface ∧
        c.execution.plugin ∈ a.conf.pluginTypes := by
  constructor
  · rintro ⟨d, hd, -, hplugin, hinterface⟩
    obtain ⟨a, ha, own, ⟨f, hown⟩, hd⟩ := h.exists_mem hd
    obtain ⟨plugin, hmem, he⟩ := hown.exists_mem d hd
    refine ⟨a, ha, ?_, ?_⟩
    · rw [← hinterface, he]
      rfl
    · rw [ConfList.pluginTypes_of_valid (valid a ha), ← hplugin, he]
      exact List.mem_map_of_mem (List.mem_reverse.mp hmem)
  · rintro ⟨a, ha, hinterface, hplugin⟩
    rw [ConfList.pluginTypes_of_valid (valid a ha)] at hplugin
    obtain ⟨plugin, hmem, htype⟩ := List.mem_map.mp hplugin
    obtain ⟨own, ⟨f, hown⟩, hcalls⟩ := h.exists_group ha
    obtain ⟨d, hd, he⟩ := (hown.complete fun c hc => .inl (served c (hcalls c hc))).exists_call
      (List.mem_reverse.mpr hmem)
    refine ⟨d, hcalls d hd, ?_, ?_, ?_⟩
    · rw [he]
      rfl
    · rw [he]
      exact htype
    · rw [he]
      exact hinterface

/-- Where a call that attaches belongs. -/
theorem AttachCalls.mem_pluginTypes {f : Option Failure} (h : AttachCalls s a calls f)
    (valid : a.conf.Valid) {c : Call} (hc : c ∈ calls) :
    a.request.interface = c.execution.parameters.interface ∧
      c.execution.plugin ∈ a.conf.pluginTypes := by
  obtain ⟨plugin, hmem, previous, he⟩ := h.exists_mem c hc
  rw [he, ConfList.pluginTypes_of_valid valid]
  exact ⟨rfl, List.mem_map_of_mem hmem⟩

/-- No call that failed to attach an attachment did attach exactly if its first plugin refused. -/
theorem AttachCalls.forall_not_served_iff {f : Failure} (h : AttachCalls s a calls (some f)) :
    (∀ c ∈ calls, ¬ c.Served) ↔ ∃ c, calls = [c] ∧ c.answer = .error f := by
  obtain ⟨passed, c, rfl, hc, hpassed⟩ := h.exists_of_some
  constructor
  · intro hall
    have hnone : passed = [] := by
      rw [List.eq_nil_iff_forall_not_mem]
      intro p hp
      exact hall p (by simp [hp]) (Call.served_of_addFailure?_eq_none (hpassed p hp))
    subst hnone
    refine ⟨c, rfl, ?_⟩
    cases hanswer : c.answer with
    | error g =>
      rw [Call.addFailure?, hanswer, Option.some.injEq] at hc
      rw [hc]
    | ok out => exact absurd ⟨out, hanswer⟩ (hall c (by simp))
  · rintro ⟨d, hd, hanswer⟩ b hb ⟨out, hout⟩
    rw [hd, List.mem_singleton] at hb
    rw [hb, hanswer] at hout
    cases hout

/-- What is left behind of attachments that were attached and swept away, and one that failed. -/
theorem undone_iff {made : List Attachment} {failing : Attachment} {f : Failure}
    {attached failed undone : List Call} (validMade : ∀ a ∈ made, a.conf.Valid)
    (validFailing : failing.conf.Valid)
    (hattached : AttachedCalls s made attached) (hfailed : AttachCalls s failing failed (some f))
    (hundone : SweepCalls s made.reverse undone) (served : ∀ d ∈ undone, d.Served) :
    Undone (attached ++ failed ++ undone) ↔ ∀ c ∈ failed, c.Served → ∃ a ∈ made,
      a.request.interface = failing.request.interface ∧
        c.execution.plugin ∈ a.conf.pluginTypes := by
  have hback : ∀ c, (∃ d ∈ undone, d.TakesBack c) ↔ ∃ a ∈ made,
      a.request.interface = c.execution.parameters.interface ∧
        c.execution.plugin ∈ a.conf.pluginTypes := by
    intro c
    rw [hundone.exists_takesBack_iff (fun a ha => validMade a (List.mem_reverse.mp ha)) served]
    simp only [List.mem_reverse]
  have hadd : ∀ c ∈ attached ++ failed, c.execution.command = .add := by
    intro c hc
    rcases List.mem_append.mp hc with hc | hc
    · exact hattached.command_eq c hc
    · exact hfailed.command_eq c hc
  have hinterface : ∀ c ∈ failed, failing.request.interface = c.execution.parameters.interface :=
    fun c hc => (hfailed.mem_pluginTypes validFailing hc).1
  rw [undone_append_iff hadd hundone.command_eq]
  constructor
  · intro h c hc hserved
    rw [hinterface c hc]
    exact (hback c).mp (h c (List.mem_append_right _ hc) hserved)
  · intro h c hc hserved
    rw [hback]
    rcases List.mem_append.mp hc with hc | hc
    · obtain ⟨a, ha, own, hown, hc⟩ := hattached.exists_mem hc
      exact ⟨a, ha, hown.mem_pluginTypes (validMade a ha) hc⟩
    · rw [← hinterface c hc]
      exact h c hc hserved

variable (executor : Executor) (s : Sandbox)

/-- **What a failure leaves behind**: provided that every plugin called to detach does so, what is
left behind are the plugins of the failing attachment that did attach, unless an earlier attachment
has the plugin on the same interface. If each attachment has an interface of its own, nothing is
left behind exactly if the first plugin of the failing attachment is the one that failed. -/
theorem addAll_undone_iff (attachments : List Attachment)
    (valid : ∀ a ∈ attachments, a.conf.Valid) (node : Node) (f : Failure)
    (fails : ((addAll executor s attachments).runOn node).1 = .error f)
    (detached : ∀ c ∈ (addAll executor s attachments).calls node,
      c.execution.command = .del → c.Served) :
    let calls := (addAll executor s attachments).calls node
    ∃ made failing later attached failed undone,
      attachments = made ++ failing :: later ∧ calls = attached ++ failed ++ undone ∧
      AttachedCalls s made attached ∧ AttachCalls s failing failed (some f) ∧
      SweepCalls s made.reverse undone ∧
      (Undone calls ↔ ∀ c ∈ failed, c.Served → ∃ a ∈ made,
        a.request.interface = failing.request.interface ∧
          c.execution.plugin ∈ a.conf.pluginTypes) ∧
      ((attachments.map (·.request.interface)).Nodup →
        (Undone calls ↔ ∃ c, failed = [c] ∧ c.answer = .error f)) := by
  obtain ⟨calls, hcalled, houtcome⟩ := addAll_called executor s attachments valid node
  dsimp only
  rw [hcalled.calls_eq] at detached ⊢
  rw [fails] at houtcome
  obtain ⟨made, failing, later, attached, failed, undone, hsplit, hcalls, hattached, hfailed,
    hundone⟩ := houtcome.exists_of_error
  have hserved : ∀ d ∈ undone, d.Served := fun d hd =>
    detached d (by simp [hcalls, hd]) (hundone.command_eq d hd)
  have hiff := undone_iff (fun a ha => valid a (by simp [hsplit, ha]))
    (valid failing (by simp [hsplit])) hattached hfailed hundone hserved
  rw [← hcalls] at hiff
  refine ⟨made, failing, later, attached, failed, undone, hsplit, hcalls, hattached, hfailed,
    hundone, hiff, fun hdistinct => ?_⟩
  rw [hiff, ← hfailed.forall_not_served_iff]
  refine forall₂_congr fun c _ => imp_congr_right fun _ => ?_
  rw [iff_false]
  rintro ⟨a, ha, hinterface, -⟩
  rw [hsplit, List.map_append, List.nodup_append] at hdistinct
  exact hdistinct.2.2 _ (List.mem_map_of_mem ha) _ List.mem_cons_self hinterface

/-- A bridge whose card is tuned afterwards, on `eth0`. -/
def bridgeNetwork : Attachment where
  request := .plain (.plugin "net") "eth0"
  conf := ⟨"0.3.1", "net", [[("type", .str "bridge")], [("type", .str "tuning")]], []⟩
  subnet := none

theorem valid_bridgeNetwork : ∀ a ∈ [bridgeNetwork], a.conf.Valid := by
  intro a ha
  rw [List.mem_singleton.mp ha]
  rfl

/-- Answers that one plugin is busy. -/
def busy (plugin : String) : Executor := fun _ _ e =>
  if e.plugin = plugin then .error (.delegateFailed plugin "eth0" ⟨11, "try again", none⟩)
  else .ok []

/-- With the bridge busy nothing is left behind. -/
theorem addAll_undone_bridge_busy :
    let run := (addAll (busy "bridge") loneSandbox [bridgeNetwork]).runOn freshNode
    let calls := (addAll (busy "bridge") loneSandbox [bridgeNetwork]).calls freshNode
    (∀ a ∈ [bridgeNetwork], a.conf.Valid) ∧
      run.1 = .error (.delegateFailed "bridge" "eth0" ⟨11, "try again", none⟩) ∧
      (∀ c ∈ calls, c.execution.command = .del → c.Served) ∧ Undone calls := by
  intro run calls
  have hfails : run.1 = .error (.delegateFailed "bridge" "eth0" ⟨11, "try again", none⟩) := by rfl
  have hcalls : ∃ e, calls = [⟨e, run.1.map fun _ => []⟩] ∧ e.command = .add := ⟨_, by rfl, by rfl⟩
  obtain ⟨e, hcalls, hcommand⟩ := hcalls
  have hdetached : ∀ c ∈ calls, c.execution.command = .del → c.Served := by
    intro c hc hdel
    rw [hcalls, List.mem_singleton] at hc
    rw [hc, hcommand] at hdel
    cases hdel
  refine ⟨valid_bridgeNetwork, hfails, hdetached, ?_⟩
  obtain ⟨made, failing, later, attached, failed, undone, hsplit, hsame, -, hfailed, -, -, hiff⟩ :=
    addAll_undone_iff (busy "bridge") loneSandbox [bridgeNetwork] valid_bridgeNetwork freshNode _
      hfails hdetached
  rw [hiff (by decide), ← hfailed.forall_not_served_iff]
  rintro c hc ⟨out, hout⟩
  have hmem : c ∈ calls := by
    rw [show calls = attached ++ failed ++ undone from hsame]
    simp [hc]
  rw [hcalls, List.mem_singleton] at hmem
  rw [hmem, hfails] at hout
  cases hout

/-- **The bridge is left behind** when the tuning that comes after it is busy: attaching fails, no
call to detach is refused, and no one detaches the bridge that did attach. -/
theorem addAll_leaves_bridge :
    let run := (addAll (busy "tuning") loneSandbox [bridgeNetwork]).runOn freshNode
    let calls := (addAll (busy "tuning") loneSandbox [bridgeNetwork]).calls freshNode
    (∀ a ∈ [bridgeNetwork], a.conf.Valid) ∧
      run.1 = .error (.delegateFailed "tuning" "eth0" ⟨11, "try again", none⟩) ∧
      (∀ c ∈ calls, c.execution.command = .del → c.Served) ∧ ¬ Undone calls := by
  intro run calls
  have hcommands : calls.map (·.execution.command) = [.add, .add] := by rfl
  have hnone : ∀ c ∈ calls, c.execution.command ≠ .del := by
    intro c hc hdel
    have hmem := List.mem_map_of_mem (f := (·.execution.command)) hc
    rw [hcommands, hdel] at hmem
    simp at hmem
  refine ⟨valid_bridgeNetwork, by rfl, fun c hc hdel => absurd hdel (hnone c hc), fun h => ?_⟩
  obtain ⟨d, hd, hdel, -⟩ := h [] _ _ (by rfl) (by rfl) ⟨[], by rfl⟩
  refine hnone d ?_ hdel
  exact List.mem_cons_of_mem _ hd

end Delegation

end PodNet
