import PodNet.Proofs.Looking
import PodNet.Proofs.ValidLists

/-!
# What resolution does and finds

Unless built-in configurations are written to the directory, resolving only looks
(`onlyLooks_resolve`). Whatever it finds is a valid list (`yields_resolve`). It asks the cluster for
networks and never for pods, so annotations sent to a pod make no difference to it
(`resolve_patched`).
-/

namespace PodNet

namespace Resolver

/-! ### Resolving only looks -/

theorem onlyLooks_needCluster (r : Resolver) : Task.OnlyLooks r.needCluster := by
  unfold needCluster
  split
  · exact .pure _
  · exact .throw _

theorem onlyLooks_pluginList {r : Resolver} (persist : r.persistBuiltins = false)
    (plugin : String) : Task.OnlyLooks (r.pluginList plugin) := by
  unfold pluginList
  refine .bind (.look _) fun found => ?_
  split
  · exact .look _
  · refine .bind (.look _) fun conf => ?_
    rw [persist]
    exact .ofExcept _

theorem onlyLooks_netAttachDefList (r : Resolver) (ns name : String) :
    Task.OnlyLooks (r.netAttachDefList ns name) := by
  unfold netAttachDefList
  refine .bind r.onlyLooks_needCluster fun cluster => .bind (.query _ _) fun definition => ?_
  split
  · exact .ofExcept _
  · refine .bind (.look _) fun found => ?_
    split
    · exact .pure _
    · exact .throw _

theorem onlyLooks_carve (cluster : Cluster) (ns name physicalName : String)
    (logical : LogicalNetwork) : Task.OnlyLooks (carve cluster ns name physicalName logical) := by
  unfold carve
  by_cases hown : physicalName = name
  · rw [if_pos hown]
    exact fun files => ⟨_, (Task.Finds.throw _).bind_error⟩
  · rw [if_neg hown]
    refine .bind (.query _ _) fun physical => .bind (.ofExcept _) fun carving => ?_
    split
    · refine .bind (.ofExcept _) fun ownNet => .bind (.query _ _) fun siblings => ?_
      exact .bind (.ofExcept _) fun _ => .pure _
    · exact .pure _

theorem onlyLooks_logicalCarving (r : Resolver) (ns name : String) :
    Task.OnlyLooks (r.logicalCarving ns name) := by
  unfold logicalCarving
  refine .bind r.onlyLooks_needCluster fun cluster => .bind (.query _ _) fun logical => ?_
  split
  · exact onlyLooks_carve _ _ _ _ _
  · exact .pure _

/-- **Resolving a request only looks**, unless built-in configurations are written. -/
theorem onlyLooks_resolve {r : Resolver} (persist : r.persistBuiltins = false)
    (request : AttachmentRequest) : Task.OnlyLooks (r.resolve request) := by
  unfold resolve
  split
  · exact .bind (onlyLooks_pluginList persist _) fun l => .pure _
  · refine .bind (.look _) fun found => ?_
    split
    · exact .pure _
    · exact .bind (onlyLooks_pluginList persist _) fun l => .pure _
  · exact .bind (r.onlyLooks_netAttachDefList _ _) fun l => .pure _
  · refine .bind (r.onlyLooks_logicalCarving _ _) fun carving => ?_
    refine .bind (.ofExcept _) fun plugin => ?_
    exact .bind (onlyLooks_pluginList persist _) fun l => .pure _

theorem onlyLooks_resolveAll {r : Resolver} (persist : r.persistBuiltins = false)
    (requests : List AttachmentRequest) : Task.OnlyLooks (r.resolveAll requests) := by
  induction requests with
  | nil => exact .pure _
  | cons request rest ih =>
    exact .bind (onlyLooks_resolve persist request) fun a => .bind ih fun attachments => .pure _

/-- Where all requests can be resolved, none of them is left out. -/
theorem finds_resolveSome {r : Resolver} (persist : r.persistBuiltins = false) {files : FileSystem}
    {requests : List AttachmentRequest} {attachments : List Attachment}
    (h : (r.resolveAll requests).Finds files (.ok attachments)) :
    (r.resolveSome requests).Finds files (.ok attachments) := by
  induction requests generalizing attachments with
  | nil => exact h
  | cons request rest ih =>
    have hrest := onlyLooks_resolveAll persist rest
    obtain ⟨a, ha, h⟩ := (onlyLooks_resolve persist request).finds_of_bind
      (fun a => .bind hrest fun attachments => .pure _) h
    obtain ⟨more, hmore, h⟩ := hrest.finds_of_bind (fun attachments => .pure _) h
    rw [resolveSome]
    exact .bind (.attempt ha) (.bind (ih hmore) h)

/-! ### Resolving finds valid lists -/

theorem yields_pluginList (r : Resolver) (plugin : String) :
    Task.Yields ConfList.Valid (r.pluginList plugin) := by
  unfold pluginList
  refine .bind_of_forall fun found => ?_
  split
  · exact .look fun _ _ => Directory.valid_of_load
  · refine .bind_of_forall fun conf => ?_
    split
    · exact .bind_of_forall fun _ => .ofExcept fun _ => ConfList.valid_of_ofConf
    · exact .ofExcept fun _ => ConfList.valid_of_ofConf

theorem yields_netAttachDefList (r : Resolver) (ns name : String) :
    Task.Yields ConfList.Valid (r.netAttachDefList ns name) := by
  unfold netAttachDefList
  refine .bind_of_forall fun cluster => .bind_of_forall fun definition => ?_
  split
  · exact .ofExcept fun _ => ConfList.valid_of_parseAny
  · refine .bind (P := fun found => ∀ l, found = some l → l.Valid) (.look ?_) fun found hfound => ?_
    · rintro files _ h l rfl
      exact Directory.valid_of_networkNamed h
    · split
      · exact .pure (hfound _ rfl)
      · exact .throw _

/-- **What a request is resolved to has a valid list.** -/
theorem yields_resolve (r : Resolver) (request : AttachmentRequest) :
    Task.Yields (fun a => a.conf.Valid) (r.resolve request) := by
  unfold resolve
  split
  · exact .bind (r.yields_pluginList _) fun l hl => .pure hl
  · refine .bind (P := fun found => ∀ l, found = some l → l.Valid) (.look ?_) fun found hfound => ?_
    · rintro files _ h l rfl
      exact Directory.valid_of_defaultNetwork h
    · split
      · exact .pure (hfound _ rfl)
      · exact .bind (r.yields_pluginList _) fun l hl => .pure hl
  · exact .bind (r.yields_netAttachDefList _ _) fun l hl => .pure hl
  · refine .bind_of_forall fun carving => .bind_of_forall fun plugin => ?_
    exact .bind (r.yields_pluginList _) fun l hl => .pure (hl.configure carving)

theorem yields_resolveAll (r : Resolver) (requests : List AttachmentRequest) :
    Task.Yields (fun attachments => ∀ a ∈ attachments, a.conf.Valid) (r.resolveAll requests) := by
  induction requests with
  | nil => exact .pure (by simp)
  | cons request rest ih =>
    refine .bind (r.yields_resolve request) fun a ha => .bind ih fun attachments hall => .pure ?_
    intro b hb
    rcases List.mem_cons.mp hb with rfl | hb
    · exact ha
    · exact hall b hb

end Resolver

/-! ### Pods do not matter -/

/-- The cluster after annotations were merged into those of a pod, and nothing else was changed. -/
def Cluster.patched (cluster : Cluster) (ns name : String) (annotations : Annotations) : Cluster :=
  { cluster with
    pod := fun ns' name' => (cluster.pod ns' name').map fun pod =>
      if ns' = ns ∧ name' = name then
        { pod with annotations := some (Table.merge (pod.annotations.getD []) annotations) }
      else pod }

/-- The pod that the annotations were sent to. -/
theorem Cluster.pod_patched {cluster : Cluster} {ns name : String} {pod : Pod}
    (h : cluster.pod ns name = .ok pod) (annotations : Annotations) :
    (cluster.patched ns name annotations).pod ns name =
      .ok { pod with annotations := some (Table.merge (pod.annotations.getD []) annotations) } := by
  simp [patched, h, Except.map]

namespace Resolver

/-- The resolver with annotations sent to a pod. -/
def patched (r : Resolver) (ns name : String) (annotations : Annotations) : Resolver :=
  { r with cluster := r.cluster.map fun cluster => cluster.patched ns name annotations }

theorem resolve_patched (r : Resolver) (ns name : String) (annotations : Annotations)
    (request : AttachmentRequest) :
    (r.patched ns name annotations).resolve request = r.resolve request := by
  obtain ⟨_ | cluster, directory, defaultPlugin, persistBuiltins, disk⟩ := r
  · rfl
  · rfl

theorem resolveSome_patched (r : Resolver) (ns name : String) (annotations : Annotations)
    (requests : List AttachmentRequest) :
    (r.patched ns name annotations).resolveSome requests = r.resolveSome requests := by
  induction requests with
  | nil => rfl
  | cons request rest ih => rw [resolveSome, resolveSome, resolve_patched, ih]

end Resolver

end PodNet
