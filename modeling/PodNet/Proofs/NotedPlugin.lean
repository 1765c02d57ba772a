import PodNet.Controller
import PodNet.Proofs.Pieces
import PodNet.Proofs.Resolving

/-!
# A plugin noted in the pod

A plugin that was chosen for a pod is noted in the annotation `cni`, and read from there later by
the grammar of that annotation. A name that this grammar takes for one plain token (`IsToken`) is
read as the plugin itself, on the first interface, which is what had been attached
(`ofAnnotations_noted`).
-/

namespace PodNet

/-- **The text is one plain token** of the annotation `cni`: it is not empty, it does not begin or
end with a blank, and nothing in it separates. -/
structure IsToken (s : String) : Prop where
  nonempty : s ≠ ""
  trimmed : Text.trim s = s
  comma : Text.hasChar ',' s = false
  colon : Text.hasChar ':' s = false
  atSign : Text.hasChar '@' s = false

namespace Intent

variable {d : Directory} {fs : FileSystem} {p : String}

theorem value?_of_isToken {key : String} {annotations : Annotations} (hp : IsToken p)
    (h : Table.get? key annotations = some p) : value? key annotations = some p := by
  rw [value?, h, Option.bind_some, Text.nonBlank, hp.trimmed]
  exact if_neg hp.nonempty

/-- A plain token asks for the plugin of that name. -/
theorem cniRequest_of_isToken (hp : IsToken p) (known : isKnown d fs p = .ok true)
    (podNamespace value : String) :
    cniRequest d fs podNamespace value p = .ok (.plain (.plugin p) "") := by
  rw [cniRequest, if_neg hp.nonempty, hp.colon, Bool.false_and, if_neg Bool.false_ne_true,
    Text.cut_of_hasChar hp.colon]
  simp only [pluginRequest, Text.cut_of_hasChar hp.atSign, hp.nonempty, known, reduceCtorEq,
    or_self, ↓reduceIte]
  rfl

/-- A plain token is all that the annotation asks for. -/
theorem ofCni_of_isToken (hp : IsToken p) (known : isKnown d fs p = .ok true)
    (podNamespace : String) :
    ofCni d fs podNamespace p = .ok [.plain (.plugin p) ""] := by
  rw [ofCni, Text.split_of_hasChar hp.comma, List.mapM_cons, hp.trimmed,
    cniRequest_of_isToken hp known]
  rfl

/-- The one request for a plugin gets the first interface. -/
theorem assign_plain (p : String) :
    AttachmentRequest.assign [.plain (.plugin p) ""] = .ok (Controller.defaultRequests p) := by
  have hwanted : [AttachmentRequest.plain (.plugin p) ""].map (·.interface) = [""] := rfl
  have hnames : InterfaceName.assign [""] = .ok [InterfaceName.default] := by rfl
  rw [AttachmentRequest.assign, hwanted, hnames]
  rfl

/-- **A noted plugin is what the annotations ask for**, on the first interface. -/
theorem ofAnnotations_noted {annotations : Annotations} (hp : IsToken p)
    (known : isKnown d fs p = .ok true) (hselection : value? selectionKey annotations = none)
    (hcni : Table.get? cniKey annotations = some p) (podNamespace : String) :
    ofAnnotations d fs podNamespace annotations =
      .ok (.requests (Controller.defaultRequests p)) := by
  have hstated : stated d fs podNamespace annotations = .ok (some [.plain (.plugin p) ""]) := by
    rw [stated, hselection, value?_of_isToken hp hcni]
    simp [ofCni_of_isToken hp known, Except.map]
  rw [ofAnnotations, hstated]
  show (do return Intent.requests (← AttachmentRequest.assign [.plain (.plugin p) ""])) = _
  rw [assign_plain]
  rfl

end Intent

theorem Builtin.isBuiltin_of_conf? {plugin : String} {conf : Object}
    (h : conf? plugin = some conf) : isBuiltin plugin = true := by
  unfold conf? at h
  rw [isBuiltin, plugins, List.contains_iff_mem]
  split_ifs at h with hbridge hmacvlan hsriov <;> simp [*]

/-- A plugin that was resolved is one that annotations may name. -/
theorem Resolver.isKnown_of_finds {r : Resolver} {files : FileSystem} {plugin : String}
    {l : ConfList} (h : (r.pluginList plugin).Finds files (.ok l)) :
    Intent.isKnown r.directory files plugin = .ok true := by
  unfold pluginList at h
  obtain ⟨found, hfound, h⟩ := Task.Finds.of_look_bind h
  rw [Intent.isKnown, hfound]
  cases found with
  | some path => rfl
  | none =>
    obtain ⟨conf, hconf, -⟩ := Task.Finds.of_look_bind h
    have hbuiltin : Builtin.isBuiltin plugin = true := by
      unfold builtinConf at hconf
      split at hconf
      · cases hconf
      · rename_i hbuiltin
        exact Builtin.isBuiltin_of_conf? hbuiltin
    simp [Except.map, hbuiltin]

end PodNet
