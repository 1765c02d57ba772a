import PodNet.Controller
import PodNet.Proofs.Arguments
import PodNet.Proofs.AskedArguments
import PodNet.Proofs.Json.RoundTrip
import PodNet.Proofs.Preparing

/-!
# Arguments handed to plugins

Plugins get the arguments of the invocation with a few set: that unknown keys are to be ignored, who
the pod is, and what addresses it wants. Whatever the invocation and the annotations of the pod say,
what plugins get can be read by the rules that the program itself reads arguments by, and names the
same pod (`Controller.arguments_wellFormed`).

That setting an argument keeps all this is one lemma (`HandedOn.setArg`). It replaces the first value of
a key while the last one counts; this does no harm, as who the pod is was read of the last one.
-/

namespace PodNet

/-! ### Setting arguments -/

section SetArg

variable {key k value : String} {args : List (String × String)}

theorem filter_setArg (keep : String → Bool) (h : keep key = false) (value : String)
    (args : List (String × String)) :
    (setArg key value args).filter (keep ·.1) = args.filter (keep ·.1) := by
  induction args with
  | nil => simp [setArg, h]
  | cons a rest ih =>
    rw [setArg]
    split
    · rename_i ha
      subst ha
      simp [h]
    · rw [List.filter_cons, List.filter_cons, ih]

theorem filter_setArg_self (key value : String) (args : List (String × String)) :
    (setArg key value args).filter (·.1 == key) = (key, value) :: (args.filter (·.1 == key)).tail := by
  induction args with
  | nil => simp [setArg]
  | cons a rest ih =>
    rw [setArg]
    by_cases ha : a.1 = key
    · simp [ha]
    · simp [ha, ih]

theorem eq_or_mem_of_mem_setArg {a : String × String} (h : a ∈ setArg key value args) :
    a = (key, value) ∨ a ∈ args := by
  induction args with
  | nil => exact .inl (List.mem_singleton.mp h)
  | cons b rest ih =>
    rw [setArg] at h
    split at h
    · exact (List.mem_cons.mp h).imp_right (List.mem_cons_of_mem _)
    · rcases List.mem_cons.mp h with rfl | h
      · exact .inr List.mem_cons_self
      · exact (ih h).imp_right (List.mem_cons_of_mem _)

/-- Setting an argument changes the values of no other key. -/
theorem filter_setArg_of_ne (h : key ≠ k) :
    (setArg key value args).filter (·.1 == k) = args.filter (·.1 == k) :=
  filter_setArg (· == k) (by simpa using h) value args

/-- **What is set is the last value of its key** unless the key stands more than once: then another than
the last is replaced. -/
theorem lastValue?_setArg_self (key value : String) (args : List (String × String)) :
    lastValue? key (setArg key value args) =
      if (args.filter (·.1 == key)).length ≤ 1 then some value else lastValue? key args := by
  rw [lastValue?, lastValue?, filter_setArg_self]
  cases args.filter (·.1 == key) with
  | nil => rfl
  | cons a rest =>
    -- Of one value nothing is left; of more than one the last is.
    cases rest with
    | nil => rfl
    | cons b rest =>
      rw [if_neg (by simp)]
      rfl

/-- **Setting an argument changes the last value of no other key**, and of its own only to what is set. -/
theorem lastValue?_setArg (key k value : String) (args : List (String × String)) :
    lastValue? k (setArg key value args) = lastValue? k args ∨
      key = k ∧ lastValue? k (setArg key value args) = some value := by
  by_cases hkey : key = k
  · subst hkey
    rw [lastValue?_setArg_self]
    split_ifs
    · exact .inr ⟨rfl, rfl⟩
    · exact .inl rfl
  · rw [lastValue?, lastValue?, filter_setArg_of_ne hkey]
    exact .inl rfl

/-- A pod that is named is named all the same, when its own name and namespace are set. -/
theorem pod_setArg {ns name : String}
    (h : (PodArgs.Reading.ofPairs args).pod.pod = some (ns, name))
    (hnamespace : key = "K8S_POD_NAMESPACE" → value = ns)
    (hpodName : key = "K8S_POD_NAME" → value = name) :
    (PodArgs.Reading.ofPairs (setArg key value args)).pod.pod = some (ns, name) := by
  rw [PodArgs.Reading.pod_ofPairs_eq_some_iff] at h ⊢
  obtain ⟨hname, hns⟩ := h
  constructor
  · rcases lastValue?_setArg key "K8S_POD_NAME" value args with heq | ⟨hkey, heq⟩
    · rw [heq]
      exact hname
    · -- An empty value names nobody, but what was read of the arguments before is not empty.
      have hne := PodArgs.ne_empty_of_bind_value? hname
      rw [heq, hpodName hkey, Option.bind_some, PodArgs.value?_of_ne hne]
  · rcases lastValue?_setArg key "K8S_POD_NAMESPACE" value args with heq | ⟨hkey, heq⟩
    · rw [heq]
      exact hns
    · have hne : ns ≠ "" := by
        rw [← hns]
        cases hvalue : (lastValue? "K8S_POD_NAMESPACE" args).bind PodArgs.value? with
        | none => decide
        | some v => exact PodArgs.ne_empty_of_bind_value? hvalue
      rw [heq, hnamespace hkey, Option.bind_some, PodArgs.value?_of_ne hne, Option.getD_some]

end SetArg

/-! ### What plugins get -/

/-- The program sets arguments with the key. -/
def isSetKey (key : String) : Bool :=
  ["IgnoreUnknown", "K8S_POD_NAMESPACE", "K8S_POD_NAME", "K8S_POD_INFRA_CONTAINER_ID", "ips",
    "mac"].contains key

/-- A pair with a key that is set can be written when its value can. -/
theorem writablePair_of_isSetKey {key value : String} (hkey : isSetKey key = true)
    (hends : ';' ∉ value.toList)
    (hlast : ∀ c, value.toList.getLast? = some c → Text.isBlank c = false) :
    WritablePair (key, value) := by
  have hplain : '=' ∉ key.toList ∧ ';' ∉ key.toList ∧
      ∀ c, key.toList.head? = some c → Text.isBlank c = false := by
    simp only [isSetKey, List.contains_iff_mem, List.mem_cons, List.not_mem_nil, or_false] at hkey
    rcases hkey with rfl | rfl | rfl | rfl | rfl | rfl <;>
      exact ⟨by decide, by decide, by simp; decide⟩
  exact ⟨hplain.1, ⟨hplain.2.1, hends⟩, hplain.2.2, hlast⟩

variable {own args : List (String × String)} {ns name key value : String}

/-- **The arguments are handed on** for a pod: they can be written; the first says that unknown keys
are to be ignored, and no other says anything about these; they name the pod; and what the program
does not set is as it was. -/
structure HandedOn (own : List (String × String)) (ns name : String) (args : List (String × String)) :
    Prop where
  writable : ∀ a ∈ args, WritablePair a
  ignoring : ∃ rest, args = ("IgnoreUnknown", "1") :: rest ∧ ∀ a ∈ rest, a.1 ≠ "IgnoreUnknown"
  names : (PodArgs.Reading.ofPairs args).pod.pod = some (ns, name)
  others : args.filter (!isSetKey ·.1) = own.filter (!isSetKey ·.1)

/-- The argument may be set for a pod: its key is one of those that are set, its value can be written,
and where it says who the pod is, it says who it is. -/
structure Settable (ns name key value : String) : Prop where
  writable : WritablePair (key, value)
  isSet : isSetKey key = true
  notIgnoring : key ≠ "IgnoreUnknown"
  namespaceIs : key = "K8S_POD_NAMESPACE" → value = ns
  nameIs : key = "K8S_POD_NAME" → value = name

namespace HandedOn

/-- **Setting an argument keeps everything.** -/
theorem setArg (h : HandedOn own ns name args) (hset : Settable ns name key value) :
    HandedOn own ns name (setArg key value args) := by
  constructor
  · intro a ha
    rcases eq_or_mem_of_mem_setArg ha with rfl | ha
    · exact hset.writable
    · exact h.writable a ha
  · obtain ⟨rest, rfl, hrest⟩ := h.ignoring
    refine ⟨PodNet.setArg key value rest, ?_, fun a ha => ?_⟩
    · rw [PodNet.setArg, if_neg (Ne.symm hset.notIgnoring)]
    · rcases eq_or_mem_of_mem_setArg ha with rfl | ha
      · exact hset.notIgnoring
      · exact hrest a ha
  · exact pod_setArg h.names hset.namespaceIs hset.nameIs
  · rw [← h.others]
    exact filter_setArg (fun key => !isSetKey key) (by rw [hset.isSet]; rfl) value args

/-- Setting arguments one after the other keeps everything. -/
theorem foldl {sets : List (String × String)} (hsets : ∀ e ∈ sets, Settable ns name e.1 e.2)
    (h : HandedOn own ns name args) :
    HandedOn own ns name (sets.foldl (fun args e => PodNet.setArg e.1 e.2 args) args) := by
  induction sets generalizing args with
  | nil => exact h
  | cons e rest ih =>
    rw [List.forall_mem_cons] at hsets
    exact ih hsets.2 (h.setArg hsets.1)

/-! Arguments that are handed on are read as the program reads arguments. -/

theorem ne_nil (h : HandedOn own ns name args) : args ≠ [] := by
  obtain ⟨rest, rfl, -⟩ := h.ignoring
  exact List.cons_ne_nil _ _

theorem isPrefix_pairsText (h : HandedOn own ns name args) :
    "IgnoreUnknown=1".toList <+: (pairsText args).toList := by
  obtain ⟨rest, rfl, -⟩ := h.ignoring
  have hfirst : argPiece ("IgnoreUnknown", "1") = "IgnoreUnknown=1" := by decide
  rw [← hfirst, pairsText, Text.join, String.toList_ofList, List.map_cons, List.map_cons]
  cases rest with
  | nil => exact List.prefix_refl _
  | cons a rest =>
    rw [List.map_cons, List.map_cons, List.intercalate_cons_cons, List.append_assoc]
    exact List.prefix_append _ _

theorem ignoreUnknown (h : HandedOn own ns name args) :
    (PodArgs.Reading.ofPairs args).ignoreUnknown = true := by
  obtain ⟨rest, rfl, hrest⟩ := h.ignoring
  have hnone : rest.filter (·.1 == "IgnoreUnknown") = [] :=
    List.filter_eq_nil_iff.mpr fun a ha => by simpa using hrest a ha
  rw [(PodArgs.Reading.ofPairs_eq _).2, lastValue?, List.filter_cons, hnone]
  rfl

theorem exists_parse (h : HandedOn own ns name args) :
    ∃ who, PodArgs.parse (pairsText args) = .ok who ∧ who.pod = some (ns, name) :=
  ⟨_, PodArgs.parse_pairsText h.ne_nil h.writable h.ignoreUnknown, h.names⟩

end HandedOn

/-! ### From the invocation to the plugins -/

/-- The arguments of an invocation, but that unknown keys are to be ignored. -/
def ignoring (args : List (String × String)) : List (String × String) :=
  ("IgnoreUnknown", "1") :: args.filter (·.1 != "IgnoreUnknown")

/-- What an invocation says about unknown keys is replaced, and the values of other keys are left. -/
theorem filter_ignoring {k : String} (h : k ≠ "IgnoreUnknown") (args : List (String × String)) :
    (ignoring args).filter (·.1 == k) = args.filter (·.1 == k) := by
  rw [ignoring, List.filter_cons_of_neg (by simpa using Ne.symm h), List.filter_filter]
  refine List.filter_congr fun a _ => ?_
  by_cases ha : a.1 = k
  · simp [ha, h]
  · simp [ha]

theorem lastValue?_ignoring {k : String} (h : k ≠ "IgnoreUnknown") (args : List (String × String)) :
    lastValue? k (ignoring args) = lastValue? k args := by
  rw [lastValue?, lastValue?, filter_ignoring h]

variable {raw : String} {who : PodArgs}

/-- The arguments of an invocation for a pod, with unknown keys ignored, are handed on. -/
theorem handedOn_argPairs (hwho : PodArgs.parse raw = .ok who) (hpod : who.pod = some (ns, name)) :
    HandedOn (argPairs raw) ns name (ignoring (argPairs raw)) := by
  rw [PodArgs.of_parse hwho] at hpod
  constructor
  · refine List.forall_mem_cons.mpr ⟨?_, fun a ha => ?_⟩
    · exact writablePair_of_isSetKey (by decide) (by decide) (by simp; decide)
    · exact writable_of_mem_argPairs (List.mem_filter.mp ha).1
  · exact ⟨_, rfl, fun a ha => by simpa using (List.mem_filter.mp ha).2⟩
  · rw [PodArgs.Reading.pod_ofPairs_eq_some_iff, lastValue?_ignoring (by decide), lastValue?_ignoring (by decide)]
    exact PodArgs.Reading.pod_ofPairs_eq_some_iff.mp hpod
  · rw [ignoring, List.filter_cons_of_neg (by decide), List.filter_filter]
    refine List.filter_congr fun a _ => ?_
    by_cases ha : a.1 = "IgnoreUnknown"
    · rw [ha]
      decide
    · simp [ha]

/-- Who the pod is can be written, as it was read or is the namespace `default`. -/
theorem writable_pod (hwho : PodArgs.parse raw = .ok who) (hpod : who.pod = some (ns, name)) :
    WritablePair ("K8S_POD_NAMESPACE", ns) ∧ WritablePair ("K8S_POD_NAME", name) := by
  rw [PodArgs.of_parse hwho] at hpod
  obtain ⟨hname, rfl⟩ := PodArgs.Reading.pod_ofPairs_eq_some_iff.mp hpod
  have hread {key v : String} (h : (lastValue? key (argPairs raw)).bind PodArgs.value? = some v) :
      WritablePair (key, v) := by
    obtain ⟨value, hlast, hvalue⟩ := Option.bind_eq_some_iff.mp h
    obtain ⟨rfl, -⟩ := PodArgs.of_value? hvalue
    exact writable_of_mem_argPairs (mem_of_lastValue? hlast)
  refine ⟨?_, hread hname⟩
  cases hns : (lastValue? "K8S_POD_NAMESPACE" (argPairs raw)).bind PodArgs.value? with
  | none => exact writablePair_of_isSetKey (by decide) (by decide) (by simp; decide)
  | some v => exact hread hns

/-- The container can be written when its name does not end an argument. -/
theorem writable_container {containerId : String} (hends : Text.hasChar ';' containerId = false)
    (htrim : Text.trim containerId = containerId) :
    WritablePair ("K8S_POD_INFRA_CONTAINER_ID", containerId) := by
  have htrimmed := Text.trimmed_trimChars containerId.toList
  have heq := congrArg String.toList htrim
  rw [Text.trim, String.toList_ofList] at heq
  rw [heq] at htrimmed
  exact writablePair_of_isSetKey (by decide) (Text.not_mem_of_hasChar hends) htrimmed.last

/-- Arguments for addresses may be set for any pod. -/
theorem IsAddressArg.settable {e : String × String} (h : IsAddressArg e) (ns name : String) :
    Settable ns name e.1 e.2 := by
  obtain ⟨key, value⟩ := e
  obtain ⟨hkey, hplain⟩ := h
  dsimp only at hkey hplain ⊢
  have hset : isSetKey key = true ∧ key ≠ "IgnoreUnknown" ∧ key ≠ "K8S_POD_NAMESPACE" ∧
      key ≠ "K8S_POD_NAME" := by
    rcases hkey with rfl | rfl <;> decide
  obtain ⟨hset, hignore, hns, hname⟩ := hset
  have hwritable : WritablePair (key, value) :=
    writablePair_of_isSetKey hset (fun hmem => (hplain _ hmem).2 rfl)
      fun c hc => (hplain c (List.mem_of_getLast? hc)).1
  exact ⟨hwritable, hset, hignore, fun h => absurd h hns, fun h => absurd h hname⟩

namespace Controller

/-- What the plugins of a request for a pod get is handed on. -/
theorem handedOn_forRequest {i : Invocation} {pod : PodContext} (hwho : i.podArgs = .ok who)
    (hpod : who.pod = some (pod.ns, pod.name)) (hends : Text.hasChar ';' i.containerId = false)
    (htrim : Text.trim i.containerId = i.containerId) {request : AttachmentRequest}
    (hrequest : ∀ b ∈ request.args, IsAddressArg b) :
    HandedOn (argPairs i.args) pod.ns pod.name
      (Parameters.forRequest (sandbox i (some pod)) request).args := by
  obtain ⟨hns, hname⟩ := writable_pod hwho hpod
  have hnamespace : Settable pod.ns pod.name "K8S_POD_NAMESPACE" pod.ns :=
    ⟨hns, by decide, by decide, fun _ => rfl, fun h => absurd h (by decide)⟩
  have hpodName : Settable pod.ns pod.name "K8S_POD_NAME" pod.name :=
    ⟨hname, by decide, by decide, fun h => absurd h (by decide), fun _ => rfl⟩
  have hcontainer : Settable pod.ns pod.name "K8S_POD_INFRA_CONTAINER_ID" i.containerId :=
    ⟨writable_container hends htrim, by decide, by decide, fun h => absurd h (by decide),
      fun h => absurd h (by decide)⟩
  have hnamed := ((handedOn_argPairs hwho hpod).setArg hnamespace).setArg hpodName
  refine HandedOn.foldl (fun b hb => (hrequest b hb).settable _ _) ?_
  rw [setPodArgs]
  dsimp only [sandbox, Option.map_some]
  -- The container is set only where no argument of the invocation says it.
  split
  · exact hnamed
  · exact hnamed.setArg hcontainer

/-- **Arguments of plugins are well formed.** Whatever the arguments of an invocation for a pod are,
and whatever the annotations ask for, the text that the plugins of an attachment get is read as the
pairs that it was written from. It begins by having unknown keys ignored, and says so once. Who it is
for is read of it, and it is the same pod. Pairs that the program does not set are those of the
invocation, in the same order, so annotations bring in no keys. -/
theorem arguments_wellFormed {i : Invocation} {pod : PodContext} (hwho : i.podArgs = .ok who)
    (hpod : who.pod = some (pod.ns, pod.name)) (hends : Text.hasChar ';' i.containerId = false)
    (htrim : Text.trim i.containerId = i.containerId) {d : Directory} {fs : FileSystem}
    {podNamespace : String} {annotations : Annotations} {wanted : List AttachmentRequest}
    (accepted : Intent.ofAnnotations d fs podNamespace annotations = .ok (.requests wanted))
    {request : AttachmentRequest} (hrequest : request ∈ wanted) {a : Attachment}
    (answers : Resolver.Answers a request) :
    let p := Parameters.forRequest (sandbox i (some pod)) a.request
    argPairs p.argText = p.args ∧
      "IgnoreUnknown=1".toList <+: p.argText.toList ∧
      (∃ rest, p.args = ("IgnoreUnknown", "1") :: rest ∧ ∀ b ∈ rest, b.1 ≠ "IgnoreUnknown") ∧
      (∃ again, PodArgs.parse p.argText = .ok again ∧ again.pod = some (pod.ns, pod.name)) ∧
      p.args.filter (!isSetKey ·.1) = (argPairs i.args).filter (!isSetKey ·.1) := by
  intro p
  have hargs : ∀ b ∈ a.request.args, IsAddressArg b := by
    obtain ⟨plugin, heq⟩ := answers
    rw [heq]
    exact Intent.isAddressArg_of_ofAnnotations accepted request hrequest
  have handed : HandedOn (argPairs i.args) pod.ns pod.name p.args :=
    handedOn_forRequest hwho hpod hends htrim hargs
  have htext : p.argText = pairsText p.args := rfl
  rw [htext]
  exact ⟨argPairs_pairsText handed.ne_nil handed.writable, handed.isPrefix_pairsText,
    handed.ignoring, handed.exists_parse, handed.others⟩

/-- An invocation for the pod `default/web`, whose arguments say some things twice. -/
def repeating : Invocation where
  command := .add
  containerId := "c1"
  netns := "/ns/c1"
  interface := "eth0"
  args := "K8S_POD_NAME=old;IgnoreUnknown=0;TRACE=a b; K8S_POD_NAME=web ;TRACE=c;IgnoreUnknown=1"
  path := []
  stdin := []

/-- A selection of one network, with an address and a hardware address. -/
def blueElement : SelectionElement := ⟨"blue", "", ["10.32.0.9/12"], "02:42:ac:11:00:02", ""⟩

/-- That selection as an annotation. -/
def blueAnnotations : Annotations :=
  [(selectionKey, (Json.arr [blueElement.toJson]).compact)]

/-- The pod with that annotation. -/
def bluePod : PodContext := ⟨"default", "web", blueAnnotations⟩

/-- What it asks for. -/
def blueRequest : AttachmentRequest where
  source := .netAttachDef "default" "blue"
  plugin := ""
  interface := "eth1"
  ips := ["10.32.0.9/12"]
  mac := some "02:42:ac:11:00:02"
  args := [("ips", "10.32.0.9/12"), ("mac", "02:42:ac:11:00:02")]

theorem ofAnnotations_blue (d : Directory) (fs : FileSystem) :
    Intent.ofAnnotations d fs "default" blueAnnotations =
      .ok (.requests [.plain .clusterDefault "eth0", blueRequest]) := by
  have hexact : (Json.arr [blueElement.toJson]).Exact :=
    ⟨⟨trivial, ⟨trivial, trivial⟩, trivial, trivial⟩, trivial⟩
  have helements : Intent.selectionElements (Json.arr [blueElement.toJson]).compact =
      .ok [blueElement] := by
    rw [Intent.selectionElements, if_pos (by rfl), SelectionElement.listOfBytes?,
      Json.Document.read?_compact hexact]
    rfl
  have hselection : Intent.ofSelection "default" (Json.arr [blueElement.toJson]).compact =
      .ok [.plain .clusterDefault "eth0", { blueRequest with interface := "" }] := by
    rw [Intent.ofSelection, helements]
    rfl
  have hvalue : Intent.value? selectionKey blueAnnotations =
      some (Json.arr [blueElement.toJson]).compact := by rfl
  rw [Intent.ofAnnotations, Intent.stated, hvalue]
  dsimp only
  rw [hselection]
  rfl

/-- What serves that. -/
def blueAttachment : Attachment :=
  Resolver.attachment blueRequest ⟨"0.3.1", "blue", [[("type", .str "bridge")]], []⟩ none

/-- Of two names the first is replaced, and the namespace that is not there is put at the end. -/
theorem arguments_wellFormed_repeating :
    let p := Parameters.forRequest (sandbox repeating (some bluePod)) blueAttachment.request
    p.args = [("IgnoreUnknown", "1"), ("K8S_POD_NAME", "web"), ("TRACE", "a b"),
      ("K8S_POD_NAME", "web"), ("TRACE", "c"), ("K8S_POD_NAMESPACE", "default"),
      ("K8S_POD_INFRA_CONTAINER_ID", "c1"), ("ips", "10.32.0.9/12"), ("mac", "02:42:ac:11:00:02")] ∧
    argPairs p.argText = p.args ∧
    ∃ again, PodArgs.parse p.argText = .ok again ∧ again.pod = some ("default", "web") := by
  intro p
  have hwho : repeating.podArgs = .ok ⟨some "web", none⟩ := by rfl
  have hpod : PodArgs.pod ⟨some "web", none⟩ = some (bluePod.ns, bluePod.name) := by rfl
  obtain ⟨hpairs, -, -, hagain, -⟩ := arguments_wellFormed hwho hpod (by decide) (by decide)
    (ofAnnotations_blue ⟨"/networks", []⟩ ⟨[], []⟩) (List.mem_cons_of_mem _ List.mem_cons_self)
    (Resolver.answers_attachment blueRequest _ none : Resolver.Answers blueAttachment blueRequest)
  exact ⟨by rfl, hpairs, hagain⟩

end Controller

end PodNet
