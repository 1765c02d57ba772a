import PodNet.Proofs.InterfaceAssignment
import PodNet.Proofs.Overshadowing
import PodNet.Proofs.Pieces
import PodNet.Proofs.Rereading

/-!
# The grammar of annotations

The annotation `cni` lists tokens `plugin`, `plugin@interface` and `network:interface`, the annotation
`networks` tokens `network` and `network:interface`. `CniToken` and `NetworkToken` are these grammars,
with the request that each token stands for. They say nothing of how a token is taken apart: its parts
are texts without separators, perhaps with blanks around them.

The program cuts a token at the first separator and leaves a further one in the name of the interface.
No legal name has a separator in it, so such a token is refused after all, and for tokens with legal
interfaces reading is the grammar (`cniRequest_eq_ok_iff`, `networkRequest_eq_ok_iff`). Hence the
annotations are accepted just if every token is one of the grammar and the interfaces that are named
are legal and different (`ofAnnotations_grammar`).
-/

namespace PodNet.Intent

variable {d : Directory} {fs : FileSystem} {ns value token text part : String}
  {request : AttachmentRequest} {names : List String}

/-! ### Parts of tokens -/

/-- **The text is a part of a token**, perhaps with blanks around it: something is left of it when it is
trimmed, and no separator stands in it. -/
structure IsPart (separators : List Char) (text part : String) : Prop where
  trims : Text.trim text = part
  nonblank : part ≠ ""
  plain : ∀ sep ∈ separators, Text.hasChar sep text = false

/-- **The plugin is known**: it has a configuration file, a built-in configuration or a binary. -/
inductive Known (d : Directory) (fs : FileSystem) (plugin : String) : Prop
  | configured (path : String) (found : d.findConf fs plugin = .ok (some path))
  | builtin (mem : plugin ∈ Builtin.plugins)
  | installed (path : String) (found : d.findBinary fs plugin = some path)

/-- The plugins that are accepted are those that are known, where the directory can be read. -/
theorem isKnown_iff (readable : d.confNames fs = .ok names) (plugin : String) :
    isKnown d fs plugin = .ok true ↔ Known d fs plugin := by
  obtain ⟨found, hfound⟩ : ∃ found, d.findConf fs plugin = .ok found := by
    rw [Directory.findConf, readable]
    exact ⟨_, rfl⟩
  have hknown : isKnown d fs plugin = .ok true ↔
      found.isSome = true ∨ plugin ∈ Builtin.plugins ∨ (d.findBinary fs plugin).isSome = true := by
    rw [isKnown, hfound, Builtin.isBuiltin, ← List.contains_iff_mem]
    simp [Except.map, or_assoc]
  rw [hknown, Option.isSome_iff_exists, Option.isSome_iff_exists]
  constructor
  · rintro (⟨path, rfl⟩ | hbuiltin | ⟨path, hbinary⟩)
    · exact .configured path hfound
    · exact .builtin hbuiltin
    · exact .installed path hbinary
  · rintro (⟨path, hpath⟩ | hbuiltin | ⟨path, hbinary⟩)
    · rw [hfound] at hpath
      cases hpath
      exact .inl ⟨path, rfl⟩
    · exact .inr (.inl hbuiltin)
    · exact .inr (.inr ⟨path, hbinary⟩)

/-- No separator stands in a legal name. -/
theorem hasChar_of_legal {name : String} (h : InterfaceName.Legal name) {sep : Char}
    (hsep : sep ∈ [':', '@']) : Text.hasChar sep name = false := by
  rw [Text.hasChar, List.any_eq_false]
  intro c hc heq
  rw [beq_iff_eq] at heq
  subst heq
  have hchar := h.chars c hc
  simp only [List.mem_cons, List.not_mem_nil, or_false] at hsep
  rcases hsep with rfl | rfl
  · revert hchar
    decide
  · revert hchar
    decide

/-- A part of a token that may have both separators. -/
theorem isPart_of_plain (trims : Text.trim text = part) (nonblank : part ≠ "")
    (colon : Text.hasChar ':' text = false) (atSign : Text.hasChar '@' text = false) :
    IsPart [':', '@'] text part :=
  ⟨trims, nonblank, List.forall_mem_cons.mpr ⟨colon, List.forall_mem_singleton.mpr atSign⟩⟩

/-- A text that is trimmed to a legal name is a part. -/
theorem isPart_of_legal {separators : List Char} (hsub : ∀ sep ∈ separators, sep ∈ [':', '@'])
    (h : InterfaceName.Legal (Text.trim text)) : IsPart separators text (Text.trim text) := by
  refine ⟨rfl, fun hblank => ?_, fun sep hsep => ?_⟩
  · have hbytes := h.bytes.1
    rw [hblank] at hbytes
    exact absurd hbytes (by decide)
  · have hnot := hasChar_of_legal h (hsub sep hsep)
    have hblank : Text.isBlank sep = false := by
      have hmem := hsub sep hsep
      simp only [List.mem_cons, List.not_mem_nil, or_false] at hmem
      rcases hmem with rfl | rfl <;> decide
    rwa [Text.hasChar_trim hblank] at hnot

/-! ### Tokens -/

/-- **The tokens of the annotation `cni`**, and the requests that they stand for. -/
inductive CniToken (d : Directory) (fs : FileSystem) (ns : String) :
    String → AttachmentRequest → Prop
  /-- The token `plugin`. -/
  | plugin {token plugin : String} (part : IsPart [':', '@'] token plugin)
      (known : Known d fs plugin) : CniToken d fs ns token (.plain (.plugin plugin) "")
  /-- The token `plugin@interface`. -/
  | pluginOn {before after plugin interface : String} (first : IsPart [':', '@'] before plugin)
      (second : IsPart [':', '@'] after interface) (known : Known d fs plugin) :
      CniToken d fs ns (before ++ "@" ++ after) (.plain (.plugin plugin) interface)
  /-- The token `network:interface`. -/
  | networkOn {before after network interface : String} (first : IsPart [':', '@'] before network)
      (second : IsPart [':', '@'] after interface) :
      CniToken d fs ns (before ++ ":" ++ after) (.plain (.logicalNetwork ns network) interface)

/-- **The tokens of the annotation `networks`**, and the requests that they stand for. -/
inductive NetworkToken (ns : String) : String → AttachmentRequest → Prop
  /-- The token `network`. -/
  | network {token network : String} (part : IsPart [':'] token network) :
      NetworkToken ns token (.plain (.logicalNetwork ns network) "")
  /-- The token `network:interface`. -/
  | networkOn {before after network interface : String} (first : IsPart [':'] before network)
      (second : IsPart [':'] after interface) :
      NetworkToken ns (before ++ ":" ++ after) (.plain (.logicalNetwork ns network) interface)

/-- The interface of the request is legal, if one is named. -/
def LegalInterface (request : AttachmentRequest) : Prop :=
  request.interface ≠ "" → InterfaceName.Legal request.interface

theorem logicalRequest_eq_ok_iff {network : String} {interface : Option String} :
    logicalRequest ns network interface = .ok request ↔
      Text.trim network ≠ "" ∧ interface.map Text.trim ≠ some "" ∧
        request = .plain (.logicalNetwork ns (Text.trim network))
          ((interface.map Text.trim).getD "") := by
  unfold logicalRequest
  dsimp only
  by_cases hblank : Text.trim network = "" ∨ interface.map Text.trim = some ""
  · rw [if_pos hblank]
    constructor
    · intro h
      cases h
    · rintro ⟨hnetwork, hinterface, -⟩
      exact absurd hblank (not_or.mpr ⟨hnetwork, hinterface⟩)
  · rw [if_neg hblank, Except.ok.injEq]
    rw [not_or] at hblank
    exact ⟨fun h => ⟨hblank.1, hblank.2, h.symm⟩, fun h => h.2.2.symm⟩

/-- Two parts are read as a network on an interface. -/
theorem logicalRequest_of_isPart {separators : List Char} {before after network interface : String}
    (first : IsPart separators before network) (second : IsPart separators after interface) :
    logicalRequest ns before (some after) = .ok (.plain (.logicalNetwork ns network) interface) := by
  refine logicalRequest_eq_ok_iff.mpr ⟨?_, ?_, ?_⟩
  · rw [first.trims]
    exact first.nonblank
  · rw [Option.map_some, second.trims]
    exact fun hblank => second.nonblank (Option.some.inj hblank)
  · rw [first.trims, Option.map_some, second.trims, Option.getD_some]

/-- What is read as a network on a legal interface has two parts, when the first is plain. -/
theorem exists_of_logicalRequest {separators : List Char} (hsub : ∀ sep ∈ separators, sep ∈ [':', '@'])
    {before after : String} (plain : ∀ sep ∈ separators, Text.hasChar sep before = false)
    (legal : LegalInterface request) (h : logicalRequest ns before (some after) = .ok request) :
    ∃ network interface, IsPart separators before network ∧ IsPart separators after interface ∧
      request = .plain (.logicalNetwork ns network) interface := by
  obtain ⟨hnetwork, hinterface, rfl⟩ := logicalRequest_eq_ok_iff.mp h
  have hnamed : Text.trim after ≠ "" := fun hblank => hinterface (congrArg some hblank)
  exact ⟨_, _, ⟨rfl, hnetwork, plain⟩, isPart_of_legal hsub (legal hnamed), rfl⟩

/-- **Reading a token of `networks` is the grammar**, as far as interfaces are legal. -/
theorem networkRequest_eq_ok_iff (legal : LegalInterface request) :
    networkRequest ns token = .ok request ↔ NetworkToken ns token request := by
  constructor
  · intro h
    unfold networkRequest at h
    split at h
    · rename_i before after hcut
      obtain ⟨rfl, hbefore⟩ := Text.cut_eq_some_iff.mp hcut
      have plain : ∀ sep ∈ [':'], Text.hasChar sep before = false :=
        List.forall_mem_singleton.mpr hbefore
      obtain ⟨network, interface, first, second, rfl⟩ :=
        exists_of_logicalRequest (by simp) plain legal h
      exact .networkOn first second
    · rename_i hcut
      obtain ⟨hnetwork, -, rfl⟩ := logicalRequest_eq_ok_iff.mp h
      exact .network ⟨rfl, hnetwork, List.forall_mem_singleton.mpr (Text.cut_eq_none_iff.mp hcut)⟩
  · intro h
    cases h with
    | network part =>
      have hcut : Text.cut ':' token = none := Text.cut_eq_none_iff.mpr (part.plain ':' (by simp))
      rw [networkRequest, hcut]
      refine logicalRequest_eq_ok_iff.mpr ⟨?_, by simp, by rw [part.trims]; rfl⟩
      rw [part.trims]
      exact part.nonblank
    | @networkOn before after _ _ first second =>
      have hcut : Text.cut ':' (before ++ ":" ++ after) = some (before, after) :=
        Text.cut_eq_some_iff.mpr ⟨rfl, first.plain ':' (by simp)⟩
      rw [networkRequest, hcut]
      exact logicalRequest_of_isPart first second

theorem pluginRequest_eq_ok_iff :
    pluginRequest d fs token = .ok request ↔
      (pluginParts token).1 ≠ "" ∧ (pluginParts token).2 ≠ some "" ∧
        isKnown d fs (pluginParts token).1 = .ok true ∧
        request = .plain (.plugin (pluginParts token).1) ((pluginParts token).2.getD "") := by
  have hcheck : checkSource d fs (.plugin (pluginParts token).1) = .ok () ↔
      isKnown d fs (pluginParts token).1 = .ok true := by
    rw [checkSource_eq_ok_iff]
    exact ⟨fun h => h _ rfl, fun h plugin heq => by cases heq; exact h⟩
  rw [pluginRequest_eq, ← hcheck]
  by_cases hblank : (pluginParts token).1 = "" ∨ (pluginParts token).2 = some ""
  · rw [if_pos hblank]
    constructor
    · intro h
      cases h
    · rintro ⟨hplugin, hinterface, -⟩
      exact absurd hblank (not_or.mpr ⟨hplugin, hinterface⟩)
  · rw [if_neg hblank]
    rw [not_or] at hblank
    rcases checkSource d fs (.plugin (pluginParts token).1) with f | u
    · simp [Except.map]
    · simp [Except.map, hblank, eq_comm]

/-- Without a colon a token names a plugin. -/
theorem cniRequest_of_hasChar (hne : token ≠ "") (hcolon : Text.hasChar ':' token = false) :
    cniRequest d fs ns value token = pluginRequest d fs token := by
  rw [cniRequest, if_neg hne, hcolon, Bool.false_and, if_neg Bool.false_ne_true,
    Text.cut_of_hasChar hcolon]

theorem hasChar_parts_iff {sep : Char} {before middle after : String} :
    Text.hasChar sep (before ++ middle ++ after) = false ↔ Text.hasChar sep before = false ∧
      Text.hasChar sep middle = false ∧ Text.hasChar sep after = false := by
  rw [Text.hasChar_append, Text.hasChar_append, Bool.or_eq_false_iff, Bool.or_eq_false_iff,
    and_assoc]

theorem parts_ne_empty {middle : String} (h : middle ≠ "") (before after : String) :
    before ++ middle ++ after ≠ "" := by
  intro hempty
  rw [String.append_eq_empty_iff, String.append_eq_empty_iff] at hempty
  exact h hempty.1.2

/-- What is read of a token that names a plugin. -/
theorem cniToken_of_pluginRequest (readable : d.confNames fs = .ok names)
    (trimmed : Text.trim token = token) (hne : token ≠ "") (hcolon : Text.hasChar ':' token = false)
    (legal : LegalInterface request) (h : pluginRequest d fs token = .ok request) :
    CniToken d fs ns token request := by
  obtain ⟨hplugin, hinterface, hknown, rfl⟩ := pluginRequest_eq_ok_iff.mp h
  unfold pluginParts at hplugin hinterface hknown legal ⊢
  cases hcut : Text.cut '@' token with
  | none =>
    rw [hcut] at hknown
    exact .plugin (isPart_of_plain trimmed hne hcolon (Text.cut_eq_none_iff.mp hcut))
      ((isKnown_iff readable _).mp hknown)
  | some parts =>
    obtain ⟨before, after⟩ := parts
    obtain ⟨rfl, hbefore⟩ := Text.cut_eq_some_iff.mp hcut
    rw [hcut] at hplugin hinterface hknown legal
    have hnamed : Text.trim after ≠ "" := fun hblank => hinterface (congrArg some hblank)
    exact .pluginOn (isPart_of_plain rfl hplugin (hasChar_parts_iff.mp hcolon).1 hbefore)
      (isPart_of_legal (by simp) (legal hnamed)) ((isKnown_iff readable _).mp hknown)

/-- What is read of a token is what it stands for. -/
theorem cniToken_of_cniRequest (readable : d.confNames fs = .ok names)
    (trimmed : Text.trim token = token) (legal : LegalInterface request)
    (h : cniRequest d fs ns value token = .ok request) : CniToken d fs ns token request := by
  unfold cniRequest at h
  split_ifs at h with hempty hmixed
  rw [Bool.and_eq_true, not_and, Bool.not_eq_true] at hmixed
  split at h
  · rename_i before after hcut
    obtain ⟨rfl, hbefore⟩ := Text.cut_eq_some_iff.mp hcut
    -- with a colon in the token there is no at sign
    have hat := (hasChar_parts_iff.mp (hmixed (by simp [Text.hasChar]))).1
    have plain : ∀ sep ∈ [':', '@'], Text.hasChar sep before = false :=
      List.forall_mem_cons.mpr ⟨hbefore, List.forall_mem_singleton.mpr hat⟩
    obtain ⟨network, interface, first, second, rfl⟩ :=
      exists_of_logicalRequest (fun _ hsep => hsep) plain legal h
    exact .networkOn first second
  · rename_i hcut
    exact cniToken_of_pluginRequest readable trimmed hempty (Text.cut_eq_none_iff.mp hcut) legal h

/-- Every token is read as what it stands for. -/
theorem cniRequest_of_cniToken (readable : d.confNames fs = .ok names)
    (trimmed : Text.trim token = token) (h : CniToken d fs ns token request) :
    cniRequest d fs ns value token = .ok request := by
  cases h with
  | @plugin _ plugin part known =>
    have hsame : token = plugin := trimmed.symm.trans part.trims
    have hcut : Text.cut '@' token = none := Text.cut_eq_none_iff.mpr (part.plain '@' (by simp))
    rw [cniRequest_of_hasChar (hsame ▸ part.nonblank) (part.plain ':' (by simp)),
      pluginRequest_eq_ok_iff, pluginParts, hcut]
    subst hsame
    exact ⟨part.nonblank, by simp, (isKnown_iff readable _).mpr known, rfl⟩
  | @pluginOn before after plugin interface first second known =>
    have hcolon : Text.hasChar ':' (before ++ "@" ++ after) = false :=
      hasChar_parts_iff.mpr ⟨first.plain ':' (by simp), by rfl, second.plain ':' (by simp)⟩
    have hcut : Text.cut '@' (before ++ "@" ++ after) = some (before, after) :=
      Text.cut_eq_some_iff.mpr ⟨rfl, first.plain '@' (by simp)⟩
    rw [cniRequest_of_hasChar (parts_ne_empty (by decide) before after) hcolon,
      pluginRequest_eq_ok_iff, pluginParts, hcut]
    dsimp only
    rw [first.trims, second.trims]
    exact ⟨first.nonblank, fun hblank => second.nonblank (Option.some.inj hblank),
      (isKnown_iff readable _).mpr known, rfl⟩
  | @networkOn before after network interface first second =>
    have hat : Text.hasChar '@' (before ++ ":" ++ after) = false :=
      hasChar_parts_iff.mpr ⟨first.plain '@' (by simp), by rfl, second.plain '@' (by simp)⟩
    have hcut : Text.cut ':' (before ++ ":" ++ after) = some (before, after) :=
      Text.cut_eq_some_iff.mpr ⟨rfl, first.plain ':' (by simp)⟩
    rw [cniRequest, if_neg (parts_ne_empty (by decide) before after), hat, Bool.and_false,
      if_neg Bool.false_ne_true, hcut]
    exact logicalRequest_of_isPart first second

/-- **Reading a token of `cni` is the grammar**, as far as interfaces are legal. -/
theorem cniRequest_eq_ok_iff (readable : d.confNames fs = .ok names)
    (trimmed : Text.trim token = token) (legal : LegalInterface request) :
    cniRequest d fs ns value token = .ok request ↔ CniToken d fs ns token request :=
  ⟨cniToken_of_cniRequest readable trimmed legal, cniRequest_of_cniToken readable trimmed⟩

/-! ### Annotations -/

/-- The tokens of an annotation, between commas and without the blanks around them. -/
def tokens (value : String) : List String :=
  (Text.split ',' value).map Text.trim

/-- **The tokens are accepted as requests**, one for each of them in order: the interfaces that are
named are legal, and different from each other. -/
structure Accepted (reads : String → AttachmentRequest → Prop) (tokens : List String)
    (requests : List AttachmentRequest) : Prop where
  read : List.Forall₂ reads tokens requests
  legal : ∀ request ∈ requests, LegalInterface request
  distinct : requests.Pairwise fun a b =>
    a.interface ≠ "" → b.interface ≠ "" → a.interface ≠ b.interface

/-- **The value is read by a grammar**: the outcome is requests just if the tokens are accepted, and
then they are what the tokens stand for, with blank interfaces filled in and nothing else changed. -/
structure ReadBy (reads : String → AttachmentRequest → Prop) (value : String)
    (outcome : Except Failure Intent) : Prop where
  accepts : (∃ wanted, outcome = .ok (.requests wanted)) ↔
    ∃ requests, Accepted reads (tokens value) requests
  requests : ∀ wanted, outcome = .ok (.requests wanted) →
    ∃ requests, Accepted reads (tokens value) requests ∧
      List.Forall₂ AttachmentRequest.Filled requests wanted

/-- Requests that are read and can be assigned are those that are accepted. -/
theorem accepted_iff {read : String → Except Failure AttachmentRequest}
    {reads : String → AttachmentRequest → Prop} {requests : List AttachmentRequest}
    (hreads : ∀ token ∈ tokens value, ∀ request, LegalInterface request →
      (read token = .ok request ↔ reads token request)) :
    ((Text.split ',' value).mapM fun token => read (Text.trim token)) = .ok requests ∧
        (∃ wanted, AttachmentRequest.assign requests = .ok wanted) ↔
      Accepted reads (tokens value) requests := by
  have hone : (∀ request ∈ requests, LegalInterface request) →
      (List.Forall₂ (fun token request => read token = .ok request) (tokens value) requests ↔
        List.Forall₂ reads (tokens value) requests) := by
    intro hlegal
    rw [List.forall₂_iff_zip, List.forall₂_iff_zip]
    refine and_congr_right fun _ => forall_congr' fun token => forall_congr' fun request =>
      forall_congr' fun hmem => ?_
    obtain ⟨htoken, hrequest⟩ := List.of_mem_zip hmem
    exact hreads token htoken request (hlegal request hrequest)
  have hmap : ((Text.split ',' value).mapM fun token => read (Text.trim token)) = .ok requests ↔
      List.Forall₂ (fun token request => read token = .ok request) (tokens value) requests := by
    rw [mapM_eq_ok_iff, tokens, List.forall₂_map_left_iff]
  rw [hmap, AttachmentRequest.exists_assign_iff]
  constructor
  · rintro ⟨hread, hlegal, hdistinct⟩
    exact ⟨(hone hlegal).mp hread, hlegal, hdistinct⟩
  · rintro ⟨hread, hlegal, hdistinct⟩
    exact ⟨(hone hlegal).mpr hread, hlegal, hdistinct⟩

/-- What annotations come to that state requests. -/
theorem ofAnnotations_eq_requests_iff {annotations : Annotations}
    {outcome : Except Failure (List AttachmentRequest)}
    (h : stated d fs ns annotations = outcome.map some) {wanted : List AttachmentRequest} :
    ofAnnotations d fs ns annotations = .ok (.requests wanted) ↔
      ∃ requests, outcome = .ok requests ∧ AttachmentRequest.assign requests = .ok wanted := by
  constructor
  · intro hasked
    obtain ⟨requests, hstated, hassign⟩ := of_ofAnnotations hasked
    rw [h] at hstated
    cases outcome with
    | error f => cases hstated
    | ok own =>
      cases hstated
      exact ⟨requests, rfl, hassign⟩
  · rintro ⟨requests, rfl, hassign⟩
    rw [ofAnnotations, h]
    show (do return Intent.requests (← AttachmentRequest.assign requests)) = _
    rw [hassign]
    rfl

/-- A value is read by the grammar of its tokens. -/
theorem readBy_of_stated {annotations : Annotations}
    {read : String → Except Failure AttachmentRequest} {reads : String → AttachmentRequest → Prop}
    (hstated : stated d fs ns annotations =
      ((Text.split ',' value).mapM fun token => read (Text.trim token)).map some)
    (hreads : ∀ token ∈ tokens value, ∀ request, LegalInterface request →
      (read token = .ok request ↔ reads token request)) :
    ReadBy reads value (ofAnnotations d fs ns annotations) := by
  refine ⟨⟨?_, ?_⟩, fun wanted hwanted => ?_⟩
  · rintro ⟨wanted, hwanted⟩
    obtain ⟨requests, hread, hassign⟩ := (ofAnnotations_eq_requests_iff hstated).mp hwanted
    exact ⟨requests, (accepted_iff hreads).mp ⟨hread, wanted, hassign⟩⟩
  · rintro ⟨requests, haccepted⟩
    obtain ⟨hread, wanted, hassign⟩ := (accepted_iff hreads).mpr haccepted
    exact ⟨wanted, (ofAnnotations_eq_requests_iff hstated).mpr ⟨requests, hread, hassign⟩⟩
  · obtain ⟨requests, hread, hassign⟩ := (ofAnnotations_eq_requests_iff hstated).mp hwanted
    exact ⟨requests, (accepted_iff hreads).mp ⟨hread, wanted, hassign⟩,
      AttachmentRequest.forall₂_filled_of_assign hassign⟩

/-- What annotations state without a selection. -/
theorem stated_of_cni {annotations : Annotations} (noSelection : value? selectionKey annotations = none)
    (hcni : value? cniKey annotations = some value) :
    stated d fs ns annotations = (ofCni d fs ns value).map some := by
  rw [stated, noSelection, hcni]

theorem stated_of_networks {annotations : Annotations}
    (noSelection : value? selectionKey annotations = none) (noCni : value? cniKey annotations = none)
    (hnetworks : value? networksKey annotations = some value) :
    stated d fs ns annotations = (ofNetworks ns value).map some := by
  rw [stated, noSelection, noCni, hnetworks]

/-- **The annotations `cni` and `networks` are read by their grammars**, where the directory can be
read and there is no selection. If `cni` says something, it is read by its grammar, whatever the other
annotations say. If it does not, and `networks` says something, that is read by its own grammar. If
neither does, the pod gets the default. -/
theorem ofAnnotations_grammar (d : Directory) (fs : FileSystem) (ns : String)
    (annotations : Annotations) (names : List String) (readable : d.confNames fs = .ok names)
    (noSelection : value? selectionKey annotations = none) :
    let outcome := ofAnnotations d fs ns annotations
    (∀ value, value? cniKey annotations = some value →
      ReadBy (CniToken d fs ns) value outcome ∧
        ∀ others, value? selectionKey others = none → value? cniKey others = some value →
          ofAnnotations d fs ns others = outcome) ∧
    (value? cniKey annotations = none → ∀ value, value? networksKey annotations = some value →
      ReadBy (NetworkToken ns) value outcome) ∧
    (value? cniKey annotations = none → value? networksKey annotations = none →
      outcome = .ok .default) := by
  intro outcome
  refine ⟨fun value hcni => ⟨?_, fun others hselection hothers => ?_⟩,
    fun noCni value hnetworks => ?_, fun noCni noNetworks => ?_⟩
  · refine readBy_of_stated (stated_of_cni noSelection hcni) fun token htoken request legal => ?_
    obtain ⟨piece, -, rfl⟩ := List.mem_map.mp htoken
    exact cniRequest_eq_ok_iff readable (Text.trim_trim piece) legal
  · show ofAnnotations d fs ns others = ofAnnotations d fs ns annotations
    rw [ofAnnotations, ofAnnotations, stated_of_cni noSelection hcni,
      stated_of_cni hselection hothers]
  · exact readBy_of_stated (stated_of_networks noSelection noCni hnetworks)
      fun token _ request legal => networkRequest_eq_ok_iff legal
  · have hstated : stated d fs ns annotations = .ok none := by
      rw [stated, noSelection, noCni, noNetworks]
    show ofAnnotations d fs ns annotations = _
    rw [ofAnnotations, hstated]
    rfl

/-- Annotations that ask for `vlan` and for a logical network, each on an interface, with blanks. -/
def vlanAndBlue : Annotations :=
  [(cniKey, "vlan@net1, blue : eth7"), (networksKey, "green")]

/-- Both tokens are of the grammar where `vlan` is configured, and `green` is not asked for. -/
theorem ofAnnotations_grammar_vlanAndBlue :
    Resolver.persistingResolver.directory.confNames Resolver.vlanFiles = .ok ["20-vlan.conf"] ∧
      value? selectionKey vlanAndBlue = none ∧
      Accepted (CniToken Resolver.persistingResolver.directory Resolver.vlanFiles "default")
        ["vlan@net1", "blue : eth7"]
        [.plain (.plugin "vlan") "net1", .plain (.logicalNetwork "default" "blue") "eth7"] ∧
      ∃ wanted, ofAnnotations Resolver.persistingResolver.directory Resolver.vlanFiles "default"
        vlanAndBlue = .ok (.requests wanted) := by
  have noSelection : value? selectionKey vlanAndBlue = none := by rfl
  have known : Known Resolver.persistingResolver.directory Resolver.vlanFiles "vlan" :=
    .configured _ ((Directory.findConf_eq_some_iff Resolver.confNames_vlan).mpr
      ⟨_, Resolver.first_vlan, rfl⟩)
  have haccepted :
      Accepted (CniToken Resolver.persistingResolver.directory Resolver.vlanFiles "default")
        ["vlan@net1", "blue : eth7"]
        [.plain (.plugin "vlan") "net1", .plain (.logicalNetwork "default" "blue") "eth7"] := by
    refine ⟨?_, ?_, by simp [AttachmentRequest.plain]⟩
    · have hvlan : CniToken Resolver.persistingResolver.directory Resolver.vlanFiles "default"
          ("vlan" ++ "@" ++ "net1") (.plain (.plugin "vlan") "net1") :=
        .pluginOn (isPart_of_plain (by decide) (by decide) (by decide) (by decide))
          (isPart_of_plain (by decide) (by decide) (by decide) (by decide)) known
      have hblue : CniToken Resolver.persistingResolver.directory Resolver.vlanFiles "default"
          ("blue " ++ ":" ++ " eth7") (.plain (.logicalNetwork "default" "blue") "eth7") :=
        .networkOn (isPart_of_plain (by decide) (by decide) (by decide) (by decide))
          (isPart_of_plain (by decide) (by decide) (by decide) (by decide))
      exact .cons hvlan (.cons hblue .nil)
    · intro request hrequest _
      simp only [List.mem_cons, List.not_mem_nil, or_false] at hrequest
      rcases hrequest with rfl | rfl
      · exact (InterfaceName.isLegal_iff _).mp (by rfl)
      · exact (InterfaceName.isLegal_iff _).mp (by rfl)
  obtain ⟨hread, -⟩ := (ofAnnotations_grammar Resolver.persistingResolver.directory
    Resolver.vlanFiles "default" vlanAndBlue _ Resolver.confNames_vlan noSelection).1
      "vlan@net1, blue : eth7" (by rfl)
  exact ⟨Resolver.confNames_vlan, noSelection, haccepted, hread.accepts.mpr ⟨_, haccepted⟩⟩

end PodNet.Intent
