import PodNet.Intent
import PodNet.Proofs.InterfaceAssignment
import PodNet.Proofs.Json.Records
import PodNet.Proofs.Pieces

/-!
# The two forms of a selection

The standard selection of networks is written as tokens `[namespace/]name[@interface]` between commas or
as a JSON array. `NamedNetwork` is what both can say: a name, perhaps a namespace, and perhaps an
interface. If the texts have no blanks at their ends and none of the separators in them, the two forms
come to the same (`selection_forms_agree`): both are taken apart to the same elements, and what happens
afterwards depends on the elements alone. The outcome is stated without the program's own reading. There
is the default network on `eth0`, then one request for each network in order, and an interface that was
not named has the smallest number that is free. A network that names `eth0` is refused, as the default
network has it already.
-/

namespace PodNet

/-! ### Text without blanks at its ends -/

namespace Text

/-- There is something in the text, and no blank at its ends. -/
structure Solid (s : List Char) : Prop where
  nonempty : s ≠ []
  trimmed : Trimmed s

theorem Solid.trim_eq {s : String} (h : Solid s.toList) : trim s = s := by
  rw [trim, h.trimmed.trimChars_eq, String.ofList_toList]

theorem Solid.ne_empty {s : String} (h : Solid s.toList) : s ≠ "" := by
  rintro rfl
  exact h.nonempty rfl

theorem Solid.nonBlank_eq {s : String} (h : Solid s.toList) : nonBlank s = some s := by
  rw [nonBlank, h.trim_eq]
  exact if_neg h.ne_empty

/-- What stands between two such texts does not matter. -/
theorem Solid.around {s t : List Char} (hs : Solid s) (middle : List Char) (ht : Solid t) :
    Solid (s ++ middle ++ t) := by
  refine ⟨by simp [hs.nonempty], fun c hc => ?_, fun c hc => ?_⟩
  · rw [List.append_assoc, List.head?_append_of_ne_nil _ hs.nonempty] at hc
    exact hs.trimmed.head c hc
  · rw [List.getLast?_append_of_ne_nil _ ht.nonempty] at hc
    exact ht.trimmed.last c hc

/-- Joined texts have no blank at their ends if none of them has. -/
theorem solid_join (sep : String) {parts : List String} (hne : parts ≠ [])
    (h : ∀ part ∈ parts, Solid part.toList) : Solid (join sep parts).toList := by
  rw [join, String.toList_ofList]
  induction parts with
  | nil => exact absurd rfl hne
  | cons part rest ih =>
    obtain ⟨hpart, hrest⟩ := List.forall_mem_cons.mp h
    cases rest with
    | nil => simpa using hpart
    | cons next rest =>
      rw [List.map_cons, List.map_cons, List.intercalate_cons_cons, ← List.map_cons]
      exact hpart.around sep.toList (ih (List.cons_ne_nil _ _) hrest)

/-- Joined texts begin as the first of them does. -/
theorem head?_join (sep : String) {part : String} (hne : part.toList ≠ []) (rest : List String) :
    (join sep (part :: rest)).toList.head? = part.toList.head? := by
  rw [join, String.toList_ofList]
  cases rest with
  | nil => simp
  | cons next rest =>
    rw [List.map_cons, List.map_cons, List.intercalate_cons_cons, List.append_assoc,
      List.head?_append_of_ne_nil _ hne]

end Text

/-! ### Names that are refused -/

/-- Names that cannot be assigned are the fault of the annotations. -/
theorem InterfaceName.exists_cause_of_checkAll {seen names : List String} {f : Failure}
    (h : checkAll seen names = .error f) : ∃ cause, f = .invalidAnnotations cause := by
  induction names generalizing seen with
  | nil => cases h
  | cons s rest ih =>
    rw [checkAll, check] at h
    by_cases hlegal : isLegal s = true
    · rw [if_pos hlegal] at h
      dsimp only at h
      split at h
      · cases h
        exact ⟨_, rfl⟩
      · exact ih h
    · rw [if_neg hlegal] at h
      cases h
      exact ⟨_, rfl⟩

/-! ### Networks that are named -/

/-- A network that is named, perhaps in a namespace, and perhaps on an interface. -/
structure NamedNetwork where
  ns : Option String
  name : String
  interface : Option String
  deriving Repr, DecidableEq

namespace NamedNetwork

variable {e : NamedNetwork} {l : List NamedNetwork} {ns : String}

/-- `[namespace/]name`. -/
def reference (e : NamedNetwork) : String :=
  match e.ns with
  | some ns => ns ++ "/" ++ e.name
  | none => e.name

/-- `[namespace/]name[@interface]`. -/
def token (e : NamedNetwork) : String :=
  match e.interface with
  | some interface => e.reference ++ "@" ++ interface
  | none => e.reference

/-- The tokens with commas between them. -/
def listText (l : List NamedNetwork) : String :=
  Text.join "," (l.map token)

/-- The members of the network as an object. -/
def members (e : NamedNetwork) : List (String × Json) :=
  [("name", .str e.name)] ++ (e.ns.map fun s => ("namespace", .str s)).toList ++
    (e.interface.map fun s => ("interface", .str s)).toList

/-- The networks as an array of objects. -/
def arrayText (l : List NamedNetwork) : String :=
  (Json.arr (l.map fun e => .obj e.members)).compact

/-- The text is an array of the networks, their members in any order and perhaps with blanks between. -/
structure IsArray (l : List NamedNetwork) (text : String) : Prop where
  opens : text.toList.head? = some '['
  items : ∃ items, Json.Document.read? (Bytes.ofString text) = some (.arr items) ∧
    List.Forall₂ (fun e item => ∃ members, item = .ofJson (.obj members) ∧
      members.Perm e.members) l items

/-- The text can stand in a token: it is not empty, has no blank at its ends and no separator in it. -/
structure PlainText (s : String) : Prop where
  solid : Text.Solid s.toList
  plain : ∀ sep ∈ [',', '@', '/'], Text.hasChar sep s = false

/-- All texts of the network can stand in a token. -/
structure Plain (e : NamedNetwork) : Prop where
  name : PlainText e.name
  ns : ∀ s, e.ns = some s → PlainText s
  interface : ∀ s, e.interface = some s → PlainText s

/-- The interfaces that are named. -/
def explicit (l : List NamedNetwork) : List String :=
  l.filterMap (·.interface)

/-- **The interfaces can be assigned**: those that are named are legal, different, and not that of the
default network. -/
structure Assignable (l : List NamedNetwork) : Prop where
  legal : ∀ s ∈ explicit l, InterfaceName.Legal s
  distinct : (explicit l).Nodup
  others : "eth0" ∉ explicit l

/-- **The interface of the network** is the one that it names, or else `eth` with the smallest number
that is neither named by any network nor given to an earlier one. -/
def Given (l : List NamedNetwork) (earlier : List AttachmentRequest) (e : NamedNetwork)
    (interface : String) : Prop :=
  match e.interface with
  | some s => interface = s
  | none => ∃ k, interface = "eth" ++ toString k ∧
      IsLeast {k : Nat | "eth" ++ toString k ∉ explicit l ++ earlier.map (·.interface)} k

/-- **The networks are selected**: the default network comes first on `eth0`, then a request for each
network in order, in its namespace or else that of the pod, and without addresses and arguments. -/
structure Selected (ns : String) (l : List NamedNetwork) (wanted : List AttachmentRequest) :
    Prop where
  length : wanted.length = l.length + 1
  default : wanted[0]? = some (.plain .clusterDefault "eth0")
  named : ∀ n e, l[n]? = some e → ∃ interface,
    wanted[n + 1]? = some (.plain (.netAttachDef (e.ns.getD ns) e.name) interface) ∧
      Given l (wanted.take (n + 1)) e interface

/-! ### Reading tokens -/

/-- The element of the network. -/
def element (e : NamedNetwork) : SelectionElement :=
  ⟨e.name, e.ns.getD "", [], "", e.interface.getD ""⟩

/-- The request for the network, before interfaces are assigned. -/
def request (ns : String) (e : NamedNetwork) : AttachmentRequest :=
  .plain (.netAttachDef (e.ns.getD ns) e.name) (e.interface.getD "")

theorem Plain.solid_reference (h : e.Plain) : Text.Solid e.reference.toList := by
  unfold reference
  split
  · rename_i s hs
    rw [String.toList_append, String.toList_append]
    exact (h.ns s hs).solid.around _ h.name.solid
  · exact h.name.solid

theorem Plain.solid_token (h : e.Plain) : Text.Solid e.token.toList := by
  unfold token
  split
  · rename_i s hs
    rw [String.toList_append, String.toList_append]
    exact h.solid_reference.around _ (h.interface s hs).solid
  · exact h.solid_reference

/-- A separator of tokens does not stand in a reference unless it is the slash. -/
theorem Plain.hasChar_reference (h : e.Plain) {sep : Char} (hsep : sep ∈ [',', '@']) :
    Text.hasChar sep e.reference = false := by
  have hslash : Text.hasChar sep "/" = false := by
    simp only [List.mem_cons, List.not_mem_nil, or_false] at hsep
    rcases hsep with rfl | rfl <;> rfl
  have hmem : sep ∈ [',', '@', '/'] := by
    simp only [List.mem_cons, List.not_mem_nil, or_false] at hsep ⊢
    tauto
  unfold reference
  split
  · rename_i s hs
    rw [Text.hasChar_append, Text.hasChar_append, (h.ns s hs).plain sep hmem, hslash,
      h.name.plain sep hmem]
    rfl
  · exact h.name.plain sep hmem

theorem Plain.comma_not_mem_token (h : e.Plain) : ',' ∉ e.token.toList := by
  refine Text.not_mem_of_hasChar ?_
  unfold token
  split
  · rename_i s hs
    rw [Text.hasChar_append, Text.hasChar_append, h.hasChar_reference (by simp),
      (h.interface s hs).plain ',' (by simp)]
    rfl
  · exact h.hasChar_reference (by simp)

/-- A token is cut into the reference and the interface. -/
theorem Plain.cut_token (h : e.Plain) :
    (Text.cut '@' e.token).getD (e.token, "") = (e.reference, e.interface.getD "") ∧
      ¬ (Text.hasChar '@' e.token && e.interface.getD "" = "") := by
  have hreference : Text.hasChar '@' e.reference = false := h.hasChar_reference (by simp)
  unfold token
  cases hinterface : e.interface with
  | none => simp [Text.cut_of_hasChar hreference, hreference]
  | some s =>
    have hcut : Text.cut '@' (e.reference ++ "@" ++ s) = some (e.reference, s) :=
      Text.cut_eq_some_iff.mpr ⟨rfl, hreference⟩
    have hne : s ≠ "" := (h.interface s hinterface).solid.ne_empty
    simp [hcut, hne]

/-- A reference is cut into the namespace and the name. -/
theorem Plain.cut_reference (h : e.Plain) :
    (Text.cut '/' e.reference).getD ("", e.reference) = (e.ns.getD "", e.name) ∧
      ¬ (Text.hasChar '/' e.reference && e.ns.getD "" = "") := by
  have hname := h.name.plain '/' (by simp)
  unfold reference
  cases hns : e.ns with
  | none => simp [Text.cut_of_hasChar hname, hname]
  | some s =>
    have hcut : Text.cut '/' (s ++ "/" ++ e.name) = some (s, e.name) :=
      Text.cut_eq_some_iff.mpr ⟨rfl, (h.ns s hns).plain '/' (by simp)⟩
    have hne : s ≠ "" := (h.ns s hns).solid.ne_empty
    simp [hcut, hne]

/-- **A token is read as the element of its network.** -/
theorem Plain.selectionToken_token (h : e.Plain) : Intent.selectionToken e.token = .ok e.element := by
  obtain ⟨htoken, hinterface⟩ := h.cut_token
  obtain ⟨hreference, hns⟩ := h.cut_reference
  rw [Intent.selectionToken, htoken]
  simp only
  rw [if_neg hinterface, hreference]
  simp only
  rw [if_neg hns, if_neg h.name.solid.ne_empty]
  rfl

/-- **An element that names a network, and no more, asks for that network.** -/
theorem Plain.selectionRequest_element (h : e.Plain) :
    Intent.selectionRequest ns e.element = .ok (e.request ns) := by
  have hname : Text.trim e.name = e.name := h.name.solid.trim_eq
  have hns : (Text.nonBlank (e.ns.getD "")).getD ns = e.ns.getD ns := by
    cases hns : e.ns with
    | none => rfl
    | some s =>
      rw [Option.getD_some, (h.ns s hns).solid.nonBlank_eq, Option.getD_some]
  have hinterface : Text.trim (e.interface.getD "") = e.interface.getD "" := by
    cases hinterface : e.interface with
    | none => rfl
    | some s => exact (h.interface s hinterface).solid.trim_eq
  rw [Intent.selectionRequest, element]
  simp only [hname, hns, hinterface, h.name.solid.ne_empty]
  rfl

/-- **Tokens between commas are read as the elements of the networks.** -/
theorem selectionElements_listText (hne : l ≠ []) (plain : ∀ e ∈ l, e.Plain)
    (opening : ∀ e, l.head? = some e → e.token.toList.head? ≠ some '[') :
    Intent.selectionElements (listText l) = .ok (l.map element) := by
  have hfirst : (listText l).toList.head? ≠ some '[' := by
    cases l with
    | nil => exact absurd rfl hne
    | cons e rest =>
      rw [listText, List.map_cons,
        Text.head?_join _ (plain e List.mem_cons_self).solid_token.nonempty]
      exact opening e rfl
  have hsplit : Text.split ',' (listText l) = l.map token := by
    refine Text.split_join (by simpa using hne) fun part hpart => ?_
    obtain ⟨e, he, rfl⟩ := List.mem_map.mp hpart
    exact (plain e he).comma_not_mem_token
  rw [Intent.selectionElements, if_neg hfirst, hsplit, mapM_eq_ok_iff, List.forall₂_map_left_iff,
    List.forall₂_map_right_iff]
  refine List.forall₂_same.mpr fun e he => ?_
  rw [(plain e he).solid_token.trim_eq]
  exact (plain e he).selectionToken_token

/-! ### Reading arrays -/

/-- The network as the fields of an element. -/
def fields (e : NamedNetwork) : List (String × Option Json) :=
  [("name", some (.str e.name)), ("namespace", e.ns.map .str), ("ips", none), ("mac", none),
    ("interface", e.interface.map .str)]

theorem members_eq (e : NamedNetwork) : e.members = Json.present e.fields := by
  obtain ⟨_ | ns, name, _ | interface⟩ := e <;> rfl

theorem withDefault_getD (s : Option String) :
    Json.Document.withDefault "" Json.Document.text? ((s.map Json.str).map .ofJson) =
      some (s.getD "") := by
  cases s <;> rfl

/-- **An object of the network is read as its element**, in whatever order its members stand. -/
theorem ofDocument?_of_perm {members : List (String × Json)} (h : members.Perm e.members) :
    SelectionElement.ofDocument? (.ofJson (.obj members)) = some e.element := by
  rw [members_eq] at h
  have hrecord := Json.Document.record?_of_perm (by simp [fields]) h
  simp only [fields, List.map_cons, List.map_nil] at hrecord
  rw [SelectionElement.ofDocument?, hrecord]
  simp only [Option.bind_eq_bind, Option.bind_some, withDefault_getD]
  rfl

/-- **An array of the networks is read as their elements.** -/
theorem IsArray.selectionElements_eq {text : String} (h : IsArray l text) :
    Intent.selectionElements text = .ok (l.map element) := by
  obtain ⟨items, hread, hitems⟩ := h.items
  have helements : items.mapM SelectionElement.ofDocument? = some (l.map element) := by
    clear hread h
    induction hitems with
    | nil => rfl
    | cons hitem _ ih =>
      obtain ⟨members, rfl, hperm⟩ := hitem
      rw [List.mapM_cons, ofDocument?_of_perm hperm, ih]
      rfl
  have hlist : SelectionElement.listOfBytes? (Bytes.ofString text) = some (l.map element) := by
    rw [SelectionElement.listOfBytes?, hread]
    exact helements
  rw [Intent.selectionElements, if_pos h.opens, hlist]

/-- The array that is written for the networks is one of them. -/
theorem isArray_arrayText (l : List NamedNetwork) : IsArray l (arrayText l) := by
  have hexact : (Json.arr (l.map fun e => .obj e.members)).Exact := by
    refine Json.exactItems_map (fun e => .obj e.members) (fun e => ?_) l
    rw [members_eq]
    exact Json.exact_present (by simp [fields, Json.exact_str])
  have hopens : (arrayText l).toList.head? = some '[' := by
    rw [arrayText, Json.compact, String.toList_ofList, Json.compactChars, List.head?_cons]
  refine ⟨hopens, _, Json.Document.read?_compact hexact, ?_⟩
  clear hexact hopens
  induction l with
  | nil => exact .nil
  | cons e l ih => exact .cons ⟨e.members, rfl, .refl _⟩ ih

/-! ### Which interfaces can be assigned -/

/-- The requests for the default network and the networks, before interfaces are assigned. -/
def requests (ns : String) (l : List NamedNetwork) : List AttachmentRequest :=
  .plain .clusterDefault "eth0" :: l.map (request ns)

theorem explicit_eq (plain : ∀ e ∈ l, e.Plain) :
    explicit l = (l.map fun e => e.interface.getD "").filter (· != "") := by
  unfold explicit
  induction l with
  | nil => rfl
  | cons e l ih =>
    obtain ⟨he, hl⟩ := List.forall_mem_cons.mp plain
    cases hinterface : e.interface with
    | none => simp [hinterface, ih hl]
    | some s =>
      have hne : s ≠ "" := (he.interface s hinterface).solid.ne_empty
      simp [hinterface, hne, ih hl]

/-- The interfaces that are named are `eth0` and those of the networks. -/
theorem named_requests (ns : String) (plain : ∀ e ∈ l, e.Plain) :
    ((requests ns l).map (·.interface)).filter (· != "") = "eth0" :: explicit l := by
  rw [explicit_eq plain, requests, List.map_cons, List.map_map]
  exact List.filter_cons_of_pos (by decide)

theorem checkAll_explicit_iff :
    InterfaceName.checkAll [] ("eth0" :: explicit l) = .ok () ↔ Assignable l := by
  rw [InterfaceName.checkAll_eq_ok_iff, List.forall_mem_cons, List.nodup_cons]
  constructor
  · rintro ⟨⟨-, hlegal⟩, hothers, hdistinct⟩
    exact ⟨fun s hs => (InterfaceName.isLegal_iff s).mp (hlegal s hs).1, hdistinct, hothers⟩
  · intro h
    refine ⟨⟨⟨by rfl, List.not_mem_nil⟩, fun s hs => ⟨?_, List.not_mem_nil⟩⟩, h.others, h.distinct⟩
    exact (InterfaceName.isLegal_iff s).mpr (h.legal s hs)

/-- Interfaces that can be assigned are. -/
theorem Assignable.exists_assign (h : Assignable l) (ns : String) (plain : ∀ e ∈ l, e.Plain) :
    ∃ wanted, AttachmentRequest.assign (requests ns l) = .ok wanted := by
  rw [AttachmentRequest.assign, InterfaceName.assign]
  simp only [named_requests ns plain, checkAll_explicit_iff.mpr h]
  exact ⟨_, rfl⟩

/-- Other interfaces are the fault of the annotations. -/
theorem exists_cause_of_not_assignable (h : ¬ Assignable l) (ns : String)
    (plain : ∀ e ∈ l, e.Plain) : ∃ cause,
      AttachmentRequest.assign (requests ns l) = .error (.invalidAnnotations cause) := by
  cases hcheck : InterfaceName.checkAll [] ("eth0" :: explicit l) with
  | ok u => exact absurd (checkAll_explicit_iff.mp hcheck) h
  | error f =>
    obtain ⟨cause, rfl⟩ := InterfaceName.exists_cause_of_checkAll hcheck
    rw [AttachmentRequest.assign, InterfaceName.assign]
    simp only [named_requests ns plain, hcheck]
    exact ⟨cause, rfl⟩

/-! ### What is assigned -/

/-- Every request is still there, perhaps with another interface. -/
theorem exists_filled {given wanted : List AttachmentRequest}
    (h : List.Forall₂ AttachmentRequest.Filled given wanted) {n : Nat} {r : AttachmentRequest}
    (hr : given[n]? = some r) : ∃ a, wanted[n]? = some a ∧ r.Filled a := by
  obtain ⟨hlength, hall⟩ := List.forall₂_iff_get.mp h
  obtain ⟨hn, rfl⟩ := List.getElem?_eq_some_iff.mp hr
  exact ⟨wanted[n], List.getElem?_eq_getElem (hlength ▸ hn), hall n hn (hlength ▸ hn)⟩

/-- A number is free just if no network names it and no earlier request has it: `eth0` is that of the
first request. -/
theorem free_iff {earlier : List AttachmentRequest} (ns : String) (plain : ∀ e ∈ l, e.Plain)
    (hdefault : .plain .clusterDefault "eth0" ∈ earlier) (k : Nat) :
    InterfaceName.numbered k ∉
        (requests ns l).map (·.interface) ++ earlier.map (·.interface) ↔
      "eth" ++ toString k ∉ explicit l ++ earlier.map (·.interface) := by
  have hnamed : InterfaceName.numbered k ∈ (requests ns l).map (·.interface) ↔
      InterfaceName.numbered k ∈ "eth0" :: explicit l := by
    rw [← named_requests ns plain, List.mem_filter]
    simp [InterfaceName.numbered_ne_empty]
  have hfirst : "eth0" ∈ earlier.map (·.interface) := List.mem_map_of_mem hdefault
  rw [not_iff_not, List.mem_append, hnamed, List.mem_cons, List.mem_append, or_assoc]
  refine or_iff_right_of_imp fun heq => .inr ?_
  rwa [heq]

/-- **The requests with their interfaces assigned are what is selected.** -/
theorem selected_of_assign {wanted : List AttachmentRequest} (plain : ∀ e ∈ l, e.Plain)
    (h : AttachmentRequest.assign (requests ns l) = .ok wanted) : Selected ns l wanted := by
  have hfilled := AttachmentRequest.forall₂_filled_of_assign h
  obtain ⟨hnames, -⟩ := AttachmentRequest.of_assign h
  have hdefault : wanted[0]? = some (.plain .clusterDefault "eth0") := by
    obtain ⟨a, ha, hsame, hinterface⟩ := exists_filled hfilled (n := 0) rfl
    rw [ha, hsame, hinterface (by decide)]
  refine ⟨by simpa [requests] using hfilled.length_eq.symm, hdefault, fun n e he => ?_⟩
  have hrequest : (requests ns l)[n + 1]? = some (e.request ns) := by simp [requests, he]
  obtain ⟨a, ha, hsame, hkept⟩ := exists_filled hfilled hrequest
  refine ⟨a.interface, by rw [ha, hsame]; rfl, ?_⟩
  unfold Given
  split
  · rename_i s hs
    have hinterface : (e.request ns).interface = s := by simp [request, AttachmentRequest.plain, hs]
    have hne : s ≠ "" :=
      ((plain e (List.mem_of_getElem? he)).interface s hs).solid.ne_empty
    rw [hkept (by rw [hinterface]; exact hne), hinterface]
  · rename_i hnone
    have hblank : ((requests ns l).map (·.interface))[n + 1]? = some "" := by
      rw [List.getElem?_map, hrequest]
      simp [request, AttachmentRequest.plain, hnone]
    obtain ⟨k, -, hk, hleast⟩ := InterfaceName.exists_isLeast_of_assign hnames hblank
    rw [List.getElem?_map, ha, Option.map_some] at hk
    have hearlier : .plain .clusterDefault "eth0" ∈ wanted.take (n + 1) := by
      refine List.mem_of_getElem? (i := 0) ?_
      rw [List.getElem?_take_of_lt (Nat.succ_pos n), hdefault]
    rw [← List.map_take] at hleast
    simp only [free_iff ns plain hearlier] at hleast
    exact ⟨k, Option.some.inj hk, hleast⟩

/-! ### Annotations -/

open Intent

/-- The requests that a selection of the elements states. -/
theorem ofSelection_of_elements {text : String} (plain : ∀ e ∈ l, e.Plain)
    (h : selectionElements text = .ok (l.map element)) :
    ofSelection ns text = .ok (requests ns l) := by
  have hrequests : (l.map element).mapM (selectionRequest ns) = .ok (l.map (request ns)) := by
    rw [mapM_eq_ok_iff, List.forall₂_map_left_iff, List.forall₂_map_right_iff]
    exact List.forall₂_same.mpr fun e he => (plain e he).selectionRequest_element
  rw [ofSelection, h]
  show ((l.map element).mapM (selectionRequest ns)).bind _ = _
  rw [hrequests]
  rfl

/-- **What annotations come to depends on the elements of their selection alone.** -/
theorem ofAnnotations_of_elements (d : Directory) (fs : FileSystem) (ns : String)
    {annotations : Annotations} {text : String} (plain : ∀ e ∈ l, e.Plain)
    (hvalue : value? selectionKey annotations = some text)
    (h : selectionElements text = .ok (l.map element)) :
    ofAnnotations d fs ns annotations =
      (AttachmentRequest.assign (requests ns l)).map .requests := by
  have hstated : stated d fs ns annotations = .ok (some (requests ns l)) := by
    rw [stated, hvalue]
    simp only [ofSelection_of_elements plain h, Except.map]
  rw [ofAnnotations, hstated]
  show (do return Intent.requests (← AttachmentRequest.assign (requests ns l))) = _
  cases AttachmentRequest.assign (requests ns l) <;> rfl

theorem value?_of_solid {key text : String} {annotations : Annotations} (h : Text.Solid text.toList)
    (hget : Table.get? key annotations = some text) : value? key annotations = some text := by
  rw [value?, hget, Option.bind_some, h.nonBlank_eq]

theorem solid_arrayText (l : List NamedNetwork) : Text.Solid (arrayText l).toList := by
  have hbracket : ∀ c ∈ ['[', ']'], Text.Solid [c] := by
    intro c hc
    have hblank : Text.isBlank c = false := by
      simp only [List.mem_cons, List.not_mem_nil, or_false] at hc
      rcases hc with rfl | rfl <;> rfl
    refine ⟨List.cons_ne_nil _ _, fun d hd => ?_, fun d hd => ?_⟩
    · rwa [← Option.some.inj hd]
    · rwa [← Option.some.inj hd]
  rw [arrayText, Json.compact, String.toList_ofList, Json.compactChars]
  exact (hbracket '[' (by simp)).around _ (hbracket ']' (by simp))

/-- **The two forms of a selection come to the same**, whatever the pod asks for otherwise: the tokens
`[namespace/]name[@interface]` of some networks between commas, and any array of the same networks, such as
the one that is written without blanks. If the interfaces that are named can be assigned, the outcome is
the requests for the default network and the networks in order. If they cannot, the annotations are at
fault. -/
theorem selection_forms_agree (d : Directory) (fs : FileSystem) (ns : String) {l : List NamedNetwork}
    (nonempty : l ≠ []) (plain : ∀ e ∈ l, e.Plain)
    (opening : ∀ e, l.head? = some e → e.token.toList.head? ≠ some '[') {annotations : Annotations}
    (listed : Table.get? selectionKey annotations = some (listText l)) :
    let outcome := ofAnnotations d fs ns annotations
    (∀ others, Table.get? selectionKey others = some (arrayText l) →
      ofAnnotations d fs ns others = outcome) ∧
    (∀ others text, value? selectionKey others = some text → IsArray l text →
      ofAnnotations d fs ns others = outcome) ∧
    (Assignable l → ∃ wanted, outcome = .ok (.requests wanted) ∧ Selected ns l wanted) ∧
    (¬ Assignable l → ∃ cause, outcome = .error (.invalidAnnotations cause)) := by
  intro outcome
  have hsolid : Text.Solid (listText l).toList := by
    refine Text.solid_join "," (by simpa using nonempty) fun part hpart => ?_
    obtain ⟨e, he, rfl⟩ := List.mem_map.mp hpart
    exact (plain e he).solid_token
  have houtcome : outcome = (AttachmentRequest.assign (requests ns l)).map .requests :=
    ofAnnotations_of_elements d fs ns plain (value?_of_solid hsolid listed)
      (selectionElements_listText nonempty plain opening)
  have harray : ∀ others text, value? selectionKey others = some text → IsArray l text →
      ofAnnotations d fs ns others = outcome := by
    intro others text hvalue htext
    rw [houtcome]
    exact ofAnnotations_of_elements d fs ns plain hvalue htext.selectionElements_eq
  refine ⟨fun others hothers => ?_, harray, fun h => ?_, fun h => ?_⟩
  · exact harray others _ (value?_of_solid (solid_arrayText l) hothers) (isArray_arrayText l)
  · obtain ⟨wanted, hwanted⟩ := h.exists_assign ns plain
    exact ⟨wanted, by rw [houtcome, hwanted]; rfl, selected_of_assign plain hwanted⟩
  · obtain ⟨cause, hcause⟩ := exists_cause_of_not_assignable h ns plain
    exact ⟨cause, by rw [houtcome, hcause]; rfl⟩

/-- Two networks, of which the first is in a namespace and on an interface of its own. -/
def blueAndGreen : List NamedNetwork :=
  [⟨some "infra", "blue", some "net1"⟩, ⟨none, "green", none⟩]

theorem selection_forms_agree_blueAndGreen :
    listText blueAndGreen = "infra/blue@net1,green" ∧ Assignable blueAndGreen ∧
      let asked := ofAnnotations ⟨"/", ["/"]⟩ ⟨[], []⟩ "default"
      asked [(selectionKey, arrayText blueAndGreen)] =
          asked [(selectionKey, listText blueAndGreen)] ∧
        ∃ wanted, asked [(selectionKey, listText blueAndGreen)] = .ok (.requests wanted) ∧
          Selected "default" blueAndGreen wanted := by
  have htexts : ∀ s ∈ ["infra", "blue", "net1", "green"], PlainText s := by
    intro s hs
    simp only [List.mem_cons, List.not_mem_nil, or_false] at hs
    rcases hs with rfl | rfl | rfl | rfl
    all_goals exact ⟨⟨by decide, fun c hc => by cases hc; rfl, fun c hc => by cases hc; rfl⟩,
      by simp [Text.hasChar]⟩
  have plain : ∀ e ∈ blueAndGreen, e.Plain := by
    refine List.forall_mem_cons.mpr ⟨⟨htexts _ (by simp), ?_, ?_⟩,
      List.forall_mem_singleton.mpr ⟨htexts _ (by simp), by simp, by simp⟩⟩
    · rintro s ⟨⟩
      exact htexts _ (by simp)
    · rintro s ⟨⟩
      exact htexts _ (by simp)
  have hassignable : Assignable blueAndGreen := checkAll_explicit_iff.mp (by rfl)
  have listed : Table.get? selectionKey [(selectionKey, listText blueAndGreen)] =
      some (listText blueAndGreen) := by rfl
  obtain ⟨harray, -, hselected, -⟩ := selection_forms_agree ⟨"/", ["/"]⟩ ⟨[], []⟩ "default"
    (List.cons_ne_nil _ _) plain (by rintro e ⟨⟩; decide) listed
  exact ⟨by rfl, hassignable, harray _ (by rfl), hselected hassignable⟩

end NamedNetwork

end PodNet
