import Mathlib.Data.List.Nodup
import PodNet.Proofs.Arguments

/-!
# Arguments in any order

Who an invocation is for is read of its arguments in a single pass, and keys that are not known are
refused only at the end, as the argument that excuses them may come after them. What the pass gathers
does not depend on the order: the unknown keys are those of the list (`PodArgs.Reading.unknown_ofPairs`),
and the rest is said by the last value of a key. So an argument list is accepted by a condition on the
list as a whole, and where no key comes twice its pairs may stand in any order, with any blanks between
them (`PodArgs.parse_in_any_order`).
-/

namespace PodNet

variable {key value : String} {args args' : List (String × String)}

/-! ### Last values -/

/-- Where no key comes twice, every value is the last one of its key. -/
theorem lastValue?_eq_some_iff (distinct : (args.map (·.1)).Nodup) :
    lastValue? key args = some value ↔ (key, value) ∈ args := by
  refine ⟨mem_of_lastValue?, fun h => ?_⟩
  have hfilter : (key, value) ∈ args.filter (·.1 == key) :=
    List.mem_filter.mpr ⟨h, beq_self_eq_true key⟩
  have hlast := List.getLast?_eq_some_getLast (List.ne_nil_of_mem hfilter)
  obtain ⟨hmem, hkey⟩ := List.mem_filter.mp (List.getLast_mem (List.ne_nil_of_mem hfilter))
  have heq := List.inj_on_of_nodup_map distinct hmem h (beq_iff_eq.mp hkey)
  rw [lastValue?, hlast, heq, Option.map_some]

theorem lastValue?_perm (distinct : (args.map (·.1)).Nodup) (h : args.Perm args') (key : String) :
    lastValue? key args = lastValue? key args' := by
  have distinct' : (args'.map (·.1)).Nodup := (h.map _).nodup distinct
  refine Option.ext fun value => ?_
  rw [lastValue?_eq_some_iff distinct, lastValue?_eq_some_iff distinct', h.mem_iff]

/-! ### Blanks between pairs -/

/-- The piece is the text with blanks around it. -/
def Padded (s piece : String) : Prop :=
  ∃ before after : List Char, (∀ c ∈ before, Text.isBlank c = true) ∧
    (∀ c ∈ after, Text.isBlank c = true) ∧ piece.toList = before ++ s.toList ++ after

/-- **The pieces write the pairs**: some of them are blank, and the others are the pairs in order, with
blanks around them. -/
inductive Writes : List (String × String) → List String → Prop
  | nil : Writes [] []
  | blank {args piece pieces} (padded : Padded "" piece) (rest : Writes args pieces) :
      Writes args (piece :: pieces)
  | pair {a args piece pieces} (padded : Padded (argPiece a) piece) (rest : Writes args pieces) :
      Writes (a :: args) (piece :: pieces)

theorem Padded.trim_eq {s piece : String} (h : Padded s piece) (trimmed : Text.Trimmed s.toList) :
    Text.trim piece = s := by
  obtain ⟨before, after, hbefore, hafter, hpiece⟩ := h
  rw [Text.trim, hpiece, trimmed.trimChars_append hbefore hafter, String.ofList_toList]

/-- Of pieces that write pairs, these pairs are read. -/
theorem Writes.reads {pieces : List String} (h : Writes args pieces)
    (writable : ∀ a ∈ args, WritablePair a) :
    (∀ piece ∈ pieces, Text.trim piece ≠ "" → Text.hasChar '=' piece = true) ∧
      pieces.filterMap (fun piece => Text.cut '=' (Text.trim piece)) = args := by
  induction h with
  | nil => exact ⟨by simp, rfl⟩
  | blank padded _ ih =>
    obtain ⟨hpieces, hpairs⟩ := ih writable
    have htrim := padded.trim_eq ⟨by simp, by simp⟩
    refine ⟨List.forall_mem_cons.mpr ⟨fun hne => absurd htrim hne, hpieces⟩, ?_⟩
    rw [List.filterMap_cons_none (by rw [htrim]; rfl), hpairs]
  | @pair a _ _ _ padded _ ih =>
    obtain ⟨hfirst, hrest⟩ := List.forall_mem_cons.mp writable
    obtain ⟨hpieces, hpairs⟩ := ih hrest
    have htrim := padded.trim_eq hfirst.trimmed_argPiece
    have hchar := hasChar_argPiece a
    rw [← htrim, Text.hasChar_trim (by decide)] at hchar
    refine ⟨List.forall_mem_cons.mpr ⟨fun _ => hchar, hpieces⟩, ?_⟩
    rw [List.filterMap_cons_some (by rw [htrim, cut_argPiece hfirst.keyWithout]), hpairs]

namespace PodArgs

theorem bind_value?_eq_some_iff {last : Option String} :
    last.bind value? = some value ↔ last = some value ∧ value ≠ "" := by
  constructor
  · intro h
    obtain ⟨own, rfl, hown⟩ := Option.bind_eq_some_iff.mp h
    obtain ⟨rfl, hne⟩ := of_value? hown
    exact ⟨rfl, hne⟩
  · rintro ⟨rfl, hne⟩
    exact value?_of_ne hne

/-! ### Unknown keys -/

/-- The keys that the reader knows. -/
def knownKeys : List String :=
  ["K8S_POD_NAME", "K8S_POD_NAMESPACE", "K8S_POD_INFRA_CONTAINER_ID", "K8S_POD_UID", "IgnoreUnknown"]

/-- One pair adds its key if it is unknown. -/
theorem Reading.unknown_pair (r : Reading) (key value : String) :
    (r.pair key value).unknown = r.unknown ++ [key].filter fun k => !knownKeys.contains k := by
  by_cases hkey : key ∈ knownKeys
  · have hadds : [key].filter (fun k => !knownKeys.contains k) = [] := by simp [hkey]
    rw [hadds, List.append_nil]
    simp only [knownKeys, List.mem_cons, List.not_mem_nil, or_false] at hkey
    rcases hkey with rfl | rfl | rfl | rfl | rfl <;> rfl
  · have hadds : [key].filter (fun k => !knownKeys.contains k) = [key] := by simp [hkey]
    rw [hadds]
    simp only [knownKeys, List.mem_cons, List.not_mem_nil, or_false, not_or] at hkey
    obtain ⟨hname, hnamespace, hcontainer, huid, hignore⟩ := hkey
    rw [pair, if_neg hname, if_neg hnamespace, if_neg (not_or.mpr ⟨hcontainer, huid⟩), if_neg hignore]

/-- **The unknown keys are those of the list**, in order. -/
theorem Reading.unknown_ofPairs (args : List (String × String)) :
    (ofPairs args).unknown = (args.map (·.1)).filter fun k => !knownKeys.contains k := by
  have hall (r : Reading) : (args.foldl (fun r a => r.pair a.1 a.2) r).unknown =
      r.unknown ++ (args.map (·.1)).filter fun k => !knownKeys.contains k := by
    induction args generalizing r with
    | nil => exact (List.append_nil _).symm
    | cons a rest ih =>
      rw [List.foldl_cons, ih, unknown_pair, List.append_assoc, ← List.filter_append]
      rfl
  exact hall .empty

theorem isTrue_iff : isTrue value = true ↔ value = "1" ∨ value.toLower = "true" := by
  have hlower : value.toLower = "true" ↔ value.toList.map Char.toLower = ['t', 'r', 'u', 'e'] := by
    have hmap : value.toLower = value.map Char.toLower := rfl
    rw [← String.toList_inj, hmap, String.toList_map]
    rfl
  rw [isTrue, Bool.or_eq_true, beq_iff_eq, beq_iff_eq, hlower]

/-- **Unknown keys do not matter**: there are none, or the last argument about them is `1`, or `true` in
letters of any case. -/
def Tolerates (args : List (String × String)) : Prop :=
  (∀ a ∈ args, a.1 ∈ knownKeys) ∨
    ∃ value, lastValue? "IgnoreUnknown" args = some value ∧ (value = "1" ∨ value.toLower = "true")

theorem Reading.tolerates_iff :
    (ofPairs args).ignoreUnknown = true ∨ (ofPairs args).unknown = [] ↔ Tolerates args := by
  rw [(ofPairs_eq args).2, unknown_ofPairs, Option.any_eq_true, or_comm, Tolerates,
    List.filter_eq_nil_iff]
  simp [isTrue_iff]

theorem Tolerates.perm (distinct : (args.map (·.1)).Nodup) (h : args.Perm args') :
    Tolerates args ↔ Tolerates args' := by
  simp only [Tolerates, lastValue?_perm distinct h, h.mem_iff]

/-! ### The order -/

/-- **An argument list is read in any order.** It is accepted just if everything between semicolons that is
not blank is a pair, and unknown keys do not matter. Then the name and the namespace of the pod are the
last values of their keys, unless these are empty. So two lists that write the same pairs, each key
once, in whatever order and with whatever blanks, are both refused, or accepted for the same pod. -/
theorem parse_in_any_order :
    (∀ raw, (∃ who, parse raw = .ok who) ↔
      (∀ piece ∈ Text.split ';' raw, Text.trim piece ≠ "" → Text.hasChar '=' piece = true) ∧
        Tolerates (argPairs raw)) ∧
    (∀ raw who, parse raw = .ok who → ∀ value,
      (who.podName = some value ↔
        lastValue? "K8S_POD_NAME" (argPairs raw) = some value ∧ value ≠ "") ∧
      (who.podNamespace = some value ↔
        lastValue? "K8S_POD_NAMESPACE" (argPairs raw) = some value ∧ value ≠ "")) ∧
    (∀ args args' raw raw', (∀ a ∈ args, WritablePair a) → (args.map (·.1)).Nodup → args.Perm args' →
      Writes args (Text.split ';' raw) → Writes args' (Text.split ';' raw') →
      ∀ who, parse raw = .ok who ↔ parse raw' = .ok who) := by
  refine ⟨fun raw => ?_, fun raw who h value => ?_, ?_⟩
  · simp only [parse_eq_ok_iff, Reading.tolerates_iff, exists_and_left, exists_eq, and_true]
  · have hwho := (of_parse h).trans (Reading.ofPairs_eq (argPairs raw)).1
    rw [hwho]
    dsimp only
    rw [bind_value?_eq_some_iff, bind_value?_eq_some_iff]
    exact ⟨Iff.rfl, Iff.rfl⟩
  · intro args args' raw raw' writable distinct hperm hraw hraw' who
    obtain ⟨hpieces, hpairs⟩ := hraw.reads writable
    obtain ⟨hpieces', hpairs'⟩ := hraw'.reads fun a ha => writable a (hperm.mem_iff.mpr ha)
    rw [parse_eq_ok_iff, parse_eq_ok_iff, and_iff_right hpieces, and_iff_right hpieces',
      Reading.tolerates_iff, Reading.tolerates_iff, argPairs, argPairs, hpairs, hpairs',
      Tolerates.perm distinct hperm, (Reading.ofPairs_eq args).1, (Reading.ofPairs_eq args').1,
      lastValue?_perm distinct hperm, lastValue?_perm distinct hperm]

/-- An argument that is not known, between one that excuses it and the name of a pod. -/
def traced : List (String × String) :=
  [("IgnoreUnknown", "TRUE"), ("TRACE", "a b"), ("K8S_POD_NAME", "web")]

/-- It may come before what excuses it as well. -/
theorem parse_in_any_order_traced :
    parse " ;IgnoreUnknown=TRUE; TRACE=a b ;K8S_POD_NAME=web" = .ok ⟨some "web", none⟩ ∧
      parse "K8S_POD_NAME=web;;\tTRACE=a b;IgnoreUnknown=TRUE;" = .ok ⟨some "web", none⟩ := by
  have writable : ∀ a ∈ traced, WritablePair a := by
    simp only [traced, List.forall_mem_cons]
    refine ⟨⟨by decide, by decide, by simp; decide, by simp; decide⟩,
      ⟨by decide, by decide, by simp; decide, by simp; decide⟩,
      ⟨by decide, by decide, by simp; decide, by simp; decide⟩, by simp⟩
  have hplain (s : String) : Padded s s := ⟨[], [], by simp, by simp, by simp⟩
  have hraw : Writes traced (Text.split ';' " ;IgnoreUnknown=TRUE; TRACE=a b ;K8S_POD_NAME=web") :=
    .blank ⟨[' '], [], by simp; decide, by simp, rfl⟩ (.pair (hplain _)
      (.pair ⟨[' '], [' '], by simp; decide, by simp; decide, rfl⟩ (.pair (hplain _) .nil)))
  have hraw' : Writes traced.reverse
      (Text.split ';' "K8S_POD_NAME=web;;\tTRACE=a b;IgnoreUnknown=TRUE;") :=
    .pair (hplain _) (.blank (hplain _) (.pair ⟨['\t'], [], by simp; decide, by simp, rfl⟩
      (.pair (hplain _) (.blank (hplain _) .nil))))
  have hread : parse " ;IgnoreUnknown=TRUE; TRACE=a b ;K8S_POD_NAME=web" =
      .ok ⟨some "web", none⟩ := by rfl
  obtain ⟨-, -, horder⟩ := parse_in_any_order
  exact ⟨hread, (horder traced traced.reverse _ _ writable (by decide) (List.reverse_perm _).symm
    hraw hraw' _).mp hread⟩

end PodArgs

end PodNet
