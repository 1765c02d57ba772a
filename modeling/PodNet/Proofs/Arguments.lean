import PodNet.Execution
import PodNet.Invocation
import PodNet.Proofs.Pieces

/-!
# Argument lists

The pairs that are read of an argument list can be written as an argument list again
(`writable_of_mem_argPairs`), and of such a list the same pairs are read (`argPairs_pairsText`). The
reader that wants to know who the pod is reads the same pairs, in a single pass
(`PodArgs.of_parse`, `PodArgs.parse_pairsText`). Of each key it knows, the last value counts
(`PodArgs.Reading.ofPairs_eq`), whatever else is in the list.
-/

namespace PodNet

/-! ### Pairs that can be written -/

/-- **The pair can be written**: neither separator is taken for a part of it, and trimming takes
nothing off it. -/
structure WritablePair (a : String × String) : Prop where
  keyWithout : '=' ∉ a.1.toList
  ends : ';' ∉ a.1.toList ∧ ';' ∉ a.2.toList
  head : ∀ c, a.1.toList.head? = some c → Text.isBlank c = false
  last : ∀ c, a.2.toList.getLast? = some c → Text.isBlank c = false

/-- The text of a pair. -/
def argPiece (a : String × String) : String :=
  a.1 ++ "=" ++ a.2

/-- The text of pairs. -/
def pairsText (args : List (String × String)) : String :=
  Text.join ";" (args.map argPiece)

variable {a : String × String} {args : List (String × String)} {raw : String}

theorem toList_argPiece (a : String × String) :
    (argPiece a).toList = a.1.toList ++ '=' :: a.2.toList := by
  rw [argPiece, String.toList_append, String.toList_append, List.append_assoc]
  rfl

theorem hasChar_argPiece (a : String × String) : Text.hasChar '=' (argPiece a) = true := by
  rw [argPiece, Text.hasChar_append, Text.hasChar_append]
  simp [Text.hasChar]

theorem WritablePair.not_mem (h : WritablePair a) : ';' ∉ (argPiece a).toList := by
  rw [toList_argPiece, List.mem_append, List.mem_cons, not_or, not_or]
  exact ⟨h.ends.1, by decide, h.ends.2⟩

theorem WritablePair.trimmed_argPiece (h : WritablePair a) : Text.Trimmed (argPiece a).toList := by
  rw [toList_argPiece]
  constructor
  · intro c hc
    cases hkey : a.1.toList with
    | nil =>
      rw [hkey] at hc
      cases hc
      decide
    | cons d rest =>
      rw [hkey] at hc
      exact h.head c (by rw [hkey]; exact hc)
  · intro c hc
    rw [List.getLast?_append, List.getLast?_cons, Option.some_or, Option.some.injEq] at hc
    cases hvalue : a.2.toList.getLast? with
    | none =>
      rw [hvalue] at hc
      cases hc
      decide
    | some d =>
      rw [hvalue] at hc
      exact h.last c (by rw [hvalue]; exact congrArg some hc)

theorem WritablePair.trim_argPiece (h : WritablePair a) : Text.trim (argPiece a) = argPiece a := by
  rw [Text.trim, h.trimmed_argPiece.trimChars_eq, String.ofList_toList]

theorem cut_argPiece (h : '=' ∉ a.1.toList) : Text.cut '=' (argPiece a) = some a := by
  rw [Text.cut, toList_argPiece, Text.cutChars_append h, Option.map_some, String.ofList_toList,
    String.ofList_toList]

theorem split_pairsText (hne : args ≠ []) (h : ∀ a ∈ args, WritablePair a) :
    Text.split ';' (pairsText args) = args.map argPiece := by
  refine Text.split_join (by simpa using hne) ?_
  rw [List.forall_mem_map]
  exact fun a ha => (h a ha).not_mem

/-- **Pairs that can be written are read again.** -/
theorem argPairs_pairsText (hne : args ≠ []) (h : ∀ a ∈ args, WritablePair a) :
    argPairs (pairsText args) = args := by
  rw [argPairs, split_pairsText hne h, List.filterMap_map]
  calc args.filterMap ((fun piece => Text.cut '=' (Text.trim piece)) ∘ argPiece)
      = args.filterMap some := List.filterMap_congr fun a ha => by
        rw [Function.comp_apply, (h a ha).trim_argPiece, cut_argPiece (h a ha).keyWithout]
    _ = args := List.filterMap_some

/-- **Pairs that are read can be written.** -/
theorem writable_of_mem_argPairs (h : a ∈ argPairs raw) : WritablePair a := by
  obtain ⟨piece, hpiece, hcut⟩ := List.mem_filterMap.mp h
  obtain ⟨s, hs, rfl⟩ := List.mem_map.mp hpiece
  obtain ⟨⟨key, value⟩, hchars, rfl⟩ := Option.map_eq_some_iff.mp hcut
  rw [Text.trim, String.toList_ofList, String.toList_ofList] at hchars
  obtain ⟨heq, hkey⟩ := Text.of_cutChars hchars
  have hends : ∀ c ∈ Text.trimChars s, c ≠ ';' := by
    rintro c hc rfl
    exact Text.not_mem_of_mem_pieces hs (Text.mem_of_mem_trimChars hc)
  have htrimmed := Text.trimmed_trimChars s
  rw [heq] at hends htrimmed
  rw [List.forall_mem_append, List.forall_mem_cons] at hends
  constructor
  · rwa [String.toList_ofList]
  · rw [String.toList_ofList, String.toList_ofList]
    exact ⟨fun hmem => hends.1 _ hmem rfl, fun hmem => hends.2.2 _ hmem rfl⟩
  · intro c hc
    rw [String.toList_ofList] at hc
    exact htrimmed.head c (by rw [List.head?_append, hc, Option.some_or])
  · intro c hc
    rw [String.toList_ofList] at hc
    refine htrimmed.last c ?_
    rw [List.getLast?_append, List.getLast?_cons, hc, Option.some_or, Option.getD_some]

/-! ### Reading for whom -/

/-- The value of the last pair with a key. -/
def lastValue? (key : String) (args : List (String × String)) : Option String :=
  (args.filter (·.1 == key)).getLast?.map (·.2)

theorem mem_of_lastValue? {key value : String} (h : lastValue? key args = some value) :
    (key, value) ∈ args := by
  obtain ⟨⟨k, v⟩, hlast, rfl⟩ := Option.map_eq_some_iff.mp h
  obtain ⟨hmem, hkey⟩ := List.mem_filter.mp (List.mem_of_getLast? hlast)
  rw [beq_iff_eq] at hkey
  subst hkey
  exact hmem

theorem bind_eq_ok_iff {α β ε : Type} {x : Except ε α} {next : α → Except ε β} {b : β} :
    x >>= next = .ok b ↔ ∃ a, x = .ok a ∧ next a = .ok b := by
  cases x <;> simp [bind, Except.bind]

namespace PodArgs

theorem of_value? {s v : String} (h : value? s = some v) : v = s ∧ s ≠ "" := by
  unfold value? at h
  split at h
  · cases h
  · rename_i hne
    cases h
    exact ⟨rfl, hne⟩

theorem ne_empty_of_bind_value? {s : Option String} {v : String} (h : s.bind value? = some v) :
    v ≠ "" := by
  obtain ⟨last, -, hlast⟩ := Option.bind_eq_some_iff.mp h
  obtain ⟨rfl, hne⟩ := of_value? hlast
  exact hne

theorem value?_of_ne {s : String} (h : s ≠ "") : value? s = some s := if_neg h

/-- What is read of pairs. -/
def Reading.ofPairs (args : List (String × String)) : Reading :=
  args.foldl (fun r a => r.pair a.1 a.2) .empty

/-- What a reading holds of a key that sets it is what the last value with that key sets. -/
theorem Reading.foldl_pair {α : Type} (field : Reading → α) (key : String) (read : String → α)
    (hset : ∀ (r : Reading) value, field (r.pair key value) = read value)
    (hkeep : ∀ (r : Reading) k value, k ≠ key → field (r.pair k value) = field r)
    (args : List (String × String)) (r : Reading) :
    field (args.foldl (fun r a => r.pair a.1 a.2) r) =
      ((lastValue? key args).map read).getD (field r) := by
  induction args generalizing r with
  | nil => rfl
  | cons a rest ih =>
    rw [List.foldl_cons, ih]
    by_cases hkey : a.1 = key
    · rw [lastValue?, lastValue?, List.filter_cons_of_pos (by simpa using hkey), List.getLast?_cons,
        hkey, hset]
      cases (rest.filter (·.1 == key)).getLast? <;> rfl
    · rw [lastValue?, lastValue?, List.filter_cons_of_neg (by simpa using hkey), hkeep _ _ _ hkey]

/-- **Of each key the last value counts.** -/
theorem Reading.ofPairs_eq (args : List (String × String)) :
    (ofPairs args).pod = ⟨(lastValue? "K8S_POD_NAME" args).bind value?,
        (lastValue? "K8S_POD_NAMESPACE" args).bind value?⟩ ∧
      (ofPairs args).ignoreUnknown = (lastValue? "IgnoreUnknown" args).any isTrue := by
  have hname := foldl_pair (fun r => r.pod.podName) "K8S_POD_NAME" value? (by simp [pair])
    (by grind [pair]) args .empty
  have hnamespace := foldl_pair (fun r => r.pod.podNamespace) "K8S_POD_NAMESPACE" value?
    (by simp [pair]) (by grind [pair]) args .empty
  have hignore := foldl_pair (fun r => r.ignoreUnknown) "IgnoreUnknown" isTrue (by simp [pair])
    (by grind [pair]) args .empty
  have hpod : (ofPairs args).pod = ⟨(ofPairs args).pod.podName, (ofPairs args).pod.podNamespace⟩ :=
    rfl
  rw [hpod]
  unfold ofPairs
  rw [hname, hnamespace, hignore]
  cases lastValue? "K8S_POD_NAME" args <;> cases lastValue? "K8S_POD_NAMESPACE" args <;>
    cases lastValue? "IgnoreUnknown" args <;> exact ⟨rfl, rfl⟩

/-- **Who the pod is**, as the last values of two keys. -/
theorem Reading.pod_ofPairs_eq_some_iff {ns name : String} :
    (ofPairs args).pod.pod = some (ns, name) ↔
      (lastValue? "K8S_POD_NAME" args).bind value? = some name ∧
        ((lastValue? "K8S_POD_NAMESPACE" args).bind value?).getD "default" = ns := by
  rw [(ofPairs_eq args).1, PodArgs.pod, Option.map_eq_some_iff]
  constructor
  · rintro ⟨_, hname, heq⟩
    cases heq
    exact ⟨hname, rfl⟩
  · rintro ⟨hname, rfl⟩
    exact ⟨name, hname, rfl⟩

/-! ### Reading pieces -/

/-- **Pieces can be read just if each is a pair**, and then the pairs are read. -/
theorem readAll_eq_ok_iff {pieces : List String} {r r' : Reading} :
    readAll r pieces = .ok r' ↔ (∀ piece ∈ pieces, Text.hasChar '=' piece = true) ∧
      r' = (pieces.filterMap (Text.cut '=')).foldl (fun r a => r.pair a.1 a.2) r := by
  induction pieces generalizing r with
  | nil =>
    rw [readAll, Except.ok.injEq, eq_comm]
    simp
  | cons piece rest ih =>
    rw [readAll, List.forall_mem_cons]
    cases hcut : Text.cut '=' piece with
    | none => simp [Text.cut_eq_none_iff.mp hcut]
    | some a =>
      have hpair : Text.hasChar '=' piece = true := by
        by_contra h
        rw [Text.cut_of_hasChar (eq_false_of_ne_true h)] at hcut
        cases hcut
      dsimp only
      rw [ih, List.filterMap_cons_some hcut, List.foldl_cons, and_iff_right hpair]

/-- **An argument list can be read just if** what is not blank between semicolons is a pair, and unknown
keys are to be ignored or there are none. What is read is what its pairs say. -/
theorem parse_eq_ok_iff {who : PodArgs} :
    parse raw = .ok who ↔
      (∀ piece ∈ Text.split ';' raw, Text.trim piece ≠ "" → Text.hasChar '=' piece = true) ∧
        ((Reading.ofPairs (argPairs raw)).ignoreUnknown = true ∨
          (Reading.ofPairs (argPairs raw)).unknown = []) ∧
        who = (Reading.ofPairs (argPairs raw)).pod := by
  -- One reader drops empty pieces; to the other they are no pairs.
  have hpairs : (((Text.split ';' raw).map Text.trim).filter (· != "")).filterMap (Text.cut '=') =
      argPairs raw := by
    rw [argPairs, List.filterMap_filter, List.filterMap_map]
    refine List.filterMap_congr fun piece _ => ?_
    by_cases hpiece : Text.trim piece = ""
    · rw [Function.comp_apply, hpiece]
      rfl
    · simp [hpiece]
  have hread (r : Reading) :
      readAll .empty (((Text.split ';' raw).map Text.trim).filter (· != "")) = .ok r ↔
        (∀ piece ∈ Text.split ';' raw, Text.trim piece ≠ "" → Text.hasChar '=' piece = true) ∧
          r = Reading.ofPairs (argPairs raw) := by
    rw [readAll_eq_ok_iff, hpairs, Reading.ofPairs]
    simp only [List.mem_filter, List.mem_map, bne_iff_ne, and_imp, forall_exists_index,
      forall_apply_eq_imp_iff₂, Text.hasChar_trim (show Text.isBlank '=' = false by decide)]
  have hparse : parse raw =
      readAll .empty (((Text.split ';' raw).map Text.trim).filter (· != "")) >>= fun r =>
        if (!r.ignoreUnknown && !r.unknown.isEmpty) = true then
          .error (.invalidEnvelope (.unknownKeys r.unknown))
        else .ok r.pod := rfl
  rw [hparse, bind_eq_ok_iff]
  simp only [hread, and_assoc, exists_and_left, exists_eq_left]
  refine and_congr_right fun _ => ?_
  generalize Reading.ofPairs (argPairs raw) = r
  cases r.ignoreUnknown <;> cases r.unknown <;> simp [eq_comm]

/-- **The reader for whom reads the pairs of the list.** -/
theorem of_parse {who : PodArgs} (h : parse raw = .ok who) :
    who = (Reading.ofPairs (argPairs raw)).pod :=
  (parse_eq_ok_iff.mp h).2.2

/-- **Pairs that can be written are read for whom**, when unknown keys are to be ignored. -/
theorem parse_pairsText (hne : args ≠ []) (h : ∀ a ∈ args, WritablePair a)
    (hignore : (Reading.ofPairs args).ignoreUnknown = true) :
    parse (pairsText args) = .ok (Reading.ofPairs args).pod := by
  rw [parse_eq_ok_iff, split_pairsText hne h, argPairs_pairsText hne h, List.forall_mem_map]
  exact ⟨fun a _ _ => hasChar_argPiece a, .inl hignore, rfl⟩

end PodArgs

end PodNet
