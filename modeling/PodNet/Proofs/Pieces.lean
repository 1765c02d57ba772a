import Mathlib.Data.List.DropRight
import Mathlib.Data.List.Forall2
import Mathlib.Data.List.Infix
import PodNet.Text.Blank
import PodNet.Text.Split

/-!
# Text in pieces

Splitting a text undoes joining pieces that do not hold the separator (`Text.split_join`), and every
piece of a split is of that kind. A text that can be cut is what stands before the separator, the
separator, and what stands after it (`Text.cut_eq_some_iff`). Trimming leaves text without blanks at
its ends, and leaves such text as it is (`Text.trimmed_trimChars`, `Text.Trimmed.trimChars_eq`). Where
pieces are read one by one, each item that was read belongs to its piece (`mapM_eq_ok_iff`).
-/

namespace PodNet

/-! ### Reading one by one -/

/-- Where all items were read, each was, and everything that was read is of one of them. -/
theorem exists_of_mapM_eq_some {α β : Type} {read : α → Option β} {items : List α} {l : List β}
    (h : items.mapM read = some l) :
    (∀ a ∈ items, ∃ b, read a = some b) ∧ ∀ b ∈ l, ∃ a ∈ items, read a = some b := by
  induction items generalizing l with
  | nil =>
    cases h
    simp
  | cons a items ih =>
    simp only [List.mapM_cons, Option.bind_eq_bind, Option.bind_eq_some_iff] at h
    obtain ⟨b, hb, rest, hrest, heq⟩ := h
    cases heq
    obtain ⟨hitems, hl⟩ := ih hrest
    refine ⟨List.forall_mem_cons.mpr ⟨⟨b, hb⟩, hitems⟩,
      List.forall_mem_cons.mpr ⟨⟨a, List.mem_cons_self, hb⟩, fun d hd => ?_⟩⟩
    exact (hl d hd).imp fun _ h => ⟨List.mem_cons_of_mem _ h.1, h.2⟩

/-- Items are read one by one just if each is, in order. -/
theorem mapM_eq_ok_iff {α β ε : Type} {read : α → Except ε β} {items : List α} {l : List β} :
    items.mapM read = .ok l ↔ List.Forall₂ (fun a b => read a = .ok b) items l := by
  induction items generalizing l with
  | nil =>
    rw [List.mapM_nil, List.forall₂_nil_left_iff]
    constructor
    · intro h
      cases h
      rfl
    · rintro rfl
      rfl
  | cons a items ih =>
    rw [List.mapM_cons, List.forall₂_cons_left_iff]
    cases ha : read a with
    | error f =>
      refine ⟨fun h => ?_, fun ⟨b, rest, hb, _⟩ => by cases hb⟩
      cases h
    | ok b =>
      cases hrest : items.mapM read with
      | error f =>
        refine ⟨fun h => ?_, fun ⟨b, rest, _, h, _⟩ => ?_⟩
        · cases h
        · rw [← ih, hrest] at h
          cases h
      | ok rest =>
        constructor
        · intro h
          cases h
          exact ⟨b, rest, rfl, ih.mp hrest, rfl⟩
        · rintro ⟨b', rest', hb, h, rfl⟩
          rw [← ih, hrest] at h
          cases hb
          cases h
          rfl

/-- Everything that was read is of one of the items. -/
theorem exists_of_mapM_eq_ok {α β ε : Type} {read : α → Except ε β} {items : List α} {l : List β}
    (h : items.mapM read = .ok l) : ∀ b ∈ l, ∃ a ∈ items, read a = .ok b := by
  have hall := mapM_eq_ok_iff.mp h
  clear h
  induction hall with
  | nil => simp
  | cons hread _ ih =>
    refine List.forall_mem_cons.mpr ⟨⟨_, List.mem_cons_self, hread⟩, fun d hd => ?_⟩
    exact (ih d hd).imp fun _ h => ⟨List.mem_cons_of_mem _ h.1, h.2⟩

namespace Text

variable {sep : Char}

theorem not_mem_of_hasChar {s : String} (h : hasChar sep s = false) : sep ∉ s.toList := by
  intro hmem
  have htrue : hasChar sep s = true := List.any_eq_true.mpr ⟨sep, hmem, beq_self_eq_true sep⟩
  rw [h] at htrue
  cases htrue

/-! ### Pieces -/

theorem pieces_cons (sep c : Char) (s : List Char) :
    pieces sep (c :: s) =
      if c = sep then [] :: pieces sep s else (pieces sep s).modifyHead (c :: ·) := by
  rw [pieces, cutAll]
  split <;> rfl

theorem pieces_eq_splitOn (sep : Char) (s : List Char) : pieces sep s = s.splitOn sep := by
  induction s with
  | nil => rfl
  | cons c s ih =>
    rw [pieces_cons, List.splitOn_cons_eq_if_modifyHead, ih]
    by_cases h : c = sep <;> simp [h]

/-- No piece holds the separator. -/
theorem not_mem_of_mem_pieces {s piece : List Char} (h : piece ∈ pieces sep s) : sep ∉ piece := by
  induction s generalizing piece with
  | nil =>
    rw [List.mem_singleton.mp h]
    exact List.not_mem_nil
  | cons c s ih =>
    rw [pieces_cons] at h
    split at h
    · rcases List.mem_cons.mp h with rfl | h
      · exact List.not_mem_nil
      · exact ih h
    · rename_i hc
      rcases List.mem_cons.mp h with rfl | h
      · have hfirst := ih List.mem_cons_self
        rw [List.mem_cons, not_or]
        exact ⟨fun heq => hc heq.symm, hfirst⟩
      · exact ih (List.mem_cons_of_mem _ h)

/-- Every character is a separator or stands in a piece. -/
theorem eq_or_mem_pieces (sep : Char) {s : List Char} {c : Char} (h : c ∈ s) :
    c = sep ∨ ∃ piece ∈ pieces sep s, c ∈ piece := by
  induction s with
  | nil => cases h
  | cons d s ih =>
    rw [pieces_cons]
    rcases List.mem_cons.mp h with rfl | h
    · split
      · exact .inl ‹_›
      · exact .inr ⟨_, List.mem_cons_self, List.mem_cons_self⟩
    · refine (ih h).imp_right fun ⟨piece, hpiece, hc⟩ => ?_
      split
      · exact ⟨piece, List.mem_cons_of_mem _ hpiece, hc⟩
      · rcases List.mem_cons.mp hpiece with rfl | hpiece
        · exact ⟨_, List.mem_cons_self, List.mem_cons_of_mem _ hc⟩
        · exact ⟨piece, List.mem_cons_of_mem _ hpiece, hc⟩

/-- **Splitting undoes joining** pieces that do not hold the separator. -/
theorem split_join {parts : List String} (hne : parts ≠ [])
    (h : ∀ part ∈ parts, sep ∉ part.toList) :
    split sep (join (String.singleton sep) parts) = parts := by
  have hpieces : pieces sep (List.intercalate [sep] (parts.map String.toList)) =
      parts.map String.toList := by
    rw [pieces_eq_splitOn]
    refine List.splitOn_intercalate sep ?_ (by simpa using hne)
    simpa using h
  rw [split, join, String.toList_ofList, String.toList_singleton, hpieces, List.map_map]
  simp [Function.comp_def]

theorem map_toList_split (sep : Char) (s : String) :
    (split sep s).map String.toList = pieces sep s.toList := by
  rw [split, List.map_map]
  simp [Function.comp_def]

/-- **Joining undoes splitting.** -/
theorem join_split (sep : Char) (s : String) : join (String.singleton sep) (split sep s) = s := by
  rw [join, map_toList_split, pieces_eq_splitOn, String.toList_singleton, List.intercalate_splitOn,
    String.ofList_toList]

/-- Every character of joined texts is a separator or stands in one of them. -/
theorem eq_or_mem_of_mem_join (sep : Char) {parts : List String} {c : Char}
    (h : c ∈ (join (String.singleton sep) parts).toList) :
    c = sep ∨ ∃ part ∈ parts, c ∈ part.toList := by
  rw [join, String.toList_ofList, String.toList_singleton] at h
  induction parts with
  | nil => cases h
  | cons part rest ih =>
    cases rest with
    | nil => exact .inr ⟨part, List.mem_cons_self, by simpa using h⟩
    | cons next rest =>
      rw [List.map_cons, List.map_cons, List.intercalate_cons_cons, ← List.map_cons, List.mem_append,
        List.mem_append, List.mem_singleton] at h
      rcases h with (h | h) | h
      · exact .inr ⟨part, List.mem_cons_self, h⟩
      · exact .inl h
      · exact (ih h).imp_right fun ⟨p, hp, hc⟩ => ⟨p, List.mem_cons_of_mem _ hp, hc⟩

/-- A text without the separator is one piece. -/
theorem split_of_hasChar {s : String} (h : hasChar sep s = false) : split sep s = [s] := by
  rw [split, pieces_eq_splitOn, List.splitOn_eq_singleton (not_mem_of_hasChar h),
    List.map_singleton, String.ofList_toList]

/-! ### Cutting -/

theorem cutChars_of_not_mem {s : List Char} (h : sep ∉ s) : cutChars sep s = none := by
  induction s with
  | nil => rfl
  | cons c s ih =>
    rw [List.mem_cons, not_or] at h
    rw [cutChars, ih h.2, if_neg (fun hc => h.1 hc.symm), Option.map_none]

/-- A text without the separator cannot be cut. -/
theorem cut_of_hasChar {s : String} (h : hasChar sep s = false) : cut sep s = none := by
  rw [cut, cutChars_of_not_mem (not_mem_of_hasChar h), Option.map_none]

theorem cutChars_append {before : List Char} (h : sep ∉ before) (after : List Char) :
    cutChars sep (before ++ sep :: after) = some (before, after) := by
  induction before with
  | nil => rw [List.nil_append, cutChars, if_pos rfl]
  | cons c s ih =>
    rw [List.mem_cons, not_or] at h
    rw [List.cons_append, cutChars, if_neg (fun hc => h.1 hc.symm), ih h.2, Option.map_some]

/-- What is cut is put together again, and the separator is not in the first part. -/
theorem of_cutChars {s before after : List Char} (h : cutChars sep s = some (before, after)) :
    s = before ++ sep :: after ∧ sep ∉ before := by
  induction s generalizing before with
  | nil => cases h
  | cons c s ih =>
    rw [cutChars] at h
    split at h
    · rename_i hc
      cases h
      exact ⟨by rw [hc, List.nil_append], List.not_mem_nil⟩
    · rename_i hc
      obtain ⟨⟨b, a⟩, hcut, heq⟩ := Option.map_eq_some_iff.mp h
      cases heq
      obtain ⟨rfl, hnot⟩ := ih hcut
      exact ⟨rfl, by rw [List.mem_cons, not_or]; exact ⟨fun heq => hc heq.symm, hnot⟩⟩

/-- **A text is cut** at the first separator, and at no other place. -/
theorem cut_eq_some_iff {s before after : String} :
    cut sep s = some (before, after) ↔
      s = before ++ String.singleton sep ++ after ∧ hasChar sep before = false := by
  have hchars : s = before ++ String.singleton sep ++ after ↔
      s.toList = before.toList ++ sep :: after.toList := by
    rw [← String.toList_inj]
    simp
  rw [hchars, cut, Option.map_eq_some_iff]
  constructor
  · rintro ⟨⟨b, a⟩, hcut, heq⟩
    cases heq
    obtain ⟨hs, hnot⟩ := of_cutChars hcut
    refine ⟨by simpa using hs, ?_⟩
    rw [hasChar, String.toList_ofList, List.any_eq_false]
    rintro c hc heq
    exact hnot (beq_iff_eq.mp heq ▸ hc)
  · rintro ⟨hs, hnot⟩
    refine ⟨(before.toList, after.toList), ?_, by simp⟩
    rw [hs]
    exact cutChars_append (not_mem_of_hasChar hnot) _

theorem cut_eq_none_iff {s : String} : cut sep s = none ↔ hasChar sep s = false := by
  refine ⟨fun h => ?_, cut_of_hasChar⟩
  rw [← Bool.not_eq_true]
  intro hchar
  obtain ⟨c, hc, heq⟩ := List.any_eq_true.mp hchar
  obtain ⟨before, after, hsplit, hnot⟩ := List.eq_append_cons_of_mem (beq_iff_eq.mp heq ▸ hc)
  rw [cut, hsplit, cutChars_append hnot] at h
  cases h

theorem hasChar_append (c : Char) (s t : String) :
    hasChar c (s ++ t) = (hasChar c s || hasChar c t) := by
  rw [hasChar, String.toList_append, List.any_append, hasChar, hasChar]

/-! ### Occurring -/

/-- A pattern occurs in a text just if it is a piece of it. -/
theorem occurs_iff {pattern s : String} :
    occurs pattern s = true ↔ pattern.toList <:+: s.toList := by
  unfold occurs
  generalize pattern.toList = pattern
  induction s.toList with
  | nil => rw [occursChars, List.isEmpty_iff, List.infix_nil]
  | cons c s ih =>
    rw [occursChars, Bool.or_eq_true, List.isPrefixOf_iff_prefix, ih, List.infix_cons_iff]

/-! ### Blanks at the ends -/

/-- The first character that is there and the last are not blank. -/
structure Trimmed (s : List Char) : Prop where
  head : ∀ c, s.head? = some c → isBlank c = false
  last : ∀ c, s.getLast? = some c → isBlank c = false

theorem dropEnd_eq_rdropWhile (p : Char → Bool) (s : List Char) : dropEnd p s = s.rdropWhile p :=
  rfl

theorem mem_of_mem_trimChars {s : List Char} {c : Char} (h : c ∈ trimChars s) : c ∈ s :=
  (List.dropWhile_suffix isBlank).subset ((List.rdropWhile_prefix isBlank _).subset h)

/-- Trimming leaves all characters that are not blank. -/
theorem mem_trimChars {s : List Char} {c : Char} (h : c ∈ s) (hc : isBlank c = false) :
    c ∈ trimChars s := by
  have hkeep : ∀ {t : List Char}, c ∈ t → c ∈ t.dropWhile isBlank := by
    intro t ht
    rw [← List.takeWhile_append_dropWhile (p := isBlank) (l := t), List.mem_append] at ht
    refine ht.resolve_left fun htake => ?_
    rw [List.mem_takeWhile_imp htake] at hc
    cases hc
  rw [trimChars, dropEnd, List.mem_reverse]
  exact hkeep (List.mem_reverse.mpr (hkeep h))

/-- Trimming leaves no blanks at the ends. -/
theorem trimmed_trimChars (s : List Char) : Trimmed (trimChars s) := by
  rw [trimChars, dropEnd_eq_rdropWhile]
  constructor
  · intro c hc
    obtain ⟨rest, hrest⟩ := List.head?_eq_some_iff.mp hc
    obtain ⟨more, hmore⟩ := List.rdropWhile_prefix isBlank (s.dropWhile isBlank)
    have hfirst := List.head?_dropWhile_not isBlank s
    rwa [← hmore, hrest] at hfirst
  · intro c hc
    obtain ⟨front, hfront⟩ := List.getLast?_eq_some_iff.mp hc
    have hne : (s.dropWhile isBlank).rdropWhile isBlank ≠ [] := by simp [hfront]
    have hlast := List.rdropWhile_last_not isBlank (s.dropWhile isBlank) hne
    simpa [hfront] using hlast

/-- Text without blanks at its ends is left as it is. -/
theorem Trimmed.trimChars_eq {s : List Char} (h : Trimmed s) : trimChars s = s := by
  have hfront : s.dropWhile isBlank = s := by
    cases s with
    | nil => rfl
    | cons c s => rw [List.dropWhile_cons, h.head c rfl, if_neg Bool.false_ne_true]
  have hback : s.rdropWhile isBlank = s := by
    rw [List.rdropWhile_eq_self_iff]
    intro hne
    rw [h.last _ (List.getLast?_eq_some_getLast hne)]
    exact Bool.false_ne_true
  rw [trimChars, hfront, dropEnd_eq_rdropWhile, hback]

/-- **Trimming takes off the blanks around a text** that has none at its ends. -/
theorem Trimmed.trimChars_append {s before after : List Char} (h : Trimmed s)
    (hbefore : ∀ c ∈ before, isBlank c = true) (hafter : ∀ c ∈ after, isBlank c = true) :
    trimChars (before ++ s ++ after) = s := by
  rw [trimChars, List.append_assoc, List.dropWhile_append_of_pos hbefore]
  cases s with
  | nil =>
    rw [List.nil_append, ← List.append_nil after, List.dropWhile_append_of_pos hafter]
    rfl
  | cons c s =>
    have hfront (t : List Char) : (c :: t).dropWhile isBlank = c :: t := by
      rw [List.dropWhile_cons, h.head c rfl, if_neg Bool.false_ne_true]
    have hown := h.trimChars_eq
    rw [trimChars, hfront, dropEnd] at hown
    rw [List.cons_append, hfront, ← List.cons_append, dropEnd, List.reverse_append,
      List.dropWhile_append_of_pos (by simpa using hafter), hown]

theorem trim_trim (s : String) : trim (trim s) = trim s := by
  rw [trim, trim, String.toList_ofList, (trimmed_trimChars s.toList).trimChars_eq]

/-- A separator that is not blank stands in a text just if it stands in what is left of it. -/
theorem hasChar_trim {c : Char} (hc : isBlank c = false) (s : String) :
    hasChar c (trim s) = hasChar c s := by
  rw [Bool.eq_iff_iff, hasChar, hasChar, trim, String.toList_ofList, List.any_beq', List.any_beq',
    List.contains_iff_mem, List.contains_iff_mem]
  exact ⟨mem_of_mem_trimChars, fun h => mem_trimChars h hc⟩

end Text

end PodNet
