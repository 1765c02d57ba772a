import PodNet.HardwareAddress
import PodNet.Proofs.Pieces

/-!
# The grammar of hardware addresses

A hardware address is groups of hexadecimal digits with one separator between neighbours: 6, 8 or 20
groups of two with colons, as many with hyphens, or 3, 4 or 10 groups of four with dots (`Grouped`).
The program does not try these one after the other. It takes the separator from what stands anywhere
in the text, and splits the text there. This is the same (`isValid_iff_grouped`): what is split can be
joined again, and a text in groups holds no other separator than its own, which it always holds.
-/

namespace PodNet.HardwareAddress

variable {sep : Char} {size : Nat} {counts : List Nat} {s : String}

/-! ### Groups -/

/-- The hexadecimal digits. -/
def digits : List Char := "0123456789abcdefABCDEF".toList

/-- **The text is in groups**: so many of them as one of the counts says, of hexadecimal digits, all of
one size, and joined with a separator. -/
def Grouped (sep : Char) (size : Nat) (counts : List Nat) (s : String) : Prop :=
  ∃ groups : List String, groups.length ∈ counts ∧
    (∀ group ∈ groups, group.length = size ∧ ∀ c ∈ group.toList, c ∈ digits) ∧
    s = Text.join (String.singleton sep) groups

theorem isHexDigit_iff {c : Char} : isHexDigit c = true ↔ c ∈ digits := by
  constructor
  · intro h
    have hrange : (0x30 ≤ c.toNat ∧ c.toNat ≤ 0x39 ∨ 0x61 ≤ c.toNat ∧ c.toNat ≤ 0x66) ∨
        0x41 ≤ c.toNat ∧ c.toNat ≤ 0x46 := by
      simp only [isHexDigit, Bool.or_eq_true, Bool.and_eq_true, decide_eq_true_eq,
        Char.isDigit_iff_toNat, Char.le_def, UInt32.le_iff_toNat_le] at h
      exact h
    have hcodes : digits.map Char.toNat =
        (List.range' 0x30 10 ++ List.range' 0x61 6) ++ List.range' 0x41 6 := by decide
    have hcode : c.toNat ∈ digits.map Char.toNat := by
      rw [hcodes]
      simp only [List.mem_append, List.mem_range'_1]
      omega
    obtain ⟨d, hd, heq⟩ := List.mem_map.mp hcode
    exact Char.toNat_inj.mp heq ▸ hd
  · have hall : digits.all isHexDigit = true := by decide
    exact List.all_eq_true.mp hall c

theorem isGroup_toList_iff {group : String} :
    isGroup size group.toList = true ↔ group.length = size ∧ ∀ c ∈ group.toList, c ∈ digits := by
  rw [isGroup, Bool.and_eq_true, beq_iff_eq, String.length_toList, List.all_eq_true]
  simp only [isHexDigit_iff]

/-- **Splitting finds the groups**, where the separator is no digit. -/
theorem grouped_iff (hsep : sep ∉ digits) (hcounts : 0 ∉ counts) :
    Grouped sep size counts s ↔ (counts.contains (Text.pieces sep s.toList).length &&
      (Text.pieces sep s.toList).all (isGroup size)) = true := by
  rw [Bool.and_eq_true, List.contains_iff_mem, ← Text.map_toList_split, List.length_map,
    List.all_map, List.all_eq_true]
  simp only [Function.comp_apply, isGroup_toList_iff]
  constructor
  · rintro ⟨groups, hcount, hgroups, rfl⟩
    have hne : groups ≠ [] := by
      rintro rfl
      exact hcounts hcount
    rw [Text.split_join hne fun group hgroup hmem => hsep ((hgroups group hgroup).2 sep hmem)]
    exact ⟨hcount, hgroups⟩
  · rintro ⟨hcount, hgroups⟩
    exact ⟨_, hcount, hgroups, (Text.join_split sep s).symm⟩

/-! ### Separators -/

/-- A text in groups holds digits and its separator, and nothing else. -/
theorem Grouped.eq_or_mem (h : Grouped sep size counts s) : ∀ c ∈ s.toList, c = sep ∨ c ∈ digits := by
  obtain ⟨groups, -, hgroups, rfl⟩ := h
  intro c hc
  exact (Text.eq_or_mem_of_mem_join sep hc).imp_right fun ⟨group, hgroup, hc⟩ =>
    (hgroups group hgroup).2 c hc

/-- A text in several groups holds its separator. -/
theorem Grouped.mem (h : Grouped sep size counts s) (hsep : sep ∉ digits) (hcounts : 0 ∉ counts)
    (hseveral : 1 ∉ counts) : sep ∈ s.toList := by
  by_contra hmem
  have hcount := ((Bool.and_eq_true _ _).mp ((grouped_iff hsep hcounts).mp h)).1
  rw [Text.pieces_eq_splitOn, List.splitOn_eq_singleton hmem, List.contains_iff_mem] at hcount
  exact hseveral hcount

/-- A text in groups holds no other separator. -/
theorem Grouped.not_mem (h : Grouped sep size counts s) {c : Char} (hne : c ≠ sep)
    (hdigit : c ∉ digits) : c ∉ s.toList :=
  fun hc => (h.eq_or_mem c hc).elim hne hdigit

/-- **A text is a hardware address just if it is 6, 8 or 20 groups of two hexadecimal digits with
colons, or with hyphens, or 3, 4 or 10 groups of four with dots.** So it holds hexadecimal digits and
one kind of separator only. -/
theorem isValid_iff_grouped (s : String) :
    (isValid s = true ↔ Grouped ':' 2 [6, 8, 20] s ∨ Grouped '-' 2 [6, 8, 20] s ∨
      Grouped '.' 4 [3, 4, 10] s) ∧
    (isValid s = true → ∃ sep ∈ [':', '-', '.'], ∀ c ∈ s.toList, c = sep ∨ c ∈ digits) := by
  have hvalid : isValid s = true ↔ Grouped ':' 2 [6, 8, 20] s ∨ Grouped '-' 2 [6, 8, 20] s ∨
      Grouped '.' 4 [3, 4, 10] s := by
    unfold isValid isValidChars
    by_cases hdot : '.' ∈ s.toList
    · have hcolons : ¬Grouped ':' 2 [6, 8, 20] s := fun h => h.not_mem (by decide) (by decide) hdot
      have hhyphens : ¬Grouped '-' 2 [6, 8, 20] s := fun h => h.not_mem (by decide) (by decide) hdot
      rw [if_pos (List.contains_iff_mem.mpr hdot), or_iff_right hcolons, or_iff_right hhyphens]
      exact (grouped_iff (by decide) (by decide)).symm
    · have hdots : ¬Grouped '.' 4 [3, 4, 10] s :=
        fun h => hdot (h.mem (by decide) (by decide) (by decide))
      rw [if_neg (fun h => hdot (List.contains_iff_mem.mp h)), or_iff_left hdots]
      by_cases hcolon : ':' ∈ s.toList
      · have hhyphens : ¬Grouped '-' 2 [6, 8, 20] s :=
          fun h => h.not_mem (by decide) (by decide) hcolon
        rw [if_pos (List.contains_iff_mem.mpr hcolon), or_iff_left hhyphens]
        exact (grouped_iff (by decide) (by decide)).symm
      · have hcolons : ¬Grouped ':' 2 [6, 8, 20] s :=
          fun h => hcolon (h.mem (by decide) (by decide) (by decide))
        rw [if_neg (fun h => hcolon (List.contains_iff_mem.mp h)), or_iff_right hcolons]
        exact (grouped_iff (by decide) (by decide)).symm
  refine ⟨hvalid, fun h => ?_⟩
  rcases hvalid.mp h with h | h | h
  · exact ⟨':', by simp, h.eq_or_mem⟩
  · exact ⟨'-', by simp, h.eq_or_mem⟩
  · exact ⟨'.', by simp, h.eq_or_mem⟩

/-- Groups of four with dots are accepted, and hold one kind of separator. -/
theorem isValid_iff_grouped_dots :
    Grouped '.' 4 [3, 4, 10] "0000.5E00.5301" ∧ isValid "0000.5E00.5301" = true ∧
      ∃ sep ∈ [':', '-', '.'], ∀ c ∈ "0000.5E00.5301".toList, c = sep ∨ c ∈ digits := by
  have hgroups : Grouped '.' 4 [3, 4, 10] "0000.5E00.5301" := by
    refine ⟨["0000", "5E00", "5301"], by decide, ?_, by decide⟩
    simp only [← isGroup_toList_iff]
    decide
  have hvalid := (isValid_iff_grouped "0000.5E00.5301").1.mpr (.inr (.inr hgroups))
  exact ⟨hgroups, hvalid, (isValid_iff_grouped _).2 hvalid⟩

end PodNet.HardwareAddress
