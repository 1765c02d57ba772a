import Mathlib.Data.List.Nodup
import Mathlib.Data.List.Perm.Subperm
import Mathlib.Data.List.Range
import PodNet.Attachment

/-!
# Assigned interfaces

When the interfaces of several requests are assigned, the names that were asked for are checked and
the others are numbered. Numbering remembers that all smaller numbers are used up (`UsedUp`). As
there are only so many names that can use them up, the search for a free number ends at one, and no
number is greater than the number of names. So the assigned names are different from each other
(`nodup_of_assign`) and legal (`isLegal_of_assign`), unless there are so many that a number does not
fit.
-/

namespace PodNet

/-- Texts that end with their number differ. -/
theorem Text.append_toString_injective (s : String) :
    Function.Injective fun n : Nat => s ++ toString n := by
  intro m n h
  have hdigits := congrArg String.toList ((String.append_right_inj s).mp h)
  rw [Nat.toString_eq_repr, Nat.toString_eq_repr, Nat.toList_repr, Nat.toList_repr] at hdigits
  calc m = Nat.ofDigitChars 10 (Nat.toDigits 10 m) 0 := Nat.ofDigitChars_ten_toDigits.symm
    _ = n := by rw [hdigits, Nat.ofDigitChars_ten_toDigits]

namespace InterfaceName

variable {taken wanted names : List String} {next n : Nat} {s : String}

/-! ### Numbered names -/

theorem toList_numbered (n : Nat) :
    (numbered n).toList = 'e' :: 't' :: 'h' :: Nat.toDigits 10 n := by
  rw [numbered, Nat.toString_eq_repr, String.toList_append, Nat.toList_repr]
  rfl

theorem numbered_injective : Function.Injective numbered :=
  Text.append_toString_injective "eth"

theorem isOuter_of_isDigit {c : Char} (h : c.isDigit = true) : isOuter c = true := by
  simp only [Char.isDigit, Bool.and_eq_true, decide_eq_true_eq] at h
  simp only [isOuter, Bool.or_eq_true, Bool.and_eq_true, decide_eq_true_eq]
  exact .inr h

/-- Characters that may stand at an end may stand anywhere. -/
theorem isLegalChars_of_isOuter {s : List Char} (hne : s ≠ []) (hlength : s.length ≤ maxLength)
    (h : ∀ c ∈ s, isOuter c = true) : isLegalChars s = true := by
  cases s with
  | nil => exact absurd rfl hne
  | cons c rest =>
    have hinner : (c :: rest).all isInner = true :=
      List.all_eq_true.mpr fun d hd => by rw [isInner, h d hd, Bool.true_or]
    have hlast : (c :: rest).getLast?.any isOuter = true := by
      rw [List.getLast?_eq_some_getLast hne, Option.any_some]
      exact h _ (List.getLast_mem hne)
    rw [isLegalChars, hinner, hlast, h c List.mem_cons_self, decide_eq_true hlength]
    rfl

/-- A name with a number of at most twelve digits is legal. -/
theorem isLegal_numbered (h : n < 1000000000000) : isLegal (numbered n) = true := by
  have hdigits : (Nat.toDigits 10 n).length ≤ 12 :=
    (Nat.length_toDigits_le_iff (by decide) (by decide)).mpr h
  rw [isLegal, toList_numbered]
  refine isLegalChars_of_isOuter (List.cons_ne_nil _ _) ?_ fun c hc => ?_
  · simp only [List.length_cons, maxLength]
    omega
  · simp only [List.mem_cons] at hc
    rcases hc with rfl | rfl | rfl | hc
    · decide
    · decide
    · decide
    · exact isOuter_of_isDigit (Nat.isDigit_of_mem_toDigits (by decide) (by decide) hc)

/-! ### The smallest free number -/

/-- **The numbers below are used up**: each of their names is taken. -/
def UsedUp (taken : List String) (n : Nat) : Prop :=
  ∀ m < n, numbered m ∈ taken

theorem usedUp_zero (taken : List String) : UsedUp taken 0 := fun _ h => absurd h (Nat.not_lt_zero _)

theorem UsedUp.succ (h : UsedUp taken n) (hn : numbered n ∈ taken) : UsedUp taken (n + 1) := by
  intro m hm
  rcases Nat.lt_succ_iff_lt_or_eq.mp hm with hm | rfl
  · exact h m hm
  · exact hn

theorem UsedUp.cons (h : UsedUp taken n) (s : String) : UsedUp (s :: taken) n :=
  fun m hm => List.mem_cons_of_mem _ (h m hm)

/-- No more numbers are used up than names are taken. -/
theorem UsedUp.le_length (h : UsedUp taken n) : n ≤ taken.length := by
  have hnodup : ((List.range n).map numbered).Nodup := List.nodup_range.map numbered_injective
  have hsubset : (List.range n).map numbered ⊆ taken := by
    intro s hs
    obtain ⟨m, hm, rfl⟩ := List.mem_map.mp hs
    exact h m (List.mem_range.mp hm)
  simpa using (hnodup.subperm hsubset).length_le

/-- The numbers below the one that is found are used up, and it is free unless the search gave up. -/
theorem firstFree_spec (taken : List String) (fuel : Nat) (h : UsedUp taken n) :
    UsedUp taken (firstFree taken fuel n) ∧
      (numbered (firstFree taken fuel n) ∈ taken → firstFree taken fuel n = n + fuel) := by
  induction fuel generalizing n with
  | zero => exact ⟨h, fun _ => rfl⟩
  | succ fuel ih =>
    rw [firstFree]
    split
    · rename_i htaken
      obtain ⟨hused, hfree⟩ := ih (h.succ (List.contains_iff_mem.mp htaken))
      exact ⟨hused, fun hmem => by rw [hfree hmem]; omega⟩
    · rename_i hfree
      exact ⟨h, fun hmem => absurd (List.contains_iff_mem.mpr hmem) hfree⟩

/-- A free number is found, as there are not enough names to use up all that are tried. -/
theorem numbered_firstFree_not_mem (h : UsedUp taken n) :
    numbered (firstFree taken taken.length n) ∉ taken := by
  intro hmem
  obtain ⟨hused, hfree⟩ := firstFree_spec taken taken.length h
  have hlength := (hused.succ hmem).le_length
  rw [hfree hmem] at hlength
  omega

/-! ### Filling in -/

theorem length_fill (taken : List String) (next : Nat) (wanted : List String) :
    (fill taken next wanted).length = wanted.length := by
  induction wanted generalizing taken next with
  | nil => rfl
  | cons s rest ih =>
    rw [fill]
    split
    · rw [List.length_cons, List.length_cons, ih]
    · rw [List.length_cons, List.length_cons, ih]

/-- A name that was filled in was asked for, or it was free and has a small number. -/
theorem of_mem_fill (h : UsedUp taken next) (hs : s ∈ fill taken next wanted) :
    (s ∈ wanted ∧ s ≠ "") ∨
      (s ∉ taken ∧ ∃ n < taken.length + wanted.length, s = numbered n) := by
  induction wanted generalizing taken next with
  | nil => cases hs
  | cons w rest ih =>
    rw [fill] at hs
    split at hs
    · have hused := (firstFree_spec taken taken.length h).1
      have hlength := hused.le_length
      rcases List.mem_cons.mp hs with rfl | hs
      · refine .inr ⟨numbered_firstFree_not_mem h, _, ?_, rfl⟩
        rw [List.length_cons]
        omega
      · rcases ih (hused.cons _) hs with ⟨hmem, hne⟩ | ⟨hfree, n, hn, rfl⟩
        · exact .inl ⟨List.mem_cons_of_mem _ hmem, hne⟩
        · refine .inr ⟨fun hmem => hfree (List.mem_cons_of_mem _ hmem), n, ?_, rfl⟩
          rw [List.length_cons] at hn ⊢
          omega
    · rename_i hne
      rcases List.mem_cons.mp hs with rfl | hs
      · exact .inl ⟨List.mem_cons_self, hne⟩
      · rcases ih h hs with ⟨hmem, hne⟩ | ⟨hfree, n, hn, rfl⟩
        · exact .inl ⟨List.mem_cons_of_mem _ hmem, hne⟩
        · exact .inr ⟨hfree, n, by rw [List.length_cons]; omega, rfl⟩

/-- Names are different after filling in, when those that were asked for are different and taken. -/
theorem nodup_fill (h : UsedUp taken next) (hnamed : ∀ s ∈ wanted, s ≠ "" → s ∈ taken)
    (hnodup : (wanted.filter (· != "")).Nodup) : (fill taken next wanted).Nodup := by
  induction wanted generalizing taken next with
  | nil => exact .nil
  | cons w rest ih =>
    rw [List.forall_mem_cons] at hnamed
    rw [fill]
    split
    · rename_i hblank
      have hrest : (rest.filter (· != "")).Nodup := by simpa [hblank] using hnodup
      have hused := (firstFree_spec taken taken.length h).1
      refine List.nodup_cons.mpr ⟨fun hmem => ?_, ?_⟩
      · rcases of_mem_fill (hused.cons _) hmem with ⟨hmem, hne⟩ | ⟨hfree, -⟩
        · exact numbered_firstFree_not_mem h (hnamed.2 _ hmem hne)
        · exact hfree List.mem_cons_self
      · exact ih (hused.cons _) (fun s hs hne => List.mem_cons_of_mem _ (hnamed.2 s hs hne)) hrest
    · rename_i hne
      have hcons : w ∉ rest.filter (· != "") ∧ (rest.filter (· != "")).Nodup := by
        simpa [hne] using hnodup
      refine List.nodup_cons.mpr ⟨fun hmem => ?_, ih h hnamed.2 hcons.2⟩
      rcases of_mem_fill h hmem with ⟨hmem, -⟩ | ⟨hfree, -⟩
      · exact hcons.1 (List.mem_filter.mpr ⟨hmem, by simpa using hne⟩)
      · exact hfree (hnamed.1 hne)

/-! ### Assigning -/

/-- The names that were asked for are accepted if they are legal and different. -/
theorem checkAll_eq_ok_iff {seen names : List String} :
    checkAll seen names = .ok () ↔ (∀ s ∈ names, isLegal s = true ∧ s ∉ seen) ∧ names.Nodup := by
  induction names generalizing seen with
  | nil => simp [checkAll]
  | cons s rest ih =>
    rw [checkAll, check, List.forall_mem_cons, List.nodup_cons]
    by_cases hlegal : isLegal s = true
    · by_cases hseen : s ∈ seen
      · simp [hlegal, hseen]
      · rw [if_pos hlegal]
        dsimp only
        rw [if_neg (by simpa using hseen), ih]
        constructor
        · rintro ⟨hrest, hnodup⟩
          refine ⟨⟨⟨hlegal, hseen⟩, fun t ht => ⟨(hrest t ht).1, fun hmem => ?_⟩⟩, fun hmem => ?_,
            hnodup⟩
          · exact (hrest t ht).2 (List.mem_cons_of_mem _ hmem)
          · exact (hrest s hmem).2 List.mem_cons_self
        · rintro ⟨⟨-, hrest⟩, hs, hnodup⟩
          refine ⟨fun t ht => ⟨(hrest t ht).1, fun hmem => ?_⟩, hnodup⟩
          rcases List.mem_cons.mp hmem with rfl | hmem
          · exact hs ht
          · exact (hrest t ht).2 hmem
    · simp [hlegal]

/-- What assigning does when it succeeds. -/
theorem of_assign (h : assign wanted = .ok names) :
    (∀ s ∈ wanted, s ≠ "" → isLegal s = true) ∧ (wanted.filter (· != "")).Nodup ∧
      names = fill (wanted.filter (· != "")) 0 wanted := by
  rw [assign] at h
  split at h
  · cases h
  · rename_i hcheck
    cases h
    obtain ⟨hlegal, hnodup⟩ := checkAll_eq_ok_iff.mp hcheck
    refine ⟨fun s hs hne => (hlegal s ?_).1, hnodup, rfl⟩
    exact List.mem_filter.mpr ⟨hs, by simpa using hne⟩

theorem length_of_assign (h : assign wanted = .ok names) : names.length = wanted.length := by
  obtain ⟨-, -, rfl⟩ := of_assign h
  exact length_fill _ _ _

/-- **Assigned names are different from each other.** -/
theorem nodup_of_assign (h : assign wanted = .ok names) : names.Nodup := by
  obtain ⟨-, hnodup, rfl⟩ := of_assign h
  refine nodup_fill (usedUp_zero _) (fun s hs hne => ?_) hnodup
  exact List.mem_filter.mpr ⟨hs, by simpa using hne⟩

/-- **Assigned names are legal.** -/
theorem isLegal_of_assign (h : assign wanted = .ok names) (few : wanted.length < 0x80000000) :
    ∀ s ∈ names, isLegal s = true := by
  obtain ⟨hlegal, -, rfl⟩ := of_assign h
  intro s hs
  rcases of_mem_fill (usedUp_zero _) hs with ⟨hmem, hne⟩ | ⟨-, n, hn, rfl⟩
  · exact hlegal s hmem hne
  · have hfilter := List.length_filter_le (· != "") wanted
    exact isLegal_numbered (by omega)

end InterfaceName

namespace AttachmentRequest

variable {requests assigned : List AttachmentRequest}

/-- Assigning sets the interfaces, and leaves the sources alone. -/
theorem of_assign (h : assign requests = .ok assigned) :
    InterfaceName.assign (requests.map (·.interface)) = .ok (assigned.map (·.interface)) ∧
      assigned.map (·.source) = requests.map (·.source) := by
  rw [assign] at h
  cases hnames : InterfaceName.assign (requests.map (·.interface)) with
  | error f => rw [hnames] at h; cases h
  | ok names =>
    rw [hnames] at h
    cases h
    have hlength : names.length = requests.length := by
      simpa using InterfaceName.length_of_assign hnames
    refine ⟨congrArg Except.ok (List.ext_getElem ?_ ?_), List.ext_getElem ?_ ?_⟩ <;> simp [hlength]

end AttachmentRequest

end PodNet
