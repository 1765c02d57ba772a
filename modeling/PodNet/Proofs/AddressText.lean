import PodNet.Proofs.HardwareAddresses
import PodNet.Subnet

/-!
# The characters of addresses

A subnet that is accepted is written with hexadecimal digits, dots, colons, a slash and a plus sign,
and with nothing else (`Subnet.isAddressChar_of_ofChars?`); a hardware address is written with
hexadecimal digits, dots, colons and hyphens. None of these characters is blank, and none of them is a
semicolon (`Text.IsPlain`), so addresses can be arguments of plugins.
-/

namespace PodNet

/-! ### Plain characters -/

namespace Text

/-- The character is not blank, and it does not end an argument. -/
def IsPlain (c : Char) : Prop :=
  isBlank c = false ∧ c ≠ ';'

end Text

/-- The character stands in an accepted subnet. -/
def Subnet.IsAddressChar (c : Char) : Prop :=
  HardwareAddress.isHexDigit c = true ∨ c = '.' ∨ c = ':' ∨ c = '/' ∨ c = '+'

theorem HardwareAddress.isPlain_of_isHexDigit {c : Char} (h : isHexDigit c = true) :
    Text.IsPlain c := by
  have hplain : digits.all (fun c => !Text.isBlank c && c != ';') = true := by decide
  simpa [Text.IsPlain] using List.all_eq_true.mp hplain c (isHexDigit_iff.mp h)

theorem Subnet.IsAddressChar.isPlain {c : Char} (h : IsAddressChar c) : Text.IsPlain c := by
  rcases h with h | rfl | rfl | rfl | rfl
  · exact HardwareAddress.isPlain_of_isHexDigit h
  all_goals exact ⟨by decide, by decide⟩

/-! ### Digits -/

namespace Text

theorem isSome_of_digitsValue {base : Nat} {digit : Char → Option Nat} {s : List Char} {n : Nat}
    (h : digitsValue base digit s = some n) : ∀ c ∈ s, (digit c).isSome = true := by
  unfold digitsValue at h
  generalize 0 = start at h
  induction s generalizing start with
  | nil => simp
  | cons c s ih =>
    simp only [List.foldlM_cons, Option.bind_eq_bind, Option.bind_eq_some_iff] at h
    obtain ⟨m, hm, hrest⟩ := h
    obtain ⟨d, hd, -⟩ := Option.map_eq_some_iff.mp hm
    exact List.forall_mem_cons.mpr ⟨by rw [hd, Option.isSome_some], ih m hrest⟩

theorem isHexDigit_of_decimalDigit {c : Char} (h : (decimalDigit c).isSome = true) :
    HardwareAddress.isHexDigit c = true := by
  unfold decimalDigit at h
  split at h
  · simp [HardwareAddress.isHexDigit, ‹c.isDigit = true›]
  · cases h

theorem isHexDigit_of_hexDigit {c : Char} (h : (hexDigit c).isSome = true) :
    HardwareAddress.isHexDigit c = true := by
  unfold hexDigit at h
  rw [HardwareAddress.isHexDigit]
  split at h
  · simp [*]
  · split at h
    · simp_all
    · split at h
      · simp_all
      · cases h

/-- What holds of the characters of all pieces that can be read holds of a text of such pieces. -/
theorem forall_mem_of_mapM_pieces {β : Type} {sep : Char} {read : List Char → Option β}
    {P : Char → Prop} (hsep : P sep)
    (hread : ∀ piece v, read piece = some v → ∀ c ∈ piece, P c) {s : List Char} {l : List β}
    (h : (pieces sep s).mapM read = some l) : ∀ c ∈ s, P c := by
  intro c hc
  rcases eq_or_mem_pieces sep hc with rfl | ⟨piece, hpiece, hc⟩
  · exact hsep
  · obtain ⟨v, hv⟩ := (exists_of_mapM_eq_some h).1 piece hpiece
    exact hread piece v hv c hc

end Text

namespace Subnet

/-! ### Addresses -/

theorem isAddressChar_of_octet? {s : List Char} {n : Nat} (h : octet? s = some n) :
    ∀ c ∈ s, IsAddressChar c := by
  unfold octet? at h
  split at h
  · cases h
  · cases h
  · split at h
    · rename_i hvalue
      exact fun c hc => .inl (Text.isHexDigit_of_decimalDigit (Text.isSome_of_digitsValue hvalue c hc))
    · cases h

theorem isAddressChar_of_v4Address? {s : List Char} {n : Nat} (h : v4Address? s = some n) :
    ∀ c ∈ s, IsAddressChar c := by
  unfold v4Address? at h
  split at h
  · rename_i hpieces
    exact Text.forall_mem_of_mapM_pieces (.inr (.inl rfl)) (fun _ _ => isAddressChar_of_octet?)
      hpieces
  · cases h

theorem isAddressChar_of_group? {s : List Char} {n : Nat} (h : group? s = some n) :
    ∀ c ∈ s, IsAddressChar c := by
  unfold group? at h
  split at h
  · cases h
  · exact fun c hc => .inl (Text.isHexDigit_of_hexDigit (Text.isSome_of_digitsValue h c hc))

theorem isAddressChar_of_groups? {l : List (List Char)} {gs : List Nat} (h : groups? l = some gs) :
    ∀ piece ∈ l, ∀ c ∈ piece, IsAddressChar c := by
  induction l using groups?.induct generalizing gs with
  | case1 => simp
  | case2 last n hlast =>
    rintro piece hpiece
    rw [List.mem_singleton.mp hpiece]
    exact isAddressChar_of_v4Address? hlast
  | case3 last hlast =>
    rintro piece hpiece
    rw [List.mem_singleton.mp hpiece]
    rw [groups?, hlast] at h
    obtain ⟨n, hn, -⟩ := Option.map_eq_some_iff.mp h
    exact isAddressChar_of_group? hn
  | case4 p q rest g more hmore hgroup ih =>
    exact List.forall_mem_cons.mpr ⟨isAddressChar_of_group? hgroup, ih hmore⟩
  | case5 p q rest hnone ih =>
    rw [groups?] at h
    split at h
    · exact (hnone _ _ ‹_› ‹_›).elim
    · cases h

theorem isAddressChar_of_colonPieces {s : List Char}
    (h : ∀ piece ∈ colonPieces s, ∀ c ∈ piece, IsAddressChar c) : ∀ c ∈ s, IsAddressChar c := by
  intro c hc
  unfold colonPieces at h
  split at h
  · rename_i hempty
    rw [List.isEmpty_iff.mp hempty] at hc
    cases hc
  · rcases Text.eq_or_mem_pieces ':' hc with rfl | ⟨piece, hpiece, hc⟩
    · exact .inr (.inr (.inl rfl))
    · exact h piece hpiece c hc

theorem of_cutDoubleColon {s front back : List Char} (h : cutDoubleColon s = some (front, back)) :
    s = front ++ ':' :: ':' :: back := by
  induction s using cutDoubleColon.induct generalizing front with
  | case1 rest =>
    cases h
    rfl
  | case2 c rest hne ih =>
    rw [cutDoubleColon] at h
    · obtain ⟨⟨f, b⟩, hcut, heq⟩ := Option.map_eq_some_iff.mp h
      cases heq
      rw [ih hcut, List.cons_append]
    · exact hne
  | case3 => cases h

theorem isAddressChar_of_v6Groups? {s : List Char} {gs : List Nat} (h : v6Groups? s = some gs) :
    ∀ c ∈ s, IsAddressChar c := by
  unfold v6Groups? at h
  split at h
  · split at h
    · rename_i hgroups
      exact isAddressChar_of_colonPieces (isAddressChar_of_groups? hgroups)
    · cases h
  · rename_i front back hcut
    split at h
    · rename_i hfront hback
      have hfrontChars := isAddressChar_of_colonPieces fun piece hpiece =>
        let ⟨_, hgroup⟩ := (exists_of_mapM_eq_some hfront).1 piece hpiece
        isAddressChar_of_group? hgroup
      have hbackChars := isAddressChar_of_colonPieces (isAddressChar_of_groups? hback)
      have hcolon : IsAddressChar ':' := .inr (.inr (.inl rfl))
      rw [of_cutDoubleColon hcut]
      simp only [List.forall_mem_append, List.forall_mem_cons]
      exact ⟨hfrontChars, hcolon, hcolon, hbackChars⟩
    · cases h

theorem isAddressChar_of_v6Address? {s : List Char} {n : Nat} (h : v6Address? s = some n) :
    ∀ c ∈ s, IsAddressChar c := by
  obtain ⟨gs, hgs, -⟩ := Option.map_eq_some_iff.mp h
  exact isAddressChar_of_v6Groups? hgs

/-! ### Lengths -/

theorem isAddressChar_of_length? {s : List Char} {n : Nat} (h : length? s = some n) :
    ∀ c ∈ s, IsAddressChar c := by
  have hdigits {digits : List Char} (h : (if digits.isEmpty then none else
      (Text.digitsValue 10 Text.decimalDigit digits).filter (· ≤ 255)) = some n) :
      ∀ c ∈ digits, IsAddressChar c := by
    split at h
    · cases h
    · obtain ⟨hvalue, -⟩ := Option.filter_eq_some_iff.mp h
      exact fun c hc => .inl (Text.isHexDigit_of_decimalDigit (Text.isSome_of_digitsValue hvalue c hc))
  unfold length? at h
  dsimp only at h
  split at h
  · exact List.forall_mem_cons.mpr ⟨.inr (.inr (.inr (.inr rfl))), hdigits h⟩
  · exact hdigits h

theorem isAddressChar_of_cutLength {s address : List Char} {length : Option (List Char)}
    (h : cutLength s = some (address, length)) (haddress : ∀ c ∈ address, IsAddressChar c)
    (hlength : ∀ l, length = some l → ∀ c ∈ l, IsAddressChar c) : ∀ c ∈ s, IsAddressChar c := by
  unfold cutLength at h
  split at h
  · cases h
    exact haddress
  · rename_i hcut
    split at h
    · cases h
    · cases h
      rw [(Text.of_cutChars hcut).1]
      simp only [List.forall_mem_append, List.forall_mem_cons]
      exact ⟨haddress, .inr (.inr (.inr (.inl rfl))), hlength _ rfl⟩

/-! ### Subnets -/

theorem isAddressChar_of_v4? {s : List Char} {n : Subnet} (h : v4? s = some n) :
    ∀ c ∈ s, IsAddressChar c := by
  simp only [v4?, Option.bind_eq_bind, Option.bind_eq_some_iff] at h
  obtain ⟨⟨address, length⟩, hcut, _, haddress, hread⟩ := h
  refine isAddressChar_of_cutLength hcut (isAddressChar_of_v4Address? haddress) fun l hl => ?_
  simp only [hl] at hread
  split at hread
  · obtain ⟨_, hmask⟩ := Option.isSome_iff_exists.mp ‹_›
    exact isAddressChar_of_v4Address? hmask
  · obtain ⟨_, hlength, -⟩ := Option.bind_eq_some_iff.mp hread
    exact isAddressChar_of_length? hlength

theorem isAddressChar_of_v6? {s : List Char} {n : Subnet} (h : v6? s = some n) :
    ∀ c ∈ s, IsAddressChar c := by
  simp only [v6?, Option.bind_eq_bind, Option.bind_eq_some_iff] at h
  obtain ⟨⟨address, length⟩, hcut, _, haddress, hread⟩ := h
  refine isAddressChar_of_cutLength hcut (isAddressChar_of_v6Address? haddress) fun l hl => ?_
  simp only [hl] at hread
  obtain ⟨_, hlength, -⟩ := Option.bind_eq_some_iff.mp hread
  exact isAddressChar_of_length? hlength

/-- **A subnet that is accepted has the characters of addresses only.** -/
theorem isAddressChar_of_ofChars? {s : List Char} {n : Subnet} (h : ofChars? s = some n) :
    ∀ c ∈ s, IsAddressChar c := by
  rcases Option.or_eq_some_iff.mp h with h | ⟨-, h⟩
  · exact isAddressChar_of_v4? h
  · exact isAddressChar_of_v6? h

end Subnet

/-! ### Hardware addresses -/

theorem HardwareAddress.isPlain_of_isValid {s : String} (h : isValid s = true) :
    ∀ c ∈ s.toList, Text.IsPlain c := by
  have hgroups {sep : Char} {digits : Nat} (hsep : Text.IsPlain sep)
      (h : (Text.pieces sep s.toList).all (isGroup digits) = true) :
      ∀ c ∈ s.toList, Text.IsPlain c := by
    intro c hc
    rcases Text.eq_or_mem_pieces sep hc with rfl | ⟨piece, hpiece, hc⟩
    · exact hsep
    · have hgroup := List.all_eq_true.mp h piece hpiece
      rw [isGroup, Bool.and_eq_true] at hgroup
      exact isPlain_of_isHexDigit (List.all_eq_true.mp hgroup.2 c hc)
  simp only [isValid, isValidChars] at h
  split at h
  · exact hgroups ⟨by decide, by decide⟩ (Bool.and_eq_true _ _ ▸ h).2
  · refine hgroups ?_ (Bool.and_eq_true _ _ ▸ h).2
    split <;> exact ⟨by decide, by decide⟩

end PodNet
