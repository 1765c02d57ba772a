import PodNet.Subnet

/-!
# Subnets as blocks of addresses

The addresses of a subnet are one block: those with its network part. A shorter network part makes a
larger block, and larger blocks are made up of smaller ones, so two blocks are nested or have no
address in common. That is why comparing network parts decides containment (`mem_of_contains`) and
overlap (`overlaps_of_mem`), whatever host parts the addresses are written with.

The range of a subnet is said by bits as well (`Spans`): its addresses agree with its own one from the
host part upwards. Containment is inclusion of the ranges (`contains_iff`), and overlap is a common
address (`overlaps_iff`).
-/

namespace PodNet.Subnet

variable {a b inner outer : Subnet} {family : Family} {x y : Nat}

theorem blockSize_pos (n : Subnet) : 0 < n.blockSize := by
  rw [blockSize, Nat.pow_eq]
  exact Nat.two_pow_pos _

theorem hasAddress_iff (n : Subnet) (x : Nat) :
    n.hasAddress x = true ↔ x / n.blockSize = n.address / n.blockSize := by
  rw [hasAddress, beq_iff_eq]

/-- The first address has the network part of the subnet. -/
theorem network_div (n : Subnet) : n.network / n.blockSize = n.address / n.blockSize := by
  rw [network, Nat.mul_div_cancel _ n.blockSize_pos]

/-- A shorter network part makes a block of whole smaller blocks. -/
theorem blockSize_dvd (hfamily : outer.family = inner.family) (hlength : outer.length ≤ inner.length) :
    inner.blockSize ∣ outer.blockSize := by
  rw [blockSize, blockSize, Nat.pow_eq, Nat.pow_eq, hfamily]
  exact Nat.pow_dvd_pow 2 (Nat.sub_le_sub_left hlength _)

/-- Addresses of one block lie in one larger block. -/
theorem div_eq_of_dvd {d e : Nat} (h : d ∣ e) (hxy : x / d = y / d) : x / e = y / e := by
  obtain ⟨k, rfl⟩ := h
  rw [← Nat.div_div_eq_div_mul, ← Nat.div_div_eq_div_mul, hxy]

/-- The larger of two blocks has all addresses of the smaller one, or none. -/
theorem hasAddress_network_iff (hfamily : outer.family = inner.family)
    (hlength : outer.length ≤ inner.length) (hx : inner.hasAddress x = true) :
    outer.hasAddress inner.network = true ↔ outer.hasAddress x = true := by
  have hsame : x / inner.blockSize = inner.network / inner.blockSize := by
    rw [network_div, ← hasAddress_iff, hx]
  rw [hasAddress_iff, hasAddress_iff, div_eq_of_dvd (blockSize_dvd hfamily hlength) hsame]

/-- **A subnet that another one contains has no address outside of it.** -/
theorem mem_of_contains (h : outer.contains inner = true) (hx : inner.mem family x) :
    outer.mem family x := by
  rw [contains, Bool.and_eq_true, Bool.and_eq_true, beq_iff_eq, decide_eq_true_eq] at h
  obtain ⟨⟨hfamily, hlength⟩, hnetwork⟩ := h
  obtain ⟨rfl, hrange, hx⟩ := hx
  exact ⟨hfamily.symm, hrange, (hasAddress_network_iff hfamily hlength hx).mp hnetwork⟩

/-- **Subnets with a common address overlap.** -/
theorem overlaps_of_mem (ha : a.mem family x) (hb : b.mem family x) : a.overlaps b = true := by
  obtain ⟨hfamily, -, hxa⟩ := ha
  obtain ⟨hfamily', -, hxb⟩ := hb
  have hsame : a.family = b.family := hfamily.symm.trans hfamily'
  rw [overlaps, Bool.and_eq_true, beq_iff_eq, Bool.or_eq_true]
  refine ⟨hsame, ?_⟩
  rcases Nat.le_total a.length b.length with h | h
  · exact .inl ((hasAddress_network_iff hsame h hxb).mpr hxa)
  · exact .inr ((hasAddress_network_iff hsame.symm h hxa).mpr hxb)

/-! ### Ranges -/

/-- The number of bits of the host part. -/
def hostBits (n : Subnet) : Nat :=
  n.family.bits - n.length

/-- The address lies in the range of the subnet: it is no longer than an address of the family, and
from the host part upwards its bits are those of the subnet's own address. -/
def Spans (n : Subnet) (x : Nat) : Prop :=
  x < Nat.pow 2 n.family.bits ∧ ∀ i, n.hostBits ≤ i → x.testBit i = n.address.testBit i

theorem div_two_pow_eq_iff {k : Nat} :
    x / Nat.pow 2 k = y / Nat.pow 2 k ↔ ∀ i, k ≤ i → x.testBit i = y.testBit i := by
  rw [Nat.pow_eq]
  constructor
  · intro h i hi
    have hbit : (x / 2 ^ k).testBit (i - k) = (y / 2 ^ k).testBit (i - k) := by rw [h]
    rwa [Nat.testBit_div_two_pow, Nat.testBit_div_two_pow, Nat.sub_add_cancel hi] at hbit
  · intro h
    refine Nat.eq_of_testBit_eq fun i => ?_
    rw [Nat.testBit_div_two_pow, Nat.testBit_div_two_pow]
    exact h (i + k) (Nat.le_add_left k i)

/-- Sharing the network part is to agree in all its bits. -/
theorem spans_iff_mem (n : Subnet) (x : Nat) : n.Spans x ↔ n.mem n.family x := by
  rw [Spans, mem, hasAddress_iff, blockSize, div_two_pow_eq_iff, hostBits]
  exact (and_iff_right rfl).symm

/-- The first address has the network part of the subnet, and no bit set in its host part. -/
theorem testBit_network (n : Subnet) (i : Nat) :
    n.network.testBit i = (decide (n.hostBits ≤ i) && n.address.testBit i) := by
  rw [network, blockSize, Nat.pow_eq, Nat.testBit_mul_two_pow, Nat.testBit_div_two_pow, ← hostBits]
  by_cases hi : n.hostBits ≤ i
  · rw [Nat.sub_add_cancel hi]
  · simp [hi]

theorem network_le (n : Subnet) : n.network ≤ n.address :=
  Nat.div_mul_le_self _ _

theorem spans_address (n : Subnet) : n.Spans n.address :=
  ⟨n.address_lt, fun _ _ => rfl⟩

theorem spans_network (n : Subnet) : n.Spans n.network := by
  refine ⟨Nat.lt_of_le_of_lt n.network_le n.address_lt, fun i hi => ?_⟩
  rw [testBit_network, decide_eq_true hi, Bool.true_and]

/-- The other address that differs in one bit of the host part. -/
theorem spans_flip {n : Subnet} {i : Nat} (hi : i < n.hostBits) :
    n.Spans (n.address ^^^ Nat.pow 2 i) := by
  have hbits : i < n.family.bits := Nat.lt_of_lt_of_le hi (Nat.sub_le _ _)
  refine ⟨Nat.xor_lt_two_pow n.address_lt (Nat.pow_lt_pow_right (by decide) hbits), fun j hj => ?_⟩
  have hne : i ≠ j := Nat.ne_of_lt (Nat.lt_of_lt_of_le hi hj)
  rw [Nat.testBit_xor, Nat.pow_eq, Nat.testBit_two_pow_of_ne hne, Bool.xor_false]

/-- A subnet whose range is within that of another one has at least as long a network part. -/
theorem length_le_of_forall_spans (hfamily : a.family = b.family)
    (h : ∀ x, b.Spans x → a.Spans x) : a.length ≤ b.length := by
  refine Nat.le_of_not_lt fun hlt => ?_
  have hhost : a.hostBits < b.hostBits := by
    have hle := a.length_le
    rw [hostBits, hostBits, ← hfamily]
    omega
  -- the last bit of the network part of the one is free in the other
  have hown := (h _ b.spans_address).2 a.hostBits (Nat.le_refl _)
  have hflipped := (h _ (spans_flip hhost)).2 a.hostBits (Nat.le_refl _)
  rw [Nat.testBit_xor, hown, Nat.pow_eq, Nat.testBit_two_pow_self, Bool.xor_true] at hflipped
  exact (Bool.eq_not_self _).mp hflipped.symm

/-- **A subnet contains another one if and only if** they are of one family and it has all addresses
of the other. -/
theorem contains_iff :
    a.contains b = true ↔ a.family = b.family ∧ ∀ x, b.Spans x → a.Spans x := by
  constructor
  · intro h
    have hfamily : a.family = b.family := by
      rw [contains, Bool.and_eq_true, Bool.and_eq_true, beq_iff_eq] at h
      exact h.1.1
    refine ⟨hfamily, fun x hx => ?_⟩
    rw [spans_iff_mem] at hx ⊢
    rw [hfamily]
    exact mem_of_contains h hx
  · rintro ⟨hfamily, h⟩
    have hnetwork := ((a.spans_iff_mem _).mp (h _ b.spans_network)).2.2
    rw [contains, hnetwork, Bool.and_true, Bool.and_eq_true, beq_iff_eq, decide_eq_true_eq]
    exact ⟨hfamily, length_le_of_forall_spans hfamily h⟩

/-- Of two subnets with a common address, the one with the shorter network part contains the other. -/
theorem contains_of_common (hfamily : outer.family = inner.family)
    (hlength : outer.length ≤ inner.length) (hinner : inner.Spans x) (houter : outer.Spans x) :
    outer.contains inner = true := by
  have hx := ((inner.spans_iff_mem x).mp hinner).2.2
  have hnetwork := (hasAddress_network_iff hfamily hlength hx).mpr
    ((outer.spans_iff_mem x).mp houter).2.2
  rw [contains, hnetwork, Bool.and_true, Bool.and_eq_true, beq_iff_eq, decide_eq_true_eq]
  exact ⟨hfamily, hlength⟩

/-- **Subnets overlap if and only if** they are of one family and have an address in common. -/
theorem overlaps_iff :
    a.overlaps b = true ↔ a.family = b.family ∧ ∃ x, a.Spans x ∧ b.Spans x := by
  constructor
  · intro h
    rw [overlaps, Bool.and_eq_true, beq_iff_eq, Bool.or_eq_true] at h
    obtain ⟨hfamily, h | h⟩ := h
    · refine ⟨hfamily, b.network, ?_, b.spans_network⟩
      rw [spans_iff_mem, hfamily]
      exact ⟨hfamily.symm, b.spans_network.1, h⟩
    · refine ⟨hfamily, a.network, a.spans_network, ?_⟩
      rw [spans_iff_mem, ← hfamily]
      exact ⟨hfamily, a.spans_network.1, h⟩
  · rintro ⟨hfamily, x, ha, hb⟩
    rw [spans_iff_mem] at ha hb
    rw [hfamily] at ha
    exact overlaps_of_mem ha hb

/-- Subnets overlap if and only if one of them contains the other. -/
theorem overlaps_iff_contains :
    a.overlaps b = true ↔ a.contains b = true ∨ b.contains a = true := by
  rw [overlaps_iff]
  constructor
  · rintro ⟨hfamily, x, ha, hb⟩
    rcases Nat.le_total a.length b.length with hle | hle
    · exact .inl (contains_of_common hfamily hle hb ha)
    · exact .inr (contains_of_common hfamily.symm hle ha hb)
  · rintro (h | h)
    · obtain ⟨hfamily, hall⟩ := contains_iff.mp h
      exact ⟨hfamily, b.network, hall _ b.spans_network, b.spans_network⟩
    · obtain ⟨hfamily, hall⟩ := contains_iff.mp h
      exact ⟨hfamily.symm, a.network, a.spans_network, hall _ a.spans_network⟩

/-- **What the checks of subnets say**, whatever host parts the subnets are written with: one contains
another if and only if they are of one family and it has every address of the other, and they overlap
if and only if they are of one family and have an address in common. So overlapping is symmetric, and
it is for one subnet to contain the other. -/
theorem checks_compare_ranges (a b : Subnet) :
    (a.contains b = true ↔ a.family = b.family ∧ ∀ x, b.Spans x → a.Spans x) ∧
    (a.overlaps b = true ↔ a.family = b.family ∧ ∃ x, a.Spans x ∧ b.Spans x) ∧
    a.overlaps b = b.overlaps a ∧
    (a.overlaps b = true ↔ a.contains b = true ∨ b.contains a = true) := by
  have hcomm : a.overlaps b = b.overlaps a := by
    rw [Bool.eq_iff_iff, overlaps_iff_contains, overlaps_iff_contains, or_comm]
  exact ⟨contains_iff, overlaps_iff, hcomm, overlaps_iff_contains⟩

end PodNet.Subnet
