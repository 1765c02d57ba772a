import PodNet.Proofs.Json.Strings

/-!
# Integers that are written are read back

An integer of 64 bits is written in decimal, after its sign. Reading takes all digits that follow
each other, so it matters what comes after a number: where a document is written, that is a comma, a
closing bracket or a new line, or nothing at all (`Delimited`). Then the number is read as the
integer (`readToken_number`). Numbers that are no integers are left out here.
-/

namespace PodNet

/-- The number is an integer, between `-2 ^ 63` and `2 ^ 64 - 1`. -/
def Number.Exact : Number → Prop
  | .int n => -0x8000000000000000 ≤ n ∧ n < 0x10000000000000000
  | .float _ => False

namespace Json

open Bytes (ofChars)

/-- **Nothing that could belong to a number follows**: the document ends, or there is a comma, a
closing bracket or a new line. -/
def Delimited (rest : Bytes) : Prop :=
  ∀ b, rest.head? = some b → b ∈ [0x2c, 0x5d, 0x7d, 0x0a]

variable {rest : Bytes} {ds : List Char} {n : Nat}

theorem delimited_nil : Delimited [] := by
  intro b hb
  cases hb

theorem delimited_cons {b : UInt8} (h : b ∈ [0x2c, 0x5d, 0x7d, 0x0a]) (rest : Bytes) :
    Delimited (b :: rest) := by
  intro b' hb'
  cases hb'
  exact h

/-- The first byte is a comma, a closing bracket or a new line. -/
theorem Delimited.first {b : UInt8} (h : Delimited (b :: rest)) :
    b = 0x2c ∨ b = 0x5d ∨ b = 0x7d ∨ b = 0x0a := by
  simpa only [List.mem_cons, List.not_mem_nil, or_false] using h b rfl

/-! ### Digits -/

theorem ofChars_of_isDigit {c : Char} (h : c.isDigit = true) :
    ofChars [c] = [UInt8.ofNat c.toNat] ∧ isDigit (UInt8.ofNat c.toNat) = true ∧
      (UInt8.ofNat c.toNat).toNat = c.toNat := by
  simp only [Char.isDigit, Bool.and_eq_true, decide_eq_true_eq, UInt32.le_iff_toNat_le] at h
  have hle : 0x30 ≤ c.toNat ∧ c.toNat ≤ 0x39 := h
  have hnat : (UInt8.ofNat c.toNat).toNat = c.toNat :=
    UInt8.toNat_ofNat_of_lt' (Nat.lt_of_le_of_lt hle.2 (by decide))
  refine ⟨?_, ?_, hnat⟩
  · rw [Bytes.ofChars_cons, Bytes.ofChars_nil, List.append_nil, Bytes.encodeChar_of_lt (by omega)]
  · simp only [isDigit, Bool.and_eq_true, decide_eq_true_eq, UInt8.le_iff_toNat_le, hnat]
    exact hle

theorem not_isDigit_of_delimited {b : UInt8} (h : Delimited (b :: rest)) : isDigit b = false := by
  rcases h.first with rfl | rfl | rfl | rfl <;> decide

/-- Digits are read as far as they go. -/
theorem readDigits_append (hds : ∀ c ∈ ds, c.isDigit = true) (h : Delimited rest) :
    leadingDigits (ofChars ds ++ rest) = ds.map (fun c => c.toNat - 0x30) ∧
      afterDigits (ofChars ds ++ rest) = rest := by
  induction ds with
  | nil =>
    cases rest with
    | nil => exact ⟨rfl, rfl⟩
    | cons b rest =>
      have hb := not_isDigit_of_delimited h
      simp [leadingDigits, afterDigits, hb]
  | cons c ds ih =>
    obtain ⟨hc, hds⟩ := List.forall_mem_cons.mp hds
    obtain ⟨hchar, hdigit, hnat⟩ := ofChars_of_isDigit hc
    obtain ⟨hleading, hafter⟩ := ih hds
    have hcons : ofChars (c :: ds) ++ rest = UInt8.ofNat c.toNat :: (ofChars ds ++ rest) := by
      rw [← List.singleton_append, Bytes.ofChars_append, hchar]
      rfl
    rw [hcons]
    constructor
    · rw [leadingDigits, List.takeWhile_cons, if_pos hdigit, List.map_cons, List.map_cons, hnat,
        ← hleading]
      rfl
    · rw [afterDigits, List.dropWhile_cons, if_pos hdigit]
      exact hafter

/-- The digits of a number are worth the number. -/
theorem digitsValue_toDigits (n : Nat) :
    digitsValue ((Nat.toDigits 10 n).map fun c => c.toNat - 0x30) = n :=
  calc digitsValue ((Nat.toDigits 10 n).map fun c => c.toNat - 0x30)
    _ = (Nat.toDigits 10 n).foldl (fun m c => m * 10 + (c.toNat - 0x30)) 0 := by
      rw [digitsValue, List.foldl_map]
    _ = Nat.ofDigitChars 10 (Nat.toDigits 10 n) 0 := by
      rw [Nat.ofDigitChars_eq_foldl]
      simp only [Nat.mul_comm]
      rfl
    _ = n := Nat.ofDigitChars_ten_toDigits

/-- A number that is not zero does not begin with a zero. -/
theorem exists_toDigits_eq_cons (h : n ≠ 0) :
    ∃ d ds, Nat.toDigits 10 n = d :: ds ∧ d ≠ '0' := by
  induction n using Nat.strongRecOn with
  | ind n ih =>
    by_cases hlt : n < 10
    · have hdigit : ∀ m < 10, m ≠ 0 → Nat.digitChar m ≠ '0' := by decide
      exact ⟨_, [], Nat.toDigits_of_lt_base hlt, hdigit n hlt h⟩
    · obtain ⟨d, ds, hds, hd⟩ := ih (n / 10) (by omega) (by omega)
      rw [Nat.toDigits_of_base_le (by decide) (Nat.not_lt.mp hlt), hds]
      exact ⟨d, _, rfl, hd⟩

/-- The digits of a number are read as what stands before the point. -/
theorem readWhole_toDigits (n : Nat) (h : Delimited rest) :
    readWhole (ofChars (Nat.toDigits 10 n) ++ rest) =
      some ((Nat.toDigits 10 n).map (fun c => c.toNat - 0x30), rest) := by
  have hdigits : ∀ c ∈ Nat.toDigits 10 n, c.isDigit = true :=
    fun c hc => Nat.isDigit_of_mem_toDigits (by decide) (by decide) hc
  obtain ⟨hleading, hafter⟩ := readDigits_append hdigits h
  rw [readWhole, hleading, hafter]
  by_cases hzero : n = 0
  · subst hzero
    rfl
  · obtain ⟨d, ds, hds, hd⟩ := exists_toDigits_eq_cons hzero
    rw [hds] at hdigits ⊢
    have hfirst : d.toNat - 0x30 ≠ 0 := by
      intro hsub
      obtain ⟨-, hdigit, hnat⟩ := ofChars_of_isDigit (hdigits d List.mem_cons_self)
      simp only [isDigit, Bool.and_eq_true, decide_eq_true_eq, UInt8.le_iff_toNat_le, hnat]
        at hdigit
      have heq : d.toNat = '0'.toNat := Nat.le_antisymm (Nat.sub_eq_zero_iff_le.mp hsub) hdigit.1
      exact hd (Char.toNat_inj.mp heq)
    rw [List.map_cons]
    generalize d.toNat - 0x30 = m at hfirst
    cases m with
    | zero => exact absurd rfl hfirst
    | succ m => rfl

/-! ### Numbers -/

/-- Before a delimiter there is no fraction and no exponent. -/
theorem readFraction_of_delimited (h : Delimited rest) : readFraction rest = some ([], rest) := by
  cases rest with
  | nil => rfl
  | cons b rest => rcases h.first with rfl | rfl | rfl | rfl <;> rfl

theorem readExponent_of_delimited (h : Delimited rest) :
    readExponent rest = some (none, rest) := by
  cases rest with
  | nil => rfl
  | cons b rest => rcases h.first with rfl | rfl | rfl | rfl <;> rfl

/-- The literal of an integer. -/
def literalOf (n : Int) : Literal :=
  ⟨decide (n < 0), (Nat.toDigits 10 n.natAbs).map fun c => c.toNat - 0x30, [], none⟩

/-- A written integer begins with a minus or a digit. -/
theorem exists_intChars_eq_cons (n : Int) :
    ∃ b written, ofChars (intChars n) = b :: written ∧
      if n < 0 then b = 0x2d ∧ written = ofChars (Nat.toDigits 10 n.natAbs)
      else isDigit b = true ∧ b :: written = ofChars (Nat.toDigits 10 n.natAbs) := by
  unfold intChars
  split
  · exact ⟨0x2d, ofChars (Nat.toDigits 10 n.natAbs), rfl, rfl, rfl⟩
  · obtain ⟨d, ds, hds⟩ := List.exists_cons_of_ne_nil (Nat.toDigits_ne_nil (n := n.natAbs) (b := 10))
    have hd : d.isDigit = true :=
      Nat.isDigit_of_mem_toDigits (by decide) (by decide) (hds ▸ List.mem_cons_self)
    obtain ⟨hchar, hdigit, -⟩ := ofChars_of_isDigit hd
    have hcons : ofChars (d :: ds) = UInt8.ofNat d.toNat :: ofChars ds := by
      rw [← List.singleton_append, Bytes.ofChars_append, hchar]
      rfl
    rw [decimalDigits, hds]
    exact ⟨_, _, hcons, hdigit, hcons.symm⟩

theorem readNumber_intChars (n : Int) (h : Delimited rest) :
    readNumber (ofChars (intChars n) ++ rest) = some (literalOf n, rest) := by
  have hsign : readSign (ofChars (intChars n) ++ rest) =
      (decide (n < 0), ofChars (Nat.toDigits 10 n.natAbs) ++ rest) := by
    obtain ⟨b, written, hcons, hb⟩ := exists_intChars_eq_cons n
    rw [hcons, List.cons_append, readSign]
    split at hb
    · rename_i hneg
      obtain ⟨rfl, rfl⟩ := hb
      rw [decide_eq_true hneg]
      rfl
    · rename_i hneg
      have hminus : ¬ (b == 0x2d) = true := by
        intro hminus
        rw [beq_iff_eq.mp hminus] at hb
        exact absurd hb.1 (by decide)
      rw [if_neg hminus, decide_eq_false hneg, ← hb.2]
      rfl
  simp only [readNumber, hsign, readWhole_toDigits _ h, readFraction_of_delimited h,
    readExponent_of_delimited h, Option.bind_eq_bind, Option.bind_some, literalOf]
  rfl

/-- The literal of an integer of 64 bits has the integer as its value. -/
theorem value?_literalOf {n : Int} (h : Number.Exact (.int n)) :
    (literalOf n).value? = some (.int n) := by
  obtain ⟨hlow, hhigh⟩ := h
  have hsize : UInt64.size = 0x10000000000000000 := by rfl
  unfold Literal.value? literalOf
  rw [digitsValue_toDigits]
  generalize hm : n.natAbs = m
  by_cases hneg : n < 0
  · have hle : m ≤ 0x8000000000000000 := by omega
    have hpos : 0 < m := by omega
    have hvalue : -(m : Int) = n := by omega
    simp [hneg, hle, hpos, hvalue]
  · have hlt : m < UInt64.size := by omega
    have hvalue : (m : Int) = n := by omega
    simp [hneg, hlt, hvalue]

/-- A byte that begins a number begins nothing else. -/
theorem beginsNumber {b : UInt8} (h : (b == 0x2d || isDigit b) = true) :
    punctuation b = none ∧ (b == 0x22) = false ∧ isSpace b = false := by
  have hall : ∀ n < 256, (UInt8.ofNat n == 0x2d || isDigit (UInt8.ofNat n)) = true →
      punctuation (UInt8.ofNat n) = none ∧ (UInt8.ofNat n == 0x22) = false ∧
        isSpace (UInt8.ofNat n) = false := by
    decide +kernel
  have hb := hall b.toNat b.toNat_lt
  rw [UInt8.ofNat_toNat] at hb
  exact hb h

/-- **A written integer is read as the integer**, before a delimiter. -/
theorem readToken_number {m : Number} (h : m.Exact) :
    ∃ b written, ofChars (numberChars m) = b :: written ∧ isSpace b = false ∧
      ∀ rest, Delimited rest → readToken b (written ++ rest) = some (.num (some m), rest) := by
  cases m with
  | float bits => cases h
  | int n =>
    obtain ⟨b, written, hcons, hb⟩ := exists_intChars_eq_cons n
    have hbegins : (b == 0x2d || isDigit b) = true := by
      split at hb
      · rw [hb.1]
        rfl
      · rw [hb.1, Bool.or_true]
    obtain ⟨hpunctuation, hquote, hspace⟩ := beginsNumber hbegins
    refine ⟨b, written, hcons, hspace, fun rest hrest => ?_⟩
    have hread : readNumber (b :: (written ++ rest)) = some (literalOf n, rest) := by
      rw [← List.cons_append, ← hcons]
      exact readNumber_intChars n hrest
    rw [readToken, hpunctuation]
    dsimp only
    rw [hquote, if_neg Bool.false_ne_true, if_pos hbegins, hread, Option.map_some,
      value?_literalOf h]

end Json

end PodNet
