import PodNet.Json.Printer
import PodNet.Json.Token

/-!
# Strings that are written are read back

A string is written character by character: some characters are escaped, the others stand for
themselves in UTF-8. `Spelled` says what reading makes of a stretch of written characters, whatever
comes before and after it, so that it is enough to look at one character at a time
(`exists_spelled_escapedChar`). Together, a written string is read as the string
(`readToken_string`).
-/

namespace PodNet

namespace Bytes

/-- The UTF-8 form of characters. -/
def ofChars (s : List Char) : Bytes :=
  s.flatMap String.utf8EncodeChar

@[simp] theorem ofChars_nil : ofChars [] = [] := rfl

@[simp] theorem ofChars_cons (c : Char) (s : List Char) :
    ofChars (c :: s) = String.utf8EncodeChar c ++ ofChars s :=
  List.flatMap_cons

@[simp] theorem ofChars_append (s t : List Char) : ofChars (s ++ t) = ofChars s ++ ofChars t :=
  List.flatMap_append

theorem ofString_eq_ofChars (s : String) : ofString s = ofChars s.toList := rfl

theorem ofString_ofList (s : List Char) : ofString (String.ofList s) = ofChars s := by
  rw [ofString_eq_ofChars, String.toList_ofList]

/-- An ASCII character is one byte. -/
theorem encodeChar_of_lt {c : Char} (h : c.toNat < 0x80) :
    String.utf8EncodeChar c = [UInt8.ofNat c.toNat] := by
  have hle : c.val.toNat ≤ 127 := Nat.le_of_lt_succ h
  rw [String.utf8EncodeChar.eq_1, if_pos hle]
  rfl

/-- No byte of another character is ASCII. -/
theorem le_of_mem_encodeChar {c : Char} (h : 0x80 ≤ c.toNat) {b : UInt8}
    (hb : b ∈ String.utf8EncodeChar c) : 0x80 ≤ b := by
  have hgt : ¬ c.val.toNat ≤ 127 := Nat.not_le.mpr h
  rw [String.utf8EncodeChar.eq_1, if_neg hgt] at hb
  rw [UInt8.le_iff_toNat_le]
  split at hb
  · simp only [List.mem_cons, List.not_mem_nil, or_false] at hb
    rcases hb with rfl | rfl <;> simp <;> omega
  · split at hb
    · simp only [List.mem_cons, List.not_mem_nil, or_false] at hb
      rcases hb with rfl | rfl | rfl <;> simp <;> omega
    · simp only [List.mem_cons, List.not_mem_nil, or_false] at hb
      rcases hb with rfl | rfl | rfl | rfl <;> simp <;> omega

end Bytes

namespace Json

open Bytes (ofChars)

/-- A byte that needs no escape is a piece of its own. -/
theorem readPieces_plain {b : UInt8} (hquote : b ≠ 0x22) (hbackslash : b ≠ 0x5c) (hle : 0x20 ≤ b)
    (done : List Piece) (rest : Bytes) :
    readPieces done (b :: rest) = readPieces (.byte b :: done) rest := by
  have hlt : ¬ b < 0x20 := UInt8.not_lt.mpr hle
  simp [readPieces, hquote, hbackslash, hlt]

/-- The closing quote. -/
theorem readPieces_quote (done : List Piece) (rest : Bytes) :
    readPieces done (0x22 :: rest) = some (done.reverse, rest) := by
  simp [readPieces]

theorem readPieces_append {bs : Bytes} (h : ∀ b ∈ bs, b ≠ 0x22 ∧ b ≠ 0x5c ∧ 0x20 ≤ b)
    (done : List Piece) (rest : Bytes) :
    readPieces done (bs ++ rest) = readPieces ((bs.map .byte).reverse ++ done) rest := by
  induction bs generalizing done with
  | nil => rfl
  | cons b bs ih =>
    obtain ⟨⟨hquote, hbackslash, hle⟩, hbs⟩ := List.forall_mem_cons.mp h
    rw [List.cons_append, readPieces_plain hquote hbackslash hle, ih hbs, List.map_cons,
      List.reverse_cons, List.append_assoc, List.singleton_append]

theorem piecesBytes_append (bs : Bytes) (l : List Piece) :
    piecesBytes (bs.map .byte ++ l) = (piecesBytes l).map (bs ++ ·) := by
  induction bs with
  | nil => simp
  | cons b bs ih =>
    rw [List.map_cons, List.cons_append, piecesBytes, ih, Option.map_map]
    rfl

/-- A backslash and a letter are the byte that the letter stands for. -/
theorem readPieces_letter {b x : UInt8} (hb : b ≠ 0x75) (hx : escapeByte b = some x)
    (done : List Piece) (rest : Bytes) :
    readPieces done (0x5c :: b :: rest) = readPieces (.byte x :: done) rest := by
  rw [readPieces, hx]
  intro _ _ _ _ _ h
  exact absurd h hb

theorem readPieces_unit {a b c d : UInt8} {n : Nat} (h : hexValue4 a b c d = some n)
    (done : List Piece) (rest : Bytes) :
    readPieces done (0x5c :: 0x75 :: a :: b :: c :: d :: rest) =
      readPieces (.unit n :: done) rest := by
  rw [readPieces, h]

/-- The hexadecimal digits of a control are read as its number. -/
theorem hexValue4_hexDigit : ∀ n < 0x20,
    hexValue4 0x30 0x30 (UInt8.ofNat (hexDigit (n / 16)).toNat)
      (UInt8.ofNat (hexDigit n).toNat) = some n := by
  decide

theorem ofChars_hexDigit (n : Nat) :
    ofChars [hexDigit n] = [UInt8.ofNat (hexDigit n).toNat] := by
  have hdigit : ∀ m < 16, ofChars [Nat.digitChar m] = [UInt8.ofNat (Nat.digitChar m).toNat] := by
    decide
  exact hdigit (n % 16) (Nat.mod_lt n (by decide))

/-- A unit below the surrogates stands for a character. -/
theorem piecesBytes_unit {n : Nat} (h : n < 0xd800) (l : List Piece) :
    piecesBytes (.unit n :: l) =
      (piecesBytes l).map (String.utf8EncodeChar (Char.ofNat n) ++ ·) := by
  have hlow : ¬ 0xdc00 ≤ n := by omega
  have hhigh : ¬ 0xd800 ≤ n := by omega
  rcases l with _ | ⟨_ | m, l⟩ <;> simp [piecesBytes, hlow, hhigh]

/-- **Written characters spell bytes** by pieces: they are read as the pieces, wherever they stand,
and the pieces stand for the bytes. -/
structure Spelled (written : List Char) (pieces : List Piece) (bytes : Bytes) : Prop where
  read : ∀ done rest, readPieces done (ofChars written ++ rest) =
    readPieces (pieces.reverse ++ done) rest
  stand : ∀ more, piecesBytes (pieces ++ more) = (piecesBytes more).map (bytes ++ ·)

namespace Spelled

theorem nil : Spelled [] [] [] := ⟨fun _ _ => rfl, fun more => by simp⟩

theorem append {s t : List Char} {ps qs : List Piece} {bs cs : Bytes} (h : Spelled s ps bs)
    (h' : Spelled t qs cs) : Spelled (s ++ t) (ps ++ qs) (bs ++ cs) where
  read done rest := by
    rw [Bytes.ofChars_append, List.append_assoc, h.read, h'.read, List.reverse_append,
      List.append_assoc]
  stand more := by
    rw [List.append_assoc, h.stand, h'.stand, Option.map_map]
    congr 1
    funext l
    exact (List.append_assoc bs cs l).symm

/-- A character that needs no escape. -/
theorem plain {c : Char} (hquote : c ≠ '"') (hbackslash : c ≠ '\\') (hle : 0x20 ≤ c.toNat) :
    Spelled [c] ((String.utf8EncodeChar c).map .byte) (String.utf8EncodeChar c) where
  read done rest := by
    rw [Bytes.ofChars_cons, Bytes.ofChars_nil, List.append_nil]
    refine readPieces_append (fun b hb => ?_) done rest
    by_cases hascii : c.toNat < 0x80
    · rw [Bytes.encodeChar_of_lt hascii, List.mem_singleton] at hb
      subst hb
      have hnat : ∀ n < 0x80, (UInt8.ofNat n).toNat = n := fun n hn =>
        UInt8.toNat_ofNat_of_lt' (Nat.lt_trans hn (by decide))
      have hne : ∀ n < 0x80, c ≠ Char.ofNat n → UInt8.ofNat c.toNat ≠ UInt8.ofNat n := by
        intro n hn hc heq
        have hsame := congrArg UInt8.toNat heq
        rw [hnat _ hascii, hnat n hn] at hsame
        exact hc (by rw [← hsame, Char.ofNat_toNat])
      refine ⟨hne 0x22 (by decide) hquote, hne 0x5c (by decide) hbackslash, ?_⟩
      rw [UInt8.le_iff_toNat_le, hnat _ hascii]
      exact hle
    · have hb := Bytes.le_of_mem_encodeChar (Nat.not_lt.mp hascii) hb
      rw [UInt8.le_iff_toNat_le] at hb
      refine ⟨?_, ?_, ?_⟩
      · rintro rfl
        exact absurd hb (by decide)
      · rintro rfl
        exact absurd hb (by decide)
      · rw [UInt8.le_iff_toNat_le]
        exact Nat.le_trans (by decide) hb
  stand more := piecesBytes_append _ _

/-- An escape with one letter. -/
theorem letter {e : Char} {b x : UInt8} (he : ofChars [e] = [b]) (hb : b ≠ 0x75)
    (hx : escapeByte b = some x) : Spelled ['\\', e] [.byte x] [x] where
  read done rest := by
    have hwritten : ofChars ['\\', e] = [0x5c, b] := by
      rw [Bytes.ofChars_cons, he]
      rfl
    rw [hwritten]
    exact readPieces_letter hb hx done rest
  stand more := piecesBytes_append [x] more

/-- A control without a letter. -/
theorem control {c : Char} (h : c.toNat < 0x20) :
    Spelled ['\\', 'u', '0', '0', hexDigit (c.toNat / 16), hexDigit c.toNat] [.unit c.toNat]
      (String.utf8EncodeChar c) where
  read done rest := by
    have hwritten : ofChars ['\\', 'u', '0', '0', hexDigit (c.toNat / 16), hexDigit c.toNat] =
        [0x5c, 0x75, 0x30, 0x30] ++ ofChars [hexDigit (c.toNat / 16)] ++
          ofChars [hexDigit c.toNat] := by
      simp only [Bytes.ofChars_cons, Bytes.ofChars_nil, List.append_nil]
      rfl
    rw [hwritten, ofChars_hexDigit, ofChars_hexDigit]
    exact readPieces_unit (hexValue4_hexDigit _ h) done rest
  stand more := by
    rw [List.singleton_append, piecesBytes_unit (Nat.lt_trans h (by decide)), Char.ofNat_toNat]

end Spelled

/-- **Every character is written so that its bytes are read.** -/
theorem exists_spelled_escapedChar (c : Char) :
    ∃ pieces, Spelled (escapedChar c) pieces (String.utf8EncodeChar c) := by
  unfold escapedChar
  split
  · subst c
    exact ⟨_, .letter rfl (by decide) rfl⟩
  split
  · subst c
    exact ⟨_, .letter rfl (by decide) rfl⟩
  split
  · subst c
    exact ⟨_, .letter rfl (by decide) rfl⟩
  split
  · subst c
    exact ⟨_, .letter rfl (by decide) rfl⟩
  split
  · subst c
    exact ⟨_, .letter rfl (by decide) rfl⟩
  split
  · subst c
    exact ⟨_, .letter rfl (by decide) rfl⟩
  split
  · subst c
    exact ⟨_, .letter rfl (by decide) rfl⟩
  split
  · exact ⟨_, .control ‹_›⟩
  · exact ⟨_, .plain ‹_› ‹_› (Nat.not_lt.mp ‹_›)⟩

/-- Written characters are read one after the other. -/
theorem exists_spelled_escaped (s : List Char) :
    ∃ pieces, Spelled (s.flatMap escapedChar) pieces (ofChars s) := by
  induction s with
  | nil => exact ⟨[], .nil⟩
  | cons c s ih =>
    obtain ⟨own, hown⟩ := exists_spelled_escapedChar c
    obtain ⟨others, hothers⟩ := ih
    rw [List.flatMap_cons, Bytes.ofChars_cons]
    exact ⟨own ++ others, hown.append hothers⟩

/-- **A written string is read as the string.** -/
theorem readToken_string (s : String) :
    ∃ written, ofChars (stringChars s) = 0x22 :: written ∧
      ∀ rest, readToken 0x22 (written ++ rest) = some (.str (some s), rest) := by
  obtain ⟨pieces, hpieces⟩ := exists_spelled_escaped s.toList
  have hread (rest : Bytes) :
      readPieces [] (ofChars (s.toList.flatMap escapedChar) ++ 0x22 :: rest) =
        some (pieces, rest) := by
    rw [hpieces.read, List.append_nil, readPieces_quote, List.reverse_reverse]
  have htext : piecesText pieces = some s := by
    have hbytes := hpieces.stand []
    rw [List.append_nil] at hbytes
    rw [piecesText, hbytes]
    simp [piecesBytes, ← Bytes.ofString_eq_ofChars, Bytes.toString?_ofString]
  refine ⟨ofChars (s.toList.flatMap escapedChar) ++ [0x22], ?_, fun rest => ?_⟩
  · rw [stringChars, Bytes.ofChars_cons, Bytes.ofChars_append]
    rfl
  · rw [List.append_assoc, List.singleton_append]
    show (readPieces [] _).map _ = _
    rw [hread, Option.map_some, htext]

end Json

end PodNet
