/-!
# Text as bytes

Files, standard input and what plugins print are bytes. `Bytes.ofString` writes a text in UTF-8 and
`Bytes.toString?` reads it back, refusing bytes that no text has. Where bytes are only shown to a
person, `Bytes.lossy` puts the replacement character for every ill-formed stretch.
-/

namespace PodNet

/-- A sequence of bytes. -/
abbrev Bytes := List UInt8

namespace Bytes

/-- The UTF-8 form of a text. -/
def ofString (s : String) : Bytes :=
  s.toList.flatMap String.utf8EncodeChar

/-- The text that the bytes are the UTF-8 form of. -/
def toString? (b : Bytes) : Option String :=
  String.fromUTF8? b.toByteArray

/-- The UTF-8 form of a text is read as the text. -/
theorem toString?_ofString (s : String) : toString? (ofString s) = some s := by
  have hbytes : (ofString s).toByteArray = s.toByteArray := String.utf8Encode_toList
  rw [toString?, hbytes, String.fromUTF8?, dif_pos s.isValidUTF8]
  rfl

/-- May the byte follow the first byte of a character? -/
def isContinuation (b : UInt8) : Bool :=
  0x80 ≤ b && b ≤ 0xbf

/-- What the first byte of a longer character announces: how many bytes follow it, and between which
bounds the next one lies. -/
def announced (b : UInt8) : Option (Nat × UInt8 × UInt8) :=
  if 0xc2 ≤ b && b ≤ 0xdf then some (1, 0x80, 0xbf)
  else if b == 0xe0 then some (2, 0xa0, 0xbf)
  else if b == 0xed then some (2, 0x80, 0x9f)
  else if 0xe1 ≤ b && b ≤ 0xef then some (2, 0x80, 0xbf)
  else if b == 0xf0 then some (3, 0x90, 0xbf)
  else if 0xf1 ≤ b && b ≤ 0xf3 then some (3, 0x80, 0xbf)
  else if b == 0xf4 then some (3, 0x80, 0x8f)
  else none

/-- How many of the following bytes belong to the character that the first byte begins, as far as it
is well formed. -/
def belonging (b : UInt8) (rest : Bytes) : Nat :=
  match announced b, rest with
  | some (n, low, high), x :: tail =>
    if low ≤ x && x ≤ high then 1 + ((tail.take (n - 1)).takeWhile isContinuation).length else 0
  | _, _ => 0

/-- The characters of the bytes, with the replacement character for each ill-formed stretch: the
longest beginning of a character that cannot be completed, or else a single byte. -/
def lossyChars : Bytes → List Char
  | [] => []
  | b :: rest =>
    match (b :: rest.take 3).toByteArray.utf8DecodeChar? 0 with
    | some c => c :: lossyChars (rest.drop (c.utf8Size - 1))
    | none => '\ufffd' :: lossyChars (rest.drop (belonging b rest))
termination_by bytes => bytes.length
decreasing_by
  · simp only [List.length_cons, List.length_drop]; omega
  · simp only [List.length_cons, List.length_drop]; omega

/-- The text that a person is shown for the bytes. -/
def lossy (b : Bytes) : String :=
  String.ofList (lossyChars b)

theorem lossyChars_encodeChar_append (c : Char) (b : Bytes) :
    lossyChars (String.utf8EncodeChar c ++ b) = c :: lossyChars b := by
  have hlength := String.length_utf8EncodeChar c
  have hfour := c.utf8Size_le_four
  cases hbytes : String.utf8EncodeChar c with
  | nil =>
    rw [hbytes] at hlength
    exact absurd hlength (Nat.ne_of_lt c.utf8Size_pos)
  | cons x rest =>
    rw [hbytes, List.length_cons] at hlength
    -- the character does not depend on how many of the bytes after it are looked at
    have hdecode : (x :: (rest ++ b).take 3).toByteArray.utf8DecodeChar? 0 = some c := by
      have htake : x :: (rest ++ b).take 3 =
          String.utf8EncodeChar c ++ b.take (3 - rest.length) := by
        rw [hbytes, List.take_append, List.take_of_length_le (by omega), List.cons_append]
      rw [htake, List.toByteArray_append]
      exact ByteArray.utf8DecodeChar?_utf8EncodeChar_append
    rw [List.cons_append, lossyChars, hdecode]
    dsimp only
    rw [List.drop_left' (by omega)]

/-- What is well formed at the beginning is shown as it is. -/
theorem lossy_ofString_append (s : String) (b : Bytes) : lossy (ofString s ++ b) = s ++ lossy b := by
  have hchars (l : List Char) :
      lossyChars (l.flatMap String.utf8EncodeChar ++ b) = l ++ lossyChars b := by
    induction l with
    | nil => rfl
    | cons c l ih =>
      rw [List.flatMap_cons, List.append_assoc, lossyChars_encodeChar_append, ih, List.cons_append]
  rw [lossy, ofString, hchars, String.ofList_append, String.ofList_toList, lossy]

/-- Of a text in UTF-8 a person is shown just that. -/
theorem lossy_ofString (s : String) : lossy (ofString s) = s := by
  have hnil : lossy [] = "" := by rw [lossy, lossyChars, String.ofList_nil]
  have h := lossy_ofString_append s []
  rwa [List.append_nil, hnil, String.append_empty] at h

end Bytes

end PodNet
