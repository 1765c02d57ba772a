import PodNet.Json.Literal

/-!
# The tokens of a JSON document

A document is read in two steps, and this is the first: bytes are cut into tokens. The grammar alone
decides what is a token. A string or a number may follow the grammar and still have no value: the
bytes of a string may be no text, an escape may name half a surrogate pair, a number may lie beyond
the range of a double. Such a token carries no value, and it does no harm where its value is not
asked for.
-/

namespace PodNet.Json

/-- A token of a document. -/
inductive Token where
  | openArray
  | closeArray
  | openObject
  | closeObject
  | comma
  | colon
  | null
  | bool (b : Bool)
  | num (value : Option Number)
  | str (value : Option String)
  deriving Repr, DecidableEq

/-! ### Strings -/

/-- A piece of a string: a byte that stands for itself, or a 16-bit unit named by an escape. -/
inductive Piece where
  | byte (b : UInt8)
  | unit (n : Nat)
  deriving Repr, DecidableEq

/-- The byte that a one-letter escape stands for. -/
def escapeByte (b : UInt8) : Option UInt8 :=
  if b == 0x22 then some 0x22
  else if b == 0x5c then some 0x5c
  else if b == 0x2f then some 0x2f
  else if b == 0x62 then some 8
  else if b == 0x66 then some 12
  else if b == 0x6e then some 10
  else if b == 0x72 then some 13
  else if b == 0x74 then some 9
  else none

/-- The value of a hexadecimal digit. -/
def hexValue (b : UInt8) : Option Nat :=
  if isDigit b then some (b.toNat - 0x30)
  else if 0x61 ≤ b && b ≤ 0x66 then some (b.toNat - 0x61 + 10)
  else if 0x41 ≤ b && b ≤ 0x46 then some (b.toNat - 0x41 + 10)
  else none

/-- The value of four hexadecimal digits. -/
def hexValue4 (a b c d : UInt8) : Option Nat := do
  let a ← hexValue a
  let b ← hexValue b
  let c ← hexValue c
  let d ← hexValue d
  return ((a * 16 + b) * 16 + c) * 16 + d

/-- The pieces of a string up to its closing quote, put before those read so far in reverse, and
the bytes after the quote. A control may not stand in a string. -/
def readPieces (done : List Piece) : Bytes → Option (List Piece × Bytes)
  | [] => none
  | 0x5c :: 0x75 :: a :: b :: c :: d :: rest =>
    match hexValue4 a b c d with
    | some n => readPieces (.unit n :: done) rest
    | none => none
  | 0x5c :: e :: rest =>
    match escapeByte e with
    | some x => readPieces (.byte x :: done) rest
    | none => none
  | b :: rest =>
    if b == 0x22 then some (done.reverse, rest)
    else if b == 0x5c || b < 0x20 then none
    else readPieces (.byte b :: done) rest

/-- The bytes that the pieces stand for. A unit from the upper half of the surrogates must be
followed by one from the lower half. -/
def piecesBytes : List Piece → Option Bytes
  | [] => some []
  | .byte b :: l => (piecesBytes l).map (b :: ·)
  | .unit n :: l =>
    if 0xdc00 ≤ n && n ≤ 0xdfff then none
    else if 0xd800 ≤ n && n ≤ 0xdbff then
      match l with
      | .unit m :: l' =>
        if 0xdc00 ≤ m && m ≤ 0xdfff then
          let c := Char.ofNat ((n - 0xd800) * 0x400 + (m - 0xdc00) + 0x10000)
          (piecesBytes l').map (String.utf8EncodeChar c ++ ·)
        else none
      | _ => none
    else (piecesBytes l).map (String.utf8EncodeChar (Char.ofNat n) ++ ·)

/-- The text that the pieces stand for. -/
def piecesText (l : List Piece) : Option String :=
  (piecesBytes l).bind Bytes.toString?

/-! ### Cutting -/

/-- Is the byte one of the blanks that may stand between tokens? -/
def isSpace (b : UInt8) : Bool :=
  b == 0x20 || b == 0x0a || b == 0x0d || b == 0x09

/-- The token that a punctuation byte is. -/
def punctuation (b : UInt8) : Option Token :=
  if b == 0x5b then some .openArray
  else if b == 0x5d then some .closeArray
  else if b == 0x7b then some .openObject
  else if b == 0x7d then some .closeObject
  else if b == 0x2c then some .comma
  else if b == 0x3a then some .colon
  else none

/-- The literal names. -/
def readName : Bytes → Option (Token × Bytes)
  | 0x74 :: 0x72 :: 0x75 :: 0x65 :: rest => some (.bool true, rest)
  | 0x66 :: 0x61 :: 0x6c :: 0x73 :: 0x65 :: rest => some (.bool false, rest)
  | 0x6e :: 0x75 :: 0x6c :: 0x6c :: rest => some (.null, rest)
  | _ => none

/-- The first token of the bytes, which begin with no blank, and the bytes after it. -/
def readToken (b : UInt8) (rest : Bytes) : Option (Token × Bytes) :=
  match punctuation b with
  | some t => some (t, rest)
  | none =>
    if b == 0x22 then (readPieces [] rest).map fun r => (.str (piecesText r.1), r.2)
    else if b == 0x2d || isDigit b then
      (readNumber (b :: rest)).map fun r => (.num r.1.value?, r.2)
    else readName (b :: rest)

/-! ### Every token takes bytes away -/

theorem readPieces_length {done : List Piece} {b : Bytes} {r : List Piece × Bytes}
    (h : readPieces done b = some r) : r.2.length < b.length := by
  fun_induction readPieces done b with
  | case1 => simp at h
  | case2 done x y z w rest n _ ih =>
    have := ih h
    simp only [List.length_cons]
    omega
  | case3 => simp at h
  | case4 done e rest x _ _ ih =>
    have := ih h
    simp only [List.length_cons]
    omega
  | case5 => simp at h
  | case6 =>
    obtain rfl := Option.some.inj h
    simp
  | case7 => simp at h
  | case8 done x rest _ _ _ _ ih =>
    have := ih h
    simp only [List.length_cons]
    omega

theorem readName_length {b : Bytes} {r : Token × Bytes} (h : readName b = some r) :
    r.2.length < b.length := by
  unfold readName at h
  split at h
  · obtain rfl := Option.some.inj h
    simp only [List.length_cons]
    omega
  · obtain rfl := Option.some.inj h
    simp only [List.length_cons]
    omega
  · obtain rfl := Option.some.inj h
    simp only [List.length_cons]
    omega
  · simp at h

theorem readToken_length {x : UInt8} {b : Bytes} {r : Token × Bytes}
    (h : readToken x b = some r) : r.2.length ≤ b.length := by
  unfold readToken at h
  split at h
  · obtain rfl := Option.some.inj h
    exact Nat.le_refl _
  · split at h
    · obtain ⟨p, hp, rfl⟩ := Option.map_eq_some_iff.1 h
      exact Nat.le_of_lt (readPieces_length hp)
    · split at h
      · obtain ⟨p, hp, rfl⟩ := Option.map_eq_some_iff.1 h
        have := readNumber_length hp
        simp only [List.length_cons] at this ⊢
        omega
      · have := readName_length h
        simp only [List.length_cons] at this
        omega

/-- The tokens of the bytes, put after those cut so far, which are given in reverse. -/
def tokensOnto (done : List Token) : Bytes → Option (List Token)
  | [] => some done.reverse
  | b :: rest =>
    if isSpace b then tokensOnto done rest
    else
      match h : readToken b rest with
      | none => none
      | some (t, after) =>
        have : after.length ≤ rest.length := readToken_length h
        tokensOnto (t :: done) after
termination_by bytes => bytes.length
decreasing_by
  · simp only [List.length_cons]; omega
  · simp only [List.length_cons]; omega

/-- The tokens of a document; none where the bytes cannot be cut. -/
def tokens (b : Bytes) : Option (List Token) :=
  tokensOnto [] b

end PodNet.Json
