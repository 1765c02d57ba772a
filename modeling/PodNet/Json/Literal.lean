import PodNet.Json.Basic
import PodNet.Text.Utf8

/-!
# Numbers as they are written

A number without a fraction and an exponent that fits 64 bits is an integer; `-0` does not count as
one. Of any other number the digits are gathered as long as they fit 64 bits, and the rest of them
counts only by its length; the result is scaled by a power of ten with one rounding, or several when
the exponent is below -308. A number beyond the range of a double follows the grammar and has no
value.
-/

namespace PodNet.Json

/-- The parts of a number as it is written. -/
structure Literal where
  negative : Bool
  whole : List Nat
  fraction : List Nat
  /-- Is the exponent below zero, and its digits. -/
  exponent : Option (Bool × List Nat)
  deriving Repr, DecidableEq

/-- Is the byte a decimal digit? -/
def isDigit (b : UInt8) : Bool :=
  0x30 ≤ b && b ≤ 0x39

/-- The leading digits of the bytes. -/
def leadingDigits (b : Bytes) : List Nat :=
  (b.takeWhile isDigit).map fun d => d.toNat - 0x30

/-- The bytes after the leading digits. -/
def afterDigits (b : Bytes) : Bytes :=
  b.dropWhile isDigit

/-- The optional minus sign, and what follows it. -/
def readSign : Bytes → Bool × Bytes
  | b :: rest => if b == 0x2d then (true, rest) else (false, b :: rest)
  | [] => (false, [])

/-- The digits before the point: a single zero, or digits that begin with none. -/
def readWhole (b : Bytes) : Option (List Nat × Bytes) :=
  match leadingDigits b with
  | [] => none
  | 0 :: _ :: _ => none
  | digits => some (digits, afterDigits b)

/-- The optional point with the digits after it, of which there is at least one. -/
def readFraction : Bytes → Option (List Nat × Bytes)
  | b :: rest =>
    if b == 0x2e then
      match leadingDigits rest with
      | [] => none
      | digits => some (digits, afterDigits rest)
    else some ([], b :: rest)
  | [] => some ([], [])

/-- The optional sign of an exponent: is it a minus, and what follows. -/
def readExponentSign : Bytes → Bool × Bytes
  | b :: rest =>
    if b == 0x2d then (true, rest) else if b == 0x2b then (false, rest) else (false, b :: rest)
  | [] => (false, [])

/-- The optional exponent. -/
def readExponent : Bytes → Option (Option (Bool × List Nat) × Bytes)
  | b :: rest =>
    if b == 0x65 || b == 0x45 then
      let signed := readExponentSign rest
      match leadingDigits signed.2 with
      | [] => none
      | digits => some (some (signed.1, digits), afterDigits signed.2)
    else some (none, b :: rest)
  | [] => some (none, [])

/-- A number, and the bytes after it. -/
def readNumber (b : Bytes) : Option (Literal × Bytes) := do
  let signed := readSign b
  let (whole, rest) ← readWhole signed.2
  let (fraction, rest) ← readFraction rest
  let (exponent, rest) ← readExponent rest
  return (⟨signed.1, whole, fraction, exponent⟩, rest)

/-- The number that decimal digits write. -/
def digitsValue (digits : List Nat) : Nat :=
  digits.foldl (fun n d => n * 10 + d) 0

/-- Gathers digits onto a significand as long as it fits 64 bits. The second component counts the
digits that were left over. -/
def gather (significand : Nat) : List Nat → Nat × Nat
  | [] => (significand, 0)
  | d :: digits =>
    if significand * 10 + d < UInt64.size then gather (significand * 10 + d) digits
    else (significand, digits.length + 1)

/-- Ten to a power, as the nearest double. -/
def powerOfTen (e : Nat) : Float :=
  Float.ofScientific 1 false e

/-- Divides by ten to a power, at most 308 places at a time. -/
def scaleDown (f : Float) (e : Nat) : Float :=
  if e ≤ 308 then f / powerOfTen e
  else if f == 0 then f
  else scaleDown (f / powerOfTen 308) (e - 308)
termination_by e

/-- The double for a significand scaled by ten to a power; none if it is out of range. -/
def scaled (significand : Nat) (exponent : Int) : Option Float :=
  let f := significand.toUInt64.toFloat
  if exponent < 0 then some (scaleDown f exponent.natAbs)
  else if exponent ≤ 308 then
    let r := f * powerOfTen exponent.natAbs
    if r.isInf then none else some r
  else if f == 0 then some f
  else none

/-- An exponent is bounded like an integer of 32 bits. -/
def clampExponent (e : Int) : Int :=
  max (-0x80000000) (min e 0x7fffffff)

namespace Literal

/-- The double that the literal stands for, without its sign. -/
def magnitude? (l : Literal) : Option Float :=
  let whole := gather 0 l.whole
  let fraction := gather whole.1 l.fraction
  let significand := fraction.1
  let places : Int := whole.2 - (l.fraction.length - fraction.2 : Nat)
  match l.exponent with
  | none => scaled significand places
  | some (negative, digits) =>
    let e := digitsValue digits
    if 0x80000000 ≤ e then
      if significand ≠ 0 && !negative then none else some 0
    else scaled significand (clampExponent (if negative then places - e else places + e))

/-- The number that the literal stands for, if it is in range. -/
def value? (l : Literal) : Option Number :=
  let n := digitsValue l.whole
  if l.fraction.isEmpty && l.exponent.isNone && !l.negative && n < UInt64.size then some (.int n)
  else if l.fraction.isEmpty && l.exponent.isNone && l.negative && 0 < n && n ≤ 0x8000000000000000 then
    some (.int (-n))
  else l.magnitude?.map fun f => .float (if l.negative then (-f).toBits else f.toBits)

end Literal

/-! ### A number takes bytes away -/

theorem afterDigits_length (b : Bytes) : (afterDigits b).length ≤ b.length :=
  List.Sublist.length_le (List.dropWhile_sublist _)

theorem readSign_length (b : Bytes) : (readSign b).2.length ≤ b.length := by
  unfold readSign
  split
  · split <;> simp
  · simp

theorem readExponentSign_length (b : Bytes) : (readExponentSign b).2.length ≤ b.length := by
  unfold readExponentSign
  split
  · split
    · simp
    · split <;> simp
  · simp

/-- Digits that are there take bytes away. -/
theorem afterDigits_lt {b : Bytes} (h : leadingDigits b ≠ []) :
    (afterDigits b).length < b.length := by
  cases b with
  | nil => simp [leadingDigits] at h
  | cons x l =>
    by_cases hx : isDigit x = true
    · have := afterDigits_length l
      simp only [afterDigits, List.dropWhile_cons, hx, if_true, List.length_cons] at this ⊢
      omega
    · simp [leadingDigits, hx] at h

theorem readWhole_length {b : Bytes} {r : List Nat × Bytes} (h : readWhole b = some r) :
    r.2.length < b.length := by
  unfold readWhole at h
  split at h
  · simp at h
  · simp at h
  · next digits hne _ =>
    obtain rfl := Option.some.inj h
    exact afterDigits_lt fun hd => hne (by simpa using hd)

theorem readFraction_length {b : Bytes} {r : List Nat × Bytes} (h : readFraction b = some r) :
    r.2.length ≤ b.length := by
  unfold readFraction at h
  split at h
  · next x l =>
    split at h
    · split at h
      · simp at h
      · obtain rfl := Option.some.inj h
        have := afterDigits_length l
        simp only [List.length_cons]
        omega
    · obtain rfl := Option.some.inj h
      simp
  · obtain rfl := Option.some.inj h
    simp

theorem readExponent_length {b : Bytes} {r : Option (Bool × List Nat) × Bytes}
    (h : readExponent b = some r) : r.2.length ≤ b.length := by
  unfold readExponent at h
  split at h
  · next x l =>
    split at h
    · dsimp only at h
      split at h
      · simp at h
      · obtain rfl := Option.some.inj h
        have h1 := afterDigits_length (readExponentSign l).2
        have h2 := readExponentSign_length l
        simp only [List.length_cons]
        omega
    · obtain rfl := Option.some.inj h
      simp
  · obtain rfl := Option.some.inj h
    simp

theorem readNumber_length {b : Bytes} {r : Literal × Bytes} (h : readNumber b = some r) :
    r.2.length < b.length := by
  simp only [readNumber, Option.bind_eq_bind, Option.bind_eq_some_iff] at h
  obtain ⟨w, hw, f, hf, e, he, hr⟩ := h
  obtain rfl := Option.some.inj hr
  have h1 := readSign_length b
  have h2 := readWhole_length hw
  have h3 := readFraction_length hf
  have h4 := readExponent_length he
  simp only
  omega

end PodNet.Json
