/-!
# The shortest decimal of a binary fraction

A finite binary number stands for the interval of reals that round to it. Among the decimals in
that interval the ones with the fewest digits are preferred, and of two such the nearer to the
number itself; an exact tie goes to the even digit. All arithmetic is exact, on natural numbers.
-/

namespace PodNet.Decimal

/-- A finite number `m * 2 ^ q` that is not negative. -/
structure Binary where
  m : Nat
  q : Int
  /-- The gap to the number below is half the gap to the number above. -/
  narrowBelow : Bool

/-- The number that the bits of a finite double stand for, without its sign. -/
def Binary.ofBits (b : UInt64) : Binary :=
  let e := ((b >>> 52) &&& 0x7ff).toNat
  let f := (b &&& 0xfffffffffffff).toNat
  if e = 0 then ⟨f, -1074, false⟩ else ⟨0x10000000000000 + f, (e : Int) - 1075, f = 0 && e > 1⟩

/-- A decimal `digits * 10 ^ exponent`. -/
structure Scientific where
  digits : Nat
  exponent : Int
  deriving Repr, DecidableEq

/-- Compares `a * 10 ^ i` with `n * 2 ^ j`, exactly. -/
def compareScaled (a : Nat) (i : Int) (n : Nat) (j : Int) : Ordering :=
  compare (a * Nat.pow 10 i.toNat * Nat.pow 2 (-j).toNat)
    (n * Nat.pow 2 j.toNat * Nat.pow 10 (-i).toNat)

/-- Does the decimal lie among the reals that round to the number, to nearest with ties to even? -/
def Binary.readsBack (x : Binary) (d : Scientific) : Bool :=
  let low := if x.narrowBelow then 4 * x.m - 1 else 4 * x.m - 2
  let high := 4 * x.m + 2
  let closed := x.m % 2 == 0
  let atLow := compareScaled d.digits d.exponent low (x.q - 2)
  let atHigh := compareScaled d.digits d.exponent high (x.q - 2)
  (atLow == .gt || (closed && atLow == .eq)) && (atHigh == .lt || (closed && atHigh == .eq))

/-- The quotient, rounded down, of the number by `10 ^ k`. -/
def Binary.floorAt (x : Binary) (k : Int) : Nat :=
  (x.m * Nat.pow 2 x.q.toNat * Nat.pow 10 (-k).toNat) /
    (Nat.pow 2 (-x.q).toNat * Nat.pow 10 k.toNat)

/-- The least `k` from the given one on with `x < 10 ^ k`, tried for a bounded number of steps. -/
def Binary.scaleFrom (x : Binary) : Nat → Int → Int
  | 0, k => k
  | fuel + 1, k =>
    if compareScaled 1 k x.m x.q == .gt then k else x.scaleFrom fuel (k + 1)

/-- The least `k` with `x < 10 ^ k`, for a number that is not zero. The binary logarithm, scaled by
a fraction a little below the ratio of the logarithms, gives a start that is never too high. -/
def Binary.scale (x : Binary) : Int :=
  let log := (x.m.log2 : Int) + x.q
  x.scaleFrom 4 ((log * 30103).fdiv 100000 - 1)

/-- The candidate on the grid `10 ^ k`: of the number's two neighbours there that read back, the
nearer. -/
def Binary.onGrid (x : Binary) (k : Int) : Option Scientific :=
  let d := x.floorAt k
  let below : Scientific := ⟨d, k⟩
  let above : Scientific := ⟨d + 1, k⟩
  match x.readsBack below, x.readsBack above with
  | true, true =>
    match compareScaled (2 * d + 1) k (2 * x.m) x.q with
    | .gt => some below
    | .lt => some above
    | .eq => if d % 2 = 0 then some below else some above
  | true, false => some below
  | false, true => some above
  | false, false => none

/-- The candidate on the first grid that has one, from the coarsest grid on. -/
def Binary.search (x : Binary) (scale : Int) (digits : List Nat) : Option Scientific :=
  digits.findSome? fun (n : Nat) => x.onGrid (scale - n)

/-- Takes trailing zeros of the digits into the exponent. -/
def Scientific.stripped : Nat → Scientific → Scientific
  | 0, d => d
  | fuel + 1, d =>
    if d.digits % 10 = 0 && d.digits != 0 then
      Scientific.stripped fuel ⟨d.digits / 10, d.exponent + 1⟩
    else d

/-- The decimal with the fewest digits that reads back as the number; zero has the digit zero. -/
def Binary.shortest (x : Binary) : Scientific :=
  if x.m = 0 then ⟨0, 0⟩
  else
    let k := x.scale
    match x.search k (List.range' 1 17) with
    | some d => d.stripped 20
    | none => ⟨x.floorAt (k - 800), k - 800⟩

end PodNet.Decimal
