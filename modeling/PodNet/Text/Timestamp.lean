import PodNet.Text.Blank
import PodNet.Text.Digits

/-!
# Points in time

A point in time is written as a date, a time of the day, and how far that is from universal time:
`2024-05-01T10:00:00Z`. The form is relaxed: blanks may stand before every number and mark, numbers
may be short, and the parts of a second may be left out. What counts here is only whether a text says
a point in time.
-/

namespace PodNet.Text.Timestamp

/-! ### Parts -/

/-- The number that the first digits write, at most so many of them, and what follows. -/
def number? (most : Nat) (s : List Char) : Option (Nat × List Char) :=
  let digits := (s.take most).takeWhile Char.isDigit
  if digits.isEmpty then none
  else (digitsValue 10 decimalDigit digits).map fun n => (n, s.drop digits.length)

/-- A number after blanks, at most as large as the bound, and what follows. -/
def bounded? (bound : Nat) (s : List Char) : Option (Nat × List Char) :=
  (number? 2 (s.dropWhile isBlank)).filter fun r => r.1 ≤ bound

/-- What follows a mark, before which blanks may stand. -/
def after? (mark : Char) (s : List Char) : Option (List Char) :=
  match s.dropWhile isBlank with
  | c :: rest => if c = mark then some rest else none
  | [] => none

/-- A year. It has at most four digits unless it has a sign. -/
def year? (s : List Char) : Option (Int × List Char) :=
  match s.dropWhile isBlank with
  | '-' :: rest => (number? rest.length rest).map fun r => (-r.1, r.2)
  | '+' :: rest => (number? rest.length rest).map fun r => (r.1, r.2)
  | s => (number? 4 s).map fun r => (r.1, r.2)

/-! ### Days -/

/-- Has the year a day more than most? -/
def isLeap (year : Int) : Bool :=
  year % 4 == 0 && (year % 100 != 0 || year % 400 == 0)

/-- The number of days of a month. -/
def daysOf (year : Int) (month : Nat) : Nat :=
  if month = 2 then (if isLeap year then 29 else 28)
  else if [4, 6, 9, 11].contains month then 30
  else 31

/-- The greatest distance of a year from the year zero. -/
def maxYear : Int := 262142

/-- Is there such a day? -/
def isDay (year : Int) (month day : Nat) : Bool :=
  -maxYear ≤ year && year ≤ maxYear && 1 ≤ month && month ≤ 12 && 1 ≤ day &&
    day ≤ daysOf year month

/-! ### The whole -/

/-- What follows the parts of a second, if there are any. -/
def afterFraction? : List Char → Option (List Char)
  | '.' :: rest => if rest.head?.any Char.isDigit then some (rest.dropWhile Char.isDigit) else none
  | s => some s

/-- Is the text how far a time is from universal time? -/
def isOffset (s : List Char) : Bool :=
  match s with
  | sign :: h :: h' :: rest =>
    if s.map Char.toLower = "utc".toList then true
    else if sign = '+' ∨ sign = '-' ∨ sign = '\u2212' then
      match rest.dropWhile fun c => c == ':' || isBlank c with
      | [m, m'] =>
        (digitsValue 10 decimalDigit [h, h']).any (fun n => n < 24) &&
          (digitsValue 10 decimalDigit [m, m']).any fun n => n < 60
      | _ => false
    else false
  | [c] => c == 'Z' || c == 'z'
  | _ => false

/-- What follows a date, if there is such a day. -/
def afterDate? (s : List Char) : Option (List Char) := do
  let (year, s) ← year? s
  let (month, s) ← bounded? 12 (← after? '-' s)
  let (day, s) ← bounded? 31 (← after? '-' s)
  if isDay year month day then some s else none

/-- What follows a time of the day. A minute may have a second more than most. -/
def afterTime? (s : List Char) : Option (List Char) := do
  let (_, s) ← bounded? 23 s
  let (_, s) ← bounded? 59 (← after? ':' s)
  let (_, s) ← bounded? 60 (← after? ':' s)
  afterFraction? s

/-- Does the text say a point in time? -/
def isValid (s : String) : Bool :=
  match afterDate? s.toList with
  | some (mark :: rest) =>
    (mark == 'T' || mark == 't' || mark == ' ') &&
      (afterTime? rest).any fun s => isOffset (s.dropWhile isBlank)
  | _ => false

end PodNet.Text.Timestamp
