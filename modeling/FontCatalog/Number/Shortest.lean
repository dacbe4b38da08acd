import FontCatalog.Number.Binary

/-!
# Shortest decimal digits

The fewest decimal digits that read back as a number of a binary format, and among those the ones
nearest to it. How the digits become text is for each output to say.
-/

namespace FontCatalog.Number

/-- Which way an exact tie between two decimals of equal length goes. -/
inductive Tie where
  | toEven
  | up
  deriving DecidableEq, Repr

namespace Binary

/-- The exact value `m * 2 ^ q` with the two ends of the interval of reals that round to it, over
one common denominator. The lower half of the interval is narrower below a power of two. -/
structure Interval where
  low : Nat
  value : Nat
  high : Nat
  den : Nat
  closed : Bool
  deriving Repr

-- The interval of `m * 2 ^ q`, for `m` positive.
def interval (fmt : Format) (m : Nat) (q : Int) : Interval :=
  let below := if m = Nat.pow 2 (fmt.precision - 1) ∧ fmt.minExp < q then 1 else 2
  let (unit, den) := scaled 1 (q - 2)
  { low := (4 * m - below) * unit, value := 4 * m * unit, high := (4 * m + 2) * unit, den
    closed := m % 2 = 0 }

-- Whether `d * 10 ^ e` lies in an interval.
def Interval.holds (i : Interval) (d : Nat) (e : Int) : Bool :=
  let (n, k) :=
    if 0 ≤ e then (d * Nat.pow 10 e.toNat * i.den, 1)
    else (d * i.den, Nat.pow 10 (-e).toNat)
  if i.closed then i.low * k ≤ n && n ≤ i.high * k else i.low * k < n && n < i.high * k

/-- The two neighbours `d` and `d + 1` of the value on the grid `10 ^ e`, and how twice the rest
compares with the grid. -/
def Interval.neighbour (i : Interval) (e : Int) : Nat × Ordering :=
  let (n, k) :=
    if 0 ≤ e then (i.value, i.den * Nat.pow 10 e.toNat)
    else (i.value * Nat.pow 10 (-e).toNat, i.den)
  (n / k, compare (2 * (n % k)) k)

-- The digits on the grid `10 ^ e` that lie in the interval, the nearer of two.
def Interval.onGrid (i : Interval) (tie : Tie) (e : Int) : Option Nat :=
  let (d, rest) := i.neighbour e
  match i.holds d e, i.holds (d + 1) e with
  | false, false => none
  | true, false => some d
  | false, true => some (d + 1)
  | true, true =>
    match rest with
    | .lt => some d
    | .gt => some (d + 1)
    | .eq => if tie = .up ∨ d % 2 = 1 then some (d + 1) else some d

-- The number of decimal digits before the point, zero or less for a fraction below one tenth.
def Interval.magnitude (i : Interval) : Int :=
  if i.den ≤ i.value then ((Nat.toDigits 10 (i.value / i.den)).length : Int)
  else 1 - ((Nat.toDigits 10 (i.den / i.value)).length : Int)

-- Digits on the coarsest grid, from `10 ^ e` downwards, that meets the interval.
def Interval.search (i : Interval) (tie : Tie) : Nat → Int → Nat × Int
  | 0, e => (i.neighbour e |>.1, e)
  | fuel + 1, e =>
    match i.onGrid tie e with
    | some d => (d, e)
    | none => i.search tie fuel (e - 1)

-- `(d, e)` without trailing zeros in `d`.
def stripZeros : Nat → Nat → Int → Nat × Int
  | 0, d, e => (d, e)
  | fuel + 1, d, e => if d ≠ 0 ∧ d % 10 = 0 then stripZeros fuel (d / 10) (e + 1) else (d, e)

/-- The shortest decimal `d * 10 ^ e` that reads back as `m * 2 ^ q`, for `m` positive. Twenty
grids below the leading digit are more than any format of up to 53 bits needs. -/
def shortest (fmt : Format) (tie : Tie) (m : Nat) (q : Int) : Nat × Int :=
  let i := interval fmt m q
  let (d, e) := i.search tie 20 (i.magnitude)
  stripZeros 20 d e

end Binary

end FontCatalog.Number
