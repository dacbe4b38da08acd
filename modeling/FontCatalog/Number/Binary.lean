/-!
# Binary floating-point numbers

Numbers of a binary format, unpacked as `± m * 2 ^ q`, with rounding of exact fractions to the
nearest number of the format and ties to the even one. Arithmetic is on natural numbers
throughout, so that every result is exact.
-/

namespace FontCatalog.Number

/-- A binary format: numbers `m * 2 ^ q` with `m < 2 ^ precision` and `minExp ≤ q ≤ maxExp`. -/
structure Format where
  precision : Nat
  minExp : Int
  maxExp : Int
  deriving DecidableEq, Repr

-- The 32-bit format.
def Format.single : Format := ⟨24, -149, 104⟩

-- The 64-bit format.
def Format.double : Format := ⟨53, -1074, 971⟩

/-- A floating-point number. -/
inductive Binary where
  /-- `m * 2 ^ q`, below zero or `-0` if `negative`. -/
  | finite (negative : Bool) (m : Nat) (q : Int)
  | infinite (negative : Bool)
  | nan (negative : Bool)
  deriving DecidableEq, Repr

namespace Binary

-- The number with the opposite sign.
def negate : Binary → Binary
  | .finite s m q => .finite (!s) m q
  | .infinite s => .infinite (!s)
  | .nan s => .nan (!s)

def isFinite : Binary → Bool
  | .finite .. => true
  | _ => false

-- `n * 2 ^ e` for `e` of either sign, as a fraction.
def scaled (n : Nat) (e : Int) : Nat × Nat :=
  if 0 ≤ e then (n * Nat.pow 2 e.toNat, 1) else (n, Nat.pow 2 (-e).toNat)

-- The nearest integer to `num / den`; a half goes to the even one.
def roundDiv (num den : Nat) : Nat :=
  let quot := num / den
  let twice := 2 * (num % den)
  if twice < den then quot
  else if den < twice then quot + 1
  else if quot % 2 = 0 then quot else quot + 1

/-- The exponent at which `num / den` has an integer part of `precision` bits, or the smallest
exponent of the format if that is larger. -/
def quantum (fmt : Format) (num den : Nat) : Int :=
  let guess : Int := (Nat.log2 num : Int) - (Nat.log2 den : Int) - (fmt.precision : Int)
  let (n, d) := scaled num (-guess)
  let fits : Bool := n < d * den * Nat.pow 2 fmt.precision
  max fmt.minExp (if fits then guess else guess + 1)

-- The number of a format nearest to `num / den`.
def ofFraction (fmt : Format) (negative : Bool) (num den : Nat) : Binary :=
  if num = 0 then .finite negative 0 fmt.minExp
  else
    let q := quantum fmt num den
    let (n, d) := scaled num (-q)
    let m := roundDiv n (d * den)
    -- Rounding up may take one bit too many, and then the last one is zero.
    let (m, q) := if m = Nat.pow 2 fmt.precision then (m / 2, q + 1) else (m, q)
    if fmt.maxExp < q then .infinite negative else .finite negative m q

-- The number of a format nearest to a given one.
def round (fmt : Format) : Binary → Binary
  | .finite s m q =>
    let (n, d) := scaled m q
    ofFraction fmt s n d
  | b => b

-- The product of two finite numbers, rounded; other operands are not multiplied here.
def mul (fmt : Format) : Binary → Binary → Binary
  | .finite s m q, .finite t n r =>
    let (num, den) := scaled (m * n) (q + r)
    ofFraction fmt (s != t) num den
  | a, _ => a

-- The quotient of two finite numbers, rounded, for a divisor that is not zero.
def div (fmt : Format) : Binary → Binary → Binary
  | .finite s m q, .finite t n r =>
    let (num, den) := scaled m (q - r)
    ofFraction fmt (s != t) num (den * n)
  | a, _ => a

def isZero : Binary → Bool
  | .finite _ m _ => m == 0
  | _ => false

/-- The number of a format nearest to `digits * 10 ^ exp`. The cut-offs only skip work: beyond them
every number of either format is infinite or zero. -/
def ofDecimal (fmt : Format) (negative : Bool) (digits : Nat) (exp : Int) : Binary :=
  if digits = 0 then .finite negative 0 fmt.minExp
  else
    let size : Int := (Nat.toDigits 10 digits).length
    if 400 < exp + size then .infinite negative
    else if exp + size < -400 then .finite negative 0 fmt.minExp
    else if 0 ≤ exp then ofFraction fmt negative (digits * Nat.pow 10 exp.toNat) 1
    else ofFraction fmt negative digits (Nat.pow 10 (-exp).toNat)

end Binary

end FontCatalog.Number
