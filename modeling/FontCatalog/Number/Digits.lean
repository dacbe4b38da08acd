/-!
# Unsigned numbers as text

Reading an unsigned number below a bound in any radix up to sixteen: an optional `+`, then one or
more digits, any number of leading zeros. A bad text is refused at the first character that makes
it bad. Writing is positional with a least number of digits.
-/

namespace FontCatalog.Number

/-- Why a text is not a number below the bound. -/
inductive DigitsError where
  | empty
  | invalidDigit
  | tooLarge
  deriving DecidableEq, Repr

def DigitsError.message : DigitsError → String
  | .empty => "cannot parse integer from empty string"
  | .invalidDigit => "invalid digit found in string"
  | .tooLarge => "number too large to fit in target type"

-- The value of a digit of either case.
def digitValue? (c : Char) : Option Nat :=
  if '0' ≤ c ∧ c ≤ '9' then some (c.toNat - '0'.toNat)
  else if 'a' ≤ c ∧ c ≤ 'f' then some (c.toNat - 'a'.toNat + 10)
  else if 'A' ≤ c ∧ c ≤ 'F' then some (c.toNat - 'A'.toNat + 10)
  else none

-- The value of a digit in a radix.
def digitIn? (radix : Nat) (c : Char) : Option Nat :=
  (digitValue? c).filter (· < radix)

-- `acc` continued by digits, as long as the value stays at or below `max`.
def readDigits (radix max : Nat) : Nat → List Char → Except DigitsError Nat
  | acc, [] => .ok acc
  | acc, c :: cs =>
    match digitIn? radix c with
    | none => .error .invalidDigit
    | some d =>
      if acc * radix + d ≤ max then readDigits radix max (acc * radix + d) cs
      else .error .tooLarge

-- An optional `+` and one or more digits.
def readUnsigned (radix max : Nat) : List Char → Except DigitsError Nat
  | [] => .error .empty
  | ['+'] => .error .invalidDigit
  | '+' :: cs => readDigits radix max 0 cs
  | cs => readDigits radix max 0 cs

-- A decimal number of 16 bits.
def readUInt16 (s : List Char) : Except DigitsError UInt16 :=
  (readUnsigned 10 65535 s).map UInt16.ofNat

-- A decimal number of 32 bits.
def readUInt32 (s : List Char) : Except DigitsError UInt32 :=
  (readUnsigned 10 4294967295 s).map UInt32.ofNat

-- The digit of a value, upper case above nine.
def upperDigit (n : Nat) : Char :=
  if n < 10 then Char.ofNat ('0'.toNat + n) else Char.ofNat ('A'.toNat + (n - 10))

-- The digit of a value, lower case above nine.
def lowerDigit (n : Nat) : Char :=
  if n < 10 then Char.ofNat ('0'.toNat + n) else Char.ofNat ('a'.toNat + (n - 10))

-- Exactly `width` digits of `n` in a radix, the most significant first.
def fixedDigits (digit : Nat → Char) (radix : Nat) : (width : Nat) → (n : Nat) → List Char
  | 0, _ => []
  | width + 1, n => fixedDigits digit radix width (n / radix) ++ [digit (n % radix)]

@[simp] theorem fixedDigits_length (digit : Nat → Char) (radix width n : Nat) :
    (fixedDigits digit radix width n).length = width := by
  induction width generalizing n with
  | zero => rfl
  | succ width ih => simp [fixedDigits, ih]

-- The decimal digits of a number.
def decimal (n : Nat) : List Char :=
  Nat.toDigits 10 n

-- The hexadecimal digits of a number, lower case.
def hexadecimal (n : Nat) : List Char :=
  Nat.toDigits 16 n

end FontCatalog.Number
