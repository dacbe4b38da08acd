import FontCatalog.Number.Digits
import FontCatalog.Number.Shortest

/-!
# 32-bit floating-point numbers

The values of axis settings: numbers of the single format kept as their 32 bits, read from decimal
text with correct rounding, and written with the fewest digits that read back.
-/

namespace FontCatalog.Number

/-- A 32-bit floating-point number, by its bits. -/
structure Single where
  bits : UInt32
  deriving DecidableEq, Repr, Inhabited

namespace Single

-- The sign bit and the bits below it.
def pack (negative : Bool) (rest : Nat) : Single :=
  ⟨UInt32.ofNat ((if negative then 0x80000000 else 0) + rest)⟩

-- The bits of a number of the single format. Every NaN has one pattern for each sign.
def ofBinary : Binary → Single
  | .finite s m q =>
    if m < 0x800000 then pack s m else pack s ((q + 150).toNat * 0x800000 + (m - 0x800000))
  | .infinite s => pack s 0x7F800000
  | .nan s => pack s 0x7FC00000

-- The number that 32 bits stand for.
def toBinary (x : Single) : Binary :=
  let n : Nat := x.bits.toNat
  let negative := 0x80000000 ≤ n
  let expo : Nat := n / 0x800000 % 256
  let frac : Nat := n % 0x800000
  if expo = 255 then (if frac = 0 then .infinite negative else .nan negative)
  else if expo = 0 then .finite negative frac (-149)
  else .finite negative (0x800000 + frac) ((expo : Int) - 150)

def isFinite (x : Single) : Bool :=
  x.toBinary.isFinite

-- Equality of values: a NaN equals nothing, and the two zeros are equal.
def sameValue (x y : Single) : Bool :=
  match x.toBinary, y.toBinary with
  | .nan _, _ => false
  | _, .nan _ => false
  | .finite _ 0 _, .finite _ 0 _ => true
  | _, _ => x == y

-- A run of decimal digits at the front: their value after `acc`, their number, and the rest.
def leadingDigits : Nat → Nat → List Char → Nat × Nat × List Char
  | acc, count, [] => (acc, count, [])
  | acc, count, c :: cs =>
    match digitIn? 10 c with
    | some d => leadingDigits (acc * 10 + d) (count + 1) cs
    | none => (acc, count, c :: cs)

-- A sign at the front: whether it is a minus, and the rest.
def leadingSign : List Char → Bool × List Char
  | '-' :: cs => (true, cs)
  | '+' :: cs => (false, cs)
  | cs => (false, cs)

-- An exponent part that ends the text, or no exponent at all.
def exponentPart : List Char → Option Int
  | [] => some 0
  | c :: cs =>
    if c == 'e' || c == 'E' then
      let (negative, cs) := leadingSign cs
      let (n, count, rest) := leadingDigits 0 0 cs
      if count = 0 ∨ rest ≠ [] then none else some (if negative then -(n : Int) else n)
    else none

/-- A decimal without its sign: digits on at least one side of an optional point, then an optional
exponent. -/
def decimalPart (negative : Bool) (s : List Char) : Option Binary :=
  let (whole, wholeCount, rest) := leadingDigits 0 0 s
  let (digits, fracCount, rest) :=
    match rest with
    | '.' :: cs => leadingDigits whole 0 cs
    | cs => (whole, 0, cs)
  if wholeCount + fracCount = 0 then none
  else (exponentPart rest).map fun e => Binary.ofDecimal .single negative digits (e - fracCount)

-- A text in lower case, ASCII letters only.
def lowered (s : List Char) : List Char :=
  s.map Char.toLower

/-- The number that a text denotes: an optional sign, then `inf`, `infinity` or `nan` in any case,
or a decimal. -/
def read (s : List Char) : Option Single :=
  let (negative, body) := leadingSign s
  let word := lowered body
  if word = "inf".toList ∨ word = "infinity".toList then some (ofBinary (.infinite negative))
  else if word = "nan".toList then some (ofBinary (.nan negative))
  else (decimalPart negative body).map ofBinary

-- The digits of `d * 10 ^ e` in positional form, without a point if the number is whole.
def positional (d : Nat) (e : Int) : List Char :=
  let ds := decimal d
  if 0 ≤ e then ds ++ List.replicate e.toNat '0'
  else
    let k := (-e).toNat
    if k < ds.length then ds.take (ds.length - k) ++ '.' :: ds.drop (ds.length - k)
    else '0' :: '.' :: (List.replicate (k - ds.length) '0' ++ ds)

-- The digits of a number in positional form, whatever its size. Ties between decimals go up.
def plain (x : Single) : String :=
  match x.toBinary with
  | .nan _ => "NaN"
  | .infinite s => if s then "-inf" else "inf"
  | .finite s m q =>
    let body :=
      if m = 0 then ['0']
      else
        let (d, e) := Binary.shortest .single .up m q
        positional d e
    String.ofList (if s then '-' :: body else body)

end Single

end FontCatalog.Number
