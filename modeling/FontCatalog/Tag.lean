import FontCatalog.Number.Digits
import FontCatalog.Text.Quoted
import FontCatalog.Text.Utf8

/-!
# Axis tags

An axis tag is four bytes, the first one most significant. Bytes that are UTF-8 are written as that
text, and all others as `0x` with eight hexadecimal digits. Both forms are read. The second has ten
bytes, so no text is of both forms.
-/

namespace FontCatalog

/-- An axis tag by its number. -/
structure Tag where
  code : UInt32
  deriving DecidableEq, Repr, Inhabited

namespace Tag

-- The tag of four bytes.
def ofBytes (a b c d : UInt8) : Tag :=
  ⟨UInt32.ofNat (((a.toNat * 256 + b.toNat) * 256 + c.toNat) * 256 + d.toNat)⟩

-- The four bytes of a tag.
def toBytes (t : Tag) : List UInt8 :=
  let n := t.code.toNat
  [UInt8.ofNat (n / 0x1000000), UInt8.ofNat (n / 0x10000), UInt8.ofNat (n / 0x100), UInt8.ofNat n]

-- The tag of a text of exactly four bytes.
def ofText? (raw : String) : Option Tag :=
  match Utf8.encodeString raw with
  | [a, b, c, d] => some (ofBytes a b c d)
  | _ => none

/-- Why a text is no tag. -/
inductive ParseError where
  | notFourBytes (raw : String)
  | invalidHex (raw : String)
  deriving DecidableEq, Repr

def ParseError.message : ParseError → String
  | notFourBytes raw =>
    "axis tag must be exactly 4 bytes: " ++ String.ofList (Text.quoted raw.toList)
  | invalidHex raw => "invalid hex axis tag: " ++ raw

-- What follows `0x` in a text, if that is eight bytes.
def hexPart? (raw : String) : Option (List Char) :=
  match raw.toList with
  | '0' :: 'x' :: hex => if (Utf8.encode hex).length = 8 then some hex else none
  | _ => none

-- The tag that a text of either form denotes.
def parse (raw : String) : Except ParseError Tag :=
  match ofText? raw with
  | some t => .ok t
  | none =>
    match hexPart? raw with
    | some hex =>
      match Number.readUnsigned 16 0xFFFFFFFF hex with
      | .ok n => .ok ⟨UInt32.ofNat n⟩
      | .error _ => .error (.invalidHex raw)
    | none => .error (.notFourBytes raw)

-- The tags of several texts, or the error of the first bad one.
def parseAll : List String → Except ParseError (List Tag)
  | [] => .ok []
  | raw :: rest => do
    let t ← parse raw
    let ts ← parseAll rest
    return t :: ts

-- The written form of a tag.
def toText (t : Tag) : String :=
  match Utf8.decodeString t.toBytes with
  | .ok s => s
  | .error _ =>
    String.ofList ('0' :: 'x' :: Number.fixedDigits Number.upperDigit 16 8 t.code.toNat)

end Tag

end FontCatalog
