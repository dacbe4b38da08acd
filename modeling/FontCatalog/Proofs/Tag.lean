import FontCatalog.Proofs.Number.Fixed
import FontCatalog.Proofs.Text.Utf8
import FontCatalog.Tag

/-!
# Tags and their text

A tag is read back from its written form: from four bytes of text, or from the hexadecimal digits of
bytes that are no text.
-/

namespace FontCatalog.Tag

open Number

-- The bytes of a tag are the digits of its number, the first one most significant.
theorem foldl_toBytes (t : Tag) :
    t.toBytes.foldl (fun n byte => n * 256 + byte.toNat) 0 = t.code.toNat := by
  have hlt := t.code.toNat_lt
  simp only [toBytes, List.foldl_cons, List.foldl_nil, UInt8.toNat_ofNat']
  omega

theorem ofBytes_toBytes (t : Tag) :
    ofBytes (UInt8.ofNat (t.code.toNat / 0x1000000)) (UInt8.ofNat (t.code.toNat / 0x10000))
      (UInt8.ofNat (t.code.toNat / 0x100)) (UInt8.ofNat t.code.toNat) = t := by
  have hvalue := t.foldl_toBytes
  simp only [toBytes, List.foldl_cons, List.foldl_nil, Nat.zero_mul, Nat.zero_add] at hvalue
  rw [ofBytes, hvalue, UInt32.ofNat_toNat]

-- A tag whose bytes are text is read from that text.
theorem ofText?_of_decodeString {t : Tag} {text : String}
    (h : Utf8.decodeString t.toBytes = .ok text) : ofText? text = some t := by
  rw [ofText?, Utf8.encodeString_of_decodeString h]
  exact congrArg some (ofBytes_toBytes t)

/-! ## The hexadecimal form -/

theorem utf8Size_upperDigit : ∀ n < 16, (upperDigit n).utf8Size = 1 := by decide

theorem length_encode_fixedDigits (width n : Nat) :
    (Utf8.encode (fixedDigits upperDigit 16 width n)).length = width := by
  induction width generalizing n with
  | zero => rfl
  | succ width ih =>
    have hdigit := utf8Size_upperDigit (n % 16) (Nat.mod_lt _ (by decide))
    have hlast : (Utf8.encode [upperDigit (n % 16)]).length = 1 := by
      rw [Utf8.encode_cons, List.length_append, String.length_utf8EncodeChar, hdigit]
      rfl
    have hparts : Utf8.encode (fixedDigits upperDigit 16 (width + 1) n) =
        Utf8.encode (fixedDigits upperDigit 16 width (n / 16)) ++
          Utf8.encode [upperDigit (n % 16)] :=
      List.flatMap_append
    rw [hparts, List.length_append, ih, hlast]

/-- The text of a tag by its hexadecimal digits. -/
def hexText (t : Tag) : String :=
  String.ofList ('0' :: 'x' :: fixedDigits upperDigit 16 8 t.code.toNat)

theorem toList_hexText (t : Tag) :
    t.hexText.toList = '0' :: 'x' :: fixedDigits upperDigit 16 8 t.code.toNat :=
  String.toList_ofList

theorem length_encodeString_hexText (t : Tag) : (Utf8.encodeString t.hexText).length = 10 := by
  rw [Utf8.encodeString, toList_hexText, Utf8.encode_cons, Utf8.encode_cons, List.length_append,
    List.length_append, length_encode_fixedDigits]
  rfl

theorem ofText?_hexText (t : Tag) : ofText? t.hexText = none := by
  have hlength := length_encodeString_hexText t
  unfold ofText?
  split
  · rename_i hbytes
    rw [hbytes] at hlength
    cases hlength
  · rfl

theorem hexPart?_hexText (t : Tag) :
    hexPart? t.hexText = some (fixedDigits upperDigit 16 8 t.code.toNat) := by
  rw [hexPart?, toList_hexText]
  exact if_pos (length_encode_fixedDigits 8 _)

theorem parse_toText (t : Tag) : parse t.toText = .ok t := by
  unfold toText
  cases hdecode : Utf8.decodeString t.toBytes with
  | ok text => simp only [parse, ofText?_of_decodeString hdecode]
  | error e =>
    have hlt := t.code.toNat_lt
    have hread : readUnsigned 16 0xFFFFFFFF (fixedDigits upperDigit 16 8 t.code.toNat) =
        .ok t.code.toNat := readUnsigned_fixedDigits hlt (by omega)
    have hparse : parse t.hexText = .ok t := by
      simp only [parse, ofText?_hexText, hexPart?_hexText, hread, UInt32.ofNat_toNat]
    exact hparse

end FontCatalog.Tag
