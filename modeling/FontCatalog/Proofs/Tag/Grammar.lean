import FontCatalog.Proofs.Number.Grammar
import FontCatalog.Proofs.Results
import FontCatalog.Proofs.Tag.Codec
import Mathlib.Data.Nat.Digits.Lemmas

/-!
# Which texts are tags

A text is a tag if it has four bytes, or if it is `0x` with eight hexadecimal digits, or with a plus
and seven of them. The last form is there because the digits are read as an unsigned number, which
may have a plus.
-/

namespace FontCatalog.Tag

open Number (Denotes)
open Utf8 (encodeString)

/-- A text that is `0x`, further characters, and a number of hexadecimal digits with a value. -/
def Spells (raw : String) (sign : List Char) (count value : Nat) : Prop :=
  ∃ digits, raw.toList = '0' :: 'x' :: (sign ++ digits) ∧ digits.length = count ∧
    Denotes 16 digits value

variable {raw : String} {t : Tag} {n : Nat} {digits : List Char}

/-! ## The hexadecimal part -/

theorem hexPart?_eq_some_iff :
    hexPart? raw = some digits ↔
      raw.toList = '0' :: 'x' :: digits ∧ (Utf8.encode digits).length = 8 := by
  unfold hexPart?
  split
  · rename_i hex hraw
    rw [hraw, Option.ite_none_right_eq_some, Option.some.injEq]
    constructor
    · rintro ⟨hlength, rfl⟩
      exact ⟨rfl, hlength⟩
    · rintro ⟨heq, hlength⟩
      obtain rfl : hex = digits := by simpa using heq
      exact ⟨hlength, rfl⟩
  · rename_i hraw
    refine ⟨nofun, ?_⟩
    rintro ⟨heq, -⟩
    exact absurd heq (hraw digits)

-- A hexadecimal digit is one byte.
theorem length_encode_of_denotes (h : Denotes 16 digits n) :
    (Utf8.encode digits).length = digits.length := by
  have hdigits := h.digits
  clear h
  induction digits with
  | nil => rfl
  | cons c cs ih =>
    obtain ⟨hc, hcs⟩ := List.forall_mem_cons.mp hdigits
    rw [Utf8.encode_cons, List.length_append, String.length_utf8EncodeChar,
      Number.utf8Size_of_digitValue_lt hc, ih hcs, List.length_cons, Nat.add_comm]

-- Eight bytes that read as a number are digits, and one of them may be a plus instead.
theorem readUnsigned_eq_ok_iff_of_length (h : (Utf8.encode digits).length = 8) :
    Number.readUnsigned 16 0xFFFFFFFF digits = .ok n ↔
      digits.length = 8 ∧ Denotes 16 digits n ∨
        ∃ rest, digits = '+' :: rest ∧ rest.length = 7 ∧ Denotes 16 rest n := by
  rw [Number.readUnsigned_eq_ok_iff (by decide)]
  constructor
  · rintro ⟨rest, rfl | rfl, -, hrest, -⟩
    · exact .inl ⟨(length_encode_of_denotes hrest).symm.trans h, hrest⟩
    · rw [Utf8.encode_cons, List.length_append, length_encode_of_denotes hrest] at h
      exact .inr ⟨rest, rfl, Nat.add_left_cancel h, hrest⟩
  · have hbound {cs : List Char} (hcs : Denotes 16 cs n) (hle : cs.length ≤ 8) :
        n ≤ 0xFFFFFFFF := by
      have hlt : n < 16 ^ cs.length := by
        rw [hcs.value]
        simpa using Nat.ofDigits_lt_base_pow_length (b := 16)
          (l := cs.reverse.map Number.digitValue) (by decide) (by simpa using hcs.digits)
      exact Nat.le_of_lt_succ (Nat.lt_of_lt_of_le hlt (Nat.pow_le_pow_right (by decide) hle))
    rintro (⟨hlength, hdigits⟩ | ⟨rest, rfl, hlength, hrest⟩)
    · refine ⟨digits, .inl rfl, ?_, hdigits, hbound hdigits (Nat.le_of_eq hlength)⟩
      exact List.ne_nil_of_length_pos (by omega)
    · refine ⟨rest, .inr rfl, ?_, hrest, hbound hrest (by omega)⟩
      exact List.ne_nil_of_length_pos (by omega)

theorem spells_iff :
    Spells raw [] 8 n ∨ Spells raw ['+'] 7 n ↔
      ∃ digits, hexPart? raw = some digits ∧ Number.readUnsigned 16 0xFFFFFFFF digits = .ok n := by
  constructor
  · rintro (⟨digits, hraw, hlength, hdigits⟩ | ⟨digits, hraw, hlength, hdigits⟩)
    · have hbytes := (length_encode_of_denotes hdigits).trans hlength
      exact ⟨digits, hexPart?_eq_some_iff.mpr ⟨hraw, hbytes⟩,
        (readUnsigned_eq_ok_iff_of_length hbytes).mpr (.inl ⟨hlength, hdigits⟩)⟩
    · have hbytes : (Utf8.encode ('+' :: digits)).length = 8 := by
        rw [Utf8.encode_cons, List.length_append, length_encode_of_denotes hdigits, hlength]
        rfl
      exact ⟨'+' :: digits, hexPart?_eq_some_iff.mpr ⟨hraw, hbytes⟩,
        (readUnsigned_eq_ok_iff_of_length hbytes).mpr (.inr ⟨digits, rfl, hlength, hdigits⟩)⟩
  · rintro ⟨digits, hhex, hread⟩
    obtain ⟨hraw, hbytes⟩ := hexPart?_eq_some_iff.mp hhex
    rcases (readUnsigned_eq_ok_iff_of_length hbytes).mp hread with
      ⟨hlength, hdigits⟩ | ⟨rest, rfl, hlength, hrest⟩
    · exact .inl ⟨digits, hraw, hlength, hdigits⟩
    · exact .inr ⟨rest, hraw, hlength, hrest⟩

/-! ## Tags -/

-- The hexadecimal form has ten bytes.
theorem ofText?_of_hexPart? (h : hexPart? raw = some digits) : ofText? raw = none := by
  obtain ⟨hraw, hbytes⟩ := hexPart?_eq_some_iff.mp h
  have hten : (encodeString raw).length = 10 := by
    rw [encodeString, hraw, Utf8.encode_cons, Utf8.encode_cons, List.length_append,
      List.length_append, hbytes]
    rfl
  rw [← Option.not_isSome_iff_eq_none, isSome_ofText?_iff, hten]
  decide

/-- The tag that a text is read as. -/
theorem parse_eq_ok_iff :
    parse raw = .ok t ↔
      encodeString raw = t.toBytes ∨ Spells raw [] 8 t.code.toNat ∨
        Spells raw ['+'] 7 t.code.toNat := by
  rw [spells_iff, ← ofText?_eq_some_iff, parse]
  cases hfour : ofText? raw with
  | some u =>
    have hhex : ∀ digits, hexPart? raw ≠ some digits := by
      intro digits h
      rw [ofText?_of_hexPart? h] at hfour
      cases hfour
    simp [hhex]
  | none =>
    cases hexPart? raw with
    | none => simp
    | some digits =>
      cases hread : Number.readUnsigned 16 0xFFFFFFFF digits with
      | error e => simp [hread]
      | ok n =>
        -- The number is within the bound, so the tag has it for its code.
        obtain ⟨_, -, -, -, hle⟩ := (Number.readUnsigned_eq_ok_iff (by decide)).mp hread
        have hcode : (UInt32.ofNat n).toNat = n :=
          UInt32.toNat_ofNat_of_lt' (Nat.lt_succ_of_le hle)
        simp only [Except.ok.injEq, reduceCtorEq, Option.some.injEq, exists_eq_left', hread,
          false_or]
        constructor
        · rintro rfl
          exact hcode.symm
        · rintro rfl
          rw [UInt32.ofNat_toNat]

-- Both numbers of digits are too few for a number beyond that of a tag.
theorem exists_code_of_spells (h : Spells raw [] 8 n ∨ Spells raw ['+'] 7 n) :
    ∃ t : Tag, t.code.toNat = n := by
  obtain ⟨digits, -, hread⟩ := spells_iff.mp h
  obtain ⟨_, -, -, -, hle⟩ := (Number.readUnsigned_eq_ok_iff (by decide)).mp hread
  exact ⟨⟨UInt32.ofNat n⟩, UInt32.toNat_ofNat_of_lt' (Nat.lt_succ_of_le hle)⟩

/-- The forms of texts that are tags. -/
def HasForm (raw : String) : Prop :=
  (encodeString raw).length = 4 ∨ (∃ n, Spells raw [] 8 n) ∨ ∃ n, Spells raw ['+'] 7 n

theorem exists_parse_iff : (∃ t, parse raw = .ok t) ↔ HasForm raw := by
  simp only [parse_eq_ok_iff]
  constructor
  · rintro ⟨t, h | h | h⟩
    · exact .inl (by rw [h]; rfl)
    · exact .inr (.inl ⟨_, h⟩)
    · exact .inr (.inr ⟨_, h⟩)
  · rintro (h | ⟨n, h⟩ | ⟨n, h⟩)
    · obtain ⟨t, ht⟩ := Option.isSome_iff_exists.mp (isSome_ofText?_iff.mpr h)
      exact ⟨t, .inl (ofText?_eq_some_iff.mp ht)⟩
    · obtain ⟨t, rfl⟩ := exists_code_of_spells (.inl h)
      exact ⟨t, .inr (.inl h)⟩
    · obtain ⟨t, rfl⟩ := exists_code_of_spells (.inr h)
      exact ⟨t, .inr (.inr h)⟩

/-! ## Lists of tags -/

theorem parseAll_eq_ok_iff {raws : List String} {ts : List Tag} :
    parseAll raws = .ok ts ↔ List.Forall₂ (fun raw t => parse raw = .ok t) raws ts := by
  induction raws generalizing ts with
  | nil => simp [parseAll, eq_comm]
  | cons raw raws ih =>
    constructor
    · intro h
      obtain ⟨t, ht, h⟩ := exists_of_bind_ok h
      obtain ⟨rest, hrest, h⟩ := exists_of_bind_ok h
      cases h
      exact .cons ht (ih.mp hrest)
    · rintro (_ | ⟨ht, hrest⟩)
      rw [parseAll, ht, ih.mpr hrest]
      rfl

theorem parseAll_eq_mapM (raws : List String) : parseAll raws = raws.mapM parse := by
  induction raws with
  | nil => rfl
  | cons raw raws ih => rw [parseAll, List.mapM_cons, ih]

theorem exists_parseAll_iff {raws : List String} :
    (∃ ts, parseAll raws = .ok ts) ↔ ∀ raw ∈ raws, HasForm raw := by
  simp only [parseAll_eq_mapM, exists_mapM_iff, exists_parse_iff]

/-- Of several texts the first one that is no tag is reported. -/
theorem parseAll_eq_error_iff {raws : List String} {e : ParseError} :
    parseAll raws = .error e ↔ ∃ before raw after, raws = before ++ raw :: after ∧
      (∀ raw ∈ before, HasForm raw) ∧ parse raw = .error e := by
  simp only [parseAll_eq_mapM, mapM_eq_error_iff, exists_parse_iff]

/-- What is read as tags. A text is read if it has four bytes, or is `0x` with eight hexadecimal
digits of either case, or with a plus and seven of them. Its tag has these bytes, or the number that
the digits denote. Several texts are read if each of them is, as their tags in order. -/
theorem parse_forms (raw : String) (raws : List String) :
    ((∃ t, parse raw = .ok t) ↔ HasForm raw) ∧
    (∀ t, parse raw = .ok t ↔
      encodeString raw = t.toBytes ∨ Spells raw [] 8 t.code.toNat ∨
        Spells raw ['+'] 7 t.code.toNat) ∧
    ((∃ ts, parseAll raws = .ok ts) ↔ ∀ raw ∈ raws, HasForm raw) ∧
    ∀ ts, parseAll raws = .ok ts ↔
      ts.length = raws.length ∧ List.Forall₂ (fun raw t => parse raw = .ok t) raws ts := by
  refine ⟨exists_parse_iff, fun _ => parse_eq_ok_iff, exists_parseAll_iff, ?_⟩
  intro ts
  rw [parseAll_eq_ok_iff]
  exact ⟨fun h => ⟨h.length_eq.symm, h⟩, fun h => h.2⟩

/-- A plus and seven digits are read, though they are neither four bytes nor eight digits. -/
theorem parse_plus :
    parse "0x+1234567" = .ok ⟨0x1234567⟩ ∧ (encodeString "0x+1234567").length ≠ 4 ∧
      ¬ ∃ n, Spells "0x+1234567" [] 8 n := by
  refine ⟨by decide, by decide, ?_⟩
  rintro ⟨n, digits, hraw, -, hdigits⟩
  obtain rfl : "+1234567".toList = digits := (List.cons.inj (List.cons.inj hraw).2).2
  have hplus : Number.digitValue '+' < 16 := hdigits.digits '+' (by decide)
  exact absurd hplus (by decide)

end FontCatalog.Tag
