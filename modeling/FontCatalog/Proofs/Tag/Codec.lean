import FontCatalog.Proofs.Tag
import FontCatalog.Proofs.Text.Sequences
import Mathlib.Logic.Function.Basic

/-!
# The two forms of a tag

The bytes of a tag are its text where they are text, and otherwise its hexadecimal form stands for
them. The forms differ in their number of bytes. A text of four bytes is always taken byte for byte,
also if it begins like the hexadecimal form.
-/

namespace FontCatalog.Tag

open Utf8 (encodeString WellFormed)

variable {t : Tag} {raw : String}

/-! ## Texts of four bytes -/

theorem toBytes_ofBytes (a b c d : UInt8) : (ofBytes a b c d).toBytes = [a, b, c, d] := by
  have ha := a.toNat_lt
  have hb := b.toNat_lt
  have hc := c.toNat_lt
  have hd := d.toNat_lt
  have hcode : (ofBytes a b c d).code.toNat =
      ((a.toNat * 256 + b.toNat) * 256 + c.toNat) * 256 + d.toNat :=
    UInt32.toNat_ofNat_of_lt' (by simp only [UInt32.size]; omega)
  simp only [toBytes, hcode, List.cons.injEq, ← UInt8.toNat_inj, UInt8.toNat_ofNat', and_true]
  omega

/-- A text is that of a tag if its bytes are those of the tag. -/
theorem ofText?_eq_some_iff : ofText? raw = some t ↔ encodeString raw = t.toBytes := by
  constructor
  · intro h
    unfold ofText? at h
    split at h
    · rename_i hbytes
      cases h
      rw [hbytes, toBytes_ofBytes]
    · cases h
  · intro h
    exact ofText?_of_decodeString (Utf8.decodeString_eq_ok_iff.mpr h)

theorem isSome_ofText?_iff : (ofText? raw).isSome = true ↔ (encodeString raw).length = 4 := by
  constructor
  · intro h
    obtain ⟨t, ht⟩ := Option.isSome_iff_exists.mp h
    rw [ofText?_eq_some_iff.mp ht]
    rfl
  · intro h
    unfold ofText?
    match encodeString raw, h with
    | [a, b, c, d], _ => rfl

/-! ## Which form is written -/

theorem toText_of_encodeString (h : encodeString raw = t.toBytes) : t.toText = raw := by
  rw [toText, Utf8.decodeString_eq_ok_iff.mpr h]

theorem toText_of_not_wellFormed (h : ¬ WellFormed t.toBytes) : t.toText = t.hexText := by
  unfold toText
  split
  · rename_i text hdecode
    exact absurd (Utf8.wellFormed_iff.mpr ⟨text, Utf8.decodeString_eq_ok_iff.mp hdecode⟩) h
  · rfl

theorem encodeString_toText (h : WellFormed t.toBytes) : encodeString t.toText = t.toBytes := by
  obtain ⟨text, htext⟩ := Utf8.wellFormed_iff.mp h
  rw [toText_of_encodeString htext, htext]

/-- Tags and texts. Every tag is read back from its written form, which is the text of its bytes if
they are UTF-8, and ten bytes that begin with `0x` and are no bytes of a tag if they are not. So no
two tags have the same written form, whichever it is. A text has a tag of its bytes if there are
four of them, and this is the tag that it is read as and the text that this tag is written as. -/
theorem written_forms :
    (∀ t : Tag, parse t.toText = .ok t) ∧
    Function.Injective toText ∧
    (∀ t : Tag, encodeString t.toText = t.toBytes ↔ WellFormed t.toBytes) ∧
    (∀ t : Tag, ¬ WellFormed t.toBytes →
      ['0', 'x'] <+: t.toText.toList ∧ (encodeString t.toText).length = 10 ∧
        ofText? t.toText = none) ∧
    (∀ t u : Tag, WellFormed t.toBytes → ¬ WellFormed u.toBytes → t.toText ≠ u.toText) ∧
    (∀ raw, (ofText? raw).isSome = true ↔ (encodeString raw).length = 4) ∧
    ∀ raw t, ofText? raw = some t →
      parse raw = .ok t ∧ t.toBytes = encodeString raw ∧ t.toText = raw := by
  refine ⟨parse_toText, ?injective, ?bytes, ?hexadecimal, ?apart, fun _ => isSome_ofText?_iff, ?four⟩
  case injective =>
    intro t u h
    have hread := parse_toText t
    rw [h, parse_toText u] at hread
    exact (Except.ok.inj hread).symm
  case bytes =>
    exact fun t => ⟨fun h => Utf8.wellFormed_iff.mpr ⟨_, h⟩, encodeString_toText⟩
  case hexadecimal =>
    intro t h
    rw [toText_of_not_wellFormed h, toList_hexText]
    exact ⟨⟨_, rfl⟩, length_encodeString_hexText t, ofText?_hexText t⟩
  case apart =>
    intro t u ht hu heq
    have hfour := congrArg List.length (encodeString_toText ht)
    rw [heq, toText_of_not_wellFormed hu, length_encodeString_hexText] at hfour
    cases hfour
  case four =>
    intro raw t h
    have hbytes := ofText?_eq_some_iff.mp h
    exact ⟨by rw [parse, h], hbytes.symm, toText_of_encodeString hbytes⟩

-- An overlong form is no text.
example : toText ⟨0xC0804141⟩ = "0xC0804141" := by decide

end FontCatalog.Tag
