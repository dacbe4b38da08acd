import FontCatalog.Proofs.Text.Lossy

/-!
# The byte sequences of characters

Which bytes are UTF-8, by the bounds of the bytes of a character. Strict reading gives a text for
these bytes and for no others, and it is the text whose encoding they are.
-/

namespace FontCatalog.Utf8

/-- A byte of a character after the first one. -/
def Continues (b : UInt8) : Prop := 0x80 ≤ b ∧ b ≤ 0xBF

/-- The bytes of one character. The bounds of the second byte keep out characters that have a
shorter sequence (after `0xE0` and `0xF0`, as those of the first byte do with `0xC0` and `0xC1`),
surrogates (after `0xED`), and what lies beyond the last character (after `0xF4`). -/
inductive Sequence : List UInt8 → Prop where
  | one {b : UInt8} (hb : b ≤ 0x7F) : Sequence [b]
  | two {b d : UInt8} (hb : 0xC2 ≤ b ∧ b ≤ 0xDF) (hd : Continues d) : Sequence [b, d]
  | three {b d e : UInt8} (hb : 0xE0 ≤ b ∧ b ≤ 0xEF) (hd : Continues d) (he : Continues e)
      (hshorter : b = 0xE0 → 0xA0 ≤ d) (hsurrogate : b = 0xED → d ≤ 0x9F) : Sequence [b, d, e]
  | four {b d e f : UInt8} (hb : 0xF0 ≤ b ∧ b ≤ 0xF4) (hd : Continues d) (he : Continues e)
      (hf : Continues f) (hshorter : b = 0xF0 → 0x90 ≤ d) (hlast : b = 0xF4 → d ≤ 0x8F) :
      Sequence [b, d, e, f]

/-- Bytes that are sequences of characters, one after the other. -/
inductive WellFormed : List UInt8 → Prop where
  | nil : WellFormed []
  | append {s bs : List UInt8} (hs : Sequence s) (h : WellFormed bs) : WellFormed (s ++ bs)

variable {bs s : List UInt8} {text : String}

/-! ## Sequences and characters -/

theorem Sequence.exists_char (h : Sequence s) : ∃ c, String.utf8EncodeChar c = s := by
  have hfirst {b n : UInt8} (hn : b.toNat = n.toNat) : b = n := UInt8.toNat_inj.mp hn
  cases h with
  | @one b hb =>
    have hlt : b < 0x80 := by
      rw [UInt8.le_iff_toNat_le] at hb
      exact Nat.lt_succ_of_le hb
    exact ⟨_, encodeChar_one hlt⟩
  | @two b d hb hd =>
    have hlow : 194 ≤ b.toNat := hb.1
    have hhigh : b.toNat ≤ 223 := hb.2
    have hacc : b.toNat = 0xC0 + (b.toNat - 0xC0) := by omega
    exact ⟨_, encodeChar_two hacc (by omega) hd⟩
  | @three b d e hb hd he hshorter hsurrogate =>
    have hlow : 224 ≤ b.toNat := hb.1
    have hhigh : b.toNat ≤ 239 := hb.2
    have hacc : b.toNat = 0xE0 + (b.toNat - 0xE0) := by omega
    refine ⟨_, encodeChar_three hacc (by omega) hd he (fun h => hshorter (hfirst ?_))
      fun h => hsurrogate (hfirst ?_)⟩
    · change b.toNat = 224
      omega
    · change b.toNat = 237
      omega
  | @four b d e f hb hd he hf hshorter hlast =>
    have hlow : 240 ≤ b.toNat := hb.1
    have hhigh : b.toNat ≤ 244 := hb.2
    have hacc : b.toNat = 0xF0 + (b.toNat - 0xF0) := by omega
    refine ⟨_, encodeChar_four hacc (by omega) hd he hf (fun h => hshorter (hfirst ?_))
      fun h => hlast (hfirst ?_)⟩
    · change b.toNat = 240
      omega
    · change b.toNat = 244
      omega

theorem ofNat_within (low high : Nat) {n : Nat} (hlow : low ≤ n) (hhigh : n ≤ high)
    (h : high < 256) : UInt8.ofNat low ≤ UInt8.ofNat n ∧ UInt8.ofNat n ≤ UInt8.ofNat high := by
  simp only [UInt8.le_iff_toNat_le, UInt8.toNat_ofNat']
  omega

-- Six bits of a character make a byte after the first one.
theorem continues_ofNat (n : Nat) : Continues (UInt8.ofNat (n % 64 + 0x80)) :=
  ofNat_within 0x80 0xBF (by omega) (by omega) (by decide)

theorem sequence_encodeChar (c : Char) : Sequence (String.utf8EncodeChar c) := by
  have hvalid : c.val.toNat < 0xD800 ∨ 0xDFFF < c.val.toNat ∧ c.val.toNat < 0x110000 := c.valid
  have hfirst {n m : Nat} (hn : n < 256) (hm : m < 256) (h : UInt8.ofNat n = UInt8.ofNat m) :
      n = m := by
    have hnat := congrArg UInt8.toNat h
    rwa [UInt8.toNat_ofNat_of_lt' hn, UInt8.toNat_ofNat_of_lt' hm] at hnat
  unfold String.utf8EncodeChar
  generalize c.val.toNat = v at hvalid
  dsimp only
  split
  · exact .one (ofNat_within 0 0x7F (by omega) (by omega) (by decide)).2
  split
  · exact .two (ofNat_within 0xC2 0xDF (by omega) (by omega) (by decide)) (continues_ofNat v)
  split
  · refine .three (ofNat_within 0xE0 0xEF (by omega) (by omega) (by decide))
      (continues_ofNat (v / 64)) (continues_ofNat v) (fun h => ?_) fun h => ?_
    · have hacc : v / 4096 % 16 + 0xE0 = 0xE0 := hfirst (by omega) (by decide) h
      exact (ofNat_within 0xA0 0xBF (by omega) (by omega) (by decide)).1
    · have hacc : v / 4096 % 16 + 0xE0 = 0xED := hfirst (by omega) (by decide) h
      exact (ofNat_within 0x80 0x9F (by omega) (by omega) (by decide)).2
  · refine .four (ofNat_within 0xF0 0xF4 (by omega) (by omega) (by decide))
      (continues_ofNat (v / 4096)) (continues_ofNat (v / 64)) (continues_ofNat v) (fun h => ?_)
      fun h => ?_
    · have hacc : v / 262144 % 8 + 0xF0 = 0xF0 := hfirst (by omega) (by decide) h
      exact (ofNat_within 0x90 0xBF (by omega) (by omega) (by decide)).1
    · have hacc : v / 262144 % 8 + 0xF0 = 0xF4 := hfirst (by omega) (by decide) h
      exact (ofNat_within 0x80 0x8F (by omega) (by omega) (by decide)).2

/-! ## Texts -/

/-- The bytes of texts are those that are well-formed. -/
theorem wellFormed_iff : WellFormed bs ↔ ∃ text : String, encodeString text = bs := by
  constructor
  · intro h
    induction h with
    | nil => exact ⟨"", rfl⟩
    | append hs _ ih =>
      obtain ⟨c, rfl⟩ := hs.exists_char
      obtain ⟨text, rfl⟩ := ih
      refine ⟨String.ofList (c :: text.toList), ?_⟩
      rw [encodeString, String.toList_ofList, encode_cons, encodeString]
  · rintro ⟨text, rfl⟩
    rw [encodeString]
    induction text.toList with
    | nil => exact .nil
    | cons c cs ih =>
      rw [encode_cons]
      exact .append (sequence_encodeChar c) ih

theorem charsFrom_map_char (index : Nat) (cs : List Char) :
    charsFrom index (cs.map .char) = .ok cs := by
  induction cs generalizing index with
  | nil => rfl
  | cons c cs ih =>
    rw [List.map_cons, charsFrom, ih]
    rfl

theorem decodeString_encodeString (text : String) :
    decodeString (encodeString text) = .ok text := by
  rw [decodeString, decode, encodeString, pieces_encode, charsFrom_map_char]
  exact congrArg Except.ok String.ofList_toList

/-- Strict reading gives the text whose encoding the bytes are. -/
theorem decodeString_eq_ok_iff : decodeString bs = .ok text ↔ encodeString text = bs := by
  constructor
  · exact encodeString_of_decodeString
  · rintro rfl
    exact decodeString_encodeString text

end FontCatalog.Utf8
