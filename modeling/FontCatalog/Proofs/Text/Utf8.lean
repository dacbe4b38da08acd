import FontCatalog.Text.Utf8

/-!
# The bytes of what was read

Bytes that read as characters are the encoding of these characters. The bytes read so far of a
character and the bytes that may still complete it are always the encoding of the character that
the reader gives at its end.
-/

namespace FontCatalog.Utf8

variable {b d e f : UInt8} {bs pre : List UInt8} {cs : List Char} {ps : List Piece}
  {acc index : Nat}

/-! ## Characters by their number -/

theorem toNat_val_ofNat {v : Nat} (hv : v.isValidChar) : (Char.ofNat v).val.toNat = v := by
  rw [Char.ofNat, dif_pos hv]
  rfl

theorem encodeChar_one (hb : b < 0x80) : String.utf8EncodeChar (Char.ofNat b.toNat) = [b] := by
  have hb' : b.toNat < 128 := hb
  have hle : b.toNat ≤ 0x7F := by omega
  have hvalid : b.toNat.isValidChar := Or.inl (by omega)
  simp only [String.utf8EncodeChar, toNat_val_ofNat hvalid, if_pos hle, UInt8.ofNat_toNat]

theorem ofNat_eq {n : Nat} (h : n = b.toNat) : UInt8.ofNat n = b := by
  rw [h, UInt8.ofNat_toNat]

theorem encodeChar_two (hb : b.toNat = 0xC0 + acc) (hacc : 2 ≤ acc ∧ acc < 32)
    (hd : 0x80 ≤ d ∧ d ≤ 0xBF) :
    String.utf8EncodeChar (Char.ofNat (acc * 64 + (d.toNat - 0x80))) = [b, d] := by
  obtain ⟨hlow, hhigh⟩ := hd
  have hlow' : 128 ≤ d.toNat := hlow
  have hhigh' : d.toNat ≤ 191 := hhigh
  have hvalid : (acc * 64 + (d.toNat - 0x80)).isValidChar := Or.inl (by omega)
  simp only [String.utf8EncodeChar, toNat_val_ofNat hvalid]
  rw [if_neg (by omega), if_pos (by omega), ofNat_eq (b := b) (by omega),
    ofNat_eq (b := d) (by omega)]

theorem encodeChar_three (hb : b.toNat = 0xE0 + acc) (hacc : acc < 16)
    (hd : 0x80 ≤ d ∧ d ≤ 0xBF) (he : 0x80 ≤ e ∧ e ≤ 0xBF) (hzero : acc = 0 → 0xA0 ≤ d)
    (hsurrogate : acc = 0xD → d ≤ 0x9F) :
    String.utf8EncodeChar
      (Char.ofNat ((acc * 64 + (d.toNat - 0x80)) * 64 + (e.toNat - 0x80))) = [b, d, e] := by
  have hdLow : 128 ≤ d.toNat := hd.1
  have hdHigh : d.toNat ≤ 191 := hd.2
  have heLow : 128 ≤ e.toNat := he.1
  have heHigh : e.toNat ≤ 191 := he.2
  have hzero' : acc = 0 → 160 ≤ d.toNat := hzero
  have hsurrogate' : acc = 13 → d.toNat ≤ 159 := hsurrogate
  -- The bounds of the second byte leave out exactly the surrogates.
  have hvalid : ((acc * 64 + (d.toNat - 0x80)) * 64 + (e.toNat - 0x80)).isValidChar := by
    rcases Nat.lt_or_ge acc 14 with hacc' | hacc'
    · exact Or.inl (by omega)
    · exact Or.inr ⟨by omega, by omega⟩
  simp only [String.utf8EncodeChar, toNat_val_ofNat hvalid]
  rw [if_neg (by omega), if_neg (by omega), if_pos (by omega), ofNat_eq (b := b) (by omega),
    ofNat_eq (b := d) (by omega), ofNat_eq (b := e) (by omega)]

theorem encodeChar_four (hb : b.toNat = 0xF0 + acc) (hacc : acc < 5)
    (hd : 0x80 ≤ d ∧ d ≤ 0xBF) (he : 0x80 ≤ e ∧ e ≤ 0xBF) (hf : 0x80 ≤ f ∧ f ≤ 0xBF)
    (hzero : acc = 0 → 0x90 ≤ d) (hlast : acc = 4 → d ≤ 0x8F) :
    String.utf8EncodeChar (Char.ofNat
      (((acc * 64 + (d.toNat - 0x80)) * 64 + (e.toNat - 0x80)) * 64 + (f.toNat - 0x80))) =
        [b, d, e, f] := by
  have hdLow : 128 ≤ d.toNat := hd.1
  have hdHigh : d.toNat ≤ 191 := hd.2
  have heLow : 128 ≤ e.toNat := he.1
  have heHigh : e.toNat ≤ 191 := he.2
  have hfLow : 128 ≤ f.toNat := hf.1
  have hfHigh : f.toNat ≤ 191 := hf.2
  have hzero' : acc = 0 → 144 ≤ d.toNat := hzero
  have hlast' : acc = 4 → d.toNat ≤ 143 := hlast
  have hvalid : (((acc * 64 + (d.toNat - 0x80)) * 64 + (e.toNat - 0x80)) * 64 +
      (f.toNat - 0x80)).isValidChar := Or.inr ⟨by omega, by omega⟩
  simp only [String.utf8EncodeChar, toNat_val_ofNat hvalid]
  rw [if_neg (by omega), if_neg (by omega), if_neg (by omega), ofNat_eq (b := b) (by omega),
    ofNat_eq (b := d) (by omega), ofNat_eq (b := e) (by omega), ofNat_eq (b := f) (by omega)]

/-! ## Bytes read so far -/

/-- Bytes that complete a character of which `more` are owed. -/
def Completes : (low high : UInt8) → (more : Nat) → List UInt8 → Prop
  | _, _, 0, ds => ds = []
  | _, _, _ + 1, [] => False
  | low, high, more + 1, d :: ds => low ≤ d ∧ d ≤ high ∧ Completes 0x80 0xBF more ds

/-- That `pre` are the bytes of the character that the reader is inside of: with whatever bytes may
complete it, the character is given for its encoding. -/
def State.Holds : State → List UInt8 → Prop
  | .start, pre => pre = []
  | .inside acc _ more low high, pre =>
    0 < more ∧ ∀ ds, Completes low high more ds →
      String.utf8EncodeChar
        (Char.ofNat (ds.foldl (fun acc d => acc * 64 + (d.toNat - 0x80)) acc)) = pre ++ ds

theorem State.holds_start : State.start.Holds [] := rfl

theorem holds_two {low high : UInt8} (hb : b.toNat = 0xC0 + acc) (hacc : 2 ≤ acc ∧ acc < 32)
    (hrange : ∀ d, low ≤ d → d ≤ high → 0x80 ≤ d ∧ d ≤ 0xBF) :
    (State.inside acc 1 1 low high).Holds [b] := by
  refine ⟨Nat.one_pos, fun ds hds => ?_⟩
  match ds, hds with
  | [d], hds => exact encodeChar_two hb hacc (hrange d hds.1 hds.2.1)

theorem holds_three {low high : UInt8} (hb : b.toNat = 0xE0 + acc) (hacc : acc < 16)
    (hrange : ∀ d, low ≤ d → d ≤ high →
      (0x80 ≤ d ∧ d ≤ 0xBF) ∧ (acc = 0 → 0xA0 ≤ d) ∧ (acc = 0xD → d ≤ 0x9F)) :
    (State.inside acc 1 2 low high).Holds [b] := by
  refine ⟨Nat.two_pos, fun ds hds => ?_⟩
  match ds, hds with
  | [d, e], ⟨hlow, hhigh, helow, hehigh, _⟩ =>
    obtain ⟨hd, hzero, hsurrogate⟩ := hrange d hlow hhigh
    exact encodeChar_three hb hacc hd ⟨helow, hehigh⟩ hzero hsurrogate

theorem holds_four {low high : UInt8} (hb : b.toNat = 0xF0 + acc) (hacc : acc < 5)
    (hrange : ∀ d, low ≤ d → d ≤ high →
      (0x80 ≤ d ∧ d ≤ 0xBF) ∧ (acc = 0 → 0x90 ≤ d) ∧ (acc = 4 → d ≤ 0x8F)) :
    (State.inside acc 1 3 low high).Holds [b] := by
  refine ⟨by decide, fun ds hds => ?_⟩
  match ds, hds with
  | [d, e, f], ⟨hlow, hhigh, helow, hehigh, hflow, hfhigh, _⟩ =>
    obtain ⟨hd, hzero, hlast⟩ := hrange d hlow hhigh
    exact encodeChar_four hb hacc hd ⟨helow, hehigh⟩ ⟨hflow, hfhigh⟩ hzero hlast

/-! ## Runs of the reader -/

-- What the reader makes of a first byte: a character, the start of one, or a fault.
theorem lead_cases (b : UInt8) :
    (b < 0x80 ∧ lead b = ([.char (Char.ofNat b.toNat)], .start)) ∨
      (∃ s, lead b = ([], s) ∧ s.Holds [b]) ∨ lead b = ([.invalid 1], .start) := by
  unfold lead
  split
  · rename_i hb
    exact Or.inl ⟨hb, rfl⟩
  split
  · rename_i hb
    have hlow : 194 ≤ b.toNat := hb.1
    have hhigh : b.toNat ≤ 223 := hb.2
    refine Or.inr (Or.inl ⟨_, rfl, holds_two (by omega) (by omega) fun d hlow hhigh => ?_⟩)
    exact ⟨hlow, hhigh⟩
  split
  · rename_i hb
    subst hb
    refine Or.inr (Or.inl ⟨_, rfl, holds_three rfl (by omega) fun d hlow hhigh => ?_⟩)
    exact ⟨⟨UInt8.le_trans (by decide) hlow, hhigh⟩, fun _ => hlow, by omega⟩
  split
  · rename_i hb
    subst hb
    refine Or.inr (Or.inl ⟨_, rfl, holds_three rfl (by omega) fun d hlow hhigh => ?_⟩)
    exact ⟨⟨hlow, UInt8.le_trans hhigh (by decide)⟩, by omega, fun _ => hhigh⟩
  split
  · rename_i hzero hsurrogate hb
    have hlow : 225 ≤ b.toNat := hb.1
    have hhigh : b.toNat ≤ 239 := hb.2
    have hne : b.toNat ≠ 237 := fun h => hsurrogate (UInt8.toNat_inj.mp h)
    refine Or.inr (Or.inl ⟨_, rfl, holds_three (by omega) (by omega) fun d hlow hhigh => ?_⟩)
    exact ⟨⟨hlow, hhigh⟩, by omega, by omega⟩
  split
  · rename_i hb
    subst hb
    refine Or.inr (Or.inl ⟨_, rfl, holds_four rfl (by omega) fun d hlow hhigh => ?_⟩)
    exact ⟨⟨UInt8.le_trans (by decide) hlow, hhigh⟩, fun _ => hlow, by omega⟩
  split
  · rename_i hb
    have hlow : 241 ≤ b.toNat := hb.1
    have hhigh : b.toNat ≤ 243 := hb.2
    refine Or.inr (Or.inl ⟨_, rfl, holds_four (by omega) (by omega) fun d hlow hhigh => ?_⟩)
    exact ⟨⟨hlow, hhigh⟩, by omega, by omega⟩
  split
  · rename_i hb
    subst hb
    refine Or.inr (Or.inl ⟨_, rfl, holds_four rfl (by omega) fun d hlow hhigh => ?_⟩)
    exact ⟨⟨hlow, UInt8.le_trans hhigh (by decide)⟩, by omega, fun _ => hhigh⟩
  · exact Or.inr (Or.inr rfl)

theorem State.Holds.continue {got more : Nat} {low high : UInt8}
    (h : (State.inside acc got (more + 2) low high).Holds pre) (hb : low ≤ b ∧ b ≤ high) :
    (State.inside (acc * 64 + (b.toNat - 0x80)) (got + 1) (more + 1) 0x80 0xBF).Holds
      (pre ++ [b]) := by
  refine ⟨Nat.succ_pos _, fun ds hds => ?_⟩
  have hcompletes : Completes low high (more + 2) (b :: ds) := ⟨hb.1, hb.2, hds⟩
  have hchar := h.2 (b :: ds) hcompletes
  rw [List.foldl_cons] at hchar
  rw [hchar, List.append_assoc, List.singleton_append]

theorem State.Holds.complete {got : Nat} {low high : UInt8}
    (h : (State.inside acc got 1 low high).Holds pre) (hb : low ≤ b ∧ b ≤ high) :
    String.utf8EncodeChar (Char.ofNat (acc * 64 + (b.toNat - 0x80))) = pre ++ [b] :=
  h.2 [b] ⟨hb.1, hb.2, rfl⟩

/-- A byte completes a character with what was read of it, adds to that, or begins with a fault. -/
theorem State.Holds.step_cases {s : State} (hs : s.Holds pre) (b : UInt8) :
    (∃ c, step s b = ([.char c], .start) ∧ String.utf8EncodeChar c = pre ++ [b]) ∨
      (∃ s', step s b = ([], s') ∧ s'.Holds (pre ++ [b])) ∨
        ∃ width ps s', step s b = (.invalid width :: ps, s') := by
  cases s with
  | start =>
    obtain rfl : pre = [] := hs
    rcases lead_cases b with ⟨hb, hlead⟩ | ⟨s, hlead, hholds⟩ | hlead
    · exact Or.inl ⟨_, hlead, encodeChar_one hb⟩
    · exact Or.inr (Or.inl ⟨s, hlead, hholds⟩)
    · exact Or.inr (Or.inr ⟨_, _, _, hlead⟩)
  | inside acc got more low high =>
    rw [step]
    by_cases hb : low ≤ b ∧ b ≤ high
    · rw [if_pos hb]
      obtain _ | _ | more := more
      · exact absurd hs.1 (Nat.lt_irrefl 0)
      · rw [if_pos (by omega)]
        exact Or.inl ⟨_, rfl, hs.complete hb⟩
      · rw [if_neg (by omega)]
        exact Or.inr (Or.inl ⟨_, rfl, hs.continue hb⟩)
    · rw [if_neg hb]
      exact Or.inr (Or.inr ⟨_, _, _, rfl⟩)

theorem piecesFrom_cons (s : State) (b : UInt8) (bs : List UInt8) :
    piecesFrom s (b :: bs) = (step s b).1 ++ piecesFrom (step s b).2 bs := by
  cases s <;> rfl

theorem encode_cons (c : Char) (cs : List Char) :
    encode (c :: cs) = String.utf8EncodeChar c ++ encode cs :=
  List.flatMap_cons

/-- Bytes that are read as characters from some state on are, after those read before, the encoding
of these characters. -/
theorem encode_of_piecesFrom {s : State} (hs : s.Holds pre)
    (hchars : piecesFrom s bs = cs.map .char) : encode cs = pre ++ bs := by
  induction bs generalizing s pre cs with
  | nil =>
    cases s with
    | start =>
      obtain rfl : cs = [] := List.map_eq_nil_iff.mp hchars.symm
      rw [hs]
      rfl
    | inside acc got more low high =>
      cases cs with
      | nil => cases hchars
      | cons c cs => cases hchars
  | cons b bs ih =>
    rw [piecesFrom_cons] at hchars
    rcases hs.step_cases b with ⟨c, hstep, hc⟩ | ⟨s', hstep, hs'⟩ | ⟨width, ps, s', hstep⟩
    · rw [hstep] at hchars
      obtain ⟨c', cs, rfl, hc', hcs⟩ := List.map_eq_cons_iff.mp hchars.symm
      rw [Piece.char.inj hc', encode_cons, hc, ih State.holds_start hcs.symm, List.append_assoc]
      rfl
    · rw [hstep] at hchars
      rw [ih hs' hchars, List.append_assoc, List.singleton_append]
    · rw [hstep] at hchars
      obtain ⟨c', cs, rfl, hc', hcs⟩ := List.map_eq_cons_iff.mp hchars.symm
      cases hc'

theorem charsFrom_eq_ok (h : charsFrom index ps = .ok cs) : ps = cs.map .char := by
  induction ps generalizing index cs with
  | nil =>
    cases h
    rfl
  | cons p ps ih =>
    cases p with
    | char c =>
      rw [charsFrom] at h
      cases hrest : charsFrom (index + c.utf8Size) ps with
      | error e =>
        rw [hrest] at h
        cases h
      | ok cs' =>
        rw [hrest] at h
        cases h
        rw [List.map_cons, ih hrest]
    | invalid width => cases h
    | incomplete => cases h

theorem encode_of_decode (h : decode bs = .ok cs) : encode cs = bs :=
  encode_of_piecesFrom State.holds_start (charsFrom_eq_ok h)

theorem encodeString_of_decodeString {text : String} (h : decodeString bs = .ok text) :
    encodeString text = bs := by
  rw [decodeString] at h
  cases hdecode : decode bs with
  | error e =>
    rw [hdecode] at h
    cases h
  | ok cs =>
    rw [hdecode] at h
    cases h
    rw [encodeString, String.toList_ofList, encode_of_decode hdecode]

end FontCatalog.Utf8
