import FontCatalog.Proofs.Text.Utf8

/-!
# Lossy reading of text

Lossy reading gives back a text from its encoding, and it gives the character NUL only for a zero
byte. It ends in an ASCII character where the bytes do.
-/

namespace FontCatalog.Utf8

variable {b low high : UInt8} {bs pre : List UInt8} {cs : List Char} {acc got more m : Nat}

/-! ## The encoding of a character -/

theorem lead_one : ∀ n < 0x80, lead (UInt8.ofNat n) = ([.char (Char.ofNat n)], .start) := by
  decide

theorem lead_two :
    ∀ acc < 32, 2 ≤ acc → lead (UInt8.ofNat (acc + 0xC0)) = ([], .inside acc 1 1 0x80 0xBF) := by
  decide

theorem lead_three :
    ∀ acc < 16, lead (UInt8.ofNat (acc + 0xE0)) =
      ([], .inside acc 1 2 (if acc = 0 then 0xA0 else 0x80) (if acc = 0xD then 0x9F else 0xBF)) := by
  decide

theorem lead_four :
    ∀ acc < 5, lead (UInt8.ofNat (acc + 0xF0)) =
      ([], .inside acc 1 3 (if acc = 0 then 0x90 else 0x80) (if acc = 4 then 0x8F else 0xBF)) := by
  decide

-- A byte that continues a character adds six bits to it.
theorem step_inside (hm : m < 64) (hlow : low.toNat ≤ m + 0x80) (hhigh : m + 0x80 ≤ high.toNat) :
    step (.inside acc got more low high) (UInt8.ofNat (m + 0x80)) =
      if more ≤ 1 then ([.char (Char.ofNat (acc * 64 + m))], .start)
      else ([], .inside (acc * 64 + m) (got + 1) (more - 1) 0x80 0xBF) := by
  have hbyte : (UInt8.ofNat (m + 0x80)).toNat = m + 0x80 :=
    UInt8.toNat_ofNat_of_lt' (by simp only [UInt8.size]; omega)
  have hrange : low ≤ UInt8.ofNat (m + 0x80) ∧ UInt8.ofNat (m + 0x80) ≤ high := by
    rw [UInt8.le_iff_toNat_le, UInt8.le_iff_toNat_le, hbyte]
    exact ⟨hlow, hhigh⟩
  rw [step, if_pos hrange, hbyte, Nat.add_sub_cancel]

theorem piecesFrom_encodeChar (c : Char) (bs : List UInt8) :
    piecesFrom .start (String.utf8EncodeChar c ++ bs) = .char c :: piecesFrom .start bs := by
  have hvalid : c.val.toNat < 0xD800 ∨ 0xDFFF < c.val.toNat ∧ c.val.toNat < 0x110000 := c.valid
  have hchar {v : Nat} (hv : v = c.val.toNat) : Char.ofNat v = c := by
    rw [hv]
    exact Char.ofNat_toNat c
  have h80 : (0x80 : UInt8).toNat = 0x80 := rfl
  have hBF : (0xBF : UInt8).toNat = 0xBF := rfl
  unfold String.utf8EncodeChar
  generalize c.val.toNat = v at hvalid hchar
  dsimp only
  split
  · -- One byte.
    have hfirst := lead_one v (by omega)
    rw [List.cons_append, piecesFrom_cons, step, hfirst, hchar rfl]
    rfl
  split
  · -- Two bytes.
    have hfirst := lead_two (v / 64) (by omega) (by omega)
    rw [Nat.mod_eq_of_lt (by omega : v / 64 < 32), List.cons_append, piecesFrom_cons, step, hfirst,
      List.nil_append, List.cons_append, piecesFrom_cons,
      step_inside (by omega) (by omega) (by omega), if_pos (by omega), hchar (by omega)]
    rfl
  split
  · -- Three bytes. The bounds of the second one only keep out what is no character.
    have hfirst := lead_three (v / 4096) (by omega)
    have hlow : (if v / 4096 = 0 then 0xA0 else 0x80 : UInt8).toNat ≤ v / 64 % 64 + 0x80 := by
      split
      · change 0xA0 ≤ _
        omega
      · omega
    have hhigh : v / 64 % 64 + 0x80 ≤ (if v / 4096 = 0xD then 0x9F else 0xBF : UInt8).toNat := by
      split
      · change _ ≤ 0x9F
        omega
      · omega
    rw [Nat.mod_eq_of_lt (by omega : v / 4096 < 16), List.cons_append, piecesFrom_cons, step,
      hfirst, List.nil_append, List.cons_append, piecesFrom_cons,
      step_inside (by omega) hlow hhigh, if_neg (by omega), List.nil_append, List.cons_append,
      piecesFrom_cons, step_inside (by omega) (by omega) (by omega), if_pos (by omega),
      hchar (by omega)]
    rfl
  · -- Four bytes.
    have hfirst := lead_four (v / 262144) (by omega)
    have hlow : (if v / 262144 = 0 then 0x90 else 0x80 : UInt8).toNat ≤ v / 4096 % 64 + 0x80 := by
      split
      · change 0x90 ≤ _
        omega
      · omega
    have hhigh : v / 4096 % 64 + 0x80 ≤ (if v / 262144 = 4 then 0x8F else 0xBF : UInt8).toNat := by
      split
      · change _ ≤ 0x8F
        omega
      · omega
    rw [Nat.mod_eq_of_lt (by omega : v / 262144 < 8), List.cons_append, piecesFrom_cons, step,
      hfirst, List.nil_append, List.cons_append, piecesFrom_cons,
      step_inside (by omega) hlow hhigh, if_neg (by omega), List.nil_append, List.cons_append,
      piecesFrom_cons, step_inside (by omega) (by omega) (by omega), if_neg (by omega),
      List.nil_append, List.cons_append, piecesFrom_cons,
      step_inside (by omega) (by omega) (by omega), if_pos (by omega), hchar (by omega)]
    rfl

-- The encoding of a text is read as its characters and nothing else.
theorem pieces_encode (cs : List Char) : pieces (encode cs) = cs.map .char := by
  induction cs with
  | nil => rfl
  | cons c cs ih => rw [encode_cons, pieces, piecesFrom_encodeChar, ← pieces, ih, List.map_cons]

/-- Lossy reading loses nothing of the encoding of a text. -/
theorem decodeLossy_encode (cs : List Char) : decodeLossy (encode cs) = cs := by
  rw [decodeLossy, pieces_encode, List.map_map]
  exact List.map_id cs

theorem decodeStringLossy_encodeString (s : String) :
    decodeStringLossy (encodeString s) = s := by
  rw [decodeStringLossy, encodeString, decodeLossy_encode, String.ofList_toList]

/-! ## The character NUL -/

-- A character that the reader gives after a byte has this byte at the end of its encoding, and the
-- reader holds on to the bytes of the next one.
theorem lead_char (b : UInt8) :
    (∀ c, .char c ∈ (lead b).1 → String.utf8EncodeChar c = [b]) ∧ ∃ pre, (lead b).2.Holds pre := by
  rcases lead_cases b with ⟨hb, hlead⟩ | ⟨s, hlead, hs⟩ | hlead
  · rw [hlead]
    refine ⟨fun c hmem => ?_, [], rfl⟩
    rw [Piece.char.inj (List.mem_singleton.mp hmem), encodeChar_one hb]
  · rw [hlead]
    exact ⟨by simp, _, hs⟩
  · rw [hlead]
    exact ⟨by simp, [], rfl⟩

theorem step_char {s : State} (hs : s.Holds pre) (b : UInt8) :
    (∀ c, .char c ∈ (step s b).1 → ∃ bytes, String.utf8EncodeChar c = bytes ++ [b]) ∧
      ∃ pre', (step s b).2.Holds pre' := by
  cases s with
  | start =>
    obtain ⟨hchar, hholds⟩ := lead_char b
    exact ⟨fun c hmem => ⟨[], hchar c hmem⟩, hholds⟩
  | inside acc got more low high =>
    rw [step]
    by_cases hb : low ≤ b ∧ b ≤ high
    · rw [if_pos hb]
      obtain _ | _ | more := more
      · exact absurd hs.1 (Nat.lt_irrefl 0)
      · rw [if_pos (by omega)]
        refine ⟨fun c hmem => ⟨pre, ?_⟩, [], rfl⟩
        rw [Piece.char.inj (List.mem_singleton.mp hmem), hs.complete hb]
      · rw [if_neg (by omega)]
        exact ⟨by simp, _, hs.continue hb⟩
    · rw [if_neg hb]
      obtain ⟨hchar, hholds⟩ := lead_char b
      exact ⟨fun c hmem => ⟨[], hchar c (by simpa using hmem)⟩, hholds⟩

-- The encoding of NUL is one zero byte.
theorem step_nul {s : State} (hs : s.Holds pre) (hmem : .char '\x00' ∈ (step s b).1) : b = 0 := by
  obtain ⟨bytes, hbytes⟩ := (step_char hs b).1 _ hmem
  have hbytes : [] ++ [0] = bytes ++ [b] := hbytes
  obtain ⟨-, hbyte⟩ := List.append_inj' hbytes rfl
  exact (List.cons.inj hbyte).1.symm

theorem zero_mem_of_piecesFrom {s : State} (hs : s.Holds pre)
    (hmem : .char '\x00' ∈ piecesFrom s bs) : 0 ∈ bs := by
  induction bs generalizing s pre with
  | nil => cases s <;> simp [piecesFrom] at hmem
  | cons b bs ih =>
    obtain ⟨-, pre', hs'⟩ := step_char hs b
    rw [piecesFrom_cons, List.mem_append] at hmem
    rcases hmem with hmem | hmem
    · rw [step_nul hs hmem]
      exact List.mem_cons_self
    · exact List.mem_cons_of_mem b (ih hs' hmem)

/-- Bytes without a zero are shown without NUL. -/
theorem nul_notMem_decodeLossy (h : 0 ∉ bs) : '\x00' ∉ decodeLossy bs := by
  intro hmem
  obtain ⟨p, hp, hshown⟩ := List.mem_map.mp hmem
  cases p with
  | char c =>
    obtain rfl : c = '\x00' := hshown
    exact h (zero_mem_of_piecesFrom State.holds_start hp)
  | invalid width => exact absurd (show '\uFFFD' = '\x00' from hshown) (by decide)
  | incomplete => exact absurd (show '\uFFFD' = '\x00' from hshown) (by decide)

/-! ## The last character -/

/-- Inside of a character the next byte is not taken for ASCII. -/
def State.High : State → Prop
  | .start => True
  | .inside _ _ _ low _ => 0x80 ≤ low

theorem high_lead (b : UInt8) : (lead b).2.High := by
  unfold lead
  split
  · trivial
  split
  · exact UInt8.le_refl 0x80
  split
  · exact (by decide : (0x80 : UInt8) ≤ 0xA0)
  split
  · exact UInt8.le_refl 0x80
  split
  · exact UInt8.le_refl 0x80
  split
  · exact (by decide : (0x80 : UInt8) ≤ 0x90)
  split
  · exact UInt8.le_refl 0x80
  split
  · exact UInt8.le_refl 0x80
  · trivial

theorem high_step (s : State) (b : UInt8) : (step s b).2.High := by
  cases s with
  | start => exact high_lead b
  | inside acc got more low high =>
    rw [step]
    split
    · dsimp only
      split
      · trivial
      · exact UInt8.le_refl 0x80
    · exact high_lead b

-- An ASCII byte is a character of its own wherever it comes.
theorem step_ascii {s : State} (hs : s.High) (hb : b < 0x80) :
    ∃ ps, step s b = (ps ++ [.char (Char.ofNat b.toNat)], .start) := by
  have hlead : lead b = ([.char (Char.ofNat b.toNat)], .start) := by rw [lead, if_pos hb]
  cases s with
  | start => exact ⟨[], hlead⟩
  | inside acc got more low high =>
    have hlow : ¬ (low ≤ b ∧ b ≤ high) := fun h =>
      UInt8.not_le.mpr hb (UInt8.le_trans hs h.1)
    refine ⟨[.invalid got], ?_⟩
    rw [step, if_neg hlow, hlead]
    rfl

-- A reader that comes to the last bytes stands somewhere between two bytes then.
theorem exists_piecesFrom_append {s : State} (hs : s.Holds pre) (hhigh : s.High)
    (bs rest : List UInt8) :
    ∃ s' pre' ps, s'.Holds pre' ∧ s'.High ∧ piecesFrom s (bs ++ rest) = ps ++ piecesFrom s' rest := by
  induction bs generalizing s pre with
  | nil => exact ⟨s, pre, [], hs, hhigh, rfl⟩
  | cons b bs ih =>
    obtain ⟨-, pre₁, hs₁⟩ := step_char hs b
    obtain ⟨s', pre', ps, hs', hhigh', hpieces⟩ := ih hs₁ (high_step s b)
    refine ⟨s', pre', (step s b).1 ++ ps, hs', hhigh', ?_⟩
    rw [List.cons_append, piecesFrom_cons, hpieces, List.append_assoc]

-- Nothing that the reader gives for a byte beyond ASCII is shown as an ASCII character.
theorem shown_of_not_ascii {s : State} (hs : s.Holds pre) (hb : ¬ b < 0x80) {p : Piece}
    (hp : p ∈ piecesFrom s [b]) : 0x80 ≤ p.shown.toNat := by
  have hreplaced : 0x80 ≤ '\uFFFD'.toNat := by decide
  cases p with
  | invalid width => exact hreplaced
  | incomplete => exact hreplaced
  | char c =>
    have hmem : .char c ∈ (step s b).1 := by
      rw [piecesFrom_cons, List.mem_append] at hp
      refine hp.resolve_right fun hend => ?_
      cases hs' : (step s b).2 <;> simp [hs', piecesFrom] at hend
    obtain ⟨bytes, hbytes⟩ := (step_char hs b).1 c hmem
    refine Nat.not_lt.mp fun hlt => ?_
    have hc : c.val.toNat ≤ 0x7F := by
      rw [Piece.shown, Char.toNat] at hlt
      omega
    -- An ASCII character has one byte, and this is no byte beyond ASCII.
    rw [String.utf8EncodeChar, if_pos hc, ← List.nil_append [_]] at hbytes
    obtain ⟨-, hbyte⟩ := List.append_inj' hbytes rfl
    refine hb ?_
    rw [← (List.cons.inj hbyte).1, UInt8.lt_iff_toNat_lt,
      UInt8.toNat_ofNat_of_lt' (by simp only [UInt8.size]; omega)]
    exact Nat.lt_succ_of_le hc

theorem piecesFrom_singleton_ne_nil {s : State} (hs : s.Holds pre) (b : UInt8) :
    piecesFrom s [b] ≠ [] := by
  rw [piecesFrom_cons]
  rcases hs.step_cases b with ⟨c, hstep, -⟩ | ⟨s', hstep, hs'⟩ | ⟨width, ps, s', hstep⟩
  · simp [hstep]
  · cases s' with
    | start => exact absurd (show pre ++ [b] = [] from hs') (by simp)
    | inside => simp [hstep, piecesFrom]
  · simp [hstep]

/-- Bytes are shown with a given ASCII character at the end where that is their last byte. -/
theorem getLast?_decodeLossy (hb : b < 0x80) :
    (decodeLossy bs).getLast? = some (Char.ofNat b.toNat) ↔ bs.getLast? = some b := by
  rcases List.eq_nil_or_concat bs with rfl | ⟨bs, d, rfl⟩
  · simp [decodeLossy, pieces, piecesFrom]
  · rw [List.concat_eq_append]
    obtain ⟨s, pre, ps, hs, hhigh, hpieces⟩ :=
      exists_piecesFrom_append State.holds_start trivial bs [d]
    have hshown : decodeLossy (bs ++ [d]) =
        ps.map Piece.shown ++ (piecesFrom s [d]).map Piece.shown := by
      rw [decodeLossy, pieces, hpieces, List.map_append]
    obtain ⟨c, hc⟩ : ∃ c, ((piecesFrom s [d]).map Piece.shown).getLast? = some c :=
      Option.isSome_iff_exists.mp (by simpa using piecesFrom_singleton_ne_nil hs d)
    rw [hshown, List.getLast?_append, hc, Option.some_or, List.getLast?_concat, Option.some_inj,
      Option.some_inj]
    by_cases hd : d < 0x80
    · obtain ⟨qs, hstep⟩ := step_ascii hhigh hd
      obtain rfl : Char.ofNat d.toNat = c := by
        simpa [piecesFrom_cons, hstep, piecesFrom, Piece.shown] using hc
      constructor
      · intro h
        have henc := encodeChar_one hd
        rw [h, encodeChar_one hb] at henc
        exact (List.cons.inj henc).1.symm
      · rintro rfl
        rfl
    · constructor
      · rintro rfl
        obtain ⟨p, hp, hshown⟩ := List.mem_map.mp (List.mem_of_getLast? hc)
        have hge := shown_of_not_ascii hs hd hp
        have hlt : b.toNat < 0x80 := hb
        rw [hshown, Char.toNat, toNat_val_ofNat (Or.inl (by omega))] at hge
        omega
      · rintro rfl
        exact absurd hb hd

end FontCatalog.Utf8
