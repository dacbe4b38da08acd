import FontCatalog.Number.Single

/-!
# Bits of 32-bit numbers

A number that is not a NaN is found again by its sign, its significand and its exponent.
-/

namespace FontCatalog.Number.Single

variable {x : Single} {s : Bool} {m n : Nat} {q : Int}

theorem pack_eq (hs : s = decide (0x80000000 ≤ x.bits.toNat))
    (hn : n = x.bits.toNat % 0x80000000) :
    pack s n = x := by
  have hlt := x.bits.toNat_lt
  have hbits : (if s then 0x80000000 else 0) + n = x.bits.toNat := by
    subst hs hn
    -- The sign bit and the bits below it make up all 32 bits.
    by_cases hsign : 0x80000000 ≤ x.bits.toNat
    · simp only [hsign, decide_true, if_true]
      omega
    · simp only [hsign, decide_false, Bool.false_eq_true, if_false]
      omega
  rw [pack, hbits, UInt32.ofNat_toNat]

-- The significand and the exponent of a finite number, by the bits between the sign and the
-- fraction.
theorem finite_cases (h : x.toBinary = .finite s m q) :
    s = decide (0x80000000 ≤ x.bits.toNat) ∧
      (x.bits.toNat / 0x800000 % 256 = 0 ∧ m = x.bits.toNat % 0x800000 ∧ q = -149 ∨
        0 < x.bits.toNat / 0x800000 % 256 ∧ x.bits.toNat / 0x800000 % 256 < 255 ∧
          m = 0x800000 + x.bits.toNat % 0x800000 ∧
          q = (x.bits.toNat / 0x800000 % 256 : Nat) - 150) := by
  simp only [toBinary] at h
  split at h
  · split at h <;> cases h
  · rename_i hexpo
    split at h
    · rename_i hzero
      cases h
      exact ⟨rfl, Or.inl ⟨hzero, rfl, rfl⟩⟩
    · rename_i hzero
      cases h
      exact ⟨rfl, Or.inr ⟨by omega, by omega, rfl, rfl⟩⟩

/-- A finite number is put together again from its parts. -/
theorem ofBinary_finite (h : x.toBinary = .finite s m q) : ofBinary (.finite s m q) = x := by
  obtain ⟨hs, ⟨hexpo, hm, hq⟩ | ⟨hlow, hhigh, hm, hq⟩⟩ := finite_cases h
  · rw [ofBinary, if_pos (by omega)]
    exact pack_eq hs (by omega)
  · rw [ofBinary, if_neg (by omega)]
    exact pack_eq hs (by omega)

end FontCatalog.Number.Single
