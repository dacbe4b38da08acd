import FontCatalog.Proofs.Number.Decimal
import Mathlib.Algebra.Group.Nat.Defs

/-!
# Numbers of a fixed width

A number is read back from its hexadecimal digits, however many zeros stand before them, as long as
the width is enough for it.
-/

namespace FontCatalog.Number

variable {radix max acc n k : Nat} {cs ds : List Char}

theorem readDigits_append (h : readDigits radix max acc cs = .ok n) :
    readDigits radix max acc (cs ++ ds) = readDigits radix max n ds := by
  induction cs generalizing acc with
  | nil =>
    cases h
    rfl
  | cons c cs ih =>
    rw [readDigits] at h
    rw [List.cons_append, readDigits]
    cases hc : digitIn? radix c with
    | none =>
      rw [hc] at h
      cases h
    | some d =>
      simp only [hc] at h ⊢
      split at h
      · rename_i hmax
        rw [if_pos hmax, ih h]
      · cases h

theorem digitIn?_upperDigit : ∀ n < 16, digitIn? 16 (upperDigit n) = some n := by decide

theorem upperDigit_ne_plus : ∀ n < 16, upperDigit n ≠ '+' := by decide

theorem readDigits_fixedDigits (width : Nat) (hmax : acc * 16 ^ width + n % 16 ^ width ≤ max) :
    readDigits 16 max acc (fixedDigits upperDigit 16 width n) =
      .ok (acc * 16 ^ width + n % 16 ^ width) := by
  -- The digits are read from the front, so the induction follows the writing from the back.
  induction width generalizing n with
  | zero => simp [fixedDigits, readDigits, Nat.mod_one]
  | succ width ih =>
    -- The last digit is what is left over by the others.
    have hvalue : acc * 16 ^ (width + 1) + n % 16 ^ (width + 1) =
        (acc * 16 ^ width + n / 16 % 16 ^ width) * 16 + n % 16 := by
      rw [pow_succ, Nat.mul_comm (16 ^ width) 16, Nat.mod_mul, Nat.add_mul]
      have hassoc : acc * (16 * 16 ^ width) = acc * 16 ^ width * 16 := by
        rw [Nat.mul_comm 16, Nat.mul_assoc]
      omega
    rw [hvalue] at hmax ⊢
    rw [fixedDigits, readDigits_append (ih (by omega)), readDigits,
      digitIn?_upperDigit _ (Nat.mod_lt _ (by decide))]
    simp only [if_pos hmax]
    rfl

theorem head?_fixedDigits (width n : Nat) :
    ∃ k < 16, (fixedDigits upperDigit 16 (width + 1) n).head? = some (upperDigit k) := by
  induction width generalizing n with
  | zero => exact ⟨n % 16, Nat.mod_lt _ (by decide), rfl⟩
  | succ width ih =>
    obtain ⟨k, hk, hhead⟩ := ih (n / 16)
    obtain ⟨cs, hcs⟩ := List.head?_eq_some_iff.mp hhead
    refine ⟨k, hk, ?_⟩
    rw [fixedDigits, hcs]
    rfl

theorem readUnsigned_fixedDigits {width : Nat} (hn : n < 16 ^ (width + 1)) (hmax : n ≤ max) :
    readUnsigned 16 max (fixedDigits upperDigit 16 (width + 1) n) = .ok n := by
  obtain ⟨k, hk, hhead⟩ := head?_fixedDigits width n
  have hvalue : 0 * 16 ^ (width + 1) + n % 16 ^ (width + 1) = n := by
    rw [Nat.zero_mul, Nat.zero_add, Nat.mod_eq_of_lt hn]
  rw [readUnsigned_of_ne_plus, readDigits_fixedDigits (width + 1) (hvalue.symm ▸ hmax), hvalue]
  · rw [hhead]
    exact fun hplus => upperDigit_ne_plus k hk (Option.some.inj hplus)
  · intro hnil
    rw [hnil] at hhead
    cases hhead

end FontCatalog.Number
