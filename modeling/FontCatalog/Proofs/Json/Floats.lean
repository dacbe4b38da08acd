import FontCatalog.Json.Scan
import FontCatalog.Proofs.Number.Rounding

/-!
# The error of reading a float

A decimal is read as a 64-bit number in at most two rounded steps: the power of ten is rounded, and
then its product or quotient with the significand. Together they are off by little more than one
unit in the last place, and not at all if the decimal is a number of few bits.
-/

namespace FontCatalog.Json

open Number Number.Binary

variable {sig k : Nat} {exp : Int}

-- Between these bounds the errors of the 64-bit format are relative.
theorem double_bounds {w : ℚ} (hlow : 1 / 2 ^ 250 ≤ w) (hhigh : w < 2 ^ 250) :
    (2 : ℚ) ^ (Format.double.minExp + Format.double.precision - 1) ≤ w ∧
      w < 2 ^ (Format.double.maxExp + Format.double.precision - 1) := by
  constructor
  · refine le_trans ?_ hlow
    rw [one_div, ← zpow_natCast, ← zpow_neg]
    exact two_zpow_le.mpr (by decide)
  · apply lt_of_lt_of_le hhigh
    rw [← zpow_natCast]
    exact two_zpow_le.mpr (by decide)

-- A power of ten is read as the nearest 64-bit number.
theorem powerOfTen_spec (hk : k ≤ 54) :
    ∃ (n : Nat) (r : Int), powerOfTen k = .finite false n r ∧
      RoundedTo 53 (n * 2 ^ r) (10 ^ k) := by
  have hone : (1 : ℚ) ≤ 10 ^ k := one_le_pow₀ (by norm_num)
  have htop : (10 : ℚ) ^ k ≤ 10 ^ 54 := pow_le_pow_right₀ (by norm_num) hk
  have hcast : ((1 * Nat.pow 10 k : Nat) : ℚ) / (1 : Nat) = 10 ^ k := by
    rw [Nat.pow_eq]
    push_cast
    ring
  have hbounds := double_bounds (w := 10 ^ k) (le_trans (by norm_num) hone)
    (lt_of_le_of_lt htop (by norm_num))
  rw [← hcast] at hbounds ⊢
  have hnum : 0 < 1 * Nat.pow 10 k := Nat.mul_pos Nat.one_pos (Nat.pow_pos (by norm_num))
  obtain ⟨n, r, hround, hrounded⟩ :=
    ofFraction_spec false hnum Nat.one_pos (by decide) hbounds.1 hbounds.2
  refine ⟨n, r, ?_, hrounded⟩
  have hsize : (Nat.toDigits 10 1).length = 1 := by decide
  rw [powerOfTen, ofDecimal, if_neg (by norm_num), hsize]
  simp only
  rw [if_neg (by omega), if_neg (by omega), if_pos (by omega), Int.toNat_natCast, hround]

theorem rounded_ten_pow_bounds {p : ℚ} (hk : k ≤ 54) (h : RoundedTo 53 p (10 ^ k)) :
    1 / 2 ≤ p ∧ p ≤ 10 ^ 55 := by
  have hone : (1 : ℚ) ≤ 10 ^ k := one_le_pow₀ (by norm_num)
  have htop : (10 : ℚ) ^ k ≤ 10 ^ 54 := pow_le_pow_right₀ (by norm_num) hk
  obtain ⟨hlow, hhigh⟩ := abs_le.mp h.error
  norm_num at hlow hhigh htop ⊢
  constructor <;> linarith

-- The small powers of ten are 64-bit numbers, since their factors of two need no bits.
theorem eq_ten_pow {p : ℚ} (h : RoundedTo 53 p (10 ^ k)) (hk : k ≤ 22) : p = 10 ^ k := by
  have hfive : 5 ^ k < 2 ^ 53 :=
    lt_of_le_of_lt (Nat.pow_le_pow_right (by norm_num) hk) (by norm_num)
  apply h.exact (5 ^ k) k hfive
  rw [zpow_natCast]
  push_cast
  rw [← mul_pow]
  norm_num

/-- A value that is rounded with a small relative error, and without error if it has few bits. -/
structure Approximates (y v : ℚ) : Prop where
  error : |y - v| ≤ 5 / 2 ^ 54 * v
  exact : ∀ (n : Nat) (t : Int), n < 2 ^ 25 → v = n * 2 ^ t → y = v

-- A significand of up to 53 bits is a 64-bit number.
theorem ofFraction_significand (hsig : 0 < sig) (hbits : sig < 2 ^ 53) :
    ∃ (m : Nat) (q : Int), ofFraction .double false sig 1 = .finite false m q ∧
      (m * 2 ^ q : ℚ) = sig := by
  have hsig' : (1 : ℚ) ≤ sig := by exact_mod_cast hsig
  have hbits' : (sig : ℚ) < 2 ^ 53 := by exact_mod_cast hbits
  have hcast : (sig : ℚ) / (1 : Nat) = sig := by rw [Nat.cast_one, div_one]
  have hbounds := double_bounds (w := sig) (le_trans (by norm_num) hsig')
    (lt_trans hbits' (by norm_num))
  rw [← hcast] at hbounds
  obtain ⟨m, q, hround, hrounded⟩ :=
    ofFraction_spec false hsig Nat.one_pos (by decide) hbounds.1 hbounds.2
  rw [hcast] at hrounded
  exact ⟨m, q, hround, hrounded.exact sig 0 hbits (by rw [zpow_zero, mul_one])⟩

theorem pos_of_cast_div_pos {num : Nat} (den : Nat) (h : (0 : ℚ) < num / den) : 0 < num := by
  by_contra hzero
  rw [Nat.eq_zero_of_not_pos hzero, Nat.cast_zero, zero_div] at h
  exact lt_irrefl 0 h

theorem mul_spec {m n : Nat} {q r : Int} (hlow : (1 : ℚ) / 2 ^ 250 ≤ m * 2 ^ q * (n * 2 ^ r))
    (hhigh : (m * 2 ^ q * (n * 2 ^ r) : ℚ) < 2 ^ 250) :
    ∃ (m' : Nat) (q' : Int),
      mul .double (.finite false m q) (.finite false n r) = .finite false m' q' ∧
        RoundedTo 53 (m' * 2 ^ q') (m * 2 ^ q * (n * 2 ^ r)) := by
  obtain ⟨hden, hscaled⟩ := scaled_spec (m * n) (q + r)
  have hvalue : ((scaled (m * n) (q + r)).1 : ℚ) / (scaled (m * n) (q + r)).2 =
      m * 2 ^ q * (n * 2 ^ r) := by
    rw [hscaled, zpow_add₀ (by norm_num)]
    push_cast
    ring
  have hbounds := double_bounds hlow hhigh
  have hnum : 0 < (scaled (m * n) (q + r)).1 := by
    apply pos_of_cast_div_pos (scaled (m * n) (q + r)).2
    rw [hvalue]
    exact lt_of_lt_of_le (by norm_num) hlow
  rw [← hvalue] at hbounds ⊢
  exact ofFraction_spec false hnum hden (by decide) hbounds.1 hbounds.2

theorem div_spec {m n : Nat} {q r : Int} (hn : 0 < n)
    (hlow : (1 : ℚ) / 2 ^ 250 ≤ m * 2 ^ q / (n * 2 ^ r))
    (hhigh : (m * 2 ^ q / (n * 2 ^ r) : ℚ) < 2 ^ 250) :
    ∃ (m' : Nat) (q' : Int),
      div .double (.finite false m q) (.finite false n r) = .finite false m' q' ∧
        RoundedTo 53 (m' * 2 ^ q') (m * 2 ^ q / (n * 2 ^ r)) := by
  obtain ⟨hden, hscaled⟩ := scaled_spec m (q - r)
  have hvalue : ((scaled m (q - r)).1 : ℚ) / ((scaled m (q - r)).2 * n : Nat) =
      m * 2 ^ q / (n * 2 ^ r) := by
    rw [Nat.cast_mul, ← div_div, hscaled, zpow_sub₀ (by norm_num)]
    field_simp
  have hbounds := double_bounds hlow hhigh
  have hnum : 0 < (scaled m (q - r)).1 := by
    apply pos_of_cast_div_pos ((scaled m (q - r)).2 * n)
    rw [hvalue]
    exact lt_of_lt_of_le (by norm_num) hlow
  rw [← hvalue] at hbounds ⊢
  exact ofFraction_spec false hnum (Nat.mul_pos hden hn) (by decide) hbounds.1 hbounds.2

/-! ## Two roundings -/

-- Factors of five are not lost to powers of two.
theorem five_pow_dvd {a b : Nat} {t : Int} (h : (a * 5 ^ k : ℚ) = b * 2 ^ t) : 5 ^ k ∣ b := by
  rcases le_or_gt 0 t with ht | ht
  · obtain ⟨j, rfl⟩ := Int.eq_ofNat_of_zero_le ht
    have hnat : a * 5 ^ k = b * 2 ^ j := by
      rw [zpow_natCast] at h
      exact_mod_cast h
    have hcoprime : Nat.Coprime (5 ^ k) (2 ^ j) := Nat.Coprime.pow k j (by decide)
    exact hcoprime.dvd_of_dvd_mul_right ⟨a, by rw [← hnat, Nat.mul_comm]⟩
  · obtain ⟨j, rfl⟩ : ∃ j : Nat, t = -(j : Int) := ⟨(-t).toNat, by omega⟩
    have hnat : a * 5 ^ k * 2 ^ j = b := by
      rw [zpow_neg, zpow_natCast, eq_mul_inv_iff_mul_eq₀ (by positivity)] at h
      exact_mod_cast h
    exact ⟨a * 2 ^ j, by rw [← hnat]; ring⟩

-- A large power of five divides no positive number of few bits.
theorem not_five_pow_dvd {b : Nat} (hk : 22 < k) (hpos : 0 < b) (hbits : b < 2 ^ 53) :
    ¬5 ^ k ∣ b := by
  intro hdvd
  have hle := Nat.le_of_dvd hpos hdvd
  have hlarge : 5 ^ 23 ≤ 5 ^ k := Nat.pow_le_pow_right (by norm_num) hk
  omega

theorem approximates_mul {p y : ℚ} (hsig : 0 < sig)
    (hpower : RoundedTo 53 p (10 ^ k)) (hproduct : RoundedTo 53 y (sig * p)) :
    Approximates y (sig * 10 ^ k) := by
  have hpos : (0 : ℚ) < sig := by exact_mod_cast hsig
  have hten : (0 : ℚ) < 10 ^ k := by positivity
  refine ⟨?error, ?exact⟩
  case error =>
    have hfirst : |sig * p - sig * 10 ^ k| ≤ sig * 10 ^ k / 2 ^ 53 := by
      rw [← mul_sub, abs_mul, abs_of_pos hpos, mul_div_assoc]
      exact mul_le_mul_of_nonneg_left hpower.error hpos.le
    have hsecond := hproduct.error
    have hsum := abs_sub_le y (sig * p) (sig * 10 ^ k)
    have hv : (0 : ℚ) < sig * 10 ^ k := mul_pos hpos hten
    have hupper := (abs_le.mp hfirst).2
    norm_num at hfirst hsecond hupper ⊢
    linarith
  case exact =>
    intro n t hn hv
    by_cases hk : k ≤ 22
    · rw [eq_ten_pow hpower hk] at hproduct
      exact hproduct.exact n t (hn.trans (by norm_num)) hv
    · -- So large a power of ten has too many bits.
      exfalso
      have hfive : (sig * 5 ^ k : ℚ) = n * 2 ^ (t - k) := by
        rw [zpow_sub₀ (by norm_num), zpow_natCast, mul_div_assoc', ← hv, eq_div_iff (by positivity),
          mul_assoc, ← mul_pow]
        norm_num
      have hn0 : 0 < n := by
        by_contra hzero
        rw [Nat.eq_zero_of_not_pos hzero, Nat.cast_zero, zero_mul] at hv
        exact (mul_pos hpos hten).ne' hv
      exact not_five_pow_dvd (not_le.mp hk) hn0 (hn.trans (by norm_num)) (five_pow_dvd hfive)

theorem approximates_div {p y : ℚ} (hsig : 0 < sig) (hbits : sig < 2 ^ 53)
    (hpower : RoundedTo 53 p (10 ^ k)) (hquotient : RoundedTo 53 y (sig / p)) :
    Approximates y (sig / 10 ^ k) := by
  have hpos : (0 : ℚ) < sig := by exact_mod_cast hsig
  have hten : (0 : ℚ) < 10 ^ k := by positivity
  have hp : (8 / 9 : ℚ) * 10 ^ k ≤ p := by
    have hlow := (abs_le.mp hpower.error).1
    norm_num at hlow ⊢
    linarith
  have hp0 : 0 < p := lt_of_lt_of_le (by positivity) hp
  refine ⟨?error, ?exact⟩
  case error =>
    have hv : (0 : ℚ) < sig / 10 ^ k := div_pos hpos hten
    have hfirst : |sig / p - sig / 10 ^ k| ≤ 9 / 8 * (sig / 10 ^ k) / 2 ^ 53 := by
      have hsplit : (sig / p - sig / 10 ^ k : ℚ) = sig / 10 ^ k * ((10 ^ k - p) / p) := by
        field_simp
      have hrelative : |(10 ^ k - p) / p| ≤ 9 / 8 / 2 ^ 53 := by
        have herror := hpower.error
        rw [abs_div, abs_of_pos hp0, abs_sub_comm, div_le_iff₀ hp0]
        norm_num at herror ⊢
        linarith
      rw [hsplit, abs_mul, abs_of_pos hv, mul_comm (9 / 8), mul_div_assoc]
      exact mul_le_mul_of_nonneg_left hrelative hv.le
    have hsecond := hquotient.error
    have hsum := abs_sub_le y (sig / p) (sig / 10 ^ k)
    have hupper := (abs_le.mp hfirst).2
    norm_num at hfirst hsecond hupper ⊢
    linarith
  case exact =>
    intro n t hn hv
    by_cases hk : k ≤ 22
    · rw [eq_ten_pow hpower hk] at hquotient
      exact hquotient.exact n t (hn.trans (by norm_num)) hv
    · exfalso
      have hfive : (n * 5 ^ k : ℚ) = sig * 2 ^ (-t - k) := by
        rw [div_eq_iff hten.ne'] at hv
        rw [hv, zpow_sub₀ (by norm_num), zpow_neg, zpow_natCast]
        field_simp
        rw [mul_assoc, ← mul_pow]
        norm_num
      exact not_five_pow_dvd (not_le.mp hk) hsig hbits (five_pow_dvd hfive)

/-- A decimal with a significand of up to 53 bits and a small exponent is read as a number near
it. -/
theorem floatOfDecimal_spec (negative : Bool) (hsig : 0 < sig) (hbits : sig < 2 ^ 53)
    (hexp : exp.natAbs ≤ 54) :
    ∃ (m : Nat) (q : Int), floatOfDecimal negative sig exp = .ok (.finite negative m q) ∧
      Approximates (m * 2 ^ q) (sig * 10 ^ exp) := by
  obtain ⟨m, q, hround, hvalue⟩ := ofFraction_significand hsig hbits
  obtain ⟨n, r, hpower, hrounded⟩ := powerOfTen_spec hexp
  have hsign : ∀ (m : Nat) (q : Int), (if negative then (Binary.finite false m q).negate
      else .finite false m q) = .finite negative m q := by
    intro m q
    cases negative <;> rfl
  have hsig1 : (1 : ℚ) ≤ sig := by exact_mod_cast hsig
  have hsig53 : (sig : ℚ) < 2 ^ 53 := by exact_mod_cast hbits
  obtain ⟨hlow, hhigh⟩ := rounded_ten_pow_bounds hexp hrounded
  have hn : 0 < n := by
    by_contra hzero
    rw [Nat.eq_zero_of_not_pos hzero, Nat.cast_zero, zero_mul] at hlow
    norm_num at hlow
  rw [floatOfDecimal, hround, scaleDecimal, if_pos (by omega), hpower]
  rcases le_or_gt 0 exp with hnonneg | hneg
  · obtain ⟨k, rfl⟩ := Int.eq_ofNat_of_zero_le hnonneg
    obtain ⟨m', q', hmul, hproduct⟩ := mul_spec (m := m) (q := q) (n := n) (r := r)
      (by rw [hvalue]; nlinarith) (by rw [hvalue]; nlinarith)
    rw [hvalue] at hproduct
    refine ⟨m', q', ?_, ?_⟩
    · rw [if_pos hnonneg, hmul]
      simp only [bind, Except.bind, pure, Except.pure, hsign]
    · rw [zpow_natCast]
      exact approximates_mul hsig hrounded hproduct
  · obtain ⟨k, rfl⟩ : ∃ k : Nat, exp = -(k : Int) := ⟨(-exp).toNat, by omega⟩
    obtain ⟨m', q', hdiv, hquotient⟩ := div_spec (m := m) (q := q) (n := n) (r := r) hn
      (by rw [hvalue, le_div_iff₀ (by linarith)]; nlinarith)
      (by rw [hvalue, div_lt_iff₀ (by linarith)]; nlinarith)
    rw [hvalue] at hquotient
    refine ⟨m', q', ?_, ?_⟩
    · rw [if_neg (by omega), hdiv]
      simp only [bind, Except.bind, pure, Except.pure, hsign]
    · rw [zpow_neg, zpow_natCast, ← div_eq_mul_inv]
      rw [Int.natAbs_neg, Int.natAbs_natCast] at hrounded
      exact approximates_div hsig hbits hrounded hquotient

end FontCatalog.Json
