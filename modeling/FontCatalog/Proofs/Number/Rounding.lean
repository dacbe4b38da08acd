import FontCatalog.Number.Binary
import Mathlib.Algebra.Order.Field.Power
import Mathlib.Data.Rat.Cast.Order
import Mathlib.Tactic.FieldSimp
import Mathlib.Tactic.Linarith
import Mathlib.Tactic.NormNum
import Mathlib.Tactic.Positivity
import Mathlib.Tactic.Ring

/-!
# Rounding to a binary format

What the arithmetic on natural numbers means in rational numbers: a fraction is rounded to the
nearest number of the format, with an error of at most half a unit in the last place, and without
error if it is a number of the format.
-/

namespace FontCatalog.Number.Binary

variable {num den r : Nat}

theorem two_zpow_pos (q : Int) : (0 : ℚ) < 2 ^ q := by positivity

theorem two_zpow_succ (q : Int) : (2 : ℚ) ^ (q + 1) = 2 * 2 ^ q := by
  rw [zpow_add_one₀ (by norm_num), mul_comm]

theorem two_zpow_le {q r : Int} : (2 : ℚ) ^ q ≤ 2 ^ r ↔ q ≤ r :=
  zpow_le_zpow_iff_right₀ (by norm_num)

theorem two_zpow_lt {q r : Int} : (2 : ℚ) ^ q < 2 ^ r ↔ q < r :=
  zpow_lt_zpow_iff_right₀ (by norm_num)

/-! ## Fractions -/

theorem scaled_spec (n : Nat) (e : Int) :
    0 < (scaled n e).2 ∧ ((scaled n e).1 : ℚ) / (scaled n e).2 = n * 2 ^ e := by
  unfold scaled
  split
  · rename_i he
    obtain ⟨k, rfl⟩ := Int.eq_ofNat_of_zero_le he
    simp
  · rename_i he
    obtain ⟨k, rfl⟩ : ∃ k : Nat, e = -(k : Int) := ⟨(-e).toNat, by omega⟩
    simp [div_eq_mul_inv]

-- A quotient is its integer part and a rest below one.
theorem exists_rest (num : Nat) (hden : 0 < den) :
    ∃ f : ℚ, 0 ≤ f ∧ f < 1 ∧ (num : ℚ) / den = (num / den : Nat) + f ∧
      f * den = (num % den : Nat) := by
  have hpos : (0 : ℚ) < den := by exact_mod_cast hden
  refine ⟨(num % den : Nat) / den, by positivity, ?_, ?_, ?_⟩
  · rw [div_lt_one hpos]
    exact_mod_cast Nat.mod_lt num hden
  · have hsum : (num : ℚ) = den * (num / den : Nat) + (num % den : Nat) := by
      exact_mod_cast (Nat.div_add_mod num den).symm
    field_simp
    linarith
  · field_simp

theorem two_mul_mod_lt_iff (hden : 0 < den) {f : ℚ} (hrest : f * den = (num % den : Nat)) :
    2 * (num % den) < den ↔ f < 1 / 2 := by
  have hpos : (0 : ℚ) < den := by exact_mod_cast hden
  rw [← Nat.cast_lt (α := ℚ), Nat.cast_mul, ← hrest, ← mul_assoc, mul_comm _ f, Nat.cast_ofNat,
    mul_lt_iff_lt_one_left hpos, lt_div_iff₀ (by norm_num)]

theorem lt_two_mul_mod_iff (hden : 0 < den) {f : ℚ} (hrest : f * den = (num % den : Nat)) :
    den < 2 * (num % den) ↔ 1 / 2 < f := by
  have hpos : (0 : ℚ) < den := by exact_mod_cast hden
  rw [← Nat.cast_lt (α := ℚ), Nat.cast_mul, ← hrest, ← mul_assoc, mul_comm _ f, Nat.cast_ofNat,
    lt_mul_iff_one_lt_left hpos, div_lt_iff₀ (by norm_num)]

theorem roundDiv_eq_ite (hden : 0 < den) {f : ℚ} (hrest : f * den = (num % den : Nat)) :
    roundDiv num den =
      if f < 1 / 2 then num / den
      else if 1 / 2 < f then num / den + 1
      else if num / den % 2 = 0 then num / den else num / den + 1 := by
  simp only [roundDiv, two_mul_mod_lt_iff hden hrest, lt_two_mul_mod_iff hden hrest]

-- The nearest integer is at most one half away.
theorem abs_roundDiv_sub_le (num : Nat) (hden : 0 < den) :
    |(roundDiv num den : ℚ) - num / den| ≤ 1 / 2 := by
  obtain ⟨f, hnonneg, hlt, hquot, hrest⟩ := exists_rest num hden
  rw [roundDiv_eq_ite hden hrest, hquot, abs_le]
  split_ifs
  all_goals
    push_cast
    constructor <;> linarith

-- No other integer is so near, and of two at one distance the even one is taken.
theorem roundDiv_eq (hden : 0 < den)
    (h : |(r : ℚ) - num / den| < 1 / 2 ∨ |(r : ℚ) - num / den| = 1 / 2 ∧ r % 2 = 0) :
    roundDiv num den = r := by
  obtain ⟨f, hnonneg, hlt, hquot, hrest⟩ := exists_rest num hden
  rw [roundDiv_eq_ite hden hrest]
  rw [hquot] at h
  have habs : |(r : ℚ) - ((num / den : Nat) + f)| ≤ 1 / 2 := by
    rcases h with h | h
    · exact h.le
    · exact h.1.le
  obtain ⟨hlow, hhigh⟩ := abs_le.mp habs
  have hlow' : ((num / den : Nat) : ℚ) < r + 1 := by linarith
  have hhigh' : (r : ℚ) < (num / den : Nat) + 2 := by linarith
  norm_cast at hlow' hhigh'
  rcases (by omega : r = num / den ∨ r = num / den + 1) with hr | hr
  · have hdist : |(r : ℚ) - ((num / den : Nat) + f)| = f := by
      rw [hr, abs_sub_comm, add_sub_cancel_left, abs_of_nonneg hnonneg]
    rw [hdist] at h
    rw [← hr]
    rcases h with h | ⟨h, heven⟩
    · rw [if_pos h]
    · rw [if_neg (by linarith), if_neg (by linarith), if_pos heven]
  · have hdist : |(r : ℚ) - ((num / den : Nat) + f)| = 1 - f := by
      rw [hr, Nat.cast_add_one, add_sub_add_left_eq_sub, abs_of_pos (by linarith)]
    rw [hdist] at h
    rw [← hr]
    rcases h with h | ⟨h, heven⟩
    · rw [if_neg (by linarith), if_pos (by linarith)]
    · rw [if_neg (by linarith), if_neg (by linarith), if_neg (by omega)]

/-! ## The exponent -/

variable {fmt : Format} {q : Int}

theorem log2_bounds (hnum : 0 < num) :
    (2 : ℚ) ^ (Nat.log2 num : Int) ≤ num ∧ (num : ℚ) < 2 ^ (Nat.log2 num + 1 : Int) := by
  constructor
  · rw [zpow_natCast]
    exact_mod_cast Nat.log2_self_le (by omega)
  · have hlt : (num : ℚ) < (2 : ℚ) ^ (Nat.log2 num + 1) := by exact_mod_cast Nat.lt_log2_self
    exact_mod_cast hlt

-- A quotient lies between two powers of two that are known from the lengths of its parts.
theorem div_bounds (hnum : 0 < num) (hden : 0 < den) :
    (2 : ℚ) ^ ((Nat.log2 num : Int) - Nat.log2 den - 1) < num / den ∧
      (num : ℚ) / den < 2 ^ ((Nat.log2 num : Int) - Nat.log2 den + 1) := by
  obtain ⟨hnumLow, hnumHigh⟩ := log2_bounds hnum
  obtain ⟨hdenLow, hdenHigh⟩ := log2_bounds hden
  have hpos : (0 : ℚ) < den := by exact_mod_cast hden
  constructor
  · rw [lt_div_iff₀ hpos]
    calc (2 : ℚ) ^ ((Nat.log2 num : Int) - Nat.log2 den - 1) * den
        < 2 ^ ((Nat.log2 num : Int) - Nat.log2 den - 1) * 2 ^ (Nat.log2 den + 1 : Int) := by
          have hzpow := two_zpow_pos ((Nat.log2 num : Int) - Nat.log2 den - 1)
          nlinarith
      _ = 2 ^ (Nat.log2 num : Int) := by
          rw [← zpow_add₀ (by norm_num)]
          congr 1
          ring
      _ ≤ num := hnumLow
  · rw [div_lt_iff₀ hpos]
    calc (num : ℚ) < 2 ^ (Nat.log2 num + 1 : Int) := hnumHigh
      _ = 2 ^ ((Nat.log2 num : Int) - Nat.log2 den + 1) * 2 ^ (Nat.log2 den : Int) := by
          rw [← zpow_add₀ (by norm_num)]
          congr 1
          ring
      _ ≤ 2 ^ ((Nat.log2 num : Int) - Nat.log2 den + 1) * den := by
          have hzpow := two_zpow_pos ((Nat.log2 num : Int) - Nat.log2 den + 1)
          nlinarith

/-- An exponent at which a value has an integer part of full precision, or the smallest one at which
its integer part is no longer. -/
structure IsQuantum (fmt : Format) (w : ℚ) (q : Int) : Prop where
  minExp_le : fmt.minExp ≤ q
  lt : w < 2 ^ (q + fmt.precision)
  le : q = fmt.minExp ∨ 2 ^ (q + fmt.precision - 1) ≤ w

theorem IsQuantum.unique {w : ℚ} {r : Int} (hq : IsQuantum fmt w q) (hr : IsQuantum fmt w r) :
    q = r := by
  -- The larger of two exponents is not the smallest one, and so it bounds the value from below.
  have hle : ∀ {q r : Int}, IsQuantum fmt w q → IsQuantum fmt w r → q ≤ r := by
    intro q r hq hr
    rcases hq.le with h | h
    · rw [h]
      exact hr.minExp_le
    · have hlt := two_zpow_lt.mp (lt_of_le_of_lt h hr.lt)
      omega
  exact le_antisymm (hle hq hr) (hle hr hq)

theorem isQuantum_quantum (fmt : Format) (hnum : 0 < num) (hden : 0 < den) :
    IsQuantum fmt (num / den : ℚ) (quantum fmt num den) := by
  obtain ⟨hlow, hhigh⟩ := div_bounds hnum hden
  have hpos : (0 : ℚ) < den := by exact_mod_cast hden
  unfold quantum
  simp only
  generalize hguess : (Nat.log2 num : Int) - (Nat.log2 den : Int) - (fmt.precision : Int) = guess
  obtain ⟨hscaledPos, hscaled⟩ := scaled_spec num (-guess)
  have hfits : (scaled num (-guess)).1 <
      (scaled num (-guess)).2 * den * Nat.pow 2 fmt.precision ↔
        (num / den : ℚ) < 2 ^ (guess + fmt.precision) := by
    have hscaledPos' : (0 : ℚ) < (scaled num (-guess)).2 := by exact_mod_cast hscaledPos
    calc (scaled num (-guess)).1 < (scaled num (-guess)).2 * den * Nat.pow 2 fmt.precision
        ↔ ((scaled num (-guess)).1 : ℚ) < den * 2 ^ fmt.precision * (scaled num (-guess)).2 := by
          rw [← Nat.cast_lt (α := ℚ)]
          push_cast
          rw [Nat.pow_eq, Nat.cast_pow, Nat.cast_ofNat]
          ring_nf
      _ ↔ (num : ℚ) * 2 ^ (-guess) < den * 2 ^ fmt.precision := by
          rw [← div_lt_iff₀ hscaledPos', hscaled]
      _ ↔ (num / den : ℚ) < 2 ^ (guess + fmt.precision) := by
          rw [zpow_neg, ← div_eq_mul_inv, div_lt_iff₀ (two_zpow_pos guess), div_lt_iff₀ hpos,
            zpow_add₀ (by norm_num), zpow_natCast]
          ring_nf
  by_cases h : (num / den : ℚ) < 2 ^ (guess + fmt.precision)
  · rw [if_pos (by simpa using hfits.mpr h)]
    refine ⟨le_max_left _ _, lt_of_lt_of_le h (two_zpow_le.mpr (by omega)), ?_⟩
    rcases max_choice fmt.minExp guess with hmax | hmax
    · exact Or.inl hmax
    · refine Or.inr (hlow.le.trans' (two_zpow_le.mpr ?_))
      omega
  · rw [if_neg (by simpa using mt hfits.mp h)]
    refine ⟨le_max_left _ _, lt_of_lt_of_le hhigh (two_zpow_le.mpr (by omega)), ?_⟩
    rcases max_choice fmt.minExp (guess + 1) with hmax | hmax
    · exact Or.inl hmax
    · refine Or.inr ((not_lt.mp h).trans' (two_zpow_le.mpr ?_))
      omega

/-! ## The nearest number -/

/-- A value is within half a unit of `m * 2 ^ q`, or at half a unit if `m` is even. -/
def Rounds (m : Nat) (q : Int) (w : ℚ) : Prop :=
  |m * 2 ^ q - w| < 2 ^ q / 2 ∨ |m * 2 ^ q - w| = 2 ^ q / 2 ∧ m % 2 = 0

theorem Rounds.abs_le {m : Nat} {w : ℚ} (h : Rounds m q w) : |m * 2 ^ q - w| ≤ 2 ^ q / 2 := by
  rcases h with h | h
  · exact h.le
  · exact h.1.le

-- The integer that is rounded is the fraction in units of the last place.
theorem scaled_div (num den : Nat) (q : Int) :
    ((scaled num (-q)).1 : ℚ) / ((scaled num (-q)).2 * den : Nat) = num / den / 2 ^ q := by
  obtain ⟨-, hscaled⟩ := scaled_spec num (-q)
  rw [Nat.cast_mul, ← div_div, hscaled, zpow_neg]
  ring

theorem abs_sub_div_two_zpow (x w : ℚ) (q : Int) :
    |x - w / 2 ^ q| = |x * 2 ^ q - w| / 2 ^ q := by
  have hpos := two_zpow_pos q
  rw [← abs_of_pos hpos, ← abs_div, abs_of_pos hpos]
  congr 1
  field_simp

theorem abs_roundDiv_scaled_le (num : Nat) (hden : 0 < den) (q : Int) :
    |(roundDiv (scaled num (-q)).1 ((scaled num (-q)).2 * den) * 2 ^ q : ℚ) - num / den| ≤
      2 ^ q / 2 := by
  obtain ⟨hscaledPos, -⟩ := scaled_spec num (-q)
  have habs := abs_roundDiv_sub_le (scaled num (-q)).1 (Nat.mul_pos hscaledPos hden)
  rw [scaled_div, abs_sub_div_two_zpow, div_le_iff₀ (two_zpow_pos q)] at habs
  linarith

theorem roundDiv_scaled_eq (hden : 0 < den) {m : Nat} (h : Rounds m q (num / den)) :
    roundDiv (scaled num (-q)).1 ((scaled num (-q)).2 * den) = m := by
  obtain ⟨hscaledPos, -⟩ := scaled_spec num (-q)
  have hpos := two_zpow_pos q
  apply roundDiv_eq (Nat.mul_pos hscaledPos hden)
  rw [scaled_div, abs_sub_div_two_zpow, div_lt_iff₀ hpos, div_eq_iff hpos.ne',
    div_mul_eq_mul_div, one_mul]
  exact h

/-- A number of the format that a fraction rounds to is the nearest one. -/
theorem ofFraction_eq (negative : Bool) (hnum : 0 < num) (hden : 0 < den) {m : Nat}
    (hq : IsQuantum fmt (num / den) q) (hm : m < 2 ^ fmt.precision) (hmax : q ≤ fmt.maxExp)
    (h : Rounds m q (num / den)) : ofFraction fmt negative num den = .finite negative m q := by
  have hquantum : quantum fmt num den = q := (isQuantum_quantum fmt hnum hden).unique hq
  have hne : m ≠ Nat.pow 2 fmt.precision := Nat.ne_of_lt hm
  rw [ofFraction, if_neg (by omega), hquantum]
  simp only [roundDiv_scaled_eq hden h, if_neg hne]
  rw [if_neg (by omega)]

-- Rounding up can carry into one bit more. The exponent then grows by one, and the value stays.
theorem exists_ofFraction (negative : Bool) (hnum : 0 < num) (hprecision : 0 < fmt.precision)
    (hmax : quantum fmt num den + 1 ≤ fmt.maxExp) {m : Nat}
    (hround : roundDiv (scaled num (-quantum fmt num den)).1
      ((scaled num (-quantum fmt num den)).2 * den) = m) :
    ∃ (n : Nat) (r : Int), ofFraction fmt negative num den = .finite negative n r ∧
      (n * 2 ^ r : ℚ) = m * 2 ^ quantum fmt num den := by
  rw [ofFraction, if_neg (by omega)]
  simp only [hround]
  by_cases hcarry : m = Nat.pow 2 fmt.precision
  · refine ⟨m / 2, quantum fmt num den + 1, ?_, ?_⟩
    · simp only [if_pos hcarry]
      rw [if_neg (by omega)]
    · obtain ⟨p, hp⟩ := Nat.exists_eq_succ_of_ne_zero hprecision.ne'
      have heven : m = 2 * 2 ^ p := by
        rw [hcarry, hp, Nat.pow_eq, Nat.pow_succ, Nat.mul_comm]
      rw [heven, Nat.mul_div_cancel_left _ (by norm_num), two_zpow_succ]
      push_cast
      ring
  · refine ⟨m, quantum fmt num den, ?_, rfl⟩
    simp only [if_neg hcarry]
    rw [if_neg (by omega)]

-- A number of the format is a multiple of the last place of any value that is as large.
theorem exists_multiple {n : Nat} {t : Int} (hn : n < 2 ^ fmt.precision)
    (hle : (2 : ℚ) ^ (q + fmt.precision - 1) ≤ n * 2 ^ t) :
    ∃ k : Nat, (n * 2 ^ t : ℚ) = k * 2 ^ q := by
  have hn' : (n : ℚ) < 2 ^ fmt.precision := by exact_mod_cast hn
  have hlt : (2 : ℚ) ^ (q + fmt.precision - 1) < 2 ^ (fmt.precision + t) := by
    calc (2 : ℚ) ^ (q + fmt.precision - 1) ≤ n * 2 ^ t := hle
      _ < 2 ^ fmt.precision * 2 ^ t := mul_lt_mul_of_pos_right hn' (two_zpow_pos t)
      _ = 2 ^ (fmt.precision + t) := by rw [zpow_add₀ (by norm_num), zpow_natCast]
  have hqt := two_zpow_lt.mp hlt
  obtain ⟨k, rfl⟩ : ∃ k : Nat, t = q + k := ⟨(t - q).toNat, by omega⟩
  refine ⟨n * 2 ^ k, ?_⟩
  rw [zpow_add₀ (by norm_num), zpow_natCast]
  push_cast
  ring

/-- A value is rounded to `bits` bits: with a relative error of half a unit in the last place, and
without error if it has no more bits than that. -/
structure RoundedTo (bits : Nat) (y v : ℚ) : Prop where
  error : |y - v| ≤ v / 2 ^ bits
  exact : ∀ (n : Nat) (t : Int), n < 2 ^ bits → v = n * 2 ^ t → y = v

/-- A fraction that is neither too small nor too large is rounded to the bits of the format. -/
theorem ofFraction_spec (negative : Bool) (hnum : 0 < num) (hden : 0 < den)
    (hprecision : 0 < fmt.precision)
    (hlow : (2 : ℚ) ^ (fmt.minExp + fmt.precision - 1) ≤ num / den)
    (hhigh : (num : ℚ) / den < 2 ^ (fmt.maxExp + fmt.precision - 1)) :
    ∃ (m : Nat) (q : Int), ofFraction fmt negative num den = .finite negative m q ∧
      RoundedTo fmt.precision (m * 2 ^ q) (num / den) := by
  have hq := isQuantum_quantum fmt hnum hden
  have hpos := two_zpow_pos (quantum fmt num den)
  -- The fraction has full precision, whichever of the two bounds holds.
  have hle : (2 : ℚ) ^ (quantum fmt num den + fmt.precision - 1) ≤ num / den := by
    rcases hq.le with h | h
    · rw [h]
      exact hlow
    · exact h
  have hlast : (2 : ℚ) ^ quantum fmt num den / 2 ≤ num / den / 2 ^ fmt.precision := by
    rw [le_div_iff₀ (by positivity)]
    calc (2 : ℚ) ^ quantum fmt num den / 2 * 2 ^ fmt.precision
        = 2 ^ (quantum fmt num den + fmt.precision - 1) := by
          rw [zpow_sub₀ (by norm_num), zpow_add₀ (by norm_num), zpow_natCast]
          ring
      _ ≤ num / den := hle
  have hmax : quantum fmt num den + 1 ≤ fmt.maxExp := by
    have hlt := two_zpow_lt.mp (lt_of_le_of_lt hle hhigh)
    omega
  obtain ⟨m, r, hresult, hvalue⟩ := exists_ofFraction negative hnum hprecision hmax rfl
  refine ⟨m, r, hresult, ?error, ?exact⟩
  case error =>
    rw [hvalue]
    exact (abs_roundDiv_scaled_le num hden _).trans hlast
  case exact =>
    intro n t hn hw
    obtain ⟨k, hk⟩ := exists_multiple hn (hw ▸ hle)
    have hrounds : Rounds k (quantum fmt num den) (num / den) := by
      left
      rw [hw, hk, sub_self, abs_zero]
      exact half_pos hpos
    rw [hvalue, roundDiv_scaled_eq hden hrounds, hw, hk]

end FontCatalog.Number.Binary
