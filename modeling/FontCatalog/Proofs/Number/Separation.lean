import Mathlib.Algebra.Order.Field.Power
import Mathlib.Data.Rat.Cast.Order
import Mathlib.Tactic.FieldSimp
import Mathlib.Tactic.Linarith
import Mathlib.Tactic.LinearCombination
import Mathlib.Tactic.NormNum
import Mathlib.Tactic.Positivity
import Mathlib.Tactic.Ring

/-!
# Decimals near the middle between two numbers

A decimal with as many digits as the 32-bit format needs is either exactly half way between two
numbers of the format or so far from there that the error of 64-bit arithmetic does not matter. The
reason is that a power of ten has few good approximations by fractions with small terms: between two
neighbouring fractions every other one has larger terms, and the neighbours around each power of
ten are found and checked by computation. Two powers have an approximation that is too good.
-/

namespace FontCatalog.Number

/-- Fractions below and above a value. -/
structure Bracket where
  lowNum : Nat
  lowDen : Nat
  highNum : Nat
  highDen : Nat

namespace Bracket

/-- How far a value `p / q` lies above the lower fraction, times all denominators. -/
def belowValue (b : Bracket) (p q : Nat) : Int := b.lowDen * p - b.lowNum * q

/-- How far a value `p / q` lies below the upper fraction, times all denominators. -/
def aboveValue (b : Bracket) (p q : Nat) : Int := b.highNum * q - b.highDen * p

/-- The two fractions brought nearer to a value in turn, as far as their denominators stay within a
bound. -/
def narrow (bound p q : Nat) : (fuel : Nat) → Bracket → Bracket
  | 0, b => b
  | fuel + 1, b =>
    let room := (bound - b.lowDen) / b.highDen
    let above := (b.aboveValue p q).toNat
    let k := if above = 0 then room else min ((b.belowValue p q).toNat / above) room
    let b := { b with lowNum := b.lowNum + k * b.highNum, lowDen := b.lowDen + k * b.highDen }
    let room := (bound - b.highDen) / b.lowDen
    let below := (b.belowValue p q).toNat
    let k := if below = 0 then room else min ((b.aboveValue p q).toNat / below) room
    narrow bound p q fuel
      { b with highNum := b.highNum + k * b.lowNum, highDen := b.highDen + k * b.lowDen }

end Bracket

/-! ## Fractions between neighbours -/

variable {b : Bracket} {p q : Nat} {e : Int} {d n : Int}

-- A fraction with a small denominator is put together from two neighbours, but not from both with
-- positive coefficients.
theorem Bracket.exists_coefficients
    (hneighbours : b.highNum * b.lowDen = b.lowNum * b.highDen + 1) (hpos : 0 < d)
    (hlt : d < b.lowDen + b.highDen) (n : Int) :
    ∃ u v : Int, d = u * b.highDen + v * b.lowDen ∧ n = u * b.highNum + v * b.lowNum ∧
      (0 < u ∧ v ≤ 0 ∨ u ≤ 0 ∧ 0 < v) := by
  have hone : (b.highNum * b.lowDen : Int) = b.lowNum * b.highDen + 1 := by
    exact_mod_cast hneighbours
  have hd : d = (n * b.lowDen - d * b.lowNum) * b.highDen +
      (d * b.highNum - n * b.highDen) * b.lowDen := by
    linear_combination -d * hone
  refine ⟨_, _, hd, by linear_combination -n * hone, ?_⟩
  generalize n * b.lowDen - d * b.lowNum = u at hd
  generalize d * b.highNum - n * b.highDen = v at hd
  by_contra hsigns
  rw [not_or, not_and_or, not_and_or, not_lt, not_le, not_le, not_lt] at hsigns
  have hhigh : (0 : Int) ≤ b.highDen := Int.natCast_nonneg _
  have hlow : (0 : Int) ≤ b.lowDen := Int.natCast_nonneg _
  rcases hsigns with ⟨hu | hv, hu' | hv'⟩
  · omega
  · -- Neither adds anything, so the denominator would not be positive.
    have hfirst := mul_nonpos_of_nonpos_of_nonneg hu hhigh
    have hsecond := mul_nonpos_of_nonpos_of_nonneg hv' hlow
    linarith
  · -- Each is there once at least, so the denominator would be too large.
    have hfirst := le_mul_of_one_le_left hhigh (Int.add_one_le_of_lt hu')
    have hsecond := le_mul_of_one_le_left hlow (Int.add_one_le_of_lt hv)
    linarith
  · omega

/-- The fractions that are nearer to a power of ten than the error of 64-bit arithmetic, with the
exponents of those powers. -/
def tooGood : List (Int × Int × Int) := [(-32, 22841339, 14077062), (-15, 28874659, 25645849)]

/-- A fraction no multiple of which has an odd numerator of at most 25 bits, unless it is the value
itself, with the exceptions. -/
def Harmless (e : Int) (num den : Nat) (gap : Int) : Prop :=
  gap = 0 ∨ num % 2 = 0 ∨ 2 ^ 25 ≤ num ∨ (e, (num : Int), (den : Int)) ∈ tooGood ∧ 2 ^ 25 ≤ 2 * num

instance (e : Int) (num den : Nat) (gap : Int) : Decidable (Harmless e num den gap) :=
  inferInstanceAs (Decidable (_ ∨ _))

/-- Whether the multiples of a fraction are far from a value, or harmless if they are near. -/
def Apart (e : Int) (p num den : Nat) (gap otherGap : Int) : Prop :=
  5 * (den * p : Int) < 2 ^ 54 * gap ∨
    5 * (2 ^ 25 * p : Int) < 2 ^ 54 * otherGap ∧ Harmless e num den gap

instance (e : Int) (p num den : Nat) (gap otherGap : Int) :
    Decidable (Apart e p num den gap otherGap) :=
  inferInstanceAs (Decidable (_ ∨ _))

-- A fraction that is put together mostly from one of two neighbours is that one, if it is near the
-- value at all.
theorem Apart.eq_or_mem {num den otherNum otherDen : Nat} {gap otherGap u v : Int}
    (h : Apart e p num den gap otherGap) (hp : 0 < p) (hgap : 0 ≤ gap) (hother : 0 ≤ otherGap)
    (hu : 0 < u) (hv : v ≤ 0) (hd : d = u * den + v * otherDen) (hn : n = u * num + v * otherNum)
    (hodd : n % 2 = 1) (hle : n < 2 ^ 25) (hbound : d ≤ 2 ^ 25)
    (hnear : 2 ^ 54 * (u * gap - v * otherGap) ≤ 5 * (d * p)) :
    u * gap - v * otherGap = 0 ∨ (e, n, d) ∈ tooGood := by
  have hden : v * otherDen ≤ 0 := mul_nonpos_of_nonpos_of_nonneg hv (Int.natCast_nonneg _)
  have hp' : (0 : Int) < p := by exact_mod_cast hp
  rcases h with hfar | ⟨hfar, hharmless⟩
  · -- The fraction itself is farther away, and its multiples are so too.
    exfalso
    have hd' : d ≤ u * den := by linarith
    have hle := mul_le_mul_of_nonneg_right hd' hp'.le
    have hlt : u * (5 * (den * p)) < u * (2 ^ 54 * gap) := mul_lt_mul_of_pos_left hfar hu
    have hrest := mul_nonpos_of_nonpos_of_nonneg hv hother
    linarith
  · -- The other fraction is too far away to be part of it.
    have hv0 : v = 0 := by
      by_contra hne
      have hv1 : v ≤ -1 := by omega
      have hle := mul_le_mul_of_nonneg_right hbound hp'.le
      have hfirst := mul_nonneg hu.le hgap
      have hrest := mul_le_mul_of_nonneg_right hv1 hother
      linarith
    subst hv0
    rw [zero_mul, add_zero] at hd hn
    rcases hharmless with hzero | heven | hlarge | ⟨hmem, hlarge⟩
    · left
      rw [hzero]
      ring
    · exfalso
      obtain ⟨k, hk⟩ := Nat.dvd_of_mod_eq_zero heven
      rw [hk] at hn
      push_cast at hn
      have htwo : n = 2 * (u * k) := by rw [hn]; ring
      omega
    · exfalso
      have hlarge' : (2 ^ 25 : Int) ≤ num := by exact_mod_cast hlarge
      have hmul := le_mul_of_one_le_left (Int.natCast_nonneg num) (Int.add_one_le_of_lt hu)
      linarith
    · right
      have hlarge' : (2 ^ 25 : Int) ≤ 2 * num := by exact_mod_cast hlarge
      have hu1 : u = 1 := by
        by_contra hne
        have hu2 : 2 ≤ u := by omega
        have hmul := mul_le_mul_of_nonneg_right hu2 (Int.natCast_nonneg num)
        linarith
      rw [hu1, one_mul] at hd hn
      rwa [hd, hn]

/-! ## Powers of ten -/

/-- The exponent of the largest power of two up to a power of ten. -/
def binaryExponent (e : Int) : Int :=
  if 0 ≤ e then Nat.log2 (10 ^ e.toNat) else -(Nat.log2 (10 ^ (-e).toNat) + 1 : Nat)

/-- A power of ten over that power of two, as a fraction. -/
def significand (e : Int) : Nat × Nat :=
  if 0 ≤ e then (10 ^ e.toNat, 2 ^ Nat.log2 (10 ^ e.toNat))
  else (2 ^ (Nat.log2 (10 ^ (-e).toNat) + 1), 10 ^ (-e).toNat)

/-- The neighbours around a power of ten whose denominators have up to 25 bits. -/
def bracketOf (e : Int) : Bracket :=
  .narrow (2 ^ 25) (significand e).1 (significand e).2 16 ⟨1, 1, 2, 1⟩

/-- That the neighbours around a power of ten leave no other fraction near it. -/
def Certified (e : Int) (p q : Nat) (b : Bracket) : Prop :=
  (0 < q ∧ q ≤ p ∧ p < 2 * q) ∧
    (b.highNum * b.lowDen = b.lowNum * b.highDen + 1 ∧ 0 ≤ b.belowValue p q ∧
      0 ≤ b.aboveValue p q ∧ 2 ^ 25 < b.lowDen + b.highDen) ∧
    Apart e p b.highNum b.highDen (b.aboveValue p q) (b.belowValue p q) ∧
    Apart e p b.lowNum b.lowDen (b.belowValue p q) (b.aboveValue p q)

instance (e : Int) (p q : Nat) (b : Bracket) : Decidable (Certified e p q b) :=
  inferInstanceAs (Decidable (_ ∧ _))

theorem certified_bracketOf (hlow : -45 ≤ e) (hhigh : e ≤ 38) :
    Certified e (significand e).1 (significand e).2 (bracketOf e) := by
  have hall : ∀ k < 84, Certified ((k : Nat) - 45 : Int) (significand (k - 45)).1
      (significand (k - 45)).2 (bracketOf (k - 45)) := by decide +kernel
  obtain ⟨k, hk⟩ : ∃ k : Nat, e = k - 45 := ⟨(e + 45).toNat, by omega⟩
  rw [hk]
  exact hall k (by omega)

/-- A fraction with an odd numerator of at most 25 bits that is as near to a certified value as the
error of 64-bit arithmetic is that value or one of the exceptions. -/
theorem Certified.eq_or_mem (h : Certified e p q b) (hd : 0 < d) (hodd : n % 2 = 1)
    (hn : n < 2 ^ 25) (hnear : 2 ^ 54 * |d * p - n * q| ≤ 5 * (d * p)) :
    d * p = n * q ∨ (e, n, d) ∈ tooGood := by
  obtain ⟨⟨hq, hqp, -⟩, ⟨hneighbours, hbelow, habove, hroom⟩, hhigh, hlow⟩ := h
  have hq' : (0 : Int) < q := by exact_mod_cast hq
  have hqp' : (q : Int) ≤ p := by exact_mod_cast hqp
  have hp : 0 < p := Nat.lt_of_lt_of_le hq hqp
  -- With a larger denominator the numerator would be too small for the value.
  have hbound : d ≤ 2 ^ 25 := by
    by_contra hlarge
    have hp' : (0 : Int) < p := by exact_mod_cast hp
    have hnq : n * q ≤ (2 ^ 25 - 1) * p := mul_le_mul (by omega) hqp' hq'.le (by norm_num)
    have hfar : 2 ^ 54 * (d - (2 ^ 25 - 1)) * p ≤ 5 * d * p := by
      have hsub : d * p - n * q ≤ |d * p - n * q| := le_abs_self _
      linarith
    have hcancel := le_of_mul_le_mul_right hfar hp'
    omega
  obtain ⟨u, v, hdsum, hnsum, hsigns⟩ := Bracket.exists_coefficients hneighbours hd
    (lt_of_le_of_lt hbound (by exact_mod_cast hroom)) n
  have hdiff : d * p - n * q = v * b.belowValue p q - u * b.aboveValue p q := by
    rw [hdsum, hnsum, Bracket.belowValue, Bracket.aboveValue]
    ring
  -- The two neighbours are on different sides of the value, so the distances of their parts add up.
  rcases hsigns with ⟨hu, hv⟩ | ⟨hu, hv⟩
  · have hnear' : 2 ^ 54 * (u * b.aboveValue p q - v * b.belowValue p q) ≤ 5 * (d * p) := by
      calc 2 ^ 54 * (u * b.aboveValue p q - v * b.belowValue p q)
          = 2 ^ 54 * -(d * p - n * q) := by rw [hdiff, neg_sub]
        _ ≤ 2 ^ 54 * |d * p - n * q| := mul_le_mul_of_nonneg_left (neg_le_abs _) (by norm_num)
        _ ≤ 5 * (d * p) := hnear
    rcases hhigh.eq_or_mem hp habove hbelow hu hv hdsum hnsum hodd hn hbound hnear' with heq | hmem
    · left
      linarith
    · exact Or.inr hmem
  · have hnear' : 2 ^ 54 * (v * b.belowValue p q - u * b.aboveValue p q) ≤ 5 * (d * p) := by
      calc 2 ^ 54 * (v * b.belowValue p q - u * b.aboveValue p q)
          = 2 ^ 54 * (d * p - n * q) := by rw [hdiff]
        _ ≤ 2 ^ 54 * |d * p - n * q| := mul_le_mul_of_nonneg_left (le_abs_self _) (by norm_num)
        _ ≤ 5 * (d * p) := hnear
    rcases hlow.eq_or_mem hp hbelow habove hv hu (by rw [hdsum, add_comm])
      (by rw [hnsum, add_comm]) hodd hn hbound hnear' with heq | hmem
    · left
      linarith
    · exact Or.inr hmem

/-! ## Decimals -/

theorem ten_zpow_eq (e : Int) :
    (10 : ℚ) ^ e = (significand e).1 / (significand e).2 * 2 ^ binaryExponent e := by
  unfold significand binaryExponent
  split
  · rename_i he
    obtain ⟨k, rfl⟩ := Int.eq_ofNat_of_zero_le he
    simp
  · rename_i he
    obtain ⟨k, rfl⟩ : ∃ k : Nat, e = -(k : Int) := ⟨(-e).toNat, by omega⟩
    simp only [neg_neg, Int.toNat_natCast, zpow_neg, zpow_natCast, Nat.cast_pow, Nat.cast_ofNat]
    field_simp

/-- The decimals `d * 10 ^ e` that are as near to a middle `m * 2 ^ t` as the error of 64-bit
arithmetic without being equal to it. -/
def nearMiddles : List (Nat × Int × Nat × Int) :=
  [(14077062, -32, 22841339, -107), (7038531, -32, 22841339, -108),
    (25645849, -15, 28874659, -50)]

theorem le_binaryExponent {t : Int} (hq : 0 < (significand e).2)
    (hlt : (significand e).1 < 2 * (significand e).2) (ht : (2 : ℚ) ^ t < 10 ^ e) :
    t ≤ binaryExponent e := by
  have hqpos : (0 : ℚ) < (significand e).2 := by exact_mod_cast hq
  have hratio : ((significand e).1 / (significand e).2 : ℚ) < 2 := by
    rw [div_lt_iff₀ hqpos]
    exact_mod_cast hlt
  have hpow : (2 : ℚ) ^ t < 2 ^ (binaryExponent e + 1) := by
    rw [zpow_add_one₀ (by norm_num), mul_comm]
    calc (2 : ℚ) ^ t < (significand e).1 / (significand e).2 * 2 ^ binaryExponent e := by
          rwa [← ten_zpow_eq]
      _ < 2 * 2 ^ binaryExponent e := mul_lt_mul_of_pos_right hratio (by positivity)
  have hlt' := (zpow_lt_zpow_iff_right₀ (by norm_num : (1 : ℚ) < 2)).mp hpow
  omega

-- The significand of an exception has at most one factor of two that the exponent can take over.
theorem mem_nearMiddles {d m j : Nat} {t : Int}
    (hmem : (e, (m : Int), ((d * 2 ^ j : Nat) : Int)) ∈ tooGood)
    (hj : binaryExponent e = t + j) : (d, e, m, t) ∈ nearMiddles := by
  simp only [tooGood, List.mem_cons, Prod.mk.injEq, List.not_mem_nil, or_false] at hmem
  rcases hmem with ⟨rfl, hm, hdj⟩ | ⟨rfl, hm, hdj⟩
  · have hexp : binaryExponent (-32) = -107 := by decide +kernel
    obtain rfl : m = 22841339 := by omega
    obtain _ | _ | j := j
    · obtain rfl : t = -107 := by omega
      obtain rfl : d = 14077062 := by omega
      decide
    · obtain rfl : t = -108 := by omega
      obtain rfl : d = 7038531 := by omega
      decide
    · have hfour : 4 * (d * 2 ^ j) = 14077062 := by
        rw [pow_add, pow_add] at hdj
        push_cast at hdj
        have hint : (4 * (d * 2 ^ j) : Int) = 14077062 := by rw [← hdj]; ring
        exact_mod_cast hint
      omega
  · have hexp : binaryExponent (-15) = -50 := by decide +kernel
    obtain rfl : m = 28874659 := by omega
    obtain _ | j := j
    · obtain rfl : t = -50 := by omega
      obtain rfl : d = 25645849 := by omega
      decide
    · have htwo : 2 * (d * 2 ^ j) = 25645849 := by
        rw [pow_add] at hdj
        push_cast at hdj
        have hint : (2 * (d * 2 ^ j) : Int) = 25645849 := by rw [← hdj]; ring
        exact_mod_cast hint
      omega

/-- A decimal on a grid that is coarser than `2 ^ t` is equal to an odd multiple of `2 ^ t`, or away
from all of them, with three exceptions. -/
theorem eq_or_mem_nearMiddles {d m : Nat} {t : Int} (hlow : -45 ≤ e) (hhigh : e ≤ 38)
    (hd : 0 < d) (ht : (2 : ℚ) ^ t < 10 ^ e) (hodd : m % 2 = 1) (hm : m < 2 ^ 25)
    (hnear : |(d * 10 ^ e - m * 2 ^ t : ℚ)| ≤ 5 / 2 ^ 54 * (d * 10 ^ e)) :
    (d * 10 ^ e : ℚ) = m * 2 ^ t ∨ (d, e, m, t) ∈ nearMiddles := by
  have hcert := certified_bracketOf hlow hhigh
  obtain ⟨hq, -, hlt⟩ := hcert.1
  have hts := le_binaryExponent hq hlt ht
  have hten := ten_zpow_eq e
  generalize (significand e).1 = p at *
  generalize (significand e).2 = q at *
  have hqpos : (0 : ℚ) < q := by exact_mod_cast hq
  have hpos : (0 : ℚ) < 2 ^ t := by positivity
  -- The decimal is taken in units of `2 ^ t`, so that the power of ten is its significand alone.
  obtain ⟨j, hj⟩ : ∃ j : Nat, binaryExponent e = t + j := ⟨(binaryExponent e - t).toNat, by omega⟩
  have hvalue : (d * 10 ^ e : ℚ) = (d * 2 ^ j : Nat) * p / q * 2 ^ t := by
    rw [hten, hj, zpow_add₀ (by norm_num), zpow_natCast]
    push_cast
    ring
  have hdiff : (d * 10 ^ e - m * 2 ^ t : ℚ) = ((d * 2 ^ j : Nat) * p - m * q) / q * 2 ^ t := by
    rw [hvalue]
    field_simp
  have hnear' : 2 ^ 54 * |((d * 2 ^ j : Nat) * p - m * q : Int)| ≤ 5 * ((d * 2 ^ j : Nat) * p) := by
    rw [hdiff, hvalue, abs_mul, abs_div, abs_of_pos hqpos, abs_of_pos hpos, ← mul_assoc,
      mul_le_mul_iff_left₀ hpos, mul_div_assoc', div_le_div_iff_of_pos_right hqpos,
      div_mul_eq_mul_div, le_div_iff₀ (by norm_num), mul_comm] at hnear
    exact_mod_cast hnear
  have hd' : (0 : Int) < (d * 2 ^ j : Nat) := by exact_mod_cast Nat.mul_pos hd (by positivity)
  rcases hcert.eq_or_mem hd' (by exact_mod_cast hodd) (by exact_mod_cast hm) hnear' with heq | hmem
  · left
    have heq' : ((d * 2 ^ j : Nat) * p : ℚ) = m * q := by exact_mod_cast heq
    rw [← sub_eq_zero, hdiff, heq', sub_self, zero_div, zero_mul]
  · exact Or.inr (mem_nearMiddles hmem hj)

end FontCatalog.Number
