import FontCatalog.Number.Shortest
import FontCatalog.Proofs.Number.Rounding
import Mathlib.Tactic.LinearCombination

/-!
# Shortest decimals are near

The decimal that is chosen for a number rounds to that number. It is also one of the nearest on its
grid, so it is well inside the interval of the values that round to the number, unless the grid is
coarser than half the distance to the next number.
-/

namespace FontCatalog.Number.Binary

variable {fmt : Format} {m d k : Nat} {q e : Int}

/-! ## The interval -/

/-- The interval of a number as rational numbers. -/
structure Interval.Spans (i : Interval) (m : Nat) (q : Int) : Prop where
  den : 0 < i.den
  low : (i.low : ℚ) = (m * 2 ^ q - 2 ^ q / 2) * i.den
  value : (i.value : ℚ) = m * 2 ^ q * i.den
  high : (i.high : ℚ) = (m * 2 ^ q + 2 ^ q / 2) * i.den
  closed : i.closed = true ↔ m % 2 = 0

-- Above the smallest number of a power of two, the interval is as wide on both sides.
theorem spans_interval (hm : 0 < m) (hsymmetric : m ≠ 2 ^ (fmt.precision - 1) ∨ q ≤ fmt.minExp) :
    (interval fmt m q).Spans m q := by
  obtain ⟨hden, hunit⟩ := scaled_spec 1 (q - 2)
  have hden' : (0 : ℚ) < (scaled 1 (q - 2)).2 := by exact_mod_cast hden
  have hquarter : ((scaled 1 (q - 2)).1 : ℚ) = 2 ^ q / 4 * (scaled 1 (q - 2)).2 := by
    rw [div_eq_iff hden'.ne'] at hunit
    rw [hunit, zpow_sub₀ (by norm_num)]
    norm_num
  have hbelow : (if m = Nat.pow 2 (fmt.precision - 1) ∧ fmt.minExp < q then 1 else 2) = 2 := by
    rw [if_neg]
    rintro ⟨hpower, hexp⟩
    rcases hsymmetric with h | h
    · exact h hpower
    · omega
  have hcast : ((4 * m - 2 : Nat) : ℚ) = 4 * m - 2 := by
    rw [Nat.cast_sub (by omega)]
    push_cast
    ring
  refine ⟨hden, ?_, ?_, ?_, by simp [interval]⟩
  · simp only [interval, hbelow]
    rw [Nat.cast_mul, hcast, hquarter]
    ring
  · simp only [interval]
    push_cast
    rw [hquarter]
    ring
  · simp only [interval]
    push_cast
    rw [hquarter]
    ring

theorem ten_zpow_pos (e : Int) : (0 : ℚ) < 10 ^ e := by positivity

theorem rounds_iff_of_even (heven : m % 2 = 0) {w : ℚ} :
    Rounds m q w ↔ m * 2 ^ q - 2 ^ q / 2 ≤ w ∧ w ≤ m * 2 ^ q + 2 ^ q / 2 := by
  have hclosed : Rounds m q w ↔ |m * 2 ^ q - w| ≤ 2 ^ q / 2 := by
    rw [Rounds, le_iff_lt_or_eq]
    simp [heven]
  rw [hclosed, abs_le]
  constructor
  · rintro ⟨hlow, hhigh⟩
    constructor <;> linarith
  · rintro ⟨hlow, hhigh⟩
    constructor <;> linarith

theorem rounds_iff_of_odd (hodd : ¬m % 2 = 0) {w : ℚ} :
    Rounds m q w ↔ m * 2 ^ q - 2 ^ q / 2 < w ∧ w < m * 2 ^ q + 2 ^ q / 2 := by
  have hopen : Rounds m q w ↔ |m * 2 ^ q - w| < 2 ^ q / 2 := by
    rw [Rounds]
    simp [hodd]
  rw [hopen, abs_lt]
  constructor
  · rintro ⟨hlow, hhigh⟩
    constructor <;> linarith
  · rintro ⟨hlow, hhigh⟩
    constructor <;> linarith

-- The comparison with the ends is made after multiplication by the denominators.
theorem Interval.holds_eq (i : Interval) (d : Nat) (e : Int) :
    ∃ n k : Nat, 0 < k ∧ (n : ℚ) = d * 10 ^ e * i.den * k ∧
      i.holds d e = if i.closed then i.low * k ≤ n && n ≤ i.high * k
        else i.low * k < n && n < i.high * k := by
  by_cases he : 0 ≤ e
  · obtain ⟨j, rfl⟩ := Int.eq_ofNat_of_zero_le he
    refine ⟨d * Nat.pow 10 j * i.den, 1, Nat.one_pos, ?_, ?_⟩
    · rw [Nat.pow_eq]
      push_cast
      rw [zpow_natCast]
      ring
    · simp [Interval.holds]
  · obtain ⟨j, rfl⟩ : ∃ j : Nat, e = -(j : Int) := ⟨(-e).toNat, by omega⟩
    refine ⟨d * i.den, Nat.pow 10 j, Nat.pow_pos (by norm_num), ?_, ?_⟩
    · rw [Nat.pow_eq]
      push_cast
      rw [zpow_neg, zpow_natCast]
      field_simp
    · simp only [Interval.holds, if_neg he, neg_neg, Int.toNat_natCast]

namespace Interval.Spans

variable {i : Interval}

/-- A decimal lies in the interval exactly if it rounds to the number. -/
theorem holds_iff (h : i.Spans m q) (d : Nat) (e : Int) :
    i.holds d e = true ↔ Rounds m q (d * 10 ^ e) := by
  obtain ⟨n, k, hk, hn, hholds⟩ := i.holds_eq d e
  have hden : (0 : ℚ) < i.den := by exact_mod_cast h.den
  have hk' : (0 : ℚ) < k := by exact_mod_cast hk
  have hdenk : (0 : ℚ) < i.den * k := mul_pos hden hk'
  have hle : ∀ {a : Nat} {w : ℚ}, (a : ℚ) = w * i.den → (a * k ≤ n ↔ w ≤ d * 10 ^ e) := by
    intro a w ha
    rw [← Nat.cast_le (α := ℚ), Nat.cast_mul, ha, hn, mul_assoc, mul_assoc (_ * _) _ (k : ℚ),
      mul_le_mul_iff_left₀ hdenk]
  have hge : ∀ {a : Nat} {w : ℚ}, (a : ℚ) = w * i.den → (n ≤ a * k ↔ d * 10 ^ e ≤ w) := by
    intro a w ha
    rw [← Nat.cast_le (α := ℚ), Nat.cast_mul, ha, hn, mul_assoc w, mul_assoc (_ * _) _ (k : ℚ),
      mul_le_mul_iff_left₀ hdenk]
  rw [hholds]
  by_cases heven : m % 2 = 0
  · rw [if_pos (h.closed.mpr heven), Bool.and_eq_true, decide_eq_true_iff, decide_eq_true_iff,
      hle h.low, hge h.high, rounds_iff_of_even heven]
  · rw [if_neg (mt h.closed.mp heven), Bool.and_eq_true, decide_eq_true_iff, decide_eq_true_iff,
      ← not_le, ← not_le, hge h.low, hle h.high, not_le, not_le, rounds_iff_of_odd heven]

/-! ## One grid -/

-- The neighbours are found by a division of natural numbers.
theorem neighbour_eq (h : i.Spans m q) (e : Int) :
    ∃ n k : Nat, 0 < k ∧ (m * 2 ^ q : ℚ) = n / k * 10 ^ e ∧
      i.neighbour e = (n / k, compare (2 * (n % k)) k) := by
  have hden : (0 : ℚ) < i.den := by exact_mod_cast h.den
  by_cases he : 0 ≤ e
  · obtain ⟨j, rfl⟩ := Int.eq_ofNat_of_zero_le he
    refine ⟨i.value, i.den * Nat.pow 10 j, Nat.mul_pos h.den (Nat.pow_pos (by norm_num)), ?_, ?_⟩
    · rw [h.value, Nat.pow_eq, zpow_natCast]
      push_cast
      field_simp
    · simp [Interval.neighbour]
  · obtain ⟨j, rfl⟩ : ∃ j : Nat, e = -(j : Int) := ⟨(-e).toNat, by omega⟩
    refine ⟨i.value * Nat.pow 10 j, i.den, h.den, ?_, ?_⟩
    · rw [Nat.cast_mul, h.value, Nat.pow_eq, zpow_neg, zpow_natCast]
      push_cast
      field_simp
    · simp only [Interval.neighbour, if_neg he, neg_neg, Int.toNat_natCast]

-- The value lies between its two neighbours on a grid, and the rest tells how far.
theorem neighbour_spec (h : i.Spans m q) (e : Int) :
    ∃ f : ℚ, 0 ≤ f ∧ f < 1 ∧ (m * 2 ^ q : ℚ) = ((i.neighbour e).1 + f) * 10 ^ e ∧
      ((i.neighbour e).2 = .lt ↔ f < 1 / 2) ∧ ((i.neighbour e).2 = .gt ↔ 1 / 2 < f) := by
  obtain ⟨n, k, hk, hvalue, hneighbour⟩ := h.neighbour_eq e
  obtain ⟨f, hnonneg, hlt, hsum, hrest⟩ := exists_rest n hk
  refine ⟨f, hnonneg, hlt, ?_, ?_, ?_⟩
  · rw [hvalue, hneighbour, hsum]
  · rw [hneighbour, compare_lt_iff_lt, two_mul_mod_lt_iff hk hrest]
  · rw [hneighbour, compare_gt_iff_gt, lt_two_mul_mod_iff hk hrest]

theorem abs_neighbours {n : Nat} {f : ℚ} (hnonneg : 0 ≤ f) (hlt : f < 1)
    (hvalue : (m * 2 ^ q : ℚ) = (n + f) * 10 ^ e) :
    |(m * 2 ^ q - n * 10 ^ e : ℚ)| = f * 10 ^ e ∧
      |(m * 2 ^ q - (n + 1 : Nat) * 10 ^ e : ℚ)| = (1 - f) * 10 ^ e := by
  have hg := ten_zpow_pos e
  constructor
  · rw [hvalue, ← sub_mul, add_sub_cancel_left, abs_of_nonneg (by positivity)]
  · rw [hvalue, abs_sub_comm, ← sub_mul, Nat.cast_add_one, add_sub_add_left_eq_sub, abs_mul,
      abs_of_pos (by linarith), abs_of_pos hg]

-- A neighbour that rounds to the number is not farther away than one that does not.
theorem abs_le_of_not_rounds {w w' g : ℚ} (hsum : |m * 2 ^ q - w| + |m * 2 ^ q - w'| = g)
    (hw : Rounds m q w) (hw' : ¬Rounds m q w') : |m * 2 ^ q - w| ≤ g / 2 := by
  by_contra hfar
  apply hw'
  left
  have hle := hw.abs_le
  linarith

/-- The digits on a grid round to the number, and no neighbour is nearer. -/
theorem onGrid_eq_some (h : i.Spans m q) {tie : Tie} (hgrid : i.onGrid tie e = some d) :
    Rounds m q (d * 10 ^ e) ∧ |(m * 2 ^ q - d * 10 ^ e : ℚ)| ≤ 10 ^ e / 2 := by
  obtain ⟨f, hnonneg, hlt, hvalue, hless, hgreater⟩ := h.neighbour_spec e
  obtain ⟨n, rest, hneighbour⟩ : ∃ n rest, i.neighbour e = (n, rest) := ⟨_, _, rfl⟩
  have hg := ten_zpow_pos e
  rw [hneighbour] at hvalue hless hgreater
  obtain ⟨hbelow, habove⟩ := abs_neighbours hnonneg hlt hvalue
  have hsum : |(m * 2 ^ q - n * 10 ^ e : ℚ)| + |(m * 2 ^ q - (n + 1 : Nat) * 10 ^ e : ℚ)| =
      10 ^ e := by
    rw [hbelow, habove]
    ring
  have hholds := h.holds_iff n e
  have hholds' := h.holds_iff (n + 1) e
  rw [Interval.onGrid, hneighbour] at hgrid
  simp only at hgrid hless hgreater
  split at hgrid
  · cases hgrid
  · -- Only the lower neighbour rounds to the number.
    rename_i hlow hhigh
    obtain rfl := Option.some.inj hgrid
    rw [Bool.eq_false_iff, ne_eq, hholds'] at hhigh
    exact ⟨hholds.mp hlow, abs_le_of_not_rounds hsum (hholds.mp hlow) hhigh⟩
  · -- Only the upper neighbour rounds to the number.
    rename_i hlow hhigh
    obtain rfl := Option.some.inj hgrid
    rw [Bool.eq_false_iff, ne_eq, hholds] at hlow
    rw [add_comm] at hsum
    exact ⟨hholds'.mp hhigh, abs_le_of_not_rounds hsum (hholds'.mp hhigh) hlow⟩
  · -- Both round to the number, and the nearer one is taken.
    rename_i hlow hhigh
    have hlower : f ≤ 1 / 2 → Rounds m q (n * 10 ^ e) ∧
        |(m * 2 ^ q - n * 10 ^ e : ℚ)| ≤ 10 ^ e / 2 := by
      intro hf
      refine ⟨hholds.mp hlow, ?_⟩
      rw [hbelow]
      nlinarith
    have hupper : 1 / 2 ≤ f → Rounds m q ((n + 1 : Nat) * 10 ^ e) ∧
        |(m * 2 ^ q - (n + 1 : Nat) * 10 ^ e : ℚ)| ≤ 10 ^ e / 2 := by
      intro hf
      refine ⟨hholds'.mp hhigh, ?_⟩
      rw [habove]
      nlinarith
    split at hgrid
    · obtain rfl := Option.some.inj hgrid
      exact hlower (hless.mp rfl).le
    · obtain rfl := Option.some.inj hgrid
      exact hupper (hgreater.mp rfl).le
    · have hnotless : ¬f < 1 / 2 := fun hf => by cases hless.mpr hf
      have hnotgreater : ¬1 / 2 < f := fun hf => by cases hgreater.mpr hf
      split at hgrid
      · obtain rfl := Option.some.inj hgrid
        exact hupper (not_lt.mp hnotless)
      · obtain rfl := Option.some.inj hgrid
        exact hlower (not_lt.mp hnotgreater)

-- A grid that misses the interval is coarse.
theorem onGrid_eq_none (h : i.Spans m q) {tie : Tie} (hgrid : i.onGrid tie e = none) :
    (2 : ℚ) ^ q ≤ 10 ^ e := by
  obtain ⟨f, hnonneg, hlt, hvalue, -⟩ := h.neighbour_spec e
  obtain ⟨n, rest, hneighbour⟩ : ∃ n rest, i.neighbour e = (n, rest) := ⟨_, _, rfl⟩
  rw [hneighbour] at hvalue
  obtain ⟨hbelow, habove⟩ := abs_neighbours hnonneg hlt hvalue
  rw [Interval.onGrid, hneighbour] at hgrid
  simp only at hgrid
  split at hgrid
  · rename_i hlow hhigh
    by_contra hfine
    have hg := ten_zpow_pos e
    rw [Bool.eq_false_iff, ne_eq, h.holds_iff] at hlow hhigh
    -- The nearer neighbour is at most half a step away.
    rcases le_total f (1 / 2) with hf | hf
    · exact hlow (Or.inl (by rw [hbelow]; nlinarith))
    · exact hhigh (Or.inl (by rw [habove]; nlinarith))
  · cases hgrid
  · cases hgrid
  · split at hgrid
    · cases hgrid
    · cases hgrid
    · split at hgrid
      · cases hgrid
      · cases hgrid

end Interval.Spans

/-! ## The search for a grid -/

theorem toDigits_bounds {n : Nat} (hn : 0 < n) :
    (10 : ℚ) ^ ((Nat.toDigits 10 n).length - 1 : Int) ≤ n ∧
      (n : ℚ) + 1 ≤ 10 ^ ((Nat.toDigits 10 n).length : Int) := by
  obtain ⟨k, hk⟩ : ∃ k, (Nat.toDigits 10 n).length = k + 1 :=
    Nat.exists_eq_succ_of_ne_zero Nat.length_toDigits_pos.ne'
  have hlt : n < 10 ^ (k + 1) := (Nat.length_toDigits_le_iff (by norm_num) k.succ_pos).mp hk.le
  have hle : 10 ^ k ≤ n := by
    by_contra hsmall
    rcases Nat.eq_zero_or_pos k with rfl | hpos
    · omega
    · have hlength :=
        (Nat.length_toDigits_le_iff (by norm_num : 1 < 10) hpos).mpr (not_le.mp hsmall)
      omega
  rw [hk]
  constructor
  · rw [Nat.cast_add_one, add_sub_cancel_right, zpow_natCast]
    exact_mod_cast hle
  · rw [zpow_natCast]
    exact_mod_cast hlt

-- The magnitude tells how many digits stand before the point.
theorem Interval.Spans.magnitude_spec {i : Interval} (h : i.Spans m q) (hm : 0 < m) :
    (10 : ℚ) ^ (i.magnitude - 1) ≤ m * 2 ^ q ∧ (m * 2 ^ q : ℚ) ≤ 10 ^ i.magnitude := by
  have hden : (0 : ℚ) < i.den := by exact_mod_cast h.den
  have hx : (0 : ℚ) < m * 2 ^ q := mul_pos (by exact_mod_cast hm) (two_zpow_pos q)
  have hvalue : 0 < i.value := by
    have hpos : (0 : ℚ) < i.value := by
      rw [h.value]
      positivity
    exact_mod_cast hpos
  unfold Interval.magnitude
  split
  · rename_i hle
    obtain ⟨f, hnonneg, hlt, hsum, -⟩ := exists_rest i.value h.den
    rw [h.value, mul_div_assoc, div_self hden.ne', mul_one] at hsum
    obtain ⟨hlow, hhigh⟩ := toDigits_bounds (Nat.div_pos hle h.den)
    rw [hsum]
    constructor <;> linarith
  · rename_i hlt
    obtain ⟨f, hnonneg, hf, hsum, -⟩ := exists_rest i.den hvalue
    obtain ⟨hlow, hhigh⟩ := toDigits_bounds (Nat.div_pos (not_le.mp hlt).le hvalue)
    have hinv : (i.den : ℚ) / i.value = (m * 2 ^ q : ℚ)⁻¹ := by
      rw [h.value]
      field_simp
    rw [hinv] at hsum
    constructor
    · rw [sub_sub_cancel_left, zpow_neg]
      apply inv_le_of_inv_le₀ hx
      rw [hsum]
      linarith
    · rw [← neg_sub, zpow_neg]
      apply le_inv_of_le_inv₀ (by positivity)
      rw [hsum]
      linarith

/-- The search finds a grid that meets the interval before its fuel runs out, and the grid before it
was coarse. -/
theorem Interval.Spans.search_spec {i : Interval} (h : i.Spans m q) (tie : Tie) {fuel : Nat}
    {start : Int} (hfine : (10 : ℚ) ^ (start - fuel) < 2 ^ q) :
    ∃ d e, i.search tie (fuel + 1) start = (d, e) ∧ i.onGrid tie e = some d ∧
      (e = start ∨ (2 : ℚ) ^ q ≤ 10 ^ (e + 1)) := by
  induction fuel generalizing start with
  | zero =>
    rw [Interval.search]
    cases hgrid : i.onGrid tie start with
    | some d => exact ⟨d, start, rfl, hgrid, Or.inl rfl⟩
    | none =>
      have hcoarse := h.onGrid_eq_none hgrid
      rw [Nat.cast_zero, sub_zero] at hfine
      linarith
  | succ fuel ih =>
    rw [Interval.search]
    cases hgrid : i.onGrid tie start with
    | some d => exact ⟨d, start, rfl, hgrid, Or.inl rfl⟩
    | none =>
      have hcoarse := h.onGrid_eq_none hgrid
      have hfine' : (10 : ℚ) ^ (start - 1 - fuel) < 2 ^ q := by
        rwa [sub_sub, add_comm 1, ← Nat.cast_add_one]
      obtain ⟨d, e, hsearch, hfound, hstart⟩ := ih hfine'
      refine ⟨d, e, hsearch, hfound, Or.inr ?_⟩
      rcases hstart with rfl | hstart
      · rwa [sub_add_cancel]
      · exact hstart

-- Zeros at the end are taken away without a change of the value.
theorem stripZeros_spec (fuel d : Nat) (e : Int) :
    ((stripZeros fuel d e).1 * 10 ^ (stripZeros fuel d e).2 : ℚ) = d * 10 ^ e ∧
      (stripZeros fuel d e).1 ≤ d ∧ e ≤ (stripZeros fuel d e).2 := by
  induction fuel generalizing d e with
  | zero => exact ⟨rfl, le_rfl, le_rfl⟩
  | succ fuel ih =>
    rw [stripZeros]
    split
    · rename_i hzero
      obtain ⟨hvalue, hle, hexp⟩ := ih (d / 10) (e + 1)
      refine ⟨?_, hle.trans (Nat.div_le_self d 10), by omega⟩
      have hd : d = 10 * (d / 10) := by omega
      rw [hvalue, zpow_add_one₀ (by norm_num)]
      conv_rhs => rw [hd]
      push_cast
      ring
    · exact ⟨rfl, le_rfl, le_rfl⟩

/-! ## The shortest decimal -/

-- Nineteen grids below the first digit of a number of 24 bits is finer than its last place.
theorem grid_lt_unit {g : Int} (hbits : m < 2 ^ 24) (hlow : (10 : ℚ) ^ (g - 1) ≤ m * 2 ^ q) :
    (10 : ℚ) ^ (g - (19 : Nat)) < 2 ^ q := by
  have hpos : (0 : ℚ) < 2 ^ q := two_zpow_pos q
  have hm24 : (m : ℚ) + 1 ≤ 2 ^ 24 := by exact_mod_cast hbits
  have hshift : (10 : ℚ) ^ (g - (19 : Nat)) * 10 ^ 18 = 10 ^ (g - 1) := by
    rw [← zpow_natCast, ← zpow_add₀ (by norm_num)]
    congr 1
    push_cast
    ring
  nlinarith

/-- The decimal that is chosen for a number of up to 24 bits rounds to it and has at most 28 bits.
It is well inside the interval of the number unless its grid is coarse. -/
theorem shortest_spec (fmt : Format) (tie : Tie) (hm : 0 < m) (hbits : m < 2 ^ 24)
    (hsymmetric : m ≠ 2 ^ (fmt.precision - 1) ∨ q ≤ fmt.minExp) :
    ∃ d e, shortest fmt tie m q = (d, e) ∧ 0 < d ∧ d < 2 ^ 28 ∧ Rounds m q (d * 10 ^ e) ∧
      (|(m * 2 ^ q - d * 10 ^ e : ℚ)| ≤ 2 ^ q / 4 ∨ (2 : ℚ) ^ q / 2 < 10 ^ e) := by
  have hspans := spans_interval hm hsymmetric
  generalize hi : interval fmt m q = i at hspans
  obtain ⟨hlow, hhigh⟩ := hspans.magnitude_spec hm
  have hpos : (0 : ℚ) < 2 ^ q := two_zpow_pos q
  have hm1 : (1 : ℚ) ≤ m := by exact_mod_cast hm
  have hm24 : (m : ℚ) + 1 ≤ 2 ^ 24 := by exact_mod_cast hbits
  obtain ⟨d, e, hsearch, hgrid, hcoarse⟩ := hspans.search_spec tie (grid_lt_unit hbits hlow)
  obtain ⟨hrounds, hnear⟩ := hspans.onGrid_eq_some hgrid
  obtain ⟨hvalue, hle, hexp⟩ := stripZeros_spec 20 d e
  have hg := ten_zpow_pos e
  have hclose := abs_le.mp hrounds.abs_le
  have hd : 0 < d := by
    by_contra hzero
    obtain rfl : d = 0 := by omega
    rw [Nat.cast_zero, zero_mul, sub_zero] at hclose
    nlinarith
  have hd28 : d < 2 ^ 28 := by
    have hlt : (d : ℚ) < 2 ^ 28 := by
      rcases hcoarse with rfl | hcoarse
      · nlinarith [abs_le.mp hnear]
      · rw [zpow_add_one₀ (by norm_num)] at hcoarse
        nlinarith
    exact_mod_cast hlt
  have hstripped : 0 < (stripZeros 20 d e).1 := by
    by_contra hzero
    rw [Nat.eq_zero_of_not_pos hzero, Nat.cast_zero, zero_mul] at hvalue
    have hd' : (0 : ℚ) < d := by exact_mod_cast hd
    nlinarith
  refine ⟨_, _, by rw [shortest, hi, hsearch], hstripped, by omega, by rwa [hvalue], ?_⟩
  rw [hvalue]
  rcases le_or_gt ((10 : ℚ) ^ e) (2 ^ q / 2) with hsmall | hlarge
  · left
    linarith
  · right
    exact lt_of_lt_of_le hlarge (zpow_le_zpow_right₀ (by norm_num) hexp)

end FontCatalog.Number.Binary
