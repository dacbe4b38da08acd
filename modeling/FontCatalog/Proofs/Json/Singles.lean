import FontCatalog.Json.Decode
import FontCatalog.Proofs.Json.Floats
import FontCatalog.Proofs.Number.Separation
import FontCatalog.Proofs.Number.Shortest

/-!
# Reading back 32-bit numbers

The shortest decimal of a 32-bit number is read as a 64-bit number that rounds to the number again,
though that reading is not exact: where the decimal is well inside the interval of the number the
error does not matter, and elsewhere the decimal is on a coarse grid, so it is away from the ends of
the interval or at one of them, and there it is read without error.
-/

namespace FontCatalog.Json

open Number Number.Binary

variable {m d sig : Nat} {q e exp : Int}

/-- The form in which the 32-bit format has its positive numbers. -/
structure Canonical (m : Nat) (q : Int) : Prop where
  pos : 0 < m
  bits : m < 2 ^ 24
  minExp_le : -149 ≤ q
  le_maxExp : q ≤ 104
  normal : 2 ^ 23 ≤ m ∨ q = -149

/-- A number with neighbours at the same distance on both sides. -/
structure Symmetric (m : Nat) (q : Int) : Prop extends Canonical m q where
  not_power : m ≠ 2 ^ 23 ∨ q = -149

theorem Canonical.two_zpow_le (h : Canonical m q) : (2 : ℚ) ^ q ≤ m * 2 ^ q := by
  have hm : (1 : ℚ) ≤ m := by exact_mod_cast h.pos
  have hpos := two_zpow_pos q
  nlinarith

theorem Canonical.lt_two_zpow (h : Canonical m q) {w : ℚ} (hw : |m * 2 ^ q - w| ≤ 2 ^ q / 2) :
    w < 2 ^ 24 * 2 ^ q := by
  have hm : (m : ℚ) + 1 ≤ 2 ^ 24 := by exact_mod_cast h.bits
  have hpos := two_zpow_pos q
  have hlow := (abs_le.mp hw).1
  nlinarith

theorem Symmetric.isQuantum (h : Symmetric m q) {w : ℚ} (hw : |m * 2 ^ q - w| ≤ 2 ^ q / 2) :
    IsQuantum .single w q := by
  have hpos := two_zpow_pos q
  have hshift : ∀ k : Nat, (2 : ℚ) ^ (q + k) = 2 ^ k * 2 ^ q := by
    intro k
    rw [zpow_add₀ (by norm_num), zpow_natCast, mul_comm]
  refine ⟨h.minExp_le, ?_, ?_⟩
  · have hlt := h.lt_two_zpow hw
    rwa [← hshift] at hlt
  · rcases h.normal with hnormal | hmin
    · rcases h.not_power with hpower | hmin
      · right
        have hm : ((2 ^ 23 + 1 : Nat) : ℚ) ≤ m := by exact_mod_cast (by omega : 2 ^ 23 + 1 ≤ m)
        have hhigh := (abs_le.mp hw).2
        have hexp : q + (Format.single.precision : Int) - 1 = q + (23 : Nat) := by
          simp [Format.single]
          ring
        rw [hexp, hshift]
        push_cast at hm
        nlinarith
      · exact Or.inl hmin
    · exact Or.inl hmin

theorem Symmetric.ofFraction_eq (h : Symmetric m q) (negative : Bool) {num den : Nat}
    (hnum : 0 < num) (hden : 0 < den) (hrounds : Rounds m q (num / den)) :
    ofFraction .single negative num den = .finite negative m q :=
  Number.Binary.ofFraction_eq negative hnum hden (h.isQuantum hrounds.abs_le) h.bits h.le_maxExp
    hrounds

theorem Symmetric.round_eq (h : Symmetric m q) (negative : Bool) {n : Nat} {r : Int}
    (hrounds : Rounds m q (n * 2 ^ r)) :
    (Binary.finite negative n r).round .single = .finite negative m q := by
  obtain ⟨hden, hvalue⟩ := scaled_spec n r
  have hnum : 0 < (scaled n r).1 := by
    have hle := (abs_le.mp hrounds.abs_le).2
    have hpos := two_zpow_pos q
    have hlast := h.two_zpow_le
    apply pos_of_cast_div_pos (scaled n r).2
    rw [hvalue]
    linarith
  rw [← hvalue] at hrounds
  exact h.ofFraction_eq negative hnum hden hrounds

/-! ## Away from the ends of the interval -/

-- The ends of the interval of a number are odd multiples of half a unit.
theorem upper_end (m : Nat) (q : Int) :
    ((2 * m + 1 : Nat) * 2 ^ (q - 1) : ℚ) = m * 2 ^ q + 2 ^ q / 2 := by
  rw [zpow_sub_one₀ (by norm_num)]
  push_cast
  ring

theorem lower_end (hm : 0 < m) (q : Int) :
    ((2 * m - 1 : Nat) * 2 ^ (q - 1) : ℚ) = m * 2 ^ q - 2 ^ q / 2 := by
  rw [zpow_sub_one₀ (by norm_num), Nat.cast_sub (by omega)]
  push_cast
  ring

-- A decimal that rounds to a number is not larger than the largest number.
theorem Canonical.exp_le (h : Canonical m q) (hd : 0 < d) (hrounds : Rounds m q (d * 10 ^ e)) :
    e ≤ 38 := by
  have hd1 : (1 : ℚ) ≤ d := by exact_mod_cast hd
  have hten := ten_zpow_pos e
  by_contra hlarge
  have hle : (10 : ℚ) ^ (39 : Int) ≤ 10 ^ e := zpow_le_zpow_right₀ (by norm_num) (by omega)
  have hmax : (2 : ℚ) ^ q ≤ 2 ^ (104 : Int) := Number.Binary.two_zpow_le.mpr h.le_maxExp
  have hlt := h.lt_two_zpow hrounds.abs_le
  norm_num at hle hmax
  nlinarith

theorem Canonical.le_exp_of_coarse (h : Canonical m q) (hcoarse : (2 : ℚ) ^ q / 2 < 10 ^ e) :
    -45 ≤ e := by
  by_contra hsmall
  have hle : (10 : ℚ) ^ e ≤ 10 ^ (-46 : Int) := zpow_le_zpow_right₀ (by norm_num) (by omega)
  have hmin : (2 : ℚ) ^ (-149 : Int) ≤ 2 ^ q := Number.Binary.two_zpow_le.mpr h.minExp_le
  norm_num at hle hmin
  linarith

/-- A decimal inside the interval of a number is one of the exceptions near an end of it. -/
def Exceptional (m : Nat) (q : Int) (d : Nat) (e : Int) : Prop :=
  (d * 10 ^ e : ℚ) < (2 * m + 1 : Nat) * 2 ^ (q - 1) ∧ (d, e, 2 * m + 1, q - 1) ∈ nearMiddles ∨
    ((2 * m - 1 : Nat) * 2 ^ (q - 1) : ℚ) < d * 10 ^ e ∧ (d, e, 2 * m - 1, q - 1) ∈ nearMiddles

-- The error of reading is the bound within which a decimal on a coarse grid meets no end.
theorem Canonical.apart_or_exceptional (h : Canonical m q) (hd : 0 < d)
    (hrounds : Rounds m q (d * 10 ^ e)) (hcoarse : (2 : ℚ) ^ q / 2 < 10 ^ e)
    (hupper : (d * 10 ^ e : ℚ) < (2 * m + 1 : Nat) * 2 ^ (q - 1))
    (hlower : ((2 * m - 1 : Nat) * 2 ^ (q - 1) : ℚ) < d * 10 ^ e) :
    5 / 2 ^ 54 * (d * 10 ^ e : ℚ) < (2 * m + 1 : Nat) * 2 ^ (q - 1) - d * 10 ^ e ∧
        5 / 2 ^ 54 * (d * 10 ^ e : ℚ) < d * 10 ^ e - (2 * m - 1 : Nat) * 2 ^ (q - 1) ∨
      Exceptional m q d e := by
  have hm := h.pos
  have hbits := h.bits
  have hgrid : (2 : ℚ) ^ (q - 1) < 10 ^ e := by
    rwa [zpow_sub_one₀ (by norm_num), ← div_eq_mul_inv]
  have hends : ∀ n : Nat, n % 2 = 1 → n < 2 ^ 25 → (d * 10 ^ e : ℚ) ≠ n * 2 ^ (q - 1) →
      5 / 2 ^ 54 * (d * 10 ^ e : ℚ) < |(d * 10 ^ e - n * 2 ^ (q - 1) : ℚ)| ∨
        (d, e, n, q - 1) ∈ nearMiddles := by
    intro n hodd hn hne
    by_cases hnear : |(d * 10 ^ e - n * 2 ^ (q - 1) : ℚ)| ≤ 5 / 2 ^ 54 * (d * 10 ^ e)
    · right
      exact (eq_or_mem_nearMiddles (h.le_exp_of_coarse hcoarse) (h.exp_le hd hrounds) hd hgrid hodd
        hn hnear).resolve_left hne
    · exact Or.inl (not_le.mp hnear)
  rcases hends (2 * m + 1) (by omega) (by omega) hupper.ne with hfarUpper | hmem
  · rcases hends (2 * m - 1) (by omega) (by omega) hlower.ne' with hfarLower | hmem
    · rw [abs_of_neg (sub_neg.mpr hupper), neg_sub] at hfarUpper
      rw [abs_of_pos (sub_pos.mpr hlower)] at hfarLower
      exact Or.inl ⟨hfarUpper, hfarLower⟩
    · exact Or.inr (Or.inr ⟨hlower, hmem⟩)
  · exact Or.inr (Or.inl ⟨hupper, hmem⟩)

/-- What is read is near a decimal that rounds to a number, so it rounds to the number too, unless
the decimal is one of the exceptions at one end of the interval. -/
theorem Canonical.rounds_or_exceptional (h : Canonical m q) (hd : 0 < d)
    (hrounds : Rounds m q (d * 10 ^ e))
    (hnear : |(m * 2 ^ q - d * 10 ^ e : ℚ)| ≤ 2 ^ q / 4 ∨ (2 : ℚ) ^ q / 2 < 10 ^ e) {y : ℚ}
    (happrox : Approximates y (d * 10 ^ e)) : Rounds m q y ∨ Exceptional m q d e := by
  have hm := h.pos
  have hbits := h.bits
  have herror := abs_le.mp happrox.error
  rcases hnear with hnear | hcoarse
  · -- Well inside the interval, the error is less than the distance from its ends.
    have hpos := two_zpow_pos q
    have hlt := h.lt_two_zpow hrounds.abs_le
    have hnear' := abs_le.mp hnear
    left
    left
    rw [abs_lt]
    constructor <;> linarith
  · have hclose := abs_le.mp hrounds.abs_le
    -- At an end of the interval the decimal is read without error.
    by_cases hupper : (d * 10 ^ e : ℚ) = (2 * m + 1 : Nat) * 2 ^ (q - 1)
    · left
      rwa [happrox.exact (2 * m + 1) (q - 1) (by omega) hupper]
    by_cases hlower : (d * 10 ^ e : ℚ) = (2 * m - 1 : Nat) * 2 ^ (q - 1)
    · left
      rwa [happrox.exact (2 * m - 1) (q - 1) (by omega) hlower]
    have hupperLt : (d * 10 ^ e : ℚ) < (2 * m + 1 : Nat) * 2 ^ (q - 1) := by
      apply lt_of_le_of_ne _ hupper
      rw [upper_end]
      linarith
    have hlowerLt : ((2 * m - 1 : Nat) * 2 ^ (q - 1) : ℚ) < d * 10 ^ e := by
      apply lt_of_le_of_ne _ (Ne.symm hlower)
      rw [lower_end hm]
      linarith
    rcases h.apart_or_exceptional hd hrounds hcoarse hupperLt hlowerLt with
      ⟨hfarUpper, hfarLower⟩ | hmem
    · rw [upper_end] at hfarUpper
      rw [lower_end hm] at hfarLower
      left
      left
      rw [abs_lt]
      constructor <;> linarith
    · exact Or.inr hmem

/-! ## The decimal that is written -/

/-- The significand and the exponent by which a written decimal `d * 10 ^ e` is read. A whole number
in positional form is read with its zeros and with the zero after its point. -/
def scanned (d : Nat) (e : Int) : Nat × Int :=
  if 0 ≤ e ∧ e + (decimal d).length - 1 ≤ 12 then (d * 10 ^ (e.toNat + 1), -1) else (d, e)

/-- That a decimal is read as a 64-bit number that rounds to a number. -/
def ReadsAs (negative : Bool) (d : Nat) (e : Int) (m : Nat) (q : Int) : Prop :=
  (floatOfDecimal negative (scanned d e).1 (scanned d e).2).map (·.round .single) =
    .ok (.finite negative m q)

instance (negative : Bool) (d : Nat) (e : Int) (m : Nat) (q : Int) :
    Decidable (ReadsAs negative d e m q) :=
  inferInstanceAs (Decidable (_ = _))

theorem lt_ten_pow_length (d : Nat) : d < 10 ^ (decimal d).length :=
  (Nat.length_toDigits_le_iff (by norm_num) Nat.length_toDigits_pos).mp le_rfl

-- What is read is the decimal, with a significand that is not too long.
theorem scanned_spec (hd : 0 < d) (hbits : d < 2 ^ 28) (hlow : -54 ≤ e) (hhigh : e ≤ 54) :
    0 < (scanned d e).1 ∧ (scanned d e).1 < 2 ^ 53 ∧ (scanned d e).2.natAbs ≤ 54 ∧
      ((scanned d e).1 * 10 ^ (scanned d e).2 : ℚ) = d * 10 ^ e := by
  unfold scanned
  split
  · rename_i hwhole
    obtain ⟨hnonneg, htop⟩ := hwhole
    obtain ⟨k, rfl⟩ := Int.eq_ofNat_of_zero_le hnonneg
    have hlt : d * 10 ^ k < 10 ^ 13 := by
      calc d * 10 ^ k < 10 ^ (decimal d).length * 10 ^ k :=
            Nat.mul_lt_mul_of_pos_right (lt_ten_pow_length d) (by positivity)
        _ = 10 ^ ((decimal d).length + k) := by rw [pow_add]
        _ ≤ 10 ^ 13 := Nat.pow_le_pow_right (by norm_num) (by omega)
    refine ⟨by positivity, ?_, by simp, ?_⟩
    · simp only [Int.toNat_natCast]
      rw [pow_succ, ← mul_assoc]
      omega
    · simp only [Int.toNat_natCast]
      rw [pow_succ, zpow_natCast]
      push_cast
      norm_num
      ring
  · exact ⟨hd, by omega, by omega, rfl⟩

theorem Canonical.le_exp_of_bits (h : Canonical m q) (hbits : d < 2 ^ 28)
    (hrounds : Rounds m q (d * 10 ^ e)) : -54 ≤ e := by
  have hd28 : (d : ℚ) < 2 ^ 28 := by exact_mod_cast hbits
  have hten := ten_zpow_pos e
  by_contra hsmall
  have hle : (10 : ℚ) ^ e ≤ 10 ^ (-55 : Int) := zpow_le_zpow_right₀ (by norm_num) (by omega)
  have hmin : (2 : ℚ) ^ (-149 : Int) ≤ 2 ^ q := Number.Binary.two_zpow_le.mpr h.minExp_le
  have hlast := h.two_zpow_le
  have hclose := (abs_le.mp hrounds.abs_le).2
  norm_num at hle hmin
  nlinarith

/-- A decimal that a number with symmetric neighbours is written as. -/
structure Writes (m : Nat) (q : Int) (d : Nat) (e : Int) : Prop where
  pos : 0 < d
  bits : d < 2 ^ 28
  exp_le : e.natAbs ≤ 54
  reads : ∀ negative, ReadsAs negative d e m q

instance (m : Nat) (q : Int) (d : Nat) (e : Int) : Decidable (Writes m q d e) :=
  decidable_of_iff (0 < d ∧ d < 2 ^ 28 ∧ e.natAbs ≤ 54 ∧ ∀ negative, ReadsAs negative d e m q)
    ⟨fun ⟨hpos, hbits, hexp, hreads⟩ => ⟨hpos, hbits, hexp, hreads⟩,
      fun ⟨hpos, hbits, hexp, hreads⟩ => ⟨hpos, hbits, hexp, hreads⟩⟩

-- The exceptions are read as the numbers that they round to.
theorem Exceptional.readsAs (h : Exceptional m q d e) (negative : Bool) :
    ReadsAs negative d e m q := by
  simp only [Exceptional, nearMiddles, List.mem_cons, Prod.mk.injEq, List.not_mem_nil,
    or_false] at h
  rcases h with ⟨hlt, ⟨rfl, rfl, hm, hq⟩ | ⟨rfl, rfl, hm, hq⟩ | ⟨rfl, rfl, hm, hq⟩⟩ |
    ⟨hlt, ⟨rfl, rfl, hm, hq⟩ | ⟨rfl, rfl, hm, hq⟩ | ⟨rfl, rfl, hm, hq⟩⟩
  -- Each exception is on one side of the middle only, so three of the six cases remain.
  · obtain rfl : m = 11420669 := by omega
    obtain rfl : q = -106 := by omega
    cases negative <;> decide +kernel
  · obtain rfl : m = 11420669 := by omega
    obtain rfl : q = -107 := by omega
    cases negative <;> decide +kernel
  · rw [hm, hq] at hlt
    norm_num at hlt
  · rw [hm, hq] at hlt
    norm_num at hlt
  · rw [hm, hq] at hlt
    norm_num at hlt
  · obtain rfl : m = 14437330 := by omega
    obtain rfl : q = -49 := by omega
    cases negative <;> decide +kernel

theorem Symmetric.writes (h : Symmetric m q) :
    ∃ d e, shortest .single .toEven m q = (d, e) ∧ Writes m q d e := by
  obtain ⟨d, e, hshortest, hd, hbits, hrounds, hnear⟩ := shortest_spec (m := m) (q := q) .single
    .toEven h.pos h.bits (h.not_power.imp id fun hq => hq.le)
  have hlow := h.le_exp_of_bits hbits hrounds
  have hhigh := h.exp_le hd hrounds
  obtain ⟨hsig, hsigBits, hexp, hvalue⟩ := scanned_spec hd hbits hlow (by omega)
  refine ⟨d, e, hshortest, hd, hbits, by omega, fun negative => ?_⟩
  obtain ⟨n, r, hread, happrox⟩ := floatOfDecimal_spec negative hsig hsigBits hexp
  rw [hvalue] at happrox
  rcases h.rounds_or_exceptional hd hrounds hnear happrox with hr | hexceptional
  · rw [ReadsAs, hread, Except.map, h.round_eq negative hr]
  · exact hexceptional.readsAs negative

-- The powers of two are read back, by computation.
theorem writes_power (hlow : -149 < q) (hhigh : q ≤ 104) :
    Writes (2 ^ 23) q (shortest .single .toEven (2 ^ 23) q).1
      (shortest .single .toEven (2 ^ 23) q).2 := by
  have hall : ∀ k < 253, Writes (2 ^ 23) ((k : Nat) - 148)
      (shortest .single .toEven (2 ^ 23) (k - 148)).1
      (shortest .single .toEven (2 ^ 23) (k - 148)).2 := by decide +kernel
  obtain ⟨k, hk⟩ : ∃ k : Nat, q = k - 148 := ⟨(q + 148).toNat, by omega⟩
  rw [hk]
  exact hall k (by omega)

theorem Canonical.writes (h : Canonical m q) :
    ∃ d e, shortest .single .toEven m q = (d, e) ∧ Writes m q d e := by
  by_cases hsymmetric : m ≠ 2 ^ 23 ∨ q = -149
  · exact Symmetric.writes ⟨h, hsymmetric⟩
  · rw [not_or, not_not] at hsymmetric
    obtain ⟨rfl, hq⟩ := hsymmetric
    have hlow := h.minExp_le
    exact ⟨_, _, rfl, writes_power (by omega) h.le_maxExp⟩

end FontCatalog.Json
