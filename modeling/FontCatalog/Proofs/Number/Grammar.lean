import FontCatalog.Number.Digits
import Mathlib.Data.Nat.Digits.Defs

/-!
# Which texts are unsigned numbers

The texts that read as an unsigned number: an optional `+` and at least one digit of the radix, in
either case, with a value that does not exceed the bound. What is read is the value of the digits.
-/

namespace FontCatalog.Number

/-! ## Digits -/

/-- The digits in the order of their values. -/
def digitsInOrder : List Char := "0123456789abcdef".toList

/-- The value of a digit of either case, and sixteen for any other character. -/
def digitValue (c : Char) : Nat := digitsInOrder.idxOf c.toLower

/-- A text of digits in a radix, the most significant first, and the number that they denote. -/
structure Denotes (radix : Nat) (text : List Char) (n : Nat) : Prop where
  digits : ∀ c ∈ text, digitValue c < radix
  value : n = Nat.ofDigits radix (text.reverse.map digitValue)

variable {radix max acc n v : Nat} {c : Char} {cs : List Char}

theorem digitValue?_ascii : ∀ n < 128,
    digitValue? (Char.ofNat n) =
      if digitValue (Char.ofNat n) < 16 then some (digitValue (Char.ofNat n)) else none := by
  decide

theorem not_digitValue_lt (h : 128 ≤ c.toNat) : ¬ digitValue c < 16 := by
  have hsame : c.toLower = c := by
    refine dif_neg fun hupper => ?_
    have hle : c.toNat ≤ 90 := hupper.2
    omega
  have hascii : (digitsInOrder.all fun d => d.toNat < 128) = true := by decide
  intro hlt
  have hmem : c.toLower ∈ digitsInOrder := List.idxOf_lt_length_iff.mp hlt
  have hc := of_decide_eq_true (List.all_eq_true.mp hascii c (hsame ▸ hmem))
  omega

/-- The three ranges of digits are those of their order. -/
theorem digitValue?_eq (c : Char) :
    digitValue? c = if digitValue c < 16 then some (digitValue c) else none := by
  by_cases hc : c.toNat < 128
  · have hascii := digitValue?_ascii c.toNat hc
    rwa [Char.ofNat_toNat] at hascii
  · rw [if_neg (not_digitValue_lt (Nat.le_of_not_lt hc)), digitValue?]
    have hbeyond {low high : Char} (hhigh : high.toNat < 128) : ¬ (low ≤ c ∧ c ≤ high) := by
      rintro ⟨-, hle⟩
      have hle' : c.toNat ≤ high.toNat := hle
      omega
    rw [if_neg (hbeyond (by decide)), if_neg (hbeyond (by decide)), if_neg (hbeyond (by decide))]

theorem digitIn?_eq_some_iff (hradix : radix ≤ 16) :
    digitIn? radix c = some v ↔ v = digitValue c ∧ v < radix := by
  rw [digitIn?, digitValue?_eq]
  split
  · simp only [Option.filter_some, decide_eq_true_eq]
    split <;> simp <;> omega
  · simp
    omega

theorem utf8Size_of_digitValue_lt (h : digitValue c < 16) : c.utf8Size = 1 := by
  have hascii : c.toNat < 128 := Nat.lt_of_not_le fun hc => not_digitValue_lt hc h
  exact Char.utf8Size_eq_one_iff.mpr (Nat.le_of_lt_succ hascii)

/-! ## Numbers -/

theorem denotes_nil_iff : Denotes radix [] n ↔ n = 0 :=
  ⟨fun h => h.value, fun h => ⟨by simp, h⟩⟩

theorem denotes_cons_iff :
    Denotes radix (c :: cs) n ↔
      digitValue c < radix ∧ ∃ m, Denotes radix cs m ∧ n = digitValue c * radix ^ cs.length + m := by
  have hvalue : Nat.ofDigits radix ((c :: cs).reverse.map digitValue) =
      digitValue c * radix ^ cs.length + Nat.ofDigits radix (cs.reverse.map digitValue) := by
    rw [List.reverse_cons, List.map_append, Nat.ofDigits_append, List.length_map,
      List.length_reverse, List.map_singleton, Nat.ofDigits_singleton, Nat.mul_comm, Nat.add_comm]
  constructor
  · rintro ⟨hdigits, rfl⟩
    obtain ⟨hc, hcs⟩ := List.forall_mem_cons.mp hdigits
    exact ⟨hc, _, ⟨hcs, rfl⟩, hvalue⟩
  · rintro ⟨hc, m, ⟨hcs, rfl⟩, rfl⟩
    exact ⟨List.forall_mem_cons.mpr ⟨hc, hcs⟩, hvalue.symm⟩

/-- Digits continue a number as long as it does not exceed the bound. -/
theorem readDigits_eq_ok_iff (hradix : radix ≤ 16) (hacc : acc ≤ max) :
    readDigits radix max acc cs = .ok n ↔
      ∃ m, Denotes radix cs m ∧ n = acc * radix ^ cs.length + m ∧ n ≤ max := by
  induction cs generalizing acc with
  | nil =>
    simp only [readDigits, Except.ok.injEq, denotes_nil_iff, List.length_nil, pow_zero,
      Nat.mul_one, exists_eq_left, Nat.add_zero]
    constructor
    · rintro rfl
      exact ⟨rfl, hacc⟩
    · rintro ⟨rfl, -⟩
      rfl
  | cons c cs ih =>
    rw [readDigits]
    cases hc : digitIn? radix c with
    | none =>
      refine ⟨nofun, ?_⟩
      rintro ⟨m, hm, -⟩
      have hdigit := (digitIn?_eq_some_iff hradix).mpr ⟨rfl, (denotes_cons_iff.mp hm).1⟩
      rw [hc] at hdigit
      cases hdigit
    | some d =>
      obtain ⟨rfl, hd⟩ := (digitIn?_eq_some_iff hradix).mp hc
      have hcontinued (m : Nat) :
          (acc * radix + digitValue c) * radix ^ cs.length + m =
            acc * radix ^ (c :: cs).length + (digitValue c * radix ^ cs.length + m) := by
        rw [List.length_cons, pow_succ]
        ring
      by_cases hmax : acc * radix + digitValue c ≤ max
      · simp only [hmax, if_true, ih hmax, denotes_cons_iff, hd, true_and, hcontinued]
        constructor
        · rintro ⟨m, hm, hn, hle⟩
          exact ⟨_, ⟨m, hm, rfl⟩, hn, hle⟩
        · rintro ⟨_, ⟨m, hm, rfl⟩, hn, hle⟩
          exact ⟨m, hm, hn, hle⟩
      · -- Further digits make a number no smaller.
        simp only [hmax, if_false]
        refine ⟨nofun, ?_⟩
        rintro ⟨m, hm, hn, hle⟩
        obtain ⟨-, m', -, rfl⟩ := denotes_cons_iff.mp hm
        have hpos : 0 < radix ^ cs.length := Nat.pow_pos (Nat.zero_lt_of_lt hd)
        have hgrows := Nat.le_mul_of_pos_right (acc * radix + digitValue c) hpos
        rw [← hcontinued] at hn
        omega

/-- What is read as an unsigned number. -/
theorem readUnsigned_eq_ok_iff (hradix : radix ≤ 16) :
    readUnsigned radix max cs = .ok n ↔
      ∃ digits, (cs = digits ∨ cs = '+' :: digits) ∧ digits ≠ [] ∧ Denotes radix digits n ∧
        n ≤ max := by
  have hread (digits : List Char) : readDigits radix max 0 digits = .ok n ↔
      Denotes radix digits n ∧ n ≤ max := by
    rw [readDigits_eq_ok_iff hradix (Nat.zero_le max)]
    simp only [Nat.zero_mul, Nat.zero_add]
    constructor
    · rintro ⟨m, hm, rfl, hle⟩
      exact ⟨hm, hle⟩
    · rintro ⟨hn, hle⟩
      exact ⟨n, hn, rfl, hle⟩
  have hplus (digits : List Char) : ¬ Denotes radix ('+' :: digits) n := by
    intro h
    have hlt : digitValue '+' < radix := (denotes_cons_iff.mp h).1
    have hvalue : digitValue '+' = 16 := by decide
    omega
  unfold readUnsigned
  split
  · simp
  · simp [hplus]
  · rename_i digits hdigits
    rw [hread]
    constructor
    · rintro ⟨hn, hle⟩
      exact ⟨digits, .inr rfl, fun hnil => hdigits (by rw [hnil]), hn, hle⟩
    · rintro ⟨digits', rfl | h, -, hn, hle⟩
      · exact absurd hn (hplus digits)
      · obtain ⟨-, rfl⟩ := List.cons.inj h
        exact ⟨hn, hle⟩
  · rename_i hnil _ hcs
    rw [hread]
    constructor
    · rintro ⟨hn, hle⟩
      exact ⟨cs, .inl rfl, hnil, hn, hle⟩
    · rintro ⟨digits, rfl | rfl, -, hn, hle⟩
      · exact ⟨hn, hle⟩
      · exact absurd rfl (hcs digits)

end FontCatalog.Number
