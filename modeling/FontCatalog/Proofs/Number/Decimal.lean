import FontCatalog.Number.Digits

/-!
# Decimal numbers

A number below the bound is read back from its decimal digits.
-/

namespace FontCatalog.Number

variable {n radix max acc : Nat} {c : Char} {cs : List Char}

theorem digitIn?_of_isDigit (h : c.isDigit = true) :
    digitIn? 10 c = some (c.toNat - '0'.toNat) := by
  have hrange : '0' ≤ c ∧ c ≤ '9' := by
    simpa [Char.isDigit, Char.le_def] using h
  have hvalue : c.toNat - '0'.toNat < 10 := by
    have hle : c.toNat ≤ 57 := hrange.2
    have hzero : '0'.toNat = 48 := rfl
    omega
  rw [digitIn?, digitValue?, if_pos hrange, Option.filter_some, if_pos (by simpa using hvalue)]

-- Further digits make a number no smaller, so no prefix of the digits exceeds the bound.
theorem le_ofDigitChars (acc : Nat) (cs : List Char) : acc ≤ Nat.ofDigitChars 10 cs acc := by
  induction cs generalizing acc with
  | nil => exact Nat.le_of_eq Nat.ofDigitChars_nil.symm
  | cons c cs ih =>
    rw [Nat.ofDigitChars_cons]
    calc acc ≤ 10 * acc + (c.toNat - '0'.toNat) := by omega
      _ ≤ _ := ih _

theorem readDigits_eq_ofDigitChars (hcs : ∀ c ∈ cs, c.isDigit = true)
    (hmax : Nat.ofDigitChars 10 cs acc ≤ max) :
    readDigits 10 max acc cs = .ok (Nat.ofDigitChars 10 cs acc) := by
  induction cs generalizing acc with
  | nil => rw [readDigits, Nat.ofDigitChars_nil]
  | cons c cs ih =>
    rw [Nat.ofDigitChars_cons] at hmax
    have hacc : 10 * acc + (c.toNat - '0'.toNat) ≤ max := Nat.le_trans (le_ofDigitChars _ cs) hmax
    rw [readDigits, digitIn?_of_isDigit (hcs c List.mem_cons_self), Nat.ofDigitChars_cons]
    simp only [Nat.mul_comm acc 10, if_pos hacc]
    exact ih (fun c hc => hcs c (List.mem_cons_of_mem _ hc)) hmax

theorem isDigit_of_mem_decimal (hc : c ∈ decimal n) : c.isDigit = true :=
  Nat.isDigit_of_mem_toDigits (by decide) (by decide) hc

theorem readUnsigned_of_ne_plus (h : cs.head? ≠ some '+') (hne : cs ≠ []) :
    readUnsigned radix max cs = readDigits radix max 0 cs := by
  cases cs with
  | nil => exact absurd rfl hne
  | cons c cs =>
    have hc : c ≠ '+' := fun hplus => h (congrArg some hplus)
    rw [readUnsigned]
    · rintro ⟨⟩
    · intro heq
      exact hc (List.cons.inj heq).1
    · intro cs' heq
      exact hc (List.cons.inj heq).1

theorem readUnsigned_decimal (h : n ≤ max) : readUnsigned 10 max (decimal n) = .ok n := by
  have hvalue : Nat.ofDigitChars 10 (decimal n) 0 = n := Nat.ofDigitChars_ten_toDigits
  have hread : readDigits 10 max 0 (decimal n) = .ok (Nat.ofDigitChars 10 (decimal n) 0) :=
    readDigits_eq_ofDigitChars (fun c => isDigit_of_mem_decimal) (hvalue.symm ▸ h)
  have hhead : (decimal n).head? ≠ some '+' := by
    intro hplus
    have hdigit : '+'.isDigit = true := isDigit_of_mem_decimal (List.mem_of_mem_head? hplus)
    exact absurd hdigit (by decide)
  rw [readUnsigned_of_ne_plus hhead Nat.toDigits_ne_nil, hread, hvalue]

theorem readUInt16_decimal (x : UInt16) : readUInt16 (decimal x.toNat) = .ok x := by
  rw [readUInt16, readUnsigned_decimal (Nat.le_of_lt_succ x.toNat_lt)]
  exact congrArg Except.ok UInt16.ofNat_toNat

theorem readUInt32_decimal (x : UInt32) : readUInt32 (decimal x.toNat) = .ok x := by
  rw [readUInt32, readUnsigned_decimal (Nat.le_of_lt_succ x.toNat_lt)]
  exact congrArg Except.ok UInt32.ofNat_toNat

end FontCatalog.Number
