import FontCatalog.Json.Decode
import FontCatalog.Proofs.Json.Singles
import FontCatalog.Proofs.Number.Decimal

/-!
# Reading numbers that were written

Integers and decimals in all the forms in which they are written are read up to the first character
after them: an integer as itself, a decimal by its digits and the place of its point.
-/

namespace FontCatalog.Json

open Number

variable {negative : Bool} {sig taken n : Nat} {exp : Int} {cs ds t rest : List Char} {c : Char}

/-! ## Digits -/

theorem isDigit_eq (c : Char) : isDigit c = c.isDigit := by
  simp [isDigit, Char.isDigit, Char.le_def]

/-- What follows a number is no part of it. -/
def EndsNumber (rest : List Char) : Prop :=
  ∀ c ∈ rest.head?, c.isDigit = false ∧ c ≠ '.' ∧ c ≠ 'e' ∧ c ≠ 'E'

/-- Text that does not begin with a digit. -/
def EndsDigits (rest : List Char) : Prop := ∀ c ∈ rest.head?, c.isDigit = false

theorem EndsNumber.endsDigits (h : EndsNumber rest) : EndsDigits rest := fun c hc => (h c hc).1

theorem digitIn?_of_endsDigits (h : EndsDigits (c :: cs)) : digitIn? 10 c = none := by
  have hc := h c rfl
  rw [← isDigit_eq, isDigit, Bool.and_eq_false_iff, decide_eq_false_iff_not,
    decide_eq_false_iff_not] at hc
  have hrange : ¬('0' ≤ c ∧ c ≤ '9') := by
    rintro ⟨hlow, hhigh⟩
    simp [hlow, hhigh] at hc
  rw [digitIn?, digitValue?, if_neg hrange]
  -- The letters have values too, but none below ten.
  split
  · simp
  split
  · simp
  · rfl

theorem takeDigits_append (hds : ∀ c ∈ ds, c.isDigit = true)
    (hmax : Nat.ofDigitChars 10 ds sig ≤ maxSignificand) (hrest : EndsDigits rest) :
    takeDigits sig taken (ds ++ rest) =
      (Nat.ofDigitChars 10 ds sig, taken + ds.length, rest) := by
  induction ds generalizing sig taken with
  | nil =>
    rw [List.nil_append, Nat.ofDigitChars_nil, List.length_nil, Nat.add_zero]
    cases rest with
    | nil => rfl
    | cons c cs =>
      rw [takeDigits, digitIn?_of_endsDigits hrest]
  | cons c ds ih =>
    rw [Nat.ofDigitChars_cons] at hmax
    have hsig : 10 * sig + (c.toNat - '0'.toNat) ≤ maxSignificand :=
      Nat.le_trans (le_ofDigitChars _ ds) hmax
    rw [List.cons_append, takeDigits, digitIn?_of_isDigit (hds c List.mem_cons_self),
      Nat.ofDigitChars_cons]
    simp only [Nat.mul_comm sig 10, if_pos hsig]
    rw [ih (fun c hc => hds c (List.mem_cons_of_mem _ hc)) hmax, List.length_cons,
      Nat.add_right_comm, Nat.add_assoc taken]

/-! ## Exponents -/

theorem exponentDigits_append (hds : ∀ c ∈ ds, c.isDigit = true)
    (hmax : Nat.ofDigitChars 10 ds n < 0x80000000) (hrest : EndsDigits rest) :
    exponentDigits n (ds ++ rest) = (some (Nat.ofDigitChars 10 ds n), rest) := by
  induction ds generalizing n with
  | nil =>
    rw [List.nil_append, Nat.ofDigitChars_nil]
    cases rest with
    | nil => rfl
    | cons c cs => rw [exponentDigits, digitIn?_of_endsDigits hrest]
  | cons c ds ih =>
    rw [Nat.ofDigitChars_cons] at hmax
    have hn : 10 * n + (c.toNat - '0'.toNat) < 0x80000000 :=
      Nat.lt_of_le_of_lt (le_ofDigitChars _ ds) hmax
    rw [List.cons_append, exponentDigits, digitIn?_of_isDigit (hds c List.mem_cons_self),
      Nat.ofDigitChars_cons]
    simp only [Nat.mul_comm n 10, if_pos hn]
    exact ih (fun c hc => hds c (List.mem_cons_of_mem _ hc)) hmax

theorem ofDigitChars_decimal (n : Nat) : Nat.ofDigitChars 10 (decimal n) 0 = n :=
  Nat.ofDigitChars_ten_toDigits

theorem afterExponentMark_append (down : Bool) (hn : n < 0x80000000) (hrest : EndsDigits rest) :
    afterExponentMark negative sig exp ((if down then '-' else '+') :: (decimal n ++ rest)) =
      (floatOfDecimal negative sig (if down then exp - n else exp + n)).map (·, rest) := by
  have hdigits := exponentDigits_append (n := 0) (fun c => isDigit_of_mem_decimal (n := n))
    (by rwa [ofDigitChars_decimal]) hrest
  rw [ofDigitChars_decimal] at hdigits
  obtain ⟨c, cs, hdecimal⟩ : ∃ c cs, decimal n = c :: cs :=
    List.exists_cons_of_ne_nil Nat.toDigits_ne_nil
  have hc : isDigit c = true := by
    rw [isDigit_eq]
    exact isDigit_of_mem_decimal (n := n) (by rw [hdecimal]; exact List.mem_cons_self)
  rw [hdecimal, List.cons_append] at hdigits ⊢
  cases down with
  | true =>
    simp only [afterExponentMark, Bool.false_eq_true, if_true, if_false, hc, Bool.not_true, hdigits]
    rfl
  | false =>
    simp only [afterExponentMark, Bool.false_eq_true, if_false, hc, Bool.not_true, hdigits]
    rfl

theorem afterDigits_exponent {top : Int} (htop : top.natAbs < 0x80000000)
    (hrest : EndsDigits rest) :
    afterDigits negative sig exp
        ('e' :: (if 0 ≤ top then '+' else '-') :: (decimal top.natAbs ++ rest)) =
      (floatOfDecimal negative sig (exp + top)).map (·, rest) := by
  rw [afterDigits, if_pos (Or.inl rfl)]
  by_cases hsign : 0 ≤ top
  · have hvalue : exp + (top.natAbs : Int) = exp + top := by omega
    rw [if_pos hsign, ← hvalue]
    exact afterExponentMark_append false htop hrest
  · have hvalue : exp - (top.natAbs : Int) = exp + top := by omega
    rw [if_neg hsign, ← hvalue]
    exact afterExponentMark_append true htop hrest

theorem afterDigits_end (hrest : EndsNumber rest) :
    afterDigits negative sig exp rest = (floatOfDecimal negative sig exp).map (·, rest) := by
  cases rest with
  | nil => rfl
  | cons c cs =>
    obtain ⟨-, -, hlower, hupper⟩ := hrest c rfl
    rw [afterDigits, if_neg (not_or.mpr ⟨hlower, hupper⟩)]

/-! ## Parts of a number -/

theorem afterPoint_append (hne : ds ≠ []) (hds : ∀ c ∈ ds, c.isDigit = true)
    (hmax : Nat.ofDigitChars 10 ds sig ≤ maxSignificand) (hrest : EndsDigits rest) :
    afterPoint negative sig exp (ds ++ rest) =
      afterDigits negative (Nat.ofDigitChars 10 ds sig) (exp - ds.length) rest := by
  have htaken : ds.length ≠ 0 := fun h => hne (List.length_eq_zero_iff.mp h)
  rw [afterPoint, takeDigits_append hds hmax hrest]
  simp only [Nat.zero_add]
  cases rest with
  | nil => simp only [if_neg htaken]
  | cons c cs => simp only [isDigit_eq, hrest c rfl, Bool.false_eq_true, if_false, if_neg htaken]

/-- The digits of a whole number: one or more, and no zero before others. -/
structure Whole (ds : List Char) : Prop where
  ne_nil : ds ≠ []
  digits : ∀ c ∈ ds, c.isDigit = true
  single : ds.head? = some '0' → ds.length = 1

theorem whole_zero : Whole ['0'] :=
  ⟨List.cons_ne_nil _ _, by simp, fun _ => rfl⟩

theorem Whole.head (h : Whole (c :: cs)) (hrest : EndsDigits rest) :
    isDigit c = true ∧ ¬(c = '0' ∧ (cs ++ rest).head?.any isDigit = true) := by
  refine ⟨by rw [isDigit_eq, h.digits c List.mem_cons_self], ?_⟩
  rintro ⟨rfl, hnext⟩
  have hlength := h.single rfl
  obtain rfl : cs = [] := List.length_eq_zero_iff.mp (Nat.succ.inj hlength)
  obtain ⟨c, hhead, hc⟩ := (Option.any_eq_true _ _).mp hnext
  rw [isDigit_eq, hrest c hhead] at hc
  cases hc

theorem numeral_integer (hds : Whole ds) (hmax : Nat.ofDigitChars 10 ds 0 ≤ maxSignificand)
    (hrest : EndsNumber rest) :
    numeral negative (ds ++ rest) =
      .ok (integerNumeral negative (Nat.ofDigitChars 10 ds 0), rest) := by
  obtain ⟨c, cs, rfl⟩ := List.exists_cons_of_ne_nil hds.ne_nil
  obtain ⟨hdigit, hzero⟩ := hds.head hrest.endsDigits
  rw [List.cons_append, numeral, if_neg (by simpa [hdigit] using hzero), ← List.cons_append,
    takeDigits_append hds.digits hmax hrest.endsDigits]
  cases rest with
  | nil => rfl
  | cons d t =>
    obtain ⟨hd, hpoint, hlower, hupper⟩ := hrest d rfl
    simp only [isDigit_eq, hd, Bool.false_eq_true, hpoint, hlower, hupper, or_self, if_false]

-- A number with a point or an exponent.
theorem numeral_append (hds : Whole ds) (hmax : Nat.ofDigitChars 10 ds 0 ≤ maxSignificand)
    (hc : c = '.' ∨ c = 'e') :
    numeral negative (ds ++ c :: t) =
      (afterInteger negative (Nat.ofDigitChars 10 ds 0) 0 (c :: t)).map
        (Prod.map Numeral.float id) := by
  have hends : EndsDigits (c :: t) := by
    rintro _ ⟨⟩
    rcases hc with rfl | rfl <;> rfl
  have hmark : isDigit c = true ∨ c = '.' ∨ c = 'e' ∨ c = 'E' :=
    Or.inr (hc.imp_right Or.inl)
  have hdigitsAfter : ¬isDigit c = true := by
    rw [isDigit_eq, hends c rfl]
    exact Bool.false_ne_true
  obtain ⟨c', cs, rfl⟩ := List.exists_cons_of_ne_nil hds.ne_nil
  obtain ⟨hdigit, hzero⟩ := hds.head hends
  rw [List.cons_append, numeral, if_neg (by simpa [hdigit] using hzero), ← List.cons_append,
    takeDigits_append hds.digits hmax hends]
  simp only [if_pos hmark, List.takeWhile_cons_of_neg hdigitsAfter, List.length_nil,
    List.dropWhile_cons_of_neg hdigitsAfter]
  rfl

/-! ## The forms in which decimals are written -/

theorem ofDigitChars_lt (acc : Nat) (hds : ∀ c ∈ ds, c.isDigit = true) :
    Nat.ofDigitChars 10 ds acc < (acc + 1) * 10 ^ ds.length := by
  induction ds generalizing acc with
  | nil => simp
  | cons c ds ih =>
    have hc : c.toNat - '0'.toNat < 10 := by
      have hread := digitIn?_of_isDigit (hds c List.mem_cons_self)
      simpa using (Option.filter_eq_some_iff.mp hread).2
    calc Nat.ofDigitChars 10 (c :: ds) acc
        = Nat.ofDigitChars 10 ds (10 * acc + (c.toNat - '0'.toNat)) := Nat.ofDigitChars_cons
      _ < (10 * acc + (c.toNat - '0'.toNat) + 1) * 10 ^ ds.length :=
          ih _ fun c hc => hds c (List.mem_cons_of_mem _ hc)
      _ ≤ (10 * (acc + 1)) * 10 ^ ds.length := Nat.mul_le_mul_right _ (by omega)
      _ = (acc + 1) * 10 ^ (c :: ds).length := by rw [List.length_cons, pow_succ]; ring

-- No number is written with a zero before other digits.
theorem whole_decimal (n : Nat) : Whole (decimal n) := by
  refine ⟨Nat.toDigits_ne_nil, fun c => isDigit_of_mem_decimal, fun hzero => ?_⟩
  -- After a zero the other digits alone would have the same value, and be too few for it.
  obtain ⟨cs, hcons⟩ := List.head?_eq_some_iff.mp hzero
  have hdigits : ∀ c ∈ cs, c.isDigit = true := fun c hc =>
    isDigit_of_mem_decimal (n := n) (hcons ▸ List.mem_cons_of_mem _ hc)
  have hvalue : Nat.ofDigitChars 10 cs 0 = n := by
    rw [← ofDigitChars_decimal n, hcons, Nat.ofDigitChars_cons]
    rfl
  have hlt := ofDigitChars_lt 0 hdigits
  rw [hvalue, Nat.zero_add, one_mul] at hlt
  rcases Nat.eq_zero_or_pos cs.length with hempty | hpos
  · rw [hcons, List.length_cons, hempty]
  · have hlength : (decimal n).length ≤ cs.length :=
      (Nat.length_toDigits_le_iff (by norm_num) hpos).mpr hlt
    rw [hcons, List.length_cons] at hlength
    omega

theorem isDigit_of_mem_replicate {k : Nat} (hc : c ∈ List.replicate k '0') : c.isDigit = true := by
  obtain rfl := List.eq_of_mem_replicate hc
  rfl

theorem Whole.take (h : Whole ds) {k : Nat} (hk : 0 < k) : Whole (ds.take k) := by
  obtain ⟨c, cs, rfl⟩ := List.exists_cons_of_ne_nil h.ne_nil
  obtain ⟨k, rfl⟩ := Nat.exists_eq_succ_of_ne_zero hk.ne'
  refine ⟨List.cons_ne_nil _ _, fun c hc => h.digits c (List.mem_of_mem_take hc), fun hzero => ?_⟩
  have hlength := h.single hzero
  rw [List.length_cons, Nat.add_eq_right, List.length_eq_zero_iff] at hlength
  rw [hlength, List.take_succ_cons, List.take_nil]
  rfl

-- Zeros after the digits of a positive number.
theorem Whole.append_zeros (h : Whole ds) (hpos : 0 < Nat.ofDigitChars 10 ds 0) (k : Nat) :
    Whole (ds ++ List.replicate k '0') := by
  refine ⟨List.append_ne_nil_of_left_ne_nil h.ne_nil _, fun c hc => ?_, fun hzero => ?_⟩
  · rcases List.mem_append.mp hc with hc | hc
    · exact h.digits c hc
    · exact isDigit_of_mem_replicate hc
  · rw [List.head?_append_of_ne_nil _ h.ne_nil] at hzero
    obtain ⟨cs, rfl⟩ := List.head?_eq_some_iff.mp hzero
    have hlength := h.single rfl
    rw [List.length_cons, Nat.add_eq_right, List.length_eq_zero_iff] at hlength
    rw [hlength] at hpos
    exact absurd hpos (by decide)

variable {d : Nat} {e : Int}

-- The digits of a decimal with a point, wherever the point stands among them.
theorem numeral_point {is fs : List Char} (his : Whole is) (hfs : ∀ c ∈ fs, c.isDigit = true)
    (hne : fs ≠ []) (hvalue : Nat.ofDigitChars 10 (is ++ fs) 0 = sig) (hmax : sig ≤ maxSignificand)
    (hrest : EndsDigits rest) :
    numeral negative (is ++ '.' :: (fs ++ rest)) =
      (afterDigits negative sig (-fs.length) rest).map (Prod.map Numeral.float id) := by
  rw [Nat.ofDigitChars_append] at hvalue
  subst hvalue
  rw [numeral_append his (Nat.le_trans (le_ofDigitChars _ fs) hmax) (Or.inl rfl), afterInteger,
    afterPoint_append hne hfs hmax hrest, Nat.cast_zero, zero_sub]

/-- A number from its parts and what follows. -/
def floatNumeral (negative : Bool) (sig : Nat) (exp : Int) (rest : List Char) :
    Except ReadError (Numeral × List Char) :=
  (floatOfDecimal negative sig exp).map fun x => (.float x, rest)

theorem map_floatOfDecimal (rest : List Char) :
    ((floatOfDecimal negative sig exp).map (·, rest)).map (Prod.map Numeral.float id) =
      floatNumeral negative sig exp rest := by
  rw [floatNumeral]
  cases floatOfDecimal negative sig exp <;> rfl

-- A whole number in positional form, with its zeros and the zero after its point.
theorem numeral_whole (hd : 0 < d) (he : 0 ≤ e) (hmax : d * 10 ^ (e.toNat + 1) ≤ maxSignificand)
    (hrest : EndsNumber rest) :
    numeral negative (Single.positional d e ++ ['.', '0'] ++ rest) =
      floatNumeral negative (d * 10 ^ (e.toNat + 1)) (-1) rest := by
  have hwhole : Whole (decimal d ++ List.replicate e.toNat '0') :=
    (whole_decimal d).append_zeros (by rwa [ofDigitChars_decimal]) _
  have hvalue : Nat.ofDigitChars 10 (decimal d ++ List.replicate e.toNat '0' ++ ['0']) 0 =
      d * 10 ^ (e.toNat + 1) := by
    rw [List.append_assoc, ← List.replicate_succ', Nat.ofDigitChars_append, ofDigitChars_decimal,
      Nat.ofDigitChars_replicate_zero, Nat.mul_comm]
  have hread : numeral negative
        (decimal d ++ List.replicate e.toNat '0' ++ '.' :: (['0'] ++ rest)) =
      (afterDigits negative (d * 10 ^ (e.toNat + 1)) (-1) rest).map (Prod.map Numeral.float id) :=
    numeral_point hwhole (by simp) (by simp) hvalue hmax hrest.endsDigits
  rw [Single.positional, if_pos he, List.append_assoc]
  exact hread.trans (by rw [afterDigits_end hrest, map_floatOfDecimal])

theorem numeral_fraction (he : e < 0) (hmax : d ≤ maxSignificand) (hrest : EndsNumber rest) :
    numeral negative (Single.positional d e ++ rest) = floatNumeral negative d e rest := by
  have hdigits : ∀ c ∈ decimal d, c.isDigit = true := fun c => isDigit_of_mem_decimal
  simp only [Single.positional, if_neg (not_le.mpr he)]
  split
  · -- The point stands among the digits.
    rename_i hinside
    set k := (decimal d).length - (-e).toNat with hk
    have hlength : (-((decimal d).drop k).length : Int) = e := by
      rw [List.length_drop]
      omega
    have hpos : 0 < k := by omega
    have hne : (decimal d).drop k ≠ [] := List.length_pos_iff.mp (by rw [List.length_drop]; omega)
    rw [List.append_assoc, List.cons_append, numeral_point ((whole_decimal d).take hpos)
      (fun c hc => hdigits c (List.mem_of_mem_drop hc)) hne
      (by rw [List.take_append_drop, ofDigitChars_decimal]) hmax hrest.endsDigits,
      afterDigits_end hrest, map_floatOfDecimal, hlength]
  · -- Zeros fill the places between the point and the digits.
    rename_i hbefore
    set zeros := List.replicate ((-e).toNat - (decimal d).length) '0' with hzeros
    have hlength : (-(zeros ++ decimal d).length : Int) = e := by
      rw [List.length_append, hzeros, List.length_replicate]
      omega
    have hvalue : Nat.ofDigitChars 10 (['0'] ++ (zeros ++ decimal d)) 0 = d := by
      rw [← List.append_assoc, ← List.replicate_one, hzeros, List.replicate_append_replicate,
        Nat.ofDigitChars_append, Nat.ofDigitChars_replicate_zero, Nat.mul_zero,
        ofDigitChars_decimal]
    have hfraction : ∀ c ∈ zeros ++ decimal d, c.isDigit = true := fun c hc =>
      (List.mem_append.mp hc).elim isDigit_of_mem_replicate (hdigits c)
    have hread : numeral negative (['0'] ++ '.' :: (zeros ++ decimal d ++ rest)) =
        (afterDigits negative d (-(zeros ++ decimal d).length) rest).map
          (Prod.map Numeral.float id) :=
      numeral_point whole_zero hfraction
        (List.append_ne_nil_of_right_ne_nil _ Nat.toDigits_ne_nil) hvalue hmax hrest.endsDigits
    rw [afterDigits_end hrest, map_floatOfDecimal, hlength] at hread
    exact hread

-- A number in exponential form, by its first digit, the others and the exponent of the first.
theorem numeral_exponential (negative : Bool) (hd : decimal d = c :: cs) {top : Int}
    (htop : top = e + cs.length) (hsmall : top.natAbs < 0x80000000) (hmax : d ≤ maxSignificand)
    (hrest : EndsNumber rest) :
    numeral negative ((if cs = [] then [c] else c :: '.' :: cs) ++
        'e' :: (if 0 ≤ top then '+' else '-') :: (decimal top.natAbs ++ rest)) =
      floatNumeral negative d e rest := by
  have hwhole : Whole (c :: cs) := hd ▸ whole_decimal d
  have hvalue : Nat.ofDigitChars 10 (c :: cs) 0 = d := by rw [← hd, ofDigitChars_decimal]
  cases cs with
  | nil =>
    rw [List.length_nil, Nat.cast_zero, add_zero] at htop
    rw [if_pos rfl, numeral_append hwhole (hvalue ▸ hmax) (Or.inr rfl), hvalue, afterInteger,
      afterDigits_exponent hsmall hrest.endsDigits, map_floatOfDecimal, htop, Nat.cast_zero,
      zero_add]
    rintro s ⟨⟩
  | cons c' cs =>
    have hends : EndsDigits ('e' :: (if 0 ≤ top then '+' else '-') ::
        (decimal top.natAbs ++ rest)) := by
      rintro _ ⟨⟩
      rfl
    have hread : numeral negative ([c] ++ '.' :: (c' :: cs ++ 'e' ::
          (if 0 ≤ top then '+' else '-') :: (decimal top.natAbs ++ rest))) =
        (afterDigits negative d (-(c' :: cs).length) ('e' :: (if 0 ≤ top then '+' else '-') ::
          (decimal top.natAbs ++ rest))).map (Prod.map Numeral.float id) :=
      numeral_point (hwhole.take one_pos)
        (fun c hc => hwhole.digits c (List.mem_cons_of_mem _ hc)) (List.cons_ne_nil _ _) hvalue hmax
        hends
    rw [afterDigits_exponent hsmall hrest.endsDigits, map_floatOfDecimal, htop,
      neg_add_cancel_comm_assoc] at hread
    rw [if_neg (List.cons_ne_nil _ _), htop]
    exact hread

theorem digitsText_exponential (hd : decimal d = c :: cs)
    (hstyle : ¬(singleStyle.lowest ≤ e + cs.length ∧ e + cs.length ≤ singleStyle.highest)) :
    digitsText singleStyle d e = (if cs = [] then [c] else c :: '.' :: cs) ++
      'e' :: (if 0 ≤ e + cs.length then '+' else '-') :: decimal (e + cs.length).natAbs := by
  have htop : e + (c :: cs).length - 1 = e + cs.length := by
    rw [List.length_cons]
    omega
  simp only [digitsText, hd, htop, if_neg hstyle]
  cases cs with
  | nil => rfl
  | cons c' cs => rfl

theorem digitsText_positional (hwhole : singleStyle.lowest ≤ e + (decimal d).length - 1 ∧
      e + (decimal d).length - 1 ≤ singleStyle.highest) :
    digitsText singleStyle d e =
      if 0 ≤ e then Single.positional d e ++ ['.', '0'] else Single.positional d e := by
  simp only [digitsText, if_pos hwhole]

/-- A number with a fraction or an exponent is read by its digits and its exponent. -/
theorem numeral_digitsText (hd : 0 < d) (hbits : d < 2 ^ 28) (he : e.natAbs ≤ 54)
    (hrest : EndsNumber rest) :
    numeral negative (digitsText singleStyle d e ++ rest) =
      floatNumeral negative (scanned d e).1 (scanned d e).2 rest := by
  obtain ⟨-, hscanned, -⟩ := scanned_spec (e := e) hd hbits (by omega) (by omega)
  have hmax : d ≤ maxSignificand := by
    unfold maxSignificand
    omega
  by_cases hstyle : singleStyle.lowest ≤ e + (decimal d).length - 1 ∧
      e + (decimal d).length - 1 ≤ singleStyle.highest
  · rw [digitsText_positional hstyle]
    have htop : e + (decimal d).length - 1 ≤ 12 := hstyle.2
    by_cases hwhole : 0 ≤ e
    · -- A whole number has zeros that are read as digits, so its significand is another.
      have hscan : scanned d e = (d * 10 ^ (e.toNat + 1), -1) := if_pos ⟨hwhole, htop⟩
      rw [hscan] at hscanned ⊢
      rw [if_pos hwhole]
      apply numeral_whole hd hwhole (Nat.le_trans hscanned.le _) hrest
      unfold maxSignificand
      norm_num
    · have hscan : scanned d e = (d, e) := if_neg fun h => hwhole h.1
      rw [if_neg hwhole, hscan]
      exact numeral_fraction (not_le.mp hwhole) hmax hrest
  · obtain ⟨c, cs, hcons⟩ : ∃ c cs, decimal d = c :: cs :=
      List.exists_cons_of_ne_nil Nat.toDigits_ne_nil
    have hshort : (decimal d).length ≤ 9 :=
      (Nat.length_toDigits_le_iff (by norm_num) (by norm_num)).mpr (by omega)
    have hlength : (decimal d).length = cs.length + 1 := by rw [hcons, List.length_cons]
    have htop : e + (decimal d).length - 1 = e + cs.length := by omega
    rw [htop] at hstyle
    have hlow : singleStyle.lowest = -6 := rfl
    have hhigh : singleStyle.highest = 12 := rfl
    have hscan : scanned d e = (d, e) := if_neg (by omega)
    rw [hscan, digitsText_exponential hcons hstyle, List.append_assoc]
    exact numeral_exponential negative hcons rfl (by omega) hmax hrest

end FontCatalog.Json
