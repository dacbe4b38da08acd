import FontCatalog.Proofs.Number.Decimal
import FontCatalog.Proofs.Number.Grammar
import FontCatalog.Proofs.Query.Conditions
import FontCatalog.Proofs.Results
import FontCatalog.Proofs.Text.Trim

/-!
# Which texts are weight ranges

A text is a weight range if it is one weight, or two weights in order with a hyphen between them.
White space may stand around the text and around each of the two weights. A weight has no hyphen in
it, so the first hyphen is the one between the two.
-/

namespace FontCatalog.WeightRange

open Text (Stripped isBlank trim)

variable {text : String} {range : WeightRange} {w : UInt16} {s left right : List Char}

/-! ## The grammar -/

/-- A text that is a weight: an optional plus, and at least one digit. -/
def IsWeight (s : List Char) (w : UInt16) : Prop :=
  ∃ digits, (s = digits ∨ s = '+' :: digits) ∧ digits ≠ [] ∧ Number.Denotes 10 digits w.toNat

/-- A text that is a weight with white space around it. -/
def IsSide (s : List Char) (w : UInt16) : Prop :=
  ∃ number, Stripped isBlank s number ∧ IsWeight number w

/-- A text that is a range, less the white space around it. -/
inductive IsRange : List Char → WeightRange → Prop where
  | single {s : List Char} {w : UInt16} (h : IsWeight s w) : IsRange s ⟨w, w⟩
  | between {left right : List Char} {low high : UInt16} (hlow : IsSide left low)
      (hhigh : IsSide right high) (hle : low ≤ high) :
      IsRange (left ++ '-' :: right) ⟨low, high⟩

/-- A text that denotes a range. -/
def Denotes (text : String) (range : WeightRange) : Prop :=
  ∃ body, Stripped isBlank text.toList body ∧ IsRange body range

/-! ## Weights -/

theorem readUInt16_eq_ok_iff : Number.readUInt16 s = .ok w ↔ IsWeight s w := by
  have hread : Number.readUInt16 s = .ok w ↔ Number.readUnsigned 10 65535 s = .ok w.toNat := by
    rw [Number.readUInt16]
    cases hs : Number.readUnsigned 10 65535 s with
    | error e => simp [Except.map]
    | ok n =>
      have hn : n < UInt16.size := by
        obtain ⟨-, -, -, -, hn⟩ := (Number.readUnsigned_eq_ok_iff (by decide)).mp hs
        exact Nat.lt_succ_of_le hn
      simp only [Except.map, Except.ok.injEq]
      constructor
      · rintro rfl
        exact (UInt16.toNat_ofNat_of_lt' hn).symm
      · rintro rfl
        exact UInt16.ofNat_toNat
  rw [hread, Number.readUnsigned_eq_ok_iff (by decide)]
  constructor
  · rintro ⟨digits, hs, hne, hdigits, -⟩
    exact ⟨digits, hs, hne, hdigits⟩
  · rintro ⟨digits, hs, hne, hdigits⟩
    exact ⟨digits, hs, hne, hdigits, Nat.le_of_lt_succ w.toNat_lt⟩

theorem parseWeight_eq_ok_iff : parseWeight s = .ok w ↔ IsSide s w := by
  have hside : IsSide s w ↔ Number.readUInt16 (trim isBlank s) = .ok w := by
    simp only [IsSide, Text.stripped_iff, exists_eq_left, readUInt16_eq_ok_iff]
  rw [hside, parseWeight]
  cases Number.readUInt16 (trim isBlank s) <;> simp

theorem digit_ascii : ∀ n < 128, Number.digitValue (Char.ofNat n) < 10 →
    isBlank (Char.ofNat n) = false ∧ Char.ofNat n ≠ '-' := by
  decide

-- A weight is made of other characters than those that stand around it.
theorem IsWeight.plain (h : IsWeight s w) : ∀ c ∈ s, isBlank c = false ∧ c ≠ '-' := by
  obtain ⟨digits, hs, -, hdigits⟩ := h
  have hplain : ∀ c ∈ digits, isBlank c = false ∧ c ≠ '-' := by
    intro c hc
    have hvalue : Number.digitValue c < 10 := hdigits.digits c hc
    have hascii : c.toNat < 128 := by
      apply Nat.lt_of_not_le
      intro hle
      exact Number.not_digitValue_lt hle (by omega)
    have hall := digit_ascii c.toNat hascii
    rw [Char.ofNat_toNat] at hall
    exact hall hvalue
  rcases hs with rfl | rfl
  · exact hplain
  · exact List.forall_mem_cons.mpr ⟨by decide, hplain⟩

-- Nothing is left out of a text that has no white space in it.
theorem stripped_self (h : ∀ c ∈ s, isBlank c = false) : Stripped isBlank s s := by
  refine ⟨⟨[], [], by simp, by simp, by simp⟩, ?head, ?last⟩
  case head => exact fun c hc => h c (List.mem_of_mem_head? hc)
  case last => exact fun c hc => h c (List.mem_of_mem_getLast? hc)

theorem IsWeight.isSide (h : IsWeight s w) : IsSide s w :=
  ⟨s, stripped_self fun c hc => (h.plain c hc).1, h⟩

theorem IsSide.hyphen_notMem (h : IsSide s w) : '-' ∉ s := by
  obtain ⟨number, hstripped, hnumber⟩ := h
  obtain ⟨front, back, rfl, hfront, hback⟩ := hstripped.split
  simp only [List.mem_append, not_or]
  refine ⟨⟨?_, ?_⟩, ?_⟩
  · intro hmem
    exact absurd (hfront _ hmem) (by decide)
  · intro hmem
    exact (hnumber.plain _ hmem).2 rfl
  · intro hmem
    exact absurd (hback _ hmem) (by decide)

theorem isSide_iff_of_stripped {body : List Char} (h : Stripped isBlank s body) :
    IsSide body w ↔ IsWeight body w := by
  constructor
  · rintro ⟨number, hstripped, hnumber⟩
    have hself : Stripped isBlank body body := ⟨⟨[], [], by simp, by simp, by simp⟩, h.head, h.last⟩
    have heq : body = number := (Text.stripped_iff.mp hself).trans (Text.stripped_iff.mp hstripped).symm
    rw [heq]
    exact hnumber
  · exact IsWeight.isSide

/-! ## Texts without and with a hyphen -/

theorem isRange_iff_of_notMem (h : '-' ∉ s) :
    IsRange s range ↔ IsWeight s range.low ∧ range.high = range.low := by
  constructor
  · intro hrange
    cases hrange with
    | single hw => exact ⟨hw, rfl⟩
    | between => exact absurd (by simp) h
  · rintro ⟨hw, heq⟩
    obtain ⟨low, high⟩ := range
    obtain rfl : high = low := heq
    exact .single hw

-- The first hyphen of a range parts its bounds, for the lower one has none.
theorem isRange_iff_of_split (h : '-' ∉ left) :
    IsRange (left ++ '-' :: right) range ↔
      IsSide left range.low ∧ IsSide right range.high ∧ range.low ≤ range.high := by
  constructor
  · intro hrange
    generalize hs : left ++ '-' :: right = s at hrange
    cases hrange with
    | single hw =>
      have hmem : '-' ∈ s := by simp [← hs]
      exact absurd rfl (hw.plain _ hmem).2
    | @between left' right' low high hlow hhigh hle =>
      have hleft : left = left' := by
        rw [← Text.takeWhile_bne_append_cons h right, hs,
          Text.takeWhile_bne_append_cons hlow.hyphen_notMem right']
      subst hleft
      obtain rfl : right = right' := (List.cons.inj (List.append_cancel_left hs)).2
      exact ⟨hlow, hhigh, hle⟩
  · rintro ⟨hlow, hhigh, hle⟩
    exact .between hlow hhigh hle

/-! ## Reading -/

-- One weight is both bounds.
theorem parse_of_notMem (h : '-' ∉ trim isBlank text.toList) :
    parse text = (parseWeight (trim isBlank text.toList)).map fun w => ⟨w, w⟩ := by
  simp only [parse, Text.dropWhile_bne_of_notMem h]
  cases parseWeight (trim isBlank text.toList) with
  | error e => rfl
  | ok w =>
    show (if w < w then _ else Except.ok _) = _
    rw [if_neg (UInt16.lt_irrefl w)]
    rfl

theorem parse_of_split (h : trim isBlank text.toList = left ++ '-' :: right) (hleft : '-' ∉ left) :
    parse text = parseWeight left >>= fun low => parseWeight right >>= fun high =>
      if high < low then .error (.reversed (String.ofList (left ++ '-' :: right)))
      else .ok ⟨low, high⟩ := by
  simp only [parse, h, Text.dropWhile_bne_append_cons hleft, Text.takeWhile_bne_append_cons hleft]
  cases parseWeight left with
  | error e => rfl
  | ok low => cases parseWeight right <;> rfl

/-- A text is read as the range that it denotes. -/
theorem parse_eq_ok_iff : parse text = .ok range ↔ Denotes text range := by
  have hdenotes : Denotes text range ↔ IsRange (trim isBlank text.toList) range := by
    simp only [Denotes, Text.stripped_iff, exists_eq_left]
  rw [hdenotes]
  by_cases hmem : '-' ∈ trim isBlank text.toList
  · obtain ⟨left, right, hsplit, hleft⟩ := List.eq_append_cons_of_mem hmem
    rw [hsplit, isRange_iff_of_split hleft, parse_of_split hsplit hleft]
    simp only [← parseWeight_eq_ok_iff]
    constructor
    · intro h
      obtain ⟨low, hlow, h⟩ := exists_of_bind_ok h
      obtain ⟨high, hhigh, h⟩ := exists_of_bind_ok h
      by_cases hlt : high < low
      · rw [if_pos hlt] at h
        cases h
      · rw [if_neg hlt] at h
        cases h
        exact ⟨hlow, hhigh, UInt16.not_lt.mp hlt⟩
    · rintro ⟨hlow, hhigh, hle⟩
      rw [hlow, hhigh]
      exact if_neg (UInt16.not_lt.mpr hle)
  · have hstripped := Text.stripped_trim isBlank text.toList
    rw [isRange_iff_of_notMem hmem, parse_of_notMem hmem, ← isSide_iff_of_stripped hstripped,
      ← parseWeight_eq_ok_iff]
    obtain ⟨low, high⟩ := range
    cases parseWeight (trim isBlank text.toList) with
    | error e => simp [Except.map]
    | ok w =>
      simp only [Except.map, Except.ok.injEq, mk.injEq]
      constructor
      · rintro ⟨rfl, rfl⟩
        exact ⟨rfl, rfl⟩
      · rintro ⟨rfl, rfl⟩
        exact ⟨rfl, rfl⟩

theorem exists_error_iff : (∃ e, parse text = .error e) ↔ ∀ range, ¬ Denotes text range := by
  simp only [← parse_eq_ok_iff]
  cases parse text <;> simp

/-! ## Writing -/

/-- A range by its two bounds, also where they are the same. -/
def bothBounds (range : WeightRange) : String :=
  String.ofList (Number.decimal range.low.toNat ++ '-' :: Number.decimal range.high.toNat)

theorem isWeight_decimal (w : UInt16) : IsWeight (Number.decimal w.toNat) w :=
  readUInt16_eq_ok_iff.mp (Number.readUInt16_decimal w)

theorem isBlank_of_mem_decimal (w : UInt16) {c : Char} (h : c ∈ Number.decimal w.toNat) :
    isBlank c = false :=
  ((isWeight_decimal w).plain c h).1

theorem parse_ofList_iff (h : ∀ c ∈ s, isBlank c = false) :
    parse (String.ofList s) = .ok range ↔ IsRange s range := by
  rw [parse_eq_ok_iff, Denotes, String.toList_ofList]
  simp only [Text.stripped_iff, exists_eq_left]
  rw [← Text.stripped_iff.mp (stripped_self h)]

-- Bounds in order are read back, and reversed ones are not.
theorem parse_bothBounds_iff : parse range.bothBounds = .ok range ↔ range.low ≤ range.high := by
  have hlow : IsSide (Number.decimal range.low.toNat) range.low := (isWeight_decimal _).isSide
  have hhigh : IsSide (Number.decimal range.high.toNat) range.high := (isWeight_decimal _).isSide
  rw [bothBounds, parse_ofList_iff, isRange_iff_of_split hlow.hyphen_notMem]
  · exact ⟨fun h => h.2.2, fun h => ⟨hlow, hhigh, h⟩⟩
  · intro c hc
    rcases List.mem_append.mp hc with hc | hc
    · exact isBlank_of_mem_decimal _ hc
    · rcases List.mem_cons.mp hc with rfl | hc
      · decide
      · exact isBlank_of_mem_decimal _ hc

theorem parse_toText_iff : parse range.toText = .ok range ↔ range.low ≤ range.high := by
  by_cases heq : range.low = range.high
  · have hweight : IsWeight (Number.decimal range.low.toNat) range.low := isWeight_decimal _
    rw [toText, if_pos heq, parse_ofList_iff fun c => isBlank_of_mem_decimal _,
      isRange_iff_of_notMem hweight.isSide.hyphen_notMem]
    constructor
    · intro h
      exact UInt16.le_of_eq heq
    · intro h
      exact ⟨hweight, heq.symm⟩
  · rw [toText, if_neg heq]
    exact parse_bothBounds_iff

/-! ## The weights of a range -/

theorem accepts_withWeights_iff {r : Record} :
    (Query.any.withWeights range).accepts r = true ↔
      range.low ≤ r.weight ∧ r.weight ≤ range.high := by
  rw [Query.accepts_iff]
  constructor
  · intro h
    exact h.weight range rfl
  · intro h
    refine ⟨nofun, ?_, nofun, .inl rfl, .inl rfl⟩
    rintro _ ⟨⟩
    exact h

/-- Which texts are read as which ranges. A text is read as the range that it denotes, and a text
that denotes none is refused. Both written forms of a range are read back if its bounds are in
order, and only then. The query of a range accepts the records whose weights lie between the
bounds. -/
theorem parse_grammar (text : String) (range : WeightRange) :
    (parse text = .ok range ↔ Denotes text range) ∧
    ((∃ e, parse text = .error e) ↔ ∀ range, ¬ Denotes text range) ∧
    (parse range.toText = .ok range ↔ range.low ≤ range.high) ∧
    (parse range.bothBounds = .ok range ↔ range.low ≤ range.high) ∧
    ∀ r, (Query.any.withWeights range).accepts r = true ↔
      range.low ≤ r.weight ∧ r.weight ≤ range.high :=
  ⟨parse_eq_ok_iff, exists_error_iff, parse_toText_iff, parse_bothBounds_iff,
    fun _ => accepts_withWeights_iff⟩

-- White space may stand around each weight, but a second hyphen may not.
example : parse "\t+300 - 0500 " = .ok ⟨300, 500⟩ := by decide +kernel

example : parse "300-500-" = .error (.invalidWeight "500-" .invalidDigit) := by decide +kernel

end FontCatalog.WeightRange
