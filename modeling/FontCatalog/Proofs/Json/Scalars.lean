import FontCatalog.Json.Path
import FontCatalog.Proofs.Json.Forms
import FontCatalog.Proofs.Json.Numerals
import FontCatalog.Proofs.Json.Strings
import FontCatalog.Proofs.Number.Bits
import FontCatalog.Proofs.Text.Sequences

/-!
# Reading single values that were written

What each reader makes of the value that it is for, in whatever form it was written. Strings,
numbers and truth values come back, and so does a 32-bit number that is finite. The others are
written as `null`, which is no number.
-/

namespace FontCatalog

theorem Path.ofString_of_text? {p : Path} {s : String} (h : p.text? = some s) :
    Path.ofString s = p := by
  rw [Path.text?] at h
  cases hdecode : Utf8.decodeString p.bytes with
  | error e =>
    rw [hdecode] at h
    cases h
  | ok text =>
    rw [hdecode] at h
    cases h
    rw [Path.ofString, Utf8.encodeString_of_decodeString hdecode]

theorem Path.isSome_text?_iff (p : Path) : p.text?.isSome = true ↔ Utf8.WellFormed p.bytes := by
  rw [Utf8.wellFormed_iff, Path.text?, Option.isSome_iff_exists]
  refine exists_congr fun text => ?_
  rw [← Utf8.decodeString_eq_ok_iff]
  cases Utf8.decodeString p.bytes <;> simp [Except.toOption]

namespace Json

open Number

variable {α β : Type} {read : Reader α} {result : Except ReadError α} {rest t text : List Char}
  {c : Char} {v : Json}

/-- What a reader makes of a value in every form, whatever follows it. A blank before the value is
passed over. -/
structure Reads (read : Reader α) (v : Json) (result : Except ReadError α) : Prop where
  skips : ∀ t, read (' ' :: t) = read t
  reads : ∀ form : Form, ∃ text, form.draft v = .done text ∧
    ∀ rest, EndsNumber rest → read (text ++ rest) = result.map (·, rest)

-- A value that looks the same in all forms.
theorem Reads.of_text (hskips : ∀ t, read (' ' :: t) = read t)
    (hdraft : ∀ form : Form, form.draft v = .done text)
    (hread : ∀ rest, EndsNumber rest → read (text ++ rest) = result.map (·, rest)) :
    Reads read v result :=
  ⟨hskips, fun form => ⟨text, hdraft form, hread⟩⟩

-- What is read may be turned into something else.
theorem Reads.map (h : Reads read v result) (f : α → β) :
    Reads (fun s => (read s).map (Prod.map f id)) v (result.map f) := by
  refine ⟨fun t => by rw [h.skips], fun form => ?_⟩
  obtain ⟨text, htext, hread⟩ := h.reads form
  refine ⟨text, htext, fun rest hrest => ?_⟩
  rw [hread rest hrest]
  cases result <;> rfl

theorem endsNumber_nil : EndsNumber [] := by
  rintro c ⟨⟩

theorem endsNumber_cons (hdigit : c.isDigit = false) (hne : c ≠ '.' ∧ c ≠ 'e' ∧ c ≠ 'E') :
    EndsNumber (c :: t) := by
  rintro _ ⟨⟩
  exact ⟨hdigit, hne⟩

theorem endsNumber_of_isBlank (hc : isBlank c = true) : EndsNumber (c :: t) := by
  simp only [isBlank, Bool.or_eq_true, beq_iff_eq] at hc
  rcases hc with ((rfl | rfl) | rfl) | rfl <;> exact endsNumber_cons rfl (by decide)

theorem reads_bool (b : Bool) : Reads readBool (.bool b) (.ok b) := by
  cases b with
  | true =>
    refine .of_text (fun _ => rfl) (Form.draft_bool · true) fun rest _ => ?_
    change readBool ("true".toList ++ rest) = _
    have hread : readBool ("true".toList ++ rest) =
        (word "rue".toList ("rue".toList ++ rest)).map (true, ·) := rfl
    rw [hread, word_append]
    rfl
  | false =>
    refine .of_text (fun _ => rfl) (Form.draft_bool · false) fun rest _ => ?_
    change readBool ("false".toList ++ rest) = _
    have hread : readBool ("false".toList ++ rest) =
        (word "alse".toList ("alse".toList ++ rest)).map (false, ·) := rfl
    rw [hread, word_append]
    rfl

theorem reads_string (expected s : String) : Reads (readString expected) (.string s) (.ok s) :=
  .of_text (fun _ => rfl) (Form.draft_string · s) fun rest _ => readString_quote expected s rest

theorem reads_path {p : Path} {s : String} (hp : p.text? = some s) :
    Reads readPath (ofPath p) (.ok p) := by
  have hpath : Path.ofString s = p := Path.ofString_of_text? hp
  have hread : readPath = fun t => (readString "path string" t).map (Prod.map Path.ofString id) := by
    funext t
    rw [readPath]
    cases readString "path string" t <;> rfl
  rw [ofPath, hp, hread, ← hpath]
  exact (reads_string "path string" s).map Path.ofString

theorem finished_compact_ofPath (p : Path) : (ofPath p).compact.finished = p.text?.isSome := by
  cases h : p.text? with
  | none =>
    rw [ofPath, h]
    rfl
  | some s =>
    rw [ofPath, h]
    rfl

theorem reads_optional (value : Option String) (expected : String) :
    Reads (readOptional (readString expected)) (value.elim .null .string) (.ok value) := by
  cases value with
  | none =>
    refine .of_text (fun _ => rfl) Form.draft_null fun rest _ => ?_
    have hread : readOptional (readString expected) ("null".toList ++ rest) =
        (word "ull".toList ("ull".toList ++ rest)).map (none, ·) := rfl
    rw [hread, word_append]
    rfl
  | some s =>
    refine .of_text (fun _ => rfl) (Form.draft_string · s) fun rest _ => ?_
    have hread : readOptional (readString expected) (quote s ++ rest) =
        (readString expected (quote s ++ rest)).map (Prod.map some id) := rfl
    rw [hread, readString_quote]
    rfl

/-! ## Numbers -/

theorem isDigit_head_of_numeral {negative : Bool} {r : Numeral × List Char}
    (h : numeral negative t = .ok r) : ∃ c cs, t = c :: cs ∧ c.isDigit = true := by
  cases t with
  | nil => cases h
  | cons c cs =>
    refine ⟨c, cs, rfl, ?_⟩
    rw [numeral] at h
    split at h
    · cases h
    · rename_i hc
      rw [← isDigit_eq]
      simpa using (not_or.mp hc).1

theorem isBlank_of_isDigit (hc : c.isDigit = true) : isBlank c = false := by
  rw [← Bool.not_eq_true]
  intro hblank
  simp only [isBlank, Bool.or_eq_true, beq_iff_eq] at hblank
  rcases hblank with ((rfl | rfl) | rfl) | rfl <;> cases hc

theorem skipBlank_cons (hc : isBlank c = false) : skipBlank (c :: t) = c :: t := by
  rw [skipBlank, List.dropWhile_cons, hc, if_neg Bool.false_ne_true]

theorem readNumeral_unsigned {r : Numeral × List Char} (expected : String)
    (h : numeral false t = .ok r) : readNumeral expected t = .ok r := by
  obtain ⟨c, cs, rfl, hc⟩ := isDigit_head_of_numeral h
  unfold readNumeral
  rw [skipBlank_cons (isBlank_of_isDigit hc)]
  split
  · rename_i hminus
    obtain ⟨rfl, -⟩ := List.cons.inj hminus
    cases hc
  · rename_i hcons
    obtain ⟨rfl, rfl⟩ := List.cons.inj hcons
    rw [isDigit_eq, hc, if_pos rfl, h]
  · rename_i hnil
    cases hnil

theorem readNumeral_signed {r : Numeral × List Char} (expected : String) (negative : Bool)
    (h : numeral negative t = .ok r) :
    readNumeral expected (if negative then '-' :: t else t) = .ok r := by
  cases negative with
  | true => exact h
  | false => exact readNumeral_unsigned expected h

theorem reads_nat {n max : Nat} (expected : String) (hn : n ≤ max) (hmax : max ≤ maxSignificand) :
    Reads (readNat expected max) (ofNat n) (.ok n) := by
  refine .of_text (fun _ => rfl) (Form.draft_number · (decimal n)) fun rest hrest => ?_
  have hread : numeral false (decimal n ++ rest) = .ok (integerNumeral false _, rest) :=
    numeral_integer (whole_decimal n) (by rw [ofDigitChars_decimal]; omega) hrest
  rw [ofDigitChars_decimal] at hread
  have hresult : readNat expected max (decimal n ++ rest) =
      if n ≤ max then .ok (n, rest)
      else .error (invalidValue (.numeral (.unsigned n)) expected) := by
    rw [readNat, readNumeral_unsigned expected hread]
    rfl
  rw [hresult, if_pos hn]
  rfl

/-! ## 32-bit numbers -/

theorem canonical_of_toBinary {x : Single} {s : Bool} {m : Nat} {q : Int}
    (h : x.toBinary = .finite s m q) (hm : m ≠ 0) : Canonical m q := by
  obtain ⟨-, ⟨hexpo, hfrac, hq⟩ | ⟨hlow, hhigh, hfrac, hq⟩⟩ := Single.finite_cases h
  · exact ⟨by omega, by omega, by omega, by omega, Or.inr hq⟩
  · exact ⟨by omega, by omega, by omega, by omega, Or.inl (by omega)⟩

-- The parts by which the text of a finite number is read.
theorem numeral_finiteText {x : Single} {s : Bool} {m : Nat} {q : Int}
    (h : x.toBinary = .finite s m q) :
    ∃ body sig exp, finiteText .single singleStyle s m q = (if s then '-' :: body else body) ∧
      (∀ rest, EndsNumber rest → numeral s (body ++ rest) = floatNumeral s sig exp rest) ∧
      (floatOfDecimal s sig exp).map (·.round .single) = .ok (.finite s m q) := by
  by_cases hm : m = 0
  · -- Zero has no shortest decimal. It is written as `0.0`.
    have hq : q = -149 := by
      obtain ⟨-, ⟨-, -, hq⟩ | ⟨-, -, hfrac, -⟩⟩ := Single.finite_cases h
      · exact hq
      · omega
    subst hm hq
    refine ⟨['0', '.', '0'], 0, -1, rfl, fun rest hrest => ?_, by cases s <;> decide +kernel⟩
    have hread : numeral s (['0'] ++ '.' :: (['0'] ++ rest)) =
        (afterDigits s 0 (-1) rest).map (Prod.map Numeral.float id) :=
      numeral_point whole_zero (by simp) (by simp) rfl (Nat.zero_le _) hrest.endsDigits
    rw [afterDigits_end hrest, map_floatOfDecimal] at hread
    exact hread
  · obtain ⟨d, e, hshortest, hd, hbits, hexp, hreads⟩ := (canonical_of_toBinary h hm).writes
    refine ⟨digitsText singleStyle d e, _, _, ?_,
      fun rest hrest => numeral_digitsText hd hbits hexp hrest, hreads s⟩
    rw [finiteText, if_neg hm, hshortest]

/-- The JSON value that is no number. -/
def notNumber : ReadError := invalidType .null "f32"

/-- What comes back of a 32-bit number: the number itself, if it is finite. -/
def reread (x : Single) : Except ReadError Single :=
  if x.isFinite then .ok x else .error notNumber

-- No number begins at `null`.
theorem reads_null : Reads readSingle .null (.error notNumber) := by
  refine .of_text (fun _ => rfl) Form.draft_null fun rest _ => ?_
  have hfound : unexpected "f32" ("null".toList ++ rest) = notNumber := rfl
  have hread : readNumeral "f32" ("null".toList ++ rest) =
      .error (unexpected "f32" ("null".toList ++ rest)) := rfl
  rw [readSingle, hread, hfound]
  rfl

theorem reads_finite {x : Single} {s : Bool} {m : Nat} {q : Int} (hx : x.toBinary = .finite s m q) :
    Reads readSingle (ofSingle x) (.ok x) := by
  obtain ⟨body, sig, exp, htext, hnumeral, hround⟩ := numeral_finiteText hx
  rw [ofSingle, hx]
  refine .of_text (fun _ => rfl) (Form.draft_number · (finiteText .single singleStyle s m q))
    fun rest hrest => ?_
  cases hfloat : floatOfDecimal s sig exp with
  | error e =>
    rw [hfloat] at hround
    cases hround
  | ok y =>
    rw [hfloat] at hround
    have hy : y.round .single = .finite s m q := Except.ok.inj hround
    have hread : numeral s (body ++ rest) = .ok (.float y, rest) := by
      rw [hnumeral rest hrest, floatNumeral, hfloat]
      rfl
    have hsigned : (if s then '-' :: body else body) ++ rest =
        if s then '-' :: (body ++ rest) else body ++ rest := by
      cases s <;> rfl
    rw [htext, hsigned, readSingle, readNumeral_signed "f32" s hread]
    change Except.ok (Single.ofBinary (y.round .single), rest) = _
    rw [hy, Single.ofBinary_finite hx]
    rfl

/-- A finite number comes back, and all others are refused. -/
theorem reads_single (x : Single) : Reads readSingle (ofSingle x) (reread x) := by
  cases hx : x.toBinary with
  | finite s m q =>
    rw [reread, Single.isFinite, hx]
    exact reads_finite hx
  | infinite s =>
    rw [ofSingle, reread, Single.isFinite, hx]
    exact reads_null
  | nan s =>
    rw [ofSingle, reread, Single.isFinite, hx]
    exact reads_null

end Json

end FontCatalog
