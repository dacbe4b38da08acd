import FontCatalog.Json.Decode

/-!
# Reading strings that were written

A string in quotes is read back with all its characters, the escaped ones included.
-/

namespace FontCatalog.Json

open Number

variable {s t rest : List Char} {c : Char}

theorem word_append (w rest : List Char) : word w (w ++ rest) = .ok rest := by
  induction w with
  | nil => rfl
  | cons c w ih => rw [List.cons_append, word, if_pos rfl, ih]

/-! ## Escapes -/

theorem digitValue?_lowerDigit : ∀ n < 16, digitValue? (lowerDigit n) = some n := by decide

theorem hexFour_fixedDigits {n : Nat} (hn : n < 0x10000) (t : List Char) :
    hexFour (fixedDigits lowerDigit 16 4 n ++ t) = .ok n := by
  have hdigit (k : Nat) : digitValue? (lowerDigit (k % 16)) = some (k % 16) :=
    digitValue?_lowerDigit _ (Nat.mod_lt _ (by decide))
  simp only [fixedDigits, List.nil_append, List.cons_append, hexFour, List.mapM_cons,
    List.mapM_nil, hdigit, Option.pure_def, Option.bind_eq_bind, Option.bind_some,
    List.foldl_cons, List.foldl_nil]
  congr 1
  omega

theorem unicodeEscape_control (hc : c < ' ') (t : List Char) :
    unicodeEscape (fixedDigits lowerDigit 16 4 c.toNat ++ t) = .ok (c, 4) := by
  have hlt : c.toNat < 32 := hc
  have hlow : isLowSurrogate c.toNat = false := by simp [isLowSurrogate]; omega
  have hhigh : isHighSurrogate c.toNat = false := by simp [isHighSurrogate]; omega
  rw [unicodeEscape, hexFour_fixedDigits (by omega)]
  simp only [bind, Except.bind, hlow, hhigh, Bool.false_eq_true, if_false, Bool.not_false, if_true,
    Char.ofNat_toNat]
  rfl

/-! ## Strings -/

theorem stringBody_escape {n : Nat} (h : escape s = .ok (c, n)) :
    stringBody ('\\' :: s) = (stringBody (s.drop n)).map (Prod.map (c :: ·) id) := by
  have hquote : ('\\' : Char) ≠ '"' := by decide
  rw [stringBody, if_neg hquote, if_pos rfl, h]
  simp only [bind, Except.bind]
  cases stringBody (s.drop n) <;> rfl

theorem stringBody_plain (hquote : c ≠ '"') (hslash : c ≠ '\\') (hcontrol : ¬c < ' ')
    (s : List Char) :
    stringBody (c :: s) = (stringBody s).map (Prod.map (c :: ·) id) := by
  rw [stringBody, if_neg hquote, if_neg hslash, if_neg hcontrol]
  cases stringBody s <;> rfl

-- The first character of a string is read from its escaped form.
theorem stringBody_escapeChar (c : Char) (t : List Char) :
    stringBody (escapeChar c ++ t) = (stringBody t).map (Prod.map (c :: ·) id) := by
  unfold escapeChar
  -- Each named escape is read by its letter, the other control characters by their number.
  split
  · subst_vars
    exact stringBody_escape (s := '"' :: t) rfl
  split
  · subst_vars
    exact stringBody_escape (s := '\\' :: t) rfl
  split
  · subst_vars
    exact stringBody_escape (s := 'b' :: t) rfl
  split
  · subst_vars
    exact stringBody_escape (s := 'f' :: t) rfl
  split
  · subst_vars
    exact stringBody_escape (s := 'n' :: t) rfl
  split
  · subst_vars
    exact stringBody_escape (s := 'r' :: t) rfl
  split
  · subst_vars
    exact stringBody_escape (s := 't' :: t) rfl
  split
  · rename_i hcontrol
    have hescape : escape ('u' :: (fixedDigits lowerDigit 16 4 c.toNat ++ t)) = .ok (c, 5) := by
      rw [escape, unicodeEscape_control hcontrol]
      rfl
    rw [List.cons_append, List.cons_append, stringBody_escape hescape, List.drop_succ_cons,
      List.drop_left' (fixedDigits_length ..)]
  · rename_i hquote hslash _ _ _ _ _ hcontrol
    exact stringBody_plain hquote hslash hcontrol t

theorem stringBody_flatMap (cs rest : List Char) :
    stringBody (cs.flatMap escapeChar ++ '"' :: rest) = .ok (cs, rest) := by
  induction cs with
  | nil =>
    rw [List.flatMap_nil, List.nil_append, stringBody, if_pos rfl]
  | cons c cs ih =>
    rw [List.flatMap_cons, List.append_assoc, stringBody_escapeChar, ih]
    rfl

-- What is left of a string after its opening quote.
theorem stringBody_quote (s : String) (rest : List Char) :
    stringBody (s.toList.flatMap escapeChar ++ ['"'] ++ rest) = .ok (s.toList, rest) := by
  rw [List.append_assoc]
  exact stringBody_flatMap s.toList rest

theorem readString_quote (expected s : String) (rest : List Char) :
    readString expected (quote s ++ rest) = .ok (s, rest) := by
  have hbody : readString expected (quote s ++ rest) =
      (stringBody (s.toList.flatMap escapeChar ++ ['"'] ++ rest)).map
        (Prod.map String.ofList id) := rfl
  rw [hbody, stringBody_quote]
  change Except.ok (String.ofList s.toList, rest) = _
  rw [String.ofList_toList]

end FontCatalog.Json
