import FontCatalog.Proofs.Json.Scalars
import FontCatalog.Proofs.Number.Grammar
import FontCatalog.Record

/-!
# JSON texts

Which texts are JSON, apart from any reader and from the values that are written. The compact form
of a record with a path that is text is a JSON text.
-/

namespace FontCatalog

namespace Json

open Number

/-! ## The grammar -/

/-- One or more digits. -/
def IsDigits (ds : List Char) : Prop := ds ≠ [] ∧ ∀ c ∈ ds, c.isDigit = true

/-- A point and digits, or nothing. -/
def IsFraction (s : List Char) : Prop := s = [] ∨ ∃ ds, s = '.' :: ds ∧ IsDigits ds

/-- The mark of an exponent, a sign or none, and digits, or nothing. -/
def IsExponent (s : List Char) : Prop :=
  s = [] ∨ ∃ mark sign ds, s = mark :: (sign ++ ds) ∧ (mark = 'e' ∨ mark = 'E') ∧
    (sign = [] ∨ sign = ['+'] ∨ sign = ['-']) ∧ IsDigits ds

/-- A whole number without superfluous zeros, and possibly a fraction and an exponent. -/
def IsUnsigned (s : List Char) : Prop :=
  ∃ whole fraction exponent, s = whole ++ fraction ++ exponent ∧ Whole whole ∧
    IsFraction fraction ∧ IsExponent exponent

def IsNumber (s : List Char) : Prop := IsUnsigned s ∨ ∃ t, s = '-' :: t ∧ IsUnsigned t

/-- What stands between the quotes of a string. Quotes, backslashes and control characters do not
stand for themselves. -/
inductive IsChars : List Char → Prop where
  | nil : IsChars []
  | plain {c : Char} {cs : List Char} (hc : ¬c < ' ' ∧ c ≠ '"' ∧ c ≠ '\\')
      (rest : IsChars cs) : IsChars (c :: cs)
  | escape {c : Char} {cs : List Char} (hc : c ∈ "\"\\/bfnrt".toList) (rest : IsChars cs) :
      IsChars ('\\' :: c :: cs)
  | unicode {a b c d : Char} {cs : List Char} (hdigits : ∀ x ∈ [a, b, c, d], digitValue x < 16)
      (rest : IsChars cs) : IsChars ('\\' :: 'u' :: a :: b :: c :: d :: cs)

def IsString (s : List Char) : Prop := ∃ cs, s = '"' :: (cs ++ ['"']) ∧ IsChars cs

/-- A value as text, with white space wherever it may stand. -/
inductive IsText : List Char → Prop where
  | word {s : List Char}
      (h : s = "null".toList ∨ s = "true".toList ∨ s = "false".toList) : IsText s
  | number {s : List Char} (h : IsNumber s) : IsText s
  | string {s : List Char} (h : IsString s) : IsText s
  | array {blanks : List Char} {items : List (List Char)} (hblanks : Blank blanks)
      (h : ∀ item ∈ items, IsText item) :
      IsText ('[' :: (blanks ++ List.intercalate [','] items ++ [']']))
  | object {blanks : List Char} {members : List (List Char × List Char)} (hblanks : Blank blanks)
      (hkeys : ∀ m ∈ members, ∃ front key back,
        m.1 = front ++ key ++ back ∧ Blank front ∧ IsString key ∧ Blank back)
      (hvalues : ∀ m ∈ members, IsText m.2) :
      IsText ('\x7b' :: (blanks ++
        List.intercalate [','] (members.map fun m => m.1 ++ ':' :: m.2) ++ ['\x7d']))
  | padded {front back s : List Char} (hfront : Blank front) (hback : Blank back) (h : IsText s) :
      IsText (front ++ s ++ back)

/-- A draft that was finished as a JSON text. -/
def Draft.IsText (d : Draft) : Prop := ∃ text, d = .done text ∧ Json.IsText text

variable {cs ds whole fraction exponent : List Char} {d : Nat} {e : Int}

/-! ## Strings -/

theorem IsChars.escapeChar (h : IsChars cs) (c : Char) : IsChars (escapeChar c ++ cs) := by
  have hdigit : ∀ n < 16, digitValue (lowerDigit n) < 16 := by decide
  unfold Json.escapeChar
  split
  · exact .escape (by decide) h
  split
  · exact .escape (by decide) h
  split
  · exact .escape (by decide) h
  split
  · exact .escape (by decide) h
  split
  · exact .escape (by decide) h
  split
  · exact .escape (by decide) h
  split
  · exact .escape (by decide) h
  split
  · refine .unicode (fun x hx => ?_) h
    simp only [List.mem_cons, List.not_mem_nil, or_false] at hx
    rcases hx with rfl | rfl | rfl | rfl <;> exact hdigit _ (Nat.mod_lt _ (by decide))
  · rename_i hquote hslash _ _ _ _ _ hcontrol
    exact .plain ⟨hcontrol, hquote, hslash⟩ h

theorem isString_quote (s : String) : IsString (quote s) := by
  refine ⟨_, rfl, ?_⟩
  induction s.toList with
  | nil => exact .nil
  | cons c cs ih => exact ih.escapeChar c

/-! ## Numbers -/

theorem isDigits_decimal (n : Nat) : IsDigits (decimal n) :=
  ⟨Nat.toDigits_ne_nil, fun _ => isDigit_of_mem_decimal⟩

theorem isUnsigned_whole (hwhole : Whole whole) : IsUnsigned whole :=
  ⟨whole, [], [], by simp, hwhole, .inl rfl, .inl rfl⟩

theorem isUnsigned_point (hwhole : Whole whole) (hds : IsDigits ds) :
    IsUnsigned (whole ++ '.' :: ds) :=
  ⟨whole, '.' :: ds, [], by simp, hwhole, .inr ⟨ds, rfl, hds⟩, .inl rfl⟩

-- Wherever the point stands, there are digits on both sides of it.
theorem isUnsigned_positional (hd : 0 < d) :
    IsUnsigned (if 0 ≤ e then Single.positional d e ++ ['.', '0'] else Single.positional d e) := by
  have hdigits := (isDigits_decimal d).2
  split
  · rename_i he
    have hwhole : Whole (decimal d ++ List.replicate e.toNat '0') :=
      (whole_decimal d).append_zeros (by rwa [ofDigitChars_decimal]) _
    rw [Single.positional, if_pos he]
    exact isUnsigned_point hwhole ⟨by simp, by simp⟩
  · rename_i he
    simp only [Single.positional, if_neg he]
    split
    · have hpos : 0 < (decimal d).length - (-e).toNat := by omega
      have hne : (decimal d).drop ((decimal d).length - (-e).toNat) ≠ [] :=
        List.length_pos_iff.mp (by rw [List.length_drop]; omega)
      exact isUnsigned_point ((whole_decimal d).take hpos)
        ⟨hne, fun c hc => hdigits c (List.mem_of_mem_drop hc)⟩
    · exact isUnsigned_point whole_zero
        ⟨List.append_ne_nil_of_right_ne_nil _ Nat.toDigits_ne_nil, fun c hc =>
          (List.mem_append.mp hc).elim isDigit_of_mem_replicate (hdigits c)⟩

theorem isUnsigned_digitsText (hd : 0 < d) : IsUnsigned (digitsText singleStyle d e) := by
  by_cases hstyle : singleStyle.lowest ≤ e + (decimal d).length - 1 ∧
      e + (decimal d).length - 1 ≤ singleStyle.highest
  · rw [digitsText_positional hstyle]
    exact isUnsigned_positional hd
  · obtain ⟨c, cs, hcons⟩ : ∃ c cs, decimal d = c :: cs :=
      List.exists_cons_of_ne_nil Nat.toDigits_ne_nil
    have htop : e + (decimal d).length - 1 = e + cs.length := by
      rw [hcons, List.length_cons]
      omega
    rw [htop] at hstyle
    have hexponent : IsExponent ('e' :: ((if 0 ≤ e + cs.length then ['+'] else ['-']) ++
        decimal (e + cs.length).natAbs)) := by
      refine .inr ⟨_, _, _, rfl, .inl rfl, ?_, isDigits_decimal _⟩
      split
      · exact .inr (.inl rfl)
      · exact .inr (.inr rfl)
    have hsign : (if 0 ≤ e + cs.length then '+' else '-') :: decimal (e + cs.length).natAbs =
        (if 0 ≤ e + cs.length then ['+'] else ['-']) ++ decimal (e + cs.length).natAbs := by
      split <;> rfl
    have hwhole : Whole (c :: cs) := hcons ▸ whole_decimal d
    rw [digitsText_exponential hcons hstyle, hsign]
    cases cs with
    | nil => exact ⟨[c], [], _, rfl, hwhole, .inl rfl, hexponent⟩
    | cons c' cs =>
      refine ⟨[c], '.' :: c' :: cs, _, rfl, hwhole.take one_pos, .inr ⟨_, rfl, ?_⟩, hexponent⟩
      exact ⟨List.cons_ne_nil _ _, fun x hx => hwhole.digits x (List.mem_cons_of_mem _ hx)⟩

theorem isNumber_finiteText {x : Single} {negative : Bool} {m : Nat} {q : Int}
    (hx : x.toBinary = .finite negative m q) :
    IsNumber (finiteText .single singleStyle negative m q) := by
  have hbody : IsUnsigned (if m = 0 then ['0', '.', '0'] else
      digitsText singleStyle (Binary.shortest .single .toEven m q).1
        (Binary.shortest .single .toEven m q).2) := by
    split
    · exact isUnsigned_point whole_zero ⟨by simp, by simp⟩
    · rename_i hm
      obtain ⟨d, e, hshortest, hd, -⟩ := (canonical_of_toBinary hx hm).writes
      rw [hshortest]
      exact isUnsigned_digitsText hd
  cases negative with
  | true => exact .inr ⟨_, rfl, hbody⟩
  | false => exact .inl hbody

/-! ## Values -/

theorem isText_null : null.compact.IsText := ⟨_, rfl, .word (.inl rfl)⟩

theorem isText_bool (b : Bool) : (bool b).compact.IsText := by
  cases b with
  | true => exact ⟨_, rfl, .word (.inr (.inl rfl))⟩
  | false => exact ⟨_, rfl, .word (.inr (.inr rfl))⟩

theorem isText_string (s : String) : (string s).compact.IsText :=
  ⟨_, rfl, .string (isString_quote s)⟩

theorem isText_ofNat (n : Nat) : (ofNat n).compact.IsText :=
  ⟨_, rfl, .number (.inl (isUnsigned_whole (whole_decimal n)))⟩

theorem isText_ofSingle (x : Single) : (ofSingle x).compact.IsText := by
  unfold ofSingle
  split
  · rename_i hx
    exact ⟨_, rfl, .number (isNumber_finiteText hx)⟩
  · exact isText_null

-- The first part stands without a comma.
theorem intercalate_comma_cons (part : List Char) (parts : List (List Char)) :
    List.intercalate [','] (part :: parts) = part ++ parts.flatMap (',' :: ·) := by
  induction parts generalizing part with
  | nil => simp
  | cons next parts ih =>
    rw [List.intercalate_cons_cons, ih, List.flatMap_cons]
    simp

theorem exists_compactItems {vs : List Json} (h : ∀ v ∈ vs, v.compact.IsText) :
    ∃ items, (∀ item ∈ items, IsText item) ∧
      compactItems false vs = .done (items.flatMap (',' :: ·)) ∧
      compactItems true vs = .done (List.intercalate [','] items) := by
  induction vs with
  | nil => exact ⟨[], by simp, rfl, rfl⟩
  | cons v vs ih =>
    obtain ⟨⟨text, htext, hv⟩, hvs⟩ := List.forall_mem_cons.mp h
    obtain ⟨items, hitems, hlater, -⟩ := ih hvs
    refine ⟨text :: items, List.forall_mem_cons.mpr ⟨hv, hitems⟩, ?_, ?_⟩
    · rw [compactItems, htext, hlater, List.flatMap_cons]
      rfl
    · rw [compactItems, htext, hlater, intercalate_comma_cons]
      rfl

theorem isText_array {vs : List Json} (h : ∀ v ∈ vs, v.compact.IsText) :
    (array vs).compact.IsText := by
  obtain ⟨items, hitems, -, htext⟩ := exists_compactItems h
  refine ⟨_, ?_, .array blank_nil hitems⟩
  rw [compact, htext]
  rfl

theorem exists_compactMembers {ms : List (String × Json)} (h : ∀ m ∈ ms, m.2.compact.IsText) :
    ∃ members : List (List Char × List Char),
      (∀ m ∈ members, IsString m.1 ∧ IsText m.2) ∧
        compactMembers false ms =
          .done ((members.map fun m => m.1 ++ ':' :: m.2).flatMap (',' :: ·)) ∧
        compactMembers true ms =
          .done (List.intercalate [','] (members.map fun m => m.1 ++ ':' :: m.2)) := by
  induction ms with
  | nil => exact ⟨[], by simp, rfl, rfl⟩
  | cons m ms ih =>
    obtain ⟨key, v⟩ := m
    obtain ⟨⟨text, htext, hv⟩, hms⟩ := List.forall_mem_cons.mp h
    obtain ⟨members, hmembers, hlater, -⟩ := ih hms
    change v.compact = .done text at htext
    refine ⟨(quote key, text) :: members,
      List.forall_mem_cons.mpr ⟨⟨isString_quote key, hv⟩, hmembers⟩, ?_, ?_⟩
    · rw [compactMembers, htext, hlater, List.map_cons, List.flatMap_cons]
      simp
    · rw [compactMembers, htext, hlater, List.map_cons, intercalate_comma_cons]
      simp

theorem isText_object {ms : List (String × Json)} (h : ∀ m ∈ ms, m.2.compact.IsText) :
    (object ms).compact.IsText := by
  obtain ⟨members, hmembers, -, htext⟩ := exists_compactMembers h
  refine ⟨_, ?_, .object blank_nil (fun m hm => ?_) fun m hm => (hmembers m hm).2⟩
  · rw [compact, htext]
    rfl
  · exact ⟨[], m.1, [], by simp, blank_nil, (hmembers m hm).1, blank_nil⟩

end Json

/-! ## Records -/

theorem Axis.isText_toJson (a : Axis) : a.toJson.compact.IsText := by
  refine Json.isText_object ?_
  simp only [List.forall_mem_cons]
  exact ⟨Json.isText_string _, Json.isText_ofSingle _, by simp⟩

/-- The compact form of a record is a JSON text, if its path is text. -/
theorem Record.isText_toJson {r : Record} (hpath : r.path.text?.isSome = true) :
    r.toJson.compact.IsText := by
  obtain ⟨s, hs⟩ := Option.isSome_iff_exists.mp hpath
  have hpath : (Json.ofPath r.path).compact.IsText := by
    rw [Json.ofPath, hs]
    exact Json.isText_string s
  have hlocale : (r.locale.elim Json.null Json.string).compact.IsText := by
    cases r.locale with
    | none => exact Json.isText_null
    | some s => exact Json.isText_string s
  have haxes : (Json.array (r.axes.map Axis.toJson)).compact.IsText := by
    refine Json.isText_array fun v hv => ?_
    obtain ⟨a, -, rfl⟩ := List.mem_map.mp hv
    exact a.isText_toJson
  refine Json.isText_object ?_
  simp only [List.forall_mem_cons]
  exact ⟨hpath, Json.isText_ofNat _, Json.isText_bool _, Json.isText_ofNat _, hlocale, haxes,
    by simp⟩

end FontCatalog
