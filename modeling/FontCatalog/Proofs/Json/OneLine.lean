import FontCatalog.Proofs.Number.Decimal
import FontCatalog.Proofs.Text.Utf8
import FontCatalog.Record

/-!
# Compact text stands on one line

Line ends in strings are escaped, the texts of numbers have none, and the compact form puts none
between its parts. So the compact form of a record is one line, also where it breaks off before a
part without a JSON form. In UTF-8 no other character holds the byte of a line end.
-/

namespace FontCatalog

/-! ## Bytes -/

theorem Utf8.toNat_of_mem_encodeChar {c : Char} {b : UInt8} (hb : b < 0x80)
    (h : b ∈ String.utf8EncodeChar c) : c.toNat = b.toNat := by
  have hb' : b.toNat < 128 := hb
  -- Every byte of a longer encoding is at least `0x80`.
  have hhigh {n : Nat} (hlow : 128 ≤ n) (hn : n < 256) : b ≠ UInt8.ofNat n := by
    rintro rfl
    rw [UInt8.toNat_ofNat', Nat.mod_eq_of_lt hn] at hb'
    omega
  change c.val.toNat = b.toNat
  have hchar := c.val.toNat_lt
  simp only [String.utf8EncodeChar] at h
  split at h
  · rw [List.mem_singleton.mp h, UInt8.toNat_ofNat', Nat.mod_eq_of_lt (by omega)]
  split at h
  · simp only [List.mem_cons, List.not_mem_nil, or_false] at h
    rcases h with h | h
    · exact absurd h (hhigh (by omega) (by omega))
    · exact absurd h (hhigh (by omega) (by omega))
  split at h
  · simp only [List.mem_cons, List.not_mem_nil, or_false] at h
    rcases h with h | h | h
    · exact absurd h (hhigh (by omega) (by omega))
    · exact absurd h (hhigh (by omega) (by omega))
    · exact absurd h (hhigh (by omega) (by omega))
  · simp only [List.mem_cons, List.not_mem_nil, or_false] at h
    rcases h with h | h | h | h
    · exact absurd h (hhigh (by omega) (by omega))
    · exact absurd h (hhigh (by omega) (by omega))
    · exact absurd h (hhigh (by omega) (by omega))
    · exact absurd h (hhigh (by omega) (by omega))

/-- The byte of a line end. -/
def Utf8.newline : UInt8 := 0x0A

theorem Utf8.newline_notMem_encode {s : List Char} (h : '\n' ∉ s) : newline ∉ encode s := by
  intro hmem
  obtain ⟨c, hc, hb⟩ := List.mem_flatMap.mp hmem
  have hchar : c = '\n' := Char.toNat_inj.mp (toNat_of_mem_encodeChar (by decide) hb)
  exact h (hchar ▸ hc)

/-- Bytes that are one line: they end at their only line end. -/
def Utf8.IsLine (bytes : List UInt8) : Prop := ∃ body, bytes = body ++ [newline] ∧ newline ∉ body

-- A text and a line end after it.
theorem Utf8.isLine_encodeString {s : String} (h : '\n' ∉ s.toList) :
    IsLine (encodeString (s ++ "\n")) := by
  refine ⟨encodeString s, ?_, newline_notMem_encode h⟩
  rw [encodeString, encode, String.toList_append, List.flatMap_append]
  rfl

-- There are as many line ends in lines as lines.
theorem Utf8.count_flatMap_lines {α : Type} {f : α → List UInt8} {as : List α}
    (h : ∀ a ∈ as, IsLine (f a)) : (as.flatMap f).count newline = as.length := by
  induction as with
  | nil => rfl
  | cons a as ih =>
    obtain ⟨body, hbody, hnewline⟩ := h a List.mem_cons_self
    rw [List.flatMap_cons, List.count_append, ih fun b hb => h b (List.mem_cons_of_mem _ hb), hbody,
      List.count_append, List.count_eq_zero.mpr hnewline, List.count_singleton_self,
      List.length_cons]
    omega

namespace Json

open Number

/-! ## Characters of the parts -/

theorem newline_notMem_fixedDigits (width n : Nat) : '\n' ∉ fixedDigits lowerDigit 16 width n := by
  have hdigit : ∀ d < 16, '\n' ≠ lowerDigit d := by decide
  induction width generalizing n with
  | zero => simp [fixedDigits]
  | succ width ih =>
    rw [fixedDigits, List.mem_append, List.mem_singleton, not_or]
    exact ⟨ih _, hdigit _ (Nat.mod_lt _ (by decide))⟩

theorem newline_notMem_escapeChar (c : Char) : '\n' ∉ escapeChar c := by
  unfold escapeChar
  split
  · decide
  split
  · decide
  split
  · decide
  split
  · decide
  split
  · decide
  split
  · decide
  split
  · decide
  split
  · simp [newline_notMem_fixedDigits]
  · rename_i hnewline _ _ _
    simpa using Ne.symm hnewline

theorem newline_notMem_quote (s : String) : '\n' ∉ quote s := by
  have hbody : '\n' ∉ s.toList.flatMap escapeChar := by
    intro hmem
    obtain ⟨c, -, hc⟩ := List.mem_flatMap.mp hmem
    exact newline_notMem_escapeChar c hc
  simp [quote, hbody]

theorem newline_notMem_decimal (n : Nat) : '\n' ∉ decimal n :=
  fun hmem => absurd (isDigit_of_mem_decimal hmem) (by decide)

theorem newline_notMem_positional (d : Nat) (e : Int) : '\n' ∉ Single.positional d e := by
  have hdecimal := newline_notMem_decimal d
  have htake (k : Nat) : '\n' ∉ (decimal d).take k := fun h => hdecimal (List.mem_of_mem_take h)
  have hdrop (k : Nat) : '\n' ∉ (decimal d).drop k := fun h => hdecimal (List.mem_of_mem_drop h)
  unfold Single.positional
  simp only
  split
  · simp [hdecimal]
  split
  · simp [htake, hdrop]
  · simp [hdecimal]

theorem newline_notMem_digitsText (style : NumberStyle) (d : Nat) (e : Int) :
    '\n' ∉ digitsText style d e := by
  have hpositional := newline_notMem_positional d e
  have hdecimal := newline_notMem_decimal d
  unfold digitsText
  simp only
  split
  · split
    · simp [hpositional]
    · exact hpositional
  · have hexponent (n : Nat) : '\n' ∉ decimal n := newline_notMem_decimal n
    split
    · split <;> simp [hexponent]
    · rename_i c hds
      rw [hds] at hdecimal
      split <;> simp_all
    · rename_i c cs hds
      rw [hds] at hdecimal
      split <;> simp_all

theorem newline_notMem_finiteText (fmt : Format) (style : NumberStyle) (negative : Bool) (m : Nat)
    (q : Int) : '\n' ∉ finiteText fmt style negative m q := by
  have hbody : '\n' ∉ if m = 0 then ['0', '.', '0'] else
      digitsText style (Binary.shortest fmt .toEven m q).1 (Binary.shortest fmt .toEven m q).2 := by
    split
    · decide
    · exact newline_notMem_digitsText _ _ _
  cases negative with
  | true => exact fun hmem => hbody (by simpa [finiteText] using hmem)
  | false => exact hbody

/-! ## Values -/

/-- A draft without a line end, whether it is finished or not. -/
def Draft.OneLine (d : Draft) : Prop := '\n' ∉ d.text

theorem Draft.OneLine.append {a b : Draft} (ha : a.OneLine) (hb : b.OneLine) : (a ++ b).OneLine := by
  change '\n' ∉ (Draft.append a b).text
  unfold Draft.append
  split
  · rw [List.mem_append, not_or]
    exact ⟨ha, hb⟩
  · exact ha

theorem oneLine_done {text : List Char} (h : '\n' ∉ text) : (Draft.done text).OneLine := h

theorem oneLine_string (s : String) : (string s).compact.OneLine := newline_notMem_quote s

theorem oneLine_number {text : List Char} (h : '\n' ∉ text) : (number text).compact.OneLine := h

theorem oneLine_ofNat (n : Nat) : (ofNat n).compact.OneLine :=
  oneLine_number (newline_notMem_decimal n)

theorem oneLine_null : null.compact.OneLine := by
  change '\n' ∉ "null".toList
  decide

theorem oneLine_bool (b : Bool) : (bool b).compact.OneLine := by
  cases b with
  | true =>
    change '\n' ∉ "true".toList
    decide
  | false =>
    change '\n' ∉ "false".toList
    decide

theorem oneLine_ofSingle (x : Single) : (ofSingle x).compact.OneLine := by
  unfold ofSingle
  split
  · exact oneLine_number (newline_notMem_finiteText _ _ _ _ _)
  · exact oneLine_null

theorem oneLine_compactItems {vs : List Json} (h : ∀ v ∈ vs, v.compact.OneLine) (first : Bool) :
    (compactItems first vs).OneLine := by
  induction vs generalizing first with
  | nil => simp [compactItems, Draft.OneLine, Draft.done]
  | cons v vs ih =>
    have hcomma : (Draft.done (if first then [] else [','])).OneLine := by
      cases first <;> simp [Draft.OneLine, Draft.done]
    rw [compactItems]
    exact (hcomma.append (h v List.mem_cons_self)).append
      (ih (fun w hw => h w (List.mem_cons_of_mem _ hw)) false)

theorem oneLine_array {vs : List Json} (h : ∀ v ∈ vs, v.compact.OneLine) :
    (array vs).compact.OneLine := by
  rw [compact]
  exact ((oneLine_done (by decide)).append (oneLine_compactItems h true)).append
    (oneLine_done (by decide))

theorem oneLine_compactMembers {ms : List (String × Json)} (h : ∀ m ∈ ms, m.2.compact.OneLine)
    (first : Bool) : (compactMembers first ms).OneLine := by
  induction ms generalizing first with
  | nil => simp [compactMembers, Draft.OneLine, Draft.done]
  | cons m ms ih =>
    obtain ⟨key, v⟩ := m
    have hquote := newline_notMem_quote key
    have hkey : (Draft.done ((if first then [] else [',']) ++ quote key ++ [':'])).OneLine := by
      cases first <;> simp [Draft.OneLine, Draft.done, hquote]
    rw [compactMembers]
    exact (hkey.append (h (key, v) List.mem_cons_self)).append
      (ih (fun w hw => h w (List.mem_cons_of_mem _ hw)) false)

theorem oneLine_object {ms : List (String × Json)} (h : ∀ m ∈ ms, m.2.compact.OneLine) :
    (object ms).compact.OneLine := by
  rw [compact]
  exact ((oneLine_done (by decide)).append (oneLine_compactMembers h true)).append
    (oneLine_done (by decide))

end Json

/-! ## Records -/

theorem Axis.oneLine_toJson (a : Axis) : a.toJson.compact.OneLine := by
  refine Json.oneLine_object ?_
  simp only [List.forall_mem_cons]
  exact ⟨Json.oneLine_string _, Json.oneLine_ofSingle _, by simp⟩

/-- The compact form of a record has no line end. -/
theorem Record.oneLine_toJson (r : Record) : r.toJson.compact.OneLine := by
  have hpath : (Json.ofPath r.path).compact.OneLine := by
    unfold Json.ofPath
    cases r.path.text? with
    | none => simp [Json.compact, Json.Draft.OneLine]
    | some s => exact Json.oneLine_string s
  have hlocale : (r.locale.elim Json.null Json.string).compact.OneLine := by
    cases r.locale with
    | none => exact Json.oneLine_null
    | some s => exact Json.oneLine_string s
  have haxes : (Json.array (r.axes.map Axis.toJson)).compact.OneLine := by
    refine Json.oneLine_array fun v hv => ?_
    obtain ⟨a, -, rfl⟩ := List.mem_map.mp hv
    exact a.oneLine_toJson
  refine Json.oneLine_object ?_
  simp only [List.forall_mem_cons]
  exact ⟨hpath, Json.oneLine_ofNat _, Json.oneLine_bool _, Json.oneLine_ofNat _, hlocale, haxes,
    by simp⟩

end FontCatalog
