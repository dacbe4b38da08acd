import FontCatalog.Proofs.Xml.Scan

/-!
# Expanding what was escaped

Escaped text and escaped attribute values stand for the characters that were escaped: nothing that
normalisation touches is left in them as it is.
-/

namespace FontCatalog.Xml

variable {references : List (Char × String)}

/-- References that stand for their characters. An ampersand is among them. -/
structure Faithful (references : List (Char × String)) : Prop where
  amp : (references.lookup '&').isSome = true
  reads : ∀ r ∈ references, ∀ rest,
    Scan.reference (r.2.toList ++ ';' :: rest) = some (.char r.1, rest)

theorem faithful_value : Faithful valueReferences where
  amp := by decide
  reads := by
    intro r hr rest
    simp only [valueReferences, textReferences, List.cons_append, List.nil_append, List.mem_cons,
      List.not_mem_nil, or_false] at hr
    rcases hr with rfl | rfl | rfl | rfl | rfl | rfl | rfl | rfl <;> rfl

theorem faithful_text : Faithful textReferences where
  amp := by decide
  reads := fun r hr => faithful_value.reads r (List.mem_append_left _ hr)

/-- What a character becomes in raw text. -/
def escapeRun (references : List (Char × String)) (c : Char) : Run :=
  if (references.lookup c).isSome then .reference (.char c) else .char c

theorem runs_escapeChar (h : Faithful references) (fuel : Nat) (c : Char) (rest : List Char) :
    runs (fuel + 1) (escapeChar references c ++ rest) =
      escapeRun references c :: runs fuel rest := by
  unfold escapeChar escapeRun
  cases hlookup : references.lookup c with
  | some name =>
    obtain ⟨before, after, hreferences, -⟩ := List.lookup_eq_some_iff.mp hlookup
    have hread := h.reads (c, name) (by simp [hreferences]) rest
    simp [runs, hread]
  | none =>
    have hc : c ≠ '&' := by
      rintro rfl
      have hamp := h.amp
      rw [hlookup] at hamp
      cases hamp
    simp [runs]

theorem runs_escape (h : Faithful references) (fuel : Nat) (s rest : List Char) :
    runs (s.length + fuel) (s.flatMap (escapeChar references) ++ rest) =
      s.map (escapeRun references) ++ runs fuel rest := by
  induction s with
  | nil => simp
  | cons c s ih =>
    rw [List.length_cons, Nat.add_right_comm, List.flatMap_cons, List.append_assoc,
      runs_escapeChar h, ih, List.map_cons, List.cons_append]

theorem runsOf_escape (h : Faithful references) (s : List Char) :
    runsOf (s.flatMap (escapeChar references)) = s.map (escapeRun references) := by
  have hpos : ∀ c, 0 < (escapeChar references c).length := by
    intro c
    unfold escapeChar
    cases references.lookup c <;> simp
  have hlength := length_le_length_flatMap hpos s
  obtain ⟨fuel, hfuel⟩ := Nat.exists_eq_add_of_le hlength
  have hruns := runs_escape h (fuel + 1) s []
  rw [List.append_nil] at hruns
  rw [runsOf, hfuel, Nat.add_assoc, hruns, runs, List.append_nil]

/-! ## Attribute values -/

theorem normalizeRuns_escape (enter : Nesting → List Char → Option (List Char × Nesting))
    (s : List Char) :
    normalizeRuns enter .outermost (s.map (escapeRun valueReferences)) =
      some (s, .outermost) := by
  induction s with
  | nil => rfl
  | cons c s ih =>
    rw [List.map_cons, escapeRun]
    -- What has no reference is no white space but a blank, so it is not normalised.
    split
    · rw [normalizeRuns, ih]
      rfl
    · rename_i hlookup
      rw [normalizeRuns, ih]
      have hblank : c ≠ '\n' ∧ c ≠ '\r' ∧ c ≠ '\t' := by
        refine ⟨?_, ?_, ?_⟩ <;> rintro rfl <;> exact hlookup (by decide)
      simp [hblank, flatten]

/-- A value stands for itself once it is escaped, whatever entities there are. -/
theorem normalizeValue_escape (entities : List Entity) (levels : Nat) (s : String) :
    normalizeValue entities levels .outermost (escapeValue s) = some (s.toList, .outermost) := by
  cases levels with
  | zero => rw [normalizeValue, escapeValue, runsOf_escape faithful_value, normalizeRuns_escape]
  | succ levels =>
    rw [normalizeValue, escapeValue, runsOf_escape faithful_value, normalizeRuns_escape]

/-! ## Text -/

/-- No carriage return waits for the character after it. -/
def TextBuffer.Settled (b : TextBuffer) : Prop :=
  b.verbatim = true ∨ b.reversed.head? ≠ some '\r'

theorem TextBuffer.pushChar_settled {b : TextBuffer} (hb : b.Settled) {c : Char} (hc : c ≠ '\r')
    (last : Bool) : b.pushChar c last = ⟨c :: b.reversed, false⟩ := by
  unfold pushChar
  split
  · rfl
  · rename_i hverbatim
    obtain ⟨reversed, verbatim⟩ := b
    have hhead : reversed.head? ≠ some '\r' := hb.resolve_left hverbatim
    unfold push
    split
    · rename_i cs hreversed
      cases hreversed
      exact absurd rfl hhead
    · simp [hc]

theorem takeText_escape {enter : Assembly → List Char → Except Error Assembly} {b : Assembly}
    (hb : b.nesting.isOutermost = true) {t : TextBuffer} (ht : t.Settled) (s : List Char) :
    b.takeText enter t (s.map (escapeRun textReferences)) = .ok (b.addText (t.chars ++ s)) := by
  induction s generalizing t with
  | nil => rw [List.map_nil, Assembly.takeText, List.append_nil]
  | cons c s ih =>
    have hchars : (⟨c :: t.reversed, true⟩ : TextBuffer).chars ++ s = t.chars ++ c :: s := by
      simp [TextBuffer.chars]
    rw [List.map_cons, escapeRun]
    split
    · rw [Assembly.takeText, TextBuffer.pushReference, if_pos hb, ih (Or.inl rfl), hchars]
    · rename_i hlookup
      have hc : c ≠ '\r' := by
        rintro rfl
        exact hlookup (by decide)
      rw [Assembly.takeText, TextBuffer.pushChar_settled ht hc, ih (Or.inr (by simpa using hc))]
      exact congrArg (fun cs => Except.ok (b.addText cs)) hchars

end FontCatalog.Xml
