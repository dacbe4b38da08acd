import FontCatalog.Number.Single

/-!
# Characters of floating-point numbers

A text that denotes a floating-point number is made of visible ASCII characters, so it has no white
space anywhere.
-/

namespace FontCatalog.Number

/-- The ASCII characters with a shape. -/
def IsGraphic (c : Char) : Prop := 0x20 < c.toNat ∧ c.toNat < 0x7F

theorem isGraphic_of_digitIn? {c : Char} {d : Nat} (h : digitIn? 10 c = some d) : IsGraphic c := by
  obtain ⟨hvalue, -⟩ := Option.filter_eq_some_iff.mp h
  unfold digitValue? at hvalue
  unfold IsGraphic
  split at hvalue
  · rename_i hc
    have hlow : 48 ≤ c.toNat := hc.1
    have hhigh : c.toNat ≤ 57 := hc.2
    omega
  split at hvalue
  · rename_i hc
    have hlow : 97 ≤ c.toNat := hc.1
    have hhigh : c.toNat ≤ 102 := hc.2
    omega
  split at hvalue
  · rename_i hc
    have hlow : 65 ≤ c.toNat := hc.1
    have hhigh : c.toNat ≤ 70 := hc.2
    omega
  · cases hvalue

-- Only letters change in lower case.
theorem isGraphic_of_toLower {c : Char} (h : IsGraphic c.toLower) : IsGraphic c := by
  unfold Char.toLower at h
  split at h
  · rename_i hupper
    have hlow : 65 ≤ c.toNat := hupper.1
    have hhigh : c.toNat ≤ 90 := hupper.2
    exact ⟨by omega, by omega⟩
  · exact h

namespace Single

variable {s rest : List Char} {x : Single}

theorem isGraphic_of_lowered (h : ∀ c ∈ lowered s, IsGraphic c) : ∀ c ∈ s, IsGraphic c := by
  intro c hc
  exact isGraphic_of_toLower (h _ (List.mem_map_of_mem hc))

-- The digits at the front are visible, so only what follows them matters.
theorem isGraphic_of_leadingDigits (acc count : Nat)
    (h : ∀ c ∈ (leadingDigits acc count s).2.2, IsGraphic c) : ∀ c ∈ s, IsGraphic c := by
  induction s generalizing acc count with
  | nil => simp
  | cons c s ih =>
    rw [leadingDigits] at h
    cases hdigit : digitIn? 10 c with
    | some d =>
      simp only [hdigit] at h
      intro c' hc'
      rcases List.mem_cons.mp hc' with rfl | hc'
      · exact isGraphic_of_digitIn? hdigit
      · exact ih _ _ h c' hc'
    | none =>
      simp only [hdigit] at h
      exact h

theorem isGraphic_of_leadingSign (h : ∀ c ∈ (leadingSign s).2, IsGraphic c) :
    ∀ c ∈ s, IsGraphic c := by
  unfold leadingSign at h
  split at h
  · simpa [IsGraphic] using h
  · simpa [IsGraphic] using h
  · exact h

theorem isGraphic_of_exponentPart {e : Int} (h : exponentPart s = some e) :
    ∀ c ∈ s, IsGraphic c := by
  unfold exponentPart at h
  split at h
  · simp
  · rename_i c cs
    split at h
    · rename_i hmark
      simp only at h
      split at h
      · cases h
      · rename_i hrest
        intro c' hc'
        rcases List.mem_cons.mp hc' with rfl | hc'
        · simp only [Bool.or_eq_true, beq_iff_eq] at hmark
          rcases hmark with rfl | rfl <;> simp [IsGraphic]
        · refine isGraphic_of_leadingSign (isGraphic_of_leadingDigits 0 0 ?_)
            c' hc'
          rw [Decidable.not_not.mp (not_or.mp hrest).2]
          simp
    · cases h

theorem isGraphic_of_decimalPart {negative : Bool} {b : Binary}
    (h : decimalPart negative s = some b) : ∀ c ∈ s, IsGraphic c := by
  unfold decimalPart at h
  apply isGraphic_of_leadingDigits 0 0
  simp only at h
  split at h
  · rename_i cs hcs
    split at h
    · cases h
    obtain ⟨e, he, -⟩ := Option.map_eq_some_iff.mp h
    rw [hcs]
    intro c hc
    rcases List.mem_cons.mp hc with rfl | hc
    · simp [IsGraphic]
    · exact isGraphic_of_leadingDigits _ _ (isGraphic_of_exponentPart he) c hc
  · split at h
    · cases h
    obtain ⟨e, he, -⟩ := Option.map_eq_some_iff.mp h
    exact isGraphic_of_exponentPart he

theorem isGraphic_of_read (h : read s = some x) : ∀ c ∈ s, IsGraphic c := by
  apply isGraphic_of_leadingSign
  unfold read at h
  simp only at h
  split at h
  · rename_i hword
    apply isGraphic_of_lowered
    rcases hword with hword | hword
    · rw [hword]
      simp [IsGraphic]
    · rw [hword]
      simp [IsGraphic]
  split at h
  · rename_i hword
    apply isGraphic_of_lowered
    rw [hword]
    simp [IsGraphic]
  · obtain ⟨b, hb, -⟩ := Option.map_eq_some_iff.mp h
    exact isGraphic_of_decimalPart hb

end Single

end FontCatalog.Number
