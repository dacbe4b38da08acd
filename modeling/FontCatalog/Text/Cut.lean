/-!
# Cutting at a separator

A list cut into the stretches between the occurrences of one element. There is always one stretch
more than there are separators.
-/

namespace FontCatalog.Text

-- The stretches of a list between separators, empty ones included.
def cut {α : Type} [DecidableEq α] (separator : α) : List α → List (List α)
  | [] => [[]]
  | a :: as =>
    if a = separator then [] :: cut separator as
    else
      match cut separator as with
      | [] => [[a]]
      | s :: rest => (a :: s) :: rest

theorem cut_ne_nil {α : Type} [DecidableEq α] (separator : α) (as : List α) :
    cut separator as ≠ [] := by
  cases as with
  | nil => simp [cut]
  | cons a as =>
    unfold cut
    split
    · simp
    · split <;> simp

-- No stretch holds the separator.
theorem not_mem_of_mem_cut {α : Type} [DecidableEq α] {separator : α} {as s : List α}
    (h : s ∈ cut separator as) : separator ∉ s := by
  induction as generalizing s with
  | nil =>
    simp only [cut, List.mem_singleton] at h
    simp [h]
  | cons a as ih =>
    unfold cut at h
    split at h
    · rcases List.mem_cons.mp h with rfl | h
      · simp
      · exact ih h
    · rename_i ha
      split at h
      · rename_i hnil
        exact absurd hnil (cut_ne_nil separator as)
      · rename_i t rest hcut
        rcases List.mem_cons.mp h with rfl | h
        · have ht : separator ∉ t := ih (by simp [hcut])
          simp [ht, Ne.symm ha]
        · exact ih (by simp [hcut, h])

-- A separator cuts a list where it stands.
theorem cut_append_cons {α : Type} [DecidableEq α] (separator : α) (as bs : List α) :
    cut separator (as ++ separator :: bs) = cut separator as ++ cut separator bs := by
  induction as with
  | nil => simp [cut]
  | cons a as ih =>
    rw [List.cons_append, cut, cut, ih]
    split
    · rw [List.cons_append]
    · obtain ⟨s, rest, hcut⟩ := List.exists_cons_of_ne_nil (cut_ne_nil separator as)
      rw [hcut]
      rfl

-- A list without the separator is one stretch.
theorem cut_of_notMem {α : Type} [DecidableEq α] {separator : α} {as : List α}
    (h : separator ∉ as) : cut separator as = [as] := by
  induction as with
  | nil => rfl
  | cons a as ih =>
    obtain ⟨ha, has⟩ : separator ≠ a ∧ separator ∉ as := by simpa using h
    rw [cut, if_neg (Ne.symm ha), ih has]

/-! ## At the first separator -/

theorem bne_of_notMem {α : Type} [BEq α] [LawfulBEq α] {separator : α} {as : List α}
    (h : separator ∉ as) : ∀ a ∈ as, (a != separator) = true := by
  intro a ha
  apply bne_iff_ne.mpr
  rintro rfl
  exact h ha

theorem takeWhile_bne_append_cons {α : Type} [BEq α] [LawfulBEq α] {separator : α} {as : List α}
    (h : separator ∉ as) (bs : List α) :
    (as ++ separator :: bs).takeWhile (· != separator) = as := by
  rw [List.takeWhile_append_of_pos (bne_of_notMem h), List.takeWhile_cons_of_neg (by simp),
    List.append_nil]

theorem dropWhile_bne_append_cons {α : Type} [BEq α] [LawfulBEq α] {separator : α} {as : List α}
    (h : separator ∉ as) (bs : List α) :
    (as ++ separator :: bs).dropWhile (· != separator) = separator :: bs := by
  rw [List.dropWhile_append_of_pos (bne_of_notMem h), List.dropWhile_cons_of_neg (by simp)]

theorem dropWhile_bne_of_notMem {α : Type} [BEq α] [LawfulBEq α] {separator : α} {as : List α}
    (h : separator ∉ as) : as.dropWhile (· != separator) = [] := by
  have hdrop : (as ++ []).dropWhile (· != separator) = [] :=
    List.dropWhile_append_of_pos (bne_of_notMem h)
  rwa [List.append_nil] at hdrop

end FontCatalog.Text
