import FontCatalog.Text.Blank
import Mathlib.Data.List.TakeWhile

/-!
# What trimming leaves

A trimmed text is the stretch of the text between its first and its last character that is not of the
class. Nothing else fits there, so the stretch says all about it.
-/

namespace FontCatalog.Text

/-- A text less the characters of a class at both ends. -/
structure Stripped (p : Char → Bool) (s t : List Char) : Prop where
  split : ∃ front back, s = front ++ t ++ back ∧ (∀ c ∈ front, p c = true) ∧
    ∀ c ∈ back, p c = true
  head : ∀ c ∈ t.head?, p c = false
  last : ∀ c ∈ t.getLast?, p c = false

variable {p : Char → Bool} {s t front : List Char}

-- What of a text does not begin with a character of the class stays, and so does what follows.
theorem dropWhile_append_of_head (hfront : ∀ c ∈ front, p c = true)
    (ht : ∀ c ∈ t.head?, p c = false) : (front ++ t).dropWhile p = t := by
  rw [List.dropWhile_append_of_pos hfront]
  cases t with
  | nil => rfl
  | cons c t => rw [List.dropWhile_cons_of_neg (by simp [ht c rfl])]

theorem trimEnd_append_of_last {back : List Char} (hback : ∀ c ∈ back, p c = true)
    (ht : ∀ c ∈ t.getLast?, p c = false) : trimEnd p (t ++ back) = t := by
  have hreversed : ∀ c ∈ t.reverse.head?, p c = false := by rwa [List.head?_reverse]
  have hback' : ∀ c ∈ back.reverse, p c = true := fun c hc => hback c (List.mem_reverse.mp hc)
  rw [trimEnd, List.reverse_append, dropWhile_append_of_head hback' hreversed, List.reverse_reverse]

theorem stripped_trim (p : Char → Bool) (s : List Char) : Stripped p s (trim p s) := by
  have hfront : ∀ c ∈ s.takeWhile p, p c = true := fun c hc => List.mem_takeWhile_imp hc
  have hback : ∀ c ∈ ((s.dropWhile p).reverse.takeWhile p).reverse, p c = true :=
    fun c hc => List.mem_takeWhile_imp (List.mem_reverse.mp hc)
  have hsplit : s.dropWhile p =
      trim p s ++ ((s.dropWhile p).reverse.takeWhile p).reverse := by
    rw [trim, trimEnd, ← List.reverse_append, List.takeWhile_append_dropWhile,
      List.reverse_reverse]
  refine ⟨⟨_, _, ?_, hfront, hback⟩, fun c hc => ?_, fun c hc => ?_⟩
  · rw [List.append_assoc, ← hsplit, List.takeWhile_append_dropWhile]
  · -- The first character that stays is the first one after those of the class.
    have hhead : (s.dropWhile p).head? = some c := by
      rw [hsplit, List.head?_append, Option.mem_def.mp hc, Option.some_or]
    exact Bool.eq_false_iff.mpr (by simpa [hhead] using List.head?_dropWhile_not p s)
  · have hlast : ((s.dropWhile p).reverse.dropWhile p).head? = some c := by
      rw [trim, trimEnd, List.getLast?_reverse] at hc
      exact hc
    exact Bool.eq_false_iff.mpr
      (by simpa [hlast] using List.head?_dropWhile_not p (s.dropWhile p).reverse)

/-- Trimming gives the only text that is stripped. -/
theorem stripped_iff : Stripped p s t ↔ t = trim p s := by
  constructor
  · rintro ⟨⟨front, back, rfl, hfront, hback⟩, hhead, hlast⟩
    cases t with
    | nil =>
      have hall : ∀ c ∈ front ++ [] ++ back, p c = true := by
        simp only [List.append_nil, List.forall_mem_append]
        exact ⟨hfront, hback⟩
      rw [trim, List.dropWhile_eq_nil_iff.mpr hall]
      rfl
    | cons c t =>
      have hkept : (front ++ ((c :: t) ++ back)).dropWhile p = (c :: t) ++ back :=
        dropWhile_append_of_head hfront hhead
      rw [trim, List.append_assoc, hkept, trimEnd_append_of_last hback hlast]
  · rintro rfl
    exact stripped_trim p s

end FontCatalog.Text
