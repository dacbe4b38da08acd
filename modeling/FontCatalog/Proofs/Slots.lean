/-!
# Lists with empty places

What is open is kept in lists whose places keep their numbers: what is closed leaves its place empty,
and what is opened comes last.
-/

namespace FontCatalog

/-- What is open at a place of a list. -/
def slot? {α : Type} (slots : List (Option α)) (i : Nat) : Option α := (slots[i]?).join

variable {α : Type} {slots : List (Option α)} {i j : Nat} {a : α}

theorem lt_length_of_slot? (h : slot? slots i = some a) : i < slots.length := by
  rcases Nat.lt_or_ge i slots.length with hlt | hge
  · exact hlt
  · simp [slot?, List.getElem?_eq_none hge] at h

theorem slot?_append (h : i < slots.length) (more : List (Option α)) :
    slot? (slots ++ more) i = slot? slots i := by
  rw [slot?, List.getElem?_append_left h, slot?]

theorem slot?_length_append (slots : List (Option α)) (a : α) :
    slot? (slots ++ [some a]) slots.length = some a := by
  simp [slot?]

theorem slot?_set_self (h : i < slots.length) (o : Option α) : slot? (slots.set i o) i = o := by
  simp [slot?, h]

theorem slot?_set_of_ne (h : i ≠ j) (o : Option α) : slot? (slots.set i o) j = slot? slots j := by
  simp [slot?, h]

end FontCatalog
