import FontCatalog.Files.Path

/-!
# The order of paths

Paths are compared by their lists of components, components by their ranks and then by their bytes,
and bytes one by one. All of these are lexicographic comparisons, so the order of paths is total and
transitive.
-/

namespace FontCatalog.Path

theorem compareBytes_eq_compareLex (as bs : List UInt8) :
    compareBytes as bs = List.compareLex Ord.compare as bs := by
  induction as generalizing bs with
  | nil => cases bs <;> rfl
  | cons a as ih =>
    cases bs with
    | nil => rfl
    | cons b bs =>
      rw [compareBytes, List.compareLex_cons_cons, ih]
      change _ = (compareOfLessAndEq a b).then _
      rw [compareOfLessAndEq]
      by_cases hlt : a < b
      · rw [if_pos hlt, if_pos hlt]
        rfl
      · rw [if_neg hlt, if_neg hlt]
        by_cases heq : a = b
        · subst heq
          rw [if_neg hlt, if_pos rfl]
          rfl
        · have hgt : b < a := UInt8.lt_of_le_of_ne (UInt8.not_lt.mp hlt) (Ne.symm heq)
          rw [if_pos hgt, if_neg heq]
          rfl

-- The bytes of a name.
def Component.bytes : Component → List UInt8
  | name bytes => bytes
  | _ => []

-- Two components of one rank other than that of names are equal.
theorem Component.compare_eq_compareLex :
    Component.compare = compareLex (compareOn Component.rank) (compareOn Component.bytes) := by
  funext c d
  cases c <;> cases d
  case name.name a b => exact compareBytes_eq_compareLex a b
  all_goals rfl

instance : Std.TransCmp Component.compare := by
  rw [Component.compare_eq_compareLex]
  infer_instance

theorem compareComponents_eq_compareLex (cs ds : List Component) :
    compareComponents cs ds = List.compareLex Component.compare cs ds := by
  induction cs generalizing ds with
  | nil => cases ds <;> rfl
  | cons c cs ih =>
    cases ds with
    | nil => rfl
    | cons d ds => rw [compareComponents, List.compareLex_cons_cons, ih]

instance : Std.TransCmp compareComponents := by
  have h : compareComponents = List.compareLex Component.compare :=
    funext fun cs => funext (compareComponents_eq_compareLex cs)
  rw [h]
  infer_instance

theorem le_trans {p q r : Path} (hpq : p.le q) (hqr : q.le r) : p.le r :=
  Std.TransCmp.isLE_trans hpq hqr

theorem le_total (p q : Path) : p.le q || q.le p := by
  have hswap : compareComponents q.components p.components =
      (compareComponents p.components q.components).swap := Std.OrientedCmp.eq_swap
  rw [le, le, hswap]
  cases compareComponents p.components q.components <;> rfl

/-- Paths that are sorted stand in the order of their components. -/
theorem pairwise_le_mergeSort (paths : List Path) :
    (paths.mergeSort le).Pairwise fun p q => p.le q := by
  apply List.pairwise_mergeSort
  · exact fun _ _ _ => le_trans
  · exact le_total

end FontCatalog.Path
