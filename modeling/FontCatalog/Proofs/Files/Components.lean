import FontCatalog.Files.Path

/-!
# Components of names under a directory

A relative path under a directory adds the components of its names to those of the directory, however
many separators and `.` stand between them. So it has the components of the path that goes through
the same names one by one.
-/

namespace FontCatalog.Path

/-! ## The names of a relative path -/

/-- The names that a relative path goes through: its segments, less those that have no component. -/
def names (text : List UInt8) : List (List UInt8) :=
  (segments text).filter fun s => s ≠ [] ∧ s ≠ [dot]

theorem filterMap_component?_names (text : List UInt8) :
    (names text).filterMap component? = (segments text).filterMap component? := by
  rw [names, List.filterMap_filter]
  congr 1
  funext s
  by_cases hnone : s = [] ∨ s = [dot]
  · rw [component?, if_pos hnone, ite_self]
  · have hname : s ≠ [] ∧ s ≠ [dot] := not_or.mp hnone
    rw [if_pos (decide_eq_true hname)]

/-- The components of a path, less the root or the `.` that it begins with. -/
def inner (p : Path) : List Component :=
  p.components.filter fun c => c ≠ .root ∧ c ≠ .current

-- What a path begins with is all that does not come from its names.
theorem inner_eq_filterMap (text : List UInt8) :
    (Path.mk text).inner = (names text).filterMap component? := by
  have hstart : (start text).filter (fun c => c ≠ .root ∧ c ≠ .current) = [] := by
    unfold start
    split
    · rfl
    · split <;> rfl
  have hsegment : ∀ s, (component? s).filter (fun c => c ≠ .root ∧ c ≠ .current) = component? s := by
    intro s
    unfold component?
    split
    · rfl
    · split <;> rfl
  rw [inner, components, List.filter_append, hstart, List.nil_append, List.filter_filterMap,
    filterMap_component?_names]
  congr 1
  exact funext hsegment

-- A name on its own is the relative path that goes through it.
theorem names_of_mem_names {name text : List UInt8} (h : name ∈ names text) : names name = [name] := by
  obtain ⟨hsegment, hname⟩ := List.mem_filter.mp h
  have hseparator : separator ∉ name := Text.not_mem_of_mem_cut hsegment
  rw [names, segments, Text.cut_of_notMem hseparator]
  exact List.filter_cons_of_pos hname

/-! ## Components of paths with a separator -/

theorem segments_append_separator (front back : List UInt8) :
    segments (front ++ separator :: back) = segments front ++ segments back :=
  Text.cut_append_cons separator front back

-- What a path begins with is not changed by what follows a separator in it.
theorem start_append_separator {front : List UInt8} (h : front ≠ []) (back : List UInt8) :
    start (front ++ separator :: back) = start front := by
  have hhead : (front ++ separator :: back).head? = front.head? := by
    obtain ⟨b, bs, rfl⟩ := List.exists_cons_of_ne_nil h
    rfl
  have hsegment : (segments (front ++ separator :: back)).head? = (segments front).head? := by
    obtain ⟨s, rest, hcut⟩ := List.exists_cons_of_ne_nil (Text.cut_ne_nil separator front)
    rw [segments_append_separator, segments, hcut]
    rfl
  rw [start, start, hhead, hsegment]

variable {dir : Path}

theorem under_bytes_ne_nil (h : dir.bytes ≠ []) (name : List UInt8) : (dir.under name).bytes ≠ [] := by
  rw [under]
  split <;> simp [h]

/-- The components of a relative path under a directory. -/
theorem components_under (h : dir.bytes ≠ []) (text : List UInt8) :
    (dir.under text).components = dir.components ++ (names text).filterMap component? := by
  rw [filterMap_component?_names, under]
  by_cases hlast : dir.bytes.getLast? = some separator
  · -- The directory ends in a separator, and the text follows it.
    obtain ⟨front, hfront⟩ := List.getLast?_eq_some_iff.mp hlast
    have hbytes : dir.bytes ++ text = front ++ separator :: text := by
      rw [hfront, List.append_assoc, List.singleton_append]
    have hstart : start (front ++ separator :: text) = start (front ++ [separator]) := by
      by_cases hnil : front = []
      · subst hnil
        rfl
      · rw [start_append_separator hnil, start_append_separator hnil]
    have hempty : (segments []).filterMap component? = [] := rfl
    rw [if_pos (.inr hlast), components, components, hbytes, hfront, hstart,
      segments_append_separator, segments_append_separator, List.filterMap_append,
      List.filterMap_append, hempty, List.append_nil, List.append_assoc]
  · rw [if_neg (not_or.mpr ⟨h, hlast⟩), components, components, start_append_separator h,
      segments_append_separator, List.filterMap_append, List.append_assoc]

/-! ## Names one by one -/

/-- A path that some names lead to from a directory. -/
def Below (dir p : Path) : Prop := ∃ names : List (List UInt8), p = names.foldl under dir

theorem Below.refl (dir : Path) : Below dir dir := ⟨[], rfl⟩

theorem Below.of_under {name : List UInt8} {p : Path} (h : Below (dir.under name) p) : Below dir p := by
  obtain ⟨names, rfl⟩ := h
  exact ⟨name :: names, rfl⟩

-- Names that are single segments add a component each.
theorem components_foldl_under (h : dir.bytes ≠ []) {list : List (List UInt8)}
    (hlist : ∀ name ∈ list, names name = [name]) :
    (list.foldl under dir).components = dir.components ++ list.filterMap component? := by
  induction list generalizing dir with
  | nil => rw [List.foldl_nil, List.filterMap_nil, List.append_nil]
  | cons name list ih =>
    obtain ⟨hname, hlist⟩ := List.forall_mem_cons.mp hlist
    rw [List.foldl_cons, ih (under_bytes_ne_nil h name) hlist, components_under h, hname,
      List.append_assoc, ← List.filterMap_append, List.singleton_append]

/-- The names of a relative path lead from a directory to a path with the same components. -/
theorem components_foldl_names (h : dir.bytes ≠ []) (text : List UInt8) :
    ((names text).foldl under dir).components = (dir.under text).components := by
  rw [components_foldl_under h fun _ => names_of_mem_names, components_under h]

-- Separators and `.` on the way do not count.
example :
    ((Path.ofString "fonts/").under (Utf8.encodeString "/./x//a.ttf")).components =
      (Path.ofString "fonts/x/a.ttf").components := by
  decide

end FontCatalog.Path
