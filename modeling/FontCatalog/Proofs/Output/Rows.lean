import FontCatalog.Output.Text
import FontCatalog.Proofs.Json.OneLine
import FontCatalog.Text.Cut

/-!
# Rows of text

Every record is written as one row of columns, or as its path, with a line end after it. Other line
ends come from the texts of the record itself: numbers, padding and colours have none. So a record
whose path, locale and tags have none is one line.
-/

namespace FontCatalog

theorem Number.Single.newline_notMem_plain (x : Number.Single) : '\n' ∉ x.plain.toList := by
  unfold plain
  split
  · decide
  · split <;> decide
  · rename_i negative m q _
    have hbody : '\n' ∉ if m = 0 then ['0'] else
        positional (Binary.shortest .single .up m q).1 (Binary.shortest .single .up m q).2 := by
      split
      · decide
      · exact Json.newline_notMem_positional _ _
    cases negative with
    | true => simpa using hbody
    | false => simpa using hbody

namespace Output

/-- A record without line ends in its texts. -/
structure Unbroken (r : Record) : Prop where
  path : '\n' ∉ r.path.display.toList
  locale : ∀ s ∈ r.locale, '\n' ∉ s.toList
  tags : ∀ a ∈ r.axes, '\n' ∉ a.tag.toText.toList

variable {r : Record} {s : String}

/-! ## Parts of a row -/

theorem newline_notMem_paint (color : Bool) (ink : Ink) (h : '\n' ∉ s.toList) :
    '\n' ∉ (paint color ink s).toList := by
  have hcode : '\n' ∉ ink.code.toList := by cases ink <;> decide
  cases color with
  | true => simp [paint, hcode, h]
  | false => exact h

theorem newline_notMem_padLeft (width : Nat) (h : '\n' ∉ s.toList) :
    '\n' ∉ (padLeft width s).toList := by
  simp [padLeft, h]

theorem newline_notMem_padRight (width : Nat) (h : '\n' ∉ s.toList) :
    '\n' ∉ (padRight width s).toList := by
  simp [padRight, h]

-- What is in none of some parts and not in what separates them is not in the whole.
theorem notMem_intercalate {α : Type} {a : α} {separator : List α} {parts : List (List α)}
    (hseparator : a ∉ separator) (h : ∀ part ∈ parts, a ∉ part) :
    a ∉ List.intercalate separator parts := by
  induction parts with
  | nil => simp
  | cons part parts ih =>
    have hpart := h part List.mem_cons_self
    have hrest := ih fun p hp => h p (List.mem_cons_of_mem _ hp)
    cases parts with
    | nil => simpa using hpart
    | cons next parts =>
      rw [List.intercalate_cons_cons]
      simp [hpart, hseparator, hrest]

theorem Unbroken.pathWithIndex (h : Unbroken r) : '\n' ∉ r.pathWithIndex.toList := by
  unfold Record.pathWithIndex
  split
  · exact h.path
  · simp [h.path, Json.newline_notMem_decimal]

theorem newline_notMem_style (r : Record) : '\n' ∉ (Row.ofRecord r).style.toList := by
  have hweight : '\n' ∉ (String.ofList (Number.decimal r.weight.toNat)).toList := by
    simpa using Json.newline_notMem_decimal _
  have hslant : '\n' ∉ (if r.italic then "italic" else "normal").toList := by split <;> decide
  simp [Row.ofRecord, newline_notMem_padLeft 3 hweight, hslant]

theorem Unbroken.extra (h : Unbroken r) : '\n' ∉ (Row.ofRecord r).extra.toList := by
  have hlocale : '\n' ∉ (r.locale.getD "-").toList := by
    cases hr : r.locale with
    | none => decide
    | some s => exact h.locale s hr
  have haxes : '\n' ∉ (String.intercalate "," (r.axes.map axisText)).toList := by
    rw [String.toList_intercalate]
    refine notMem_intercalate (by decide) fun part hpart => ?_
    obtain ⟨_, hs, rfl⟩ := List.mem_map.mp hpart
    obtain ⟨a, ha, rfl⟩ := List.mem_map.mp hs
    simp [axisText, h.tags a ha, a.value.newline_notMem_plain]
  simp only [Row.ofRecord, String.toList_append, List.mem_append, not_or]
  exact ⟨⟨newline_notMem_padRight 10 hlocale, by decide⟩, haxes⟩

/-! ## Lines -/

theorem Unbroken.isLine_plainLine (h : Unbroken r) (color : Bool) :
    Utf8.IsLine (Utf8.encodeString (plainLine color r)) :=
  Utf8.isLine_encodeString (newline_notMem_paint color .cyan h.pathWithIndex)

theorem Unbroken.isLine_rowLine (h : Unbroken r) (color : Bool) (width : Nat) :
    Utf8.IsLine (Utf8.encodeString (rowLine color width (.ofRecord r))) := by
  refine Utf8.isLine_encodeString ?_
  have hextra : '\n' ∉ (String.ofList
      (Text.trimEnd Text.isBlank (Row.ofRecord r).extra.toList)).toList := by
    intro hmem
    refine h.extra ?_
    rw [String.toList_ofList, Text.trimEnd, List.mem_reverse] at hmem
    exact List.mem_reverse.mp ((List.dropWhile_sublist _).subset hmem)
  simp only [String.toList_append, List.mem_append, not_or]
  exact ⟨⟨⟨⟨newline_notMem_paint color .cyan (newline_notMem_padRight width h.pathWithIndex),
    by decide⟩, newline_notMem_paint color .yellow (newline_notMem_style r)⟩, by decide⟩,
    newline_notMem_paint color .green hextra⟩

end Output

end FontCatalog
