import FontCatalog.Proofs.Files.Components
import FontCatalog.Proofs.Record.Fields

/-!
# Where the paths of records lead

The path of a record begins with the directory of the font files, whatever stands in the text of the
element: a text that looks like an absolute path adds its names and no root. The two are put together
byte by byte, and this does what it should for their components.
-/

namespace FontCatalog

namespace Path

-- Whether a directory ends in a separator may be asked of its text as well as of its bytes.
theorem getLast?_display_iff (dir : Path) :
    dir.display.toList.getLast? = some '/' ↔ dir.bytes.getLast? = some separator := by
  rw [display, Utf8.decodeStringLossy, String.toList_ofList]
  exact Utf8.getLast?_decodeLossy (b := separator) (by decide)

/-- A text is appended to a directory with a separator between them, unless the directory is empty or
ends in one as it is shown. -/
theorem bytes_under_of_display (dir : Path) (text : List UInt8) :
    (dir.under text).bytes = dir.bytes ++
      (if dir.bytes = [] ∨ dir.display.toList.getLast? = some '/' then [] else [separator]) ++
        text := by
  simp only [getLast?_display_iff]
  rw [under]
  by_cases h : dir.bytes = [] ∨ dir.bytes.getLast? = some separator
  · rw [if_pos h, if_pos h, List.append_nil]
  · rw [if_neg h, if_neg h, List.append_assoc, List.singleton_append]

/-- No text leads out of a directory by being absolute. -/
theorem prefix_components_under (dir : Path) (text : List UInt8) :
    dir.components <+: (dir.under text).components := by
  by_cases h : dir.bytes = []
  · have hnone : dir.components = [] := by
      rw [components, h]
      rfl
    rw [hnone]
    exact List.nil_prefix
  · rw [components_under h]
    exact List.prefix_append _ _

end Path

namespace Record

/-- The path of a record begins with the components of the directory of the font files. What follows
are those of the trimmed text of the element, without a root and without `.`. -/
theorem path_confined (d : Document) (font : ElementId) (dir : Path) (source : LocaleSource) :
    let path := (ofElement d font dir source).path
    ∃ text, Text.Stripped Text.isXmlBlank (d.text font).toList text ∧
      path.bytes = dir.bytes ++
        (if dir.bytes = [] ∨ dir.display.toList.getLast? = some '/' then []
          else [Path.separator]) ++ Utf8.encode text ∧
      dir.components <+: path.components ∧
      path.components =
        if dir.bytes = [] then (Path.mk (Utf8.encode text)).components
        else dir.components ++ (Path.mk (Utf8.encode text)).inner := by
  intro path
  refine ⟨_, Text.stripped_trim _ _, Path.bytes_under_of_display dir _,
    Path.prefix_components_under dir _, ?_⟩
  change (dir.under _).components = _
  by_cases h : dir.bytes = []
  · rw [if_pos h, Path.under, if_pos (.inl h), h, List.nil_append]
  · rw [if_neg h, Path.components_under h, Path.inner_eq_filterMap]

end Record

end FontCatalog
