import FontCatalog.Proofs.Document.Characters
import FontCatalog.Proofs.Text.Lossy
import FontCatalog.Record

/-!
# Texts of records

Which characters the path and the locale of a record can have. The path has those of its directory
and of the text of a document. The locale is the value of an attribute, and so it may also have
those of an entity.
-/

namespace FontCatalog

theorem Path.display_ofString (s : String) : (Path.ofString s).display = s :=
  Utf8.decodeStringLossy_encodeString s

-- The path of a name in a directory as text.
theorem Path.under_ofString (dir : String) (name : List Char) :
    ∃ s, (Path.ofString dir).under (Utf8.encode name) = .ofString s ∧
      ∀ c ∈ s.toList, c ∈ dir.toList ∨ c = '/' ∨ c ∈ name := by
  have happend (cs : List Char) :
      (Path.ofString (String.ofList (dir.toList ++ cs))).bytes =
        (Path.ofString dir).bytes ++ Utf8.encode cs := by
    rw [ofString, Utf8.encodeString, String.toList_ofList]
    exact List.flatMap_append
  rw [under]
  split
  · refine ⟨String.ofList (dir.toList ++ name), ?_, ?_⟩
    · rw [← happend]
    · rw [String.toList_ofList]
      grind
  · refine ⟨String.ofList (dir.toList ++ '/' :: name), ?_, ?_⟩
    · rw [show separator :: Utf8.encode name = Utf8.encode ('/' :: name) from rfl, ← happend]
    · rw [String.toList_ofList]
      grind

theorem Text.mem_of_mem_trim {p : Char → Bool} {s : List Char} {c : Char} (h : c ∈ trim p s) :
    c ∈ s := by
  rw [trim, trimEnd, List.mem_reverse] at h
  exact (List.dropWhile_suffix p).subset (List.mem_reverse.mp ((List.dropWhile_suffix p).subset h))

namespace Record

variable {entities : List Xml.Entity} {root : Xml.Node} {source : LocaleSource} {font : ElementId}

/-- The path of a record has no NUL if the directory has none. -/
theorem path_ofElement (h : root.Clean entities) {dir : String} (hdir : '\x00' ∉ dir.toList) :
    ∃ s, (ofElement (.ofTree root) font (.ofString dir) source).path = .ofString s ∧
      '\x00' ∉ s.toList := by
  obtain ⟨s, hs, hchars⟩ := Path.under_ofString dir
    (Text.trim Text.isXmlBlank ((Document.ofTree root).text font).toList)
  refine ⟨s, hs, fun hmem => ?_⟩
  rcases hchars _ hmem with hmem | hmem | hmem
  · exact hdir hmem
  · cases hmem
  · have hlegal := Document.legal_text h font _ (Text.mem_of_mem_trim hmem)
    rw [Xml.isXmlChar_nul] at hlegal
    cases hlegal

/-- A NUL in the locale of a record comes from an entity. -/
theorem exists_entity_of_nul (h : root.Clean entities) {dir : Path} {locale : String}
    (hlocale : (ofElement (.ofTree root) font dir source).locale = some locale)
    (hmem : '\x00' ∈ locale.toList) : ∃ e ∈ entities, '\x00' ∈ e.value := by
  cases source with
  | family =>
    obtain ⟨family, -, hattribute⟩ := Option.bind_eq_some_iff.mp hlocale
    rcases Document.admitted_attribute? h hattribute _ hmem with hlegal | hentity
    · rw [Xml.isXmlChar_nul] at hlegal
      cases hlegal
    · exact hentity
  | documentParent => cases hlocale

end Record

end FontCatalog
