import FontCatalog.Discovery
import Mathlib.Data.List.Forall2

/-!
# Names of font files

A file is taken for a font by its name. The name has one of four extensions after its last dot, in
small letters, capitals or both, and it has something before that dot. A name that begins with its
only dot has no extension, whatever follows.
-/

namespace FontCatalog

/-! ## Extensions -/

namespace Path

variable {name ext : List UInt8}

-- The last dot is the first one from the end.
theorem nameExtension_append_dot (stem : List UInt8) (h : dot ∉ ext) :
    nameExtension (stem ++ dot :: ext) = if stem = [] then none else some ext := by
  have hreverse : (stem ++ dot :: ext).reverse = ext.reverse ++ dot :: stem.reverse := by simp
  have hext : dot ∉ ext.reverse := by simpa using h
  simp only [nameExtension, hreverse, Text.dropWhile_bne_append_cons hext,
    Text.takeWhile_bne_append_cons hext, List.reverse_reverse]
  by_cases hstem : stem = []
  · subst hstem
    rfl
  · obtain ⟨b, bs, hbs⟩ := List.exists_cons_of_ne_nil (List.reverse_ne_nil_iff.mpr hstem)
    rw [if_neg hstem, hbs]

theorem nameExtension_of_notMem (h : dot ∉ name) : nameExtension name = none := by
  have hreverse : dot ∉ name.reverse := by simpa using h
  simp only [nameExtension, Text.dropWhile_bne_of_notMem hreverse]

/-- A name has the extension that follows its last dot, if something stands before that dot. -/
theorem nameExtension_eq_some_iff :
    nameExtension name = some ext ↔ ∃ stem, name = stem ++ dot :: ext ∧ stem ≠ [] ∧ dot ∉ ext := by
  constructor
  · intro h
    by_cases hdot : dot ∈ name
    · obtain ⟨back, front, hreverse, hback⟩ :=
        List.eq_append_cons_of_mem (List.mem_reverse.mpr hdot)
      obtain rfl : name = front.reverse ++ dot :: back.reverse := by
        rw [← List.reverse_reverse name, hreverse]
        simp
      have hback' : dot ∉ back.reverse := by simpa using hback
      rw [nameExtension_append_dot _ hback'] at h
      by_cases hfront : front.reverse = []
      · rw [if_pos hfront] at h
        cases h
      · rw [if_neg hfront] at h
        cases h
        exact ⟨front.reverse, rfl, hfront, hback'⟩
    · rw [nameExtension_of_notMem hdot] at h
      cases h
  · rintro ⟨stem, rfl, hstem, hext⟩
    rw [nameExtension_append_dot stem hext, if_neg hstem]

/-- The name of what a path leads to: its last component, if that is a name. -/
def fileName? (p : Path) : Option (List UInt8) :=
  match p.components.getLast? with
  | some (.name bytes) => some bytes
  | _ => none

theorem extension?_eq_bind (p : Path) : p.extension? = p.fileName?.bind nameExtension := by
  rw [extension?, fileName?]
  cases p.components.getLast? with
  | none => rfl
  | some c => cases c <;> rfl

end Path

/-! ## Font files -/

namespace Discovery

variable {name : List UInt8} {p : Path}

/-- A letter in one of its two cases. -/
def EitherCase (small b : UInt8) : Prop := b = small ∨ b = small - 0x20

/-- The name of a font file: something before its last dot, and after it one of the extensions, each
letter in either case. -/
def IsFontName (name : List UInt8) : Prop :=
  ∃ stem small ext, name = stem ++ Path.dot :: ext ∧ stem ≠ [] ∧ small ∈ ["ttf", "otf", "ttc", "otc"] ∧
    List.Forall₂ EitherCase (Utf8.encodeString small) ext

theorem lowerByte_eq_iff {small : UInt8} (hfirst : 0x61 ≤ small) (hlast : small ≤ 0x7A) (b : UInt8) :
    lowerByte b = small ↔ EitherCase small b := by
  rw [lowerByte, EitherCase]
  split <;> grind

-- A text whose lower case is in small letters.
theorem map_lowerByte_eq_iff {small bytes : List UInt8}
    (hsmall : ∀ b ∈ small, 0x61 ≤ b ∧ b ≤ 0x7A) :
    bytes.map lowerByte = small ↔ List.Forall₂ EitherCase small bytes := by
  induction small generalizing bytes with
  | nil => simp
  | cons b small ih =>
    obtain ⟨⟨hfirst, hlast⟩, hsmall⟩ := List.forall_mem_cons.mp hsmall
    cases bytes with
    | nil => simp
    | cons b' bytes =>
      rw [List.map_cons, List.cons.injEq, lowerByte_eq_iff hfirst hlast, ih hsmall,
        List.forall₂_cons]

theorem small_of_mem_extensions :
    ∀ ext ∈ extensions, ∀ b ∈ ext, 0x61 ≤ b ∧ b ≤ 0x7A := by
  decide +kernel

-- No letter has a dot for its capital.
theorem dot_notMem_of_forall₂ {small ext : List UInt8} (hsmall : ∀ b ∈ small, 0x61 ≤ b ∧ b ≤ 0x7A)
    (h : List.Forall₂ EitherCase small ext) : Path.dot ∉ ext := by
  intro hmem
  have hlower : lowerByte Path.dot ∈ small := by
    rw [← (map_lowerByte_eq_iff hsmall).mpr h]
    exact List.mem_map_of_mem hmem
  exact absurd (hsmall _ hlower).1 (by decide)

theorem isFontName_iff :
    IsFontName name ↔ ∃ ext, Path.nameExtension name = some ext ∧ ext.map lowerByte ∈ extensions := by
  constructor
  · rintro ⟨stem, small, ext, rfl, hstem, hsmall, hext⟩
    have hmem : Utf8.encodeString small ∈ extensions := List.mem_map_of_mem hsmall
    have hletters := small_of_mem_extensions _ hmem
    refine ⟨ext, Path.nameExtension_eq_some_iff.mpr ⟨stem, rfl, hstem, ?_⟩, ?_⟩
    · exact dot_notMem_of_forall₂ hletters hext
    · rwa [(map_lowerByte_eq_iff hletters).mpr hext]
  · rintro ⟨ext, hext, hmem⟩
    obtain ⟨stem, rfl, hstem, -⟩ := Path.nameExtension_eq_some_iff.mp hext
    have hletters := small_of_mem_extensions _ hmem
    obtain ⟨small, hsmall, heq⟩ := List.mem_map.mp hmem
    refine ⟨stem, small, ext, rfl, hstem, hsmall, ?_⟩
    rw [heq]
    exact (map_lowerByte_eq_iff hletters).mp rfl

/-- A path is taken for that of a font file by the name at its end. -/
theorem isFontPath_iff : isFontPath p ↔ ∃ name, p.fileName? = some name ∧ IsFontName name := by
  rw [isFontPath, Path.extension?_eq_bind]
  simp only [isFontName_iff]
  cases p.fileName? with
  | none => simp
  | some name =>
    have hbind : (some name).bind Path.nameExtension = Path.nameExtension name := rfl
    rw [hbind]
    cases hext : Path.nameExtension name <;> simp [hext]

-- What stands before the last dot may be a dot. Capitals and small letters may be mixed.
example : IsFontName (Utf8.encodeString "..TtF") :=
  isFontName_iff.mpr ⟨Utf8.encodeString "TtF", by decide +kernel, by decide +kernel⟩

end Discovery

end FontCatalog
