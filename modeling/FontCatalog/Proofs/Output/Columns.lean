import FontCatalog.Output.Text
import FontCatalog.Proofs.Output.Rows
import Mathlib.Algebra.Group.Nat.Defs
import Mathlib.Data.List.Forall2

/-!
# Where columns begin

A row begins with its path, and blanks fill it up to a width that all rows share, so styles stand
under each other. The style is as wide as its weight is, from three digits up. So the locales stand
under each other among weights that are equally wide, and nowhere else.
-/

namespace FontCatalog.Output

variable {color : Bool} {r : Record} {records : List Record} {width : Nat}

/-! ## Rows by their cells -/

/-- Weight and slant of a record. -/
def styleCell (r : Record) : String := (Row.ofRecord r).style

/-- Locale and axes of a record, less the blanks at the end. -/
def localeCell (r : Record) : String :=
  String.ofList (Text.trimEnd Text.isBlank (Row.ofRecord r).extra.toList)

def blanks (n : Nat) : String := String.ofList (List.replicate n ' ')

/-- A row of a record, and the places in it where its style and its locale begin. They are counted
in characters that are seen, so the colours that are set around the cells do not count. No line ends
before the locale does. -/
structure Placed (color : Bool) (styleAt localeAt : Nat) (r : Record) (row : String) : Prop where
  row_eq : ∃ fill, row =
    paint color .cyan (r.pathWithIndex ++ blanks fill) ++ "  " ++ paint color .yellow (styleCell r) ++
      "  " ++ paint color .green (localeCell r) ++ "\n" ∧
    styleAt = (r.pathWithIndex ++ blanks fill ++ "  ").length ∧
    localeAt = (r.pathWithIndex ++ blanks fill ++ "  " ++ styleCell r ++ "  ").length
  unbroken : '\n' ∉ (r.pathWithIndex ++ styleCell r ++ r.locale.getD "-").toList

/-- The digits of a weight, of which the first three always have a place. -/
def weightWidth (w : UInt16) : Nat := if w < 1000 then 3 else if w < 10000 then 4 else 5

/-! ## Widths -/

theorem length_blanks (n : Nat) : (blanks n).length = n := by
  rw [blanks, String.length_ofList, List.length_replicate]

theorem length_decimal_le_iff {n k : Nat} (h : 0 < k) :
    (Number.decimal n).length ≤ k ↔ n < 10 ^ k :=
  Nat.length_toDigits_le_iff (by decide) h

theorem max_length_decimal (w : UInt16) :
    max 3 (Number.decimal w.toNat).length = weightWidth w := by
  have hthree := length_decimal_le_iff (n := w.toNat) (k := 3) (by decide)
  have hfour := length_decimal_le_iff (n := w.toNat) (k := 4) (by decide)
  have hfive := length_decimal_le_iff (n := w.toNat) (k := 5) (by decide)
  have hlt := w.toNat_lt
  have hthousand : w < 1000 ↔ w.toNat < 1000 := UInt16.lt_iff_toNat_lt
  have htenThousand : w < 10000 ↔ w.toNat < 10000 := UInt16.lt_iff_toNat_lt
  rw [weightWidth]
  simp only [hthousand, htenThousand]
  split
  · omega
  · split <;> omega

theorem length_styleCell (r : Record) : (styleCell r).length = weightWidth r.weight + 7 := by
  have hslant : (if r.italic then "italic" else "normal").length = 6 := by
    split <;> rfl
  have hweight : (padLeft 3 (String.ofList (Number.decimal r.weight.toNat))).length =
      weightWidth r.weight := by
    rw [← max_length_decimal, padLeft, String.length_append, String.length_ofList,
      String.length_ofList, List.length_replicate]
    omega
  rw [styleCell, Row.ofRecord, String.length_append, String.length_append, hslant, hweight]
  rfl

-- A text has no more characters than bytes.
theorem length_le_utf8ByteSize (s : String) : s.length ≤ s.utf8ByteSize := by
  have hlist (cs : List Char) : cs.length ≤ (String.ofList cs).utf8ByteSize := by
    induction cs with
    | nil => exact Nat.zero_le _
    | cons c cs ih =>
      have hc := c.utf8Size_pos
      rw [String.ofList_cons, String.utf8ByteSize_append, String.utf8ByteSize_singleton,
        List.length_cons]
      omega
  have hs := hlist s.toList
  rwa [String.ofList_toList, String.length_toList] at hs

-- The width that is kept grows over the rows.
theorem le_foldl_max {rows : List Row} (n : Nat) :
    n ≤ rows.foldl (fun n row => Nat.max n row.path.utf8ByteSize) n ∧
      ∀ row ∈ rows, row.path.utf8ByteSize ≤
        rows.foldl (fun n row => Nat.max n row.path.utf8ByteSize) n := by
  induction rows generalizing n with
  | nil => exact ⟨Nat.le_refl n, nofun⟩
  | cons row rows ih =>
    obtain ⟨hstart, hrows⟩ := ih (Nat.max n row.path.utf8ByteSize)
    rw [List.foldl_cons, List.forall_mem_cons]
    exact ⟨Nat.le_trans (Nat.le_max_left _ _) hstart,
      Nat.le_trans (Nat.le_max_right _ _) hstart, hrows⟩

/-- No path of admitted length is wider than the column of paths. -/
theorem length_le_pathWidth (hr : r ∈ records) (h : r.pathWithIndex.length ≤ maxPathWidth) :
    r.pathWithIndex.length ≤ pathWidth (records.map Row.ofRecord) := by
  have hbytes := (le_foldl_max 0).2 (Row.ofRecord r) (List.mem_map_of_mem hr)
  apply Nat.le_min.mpr
  exact ⟨h, Nat.le_trans (length_le_utf8ByteSize _) hbytes⟩

/-! ## Places -/

theorem newline_notMem_styleCell (r : Record) : '\n' ∉ (styleCell r).toList := newline_notMem_style r

-- Blanks fill a path up to the width, so what follows begins after it.
theorem placed_rowLine (color : Bool) (hwidth : r.pathWithIndex.length ≤ width)
    (hpath : '\n' ∉ r.pathWithIndex.toList) (hlocale : ∀ s ∈ r.locale, '\n' ∉ s.toList) :
    Placed color (width + 2) (width + 2 + weightWidth r.weight + 9) r
      (rowLine color width (.ofRecord r)) := by
  have hgap : "  ".length = 2 := rfl
  refine ⟨⟨width - r.pathWithIndex.length, rfl, ?style, ?locale⟩, ?unbroken⟩
  case style =>
    rw [String.length_append, String.length_append, length_blanks, hgap]
    omega
  case locale =>
    simp only [String.length_append, length_blanks, length_styleCell, hgap]
    omega
  case unbroken =>
    have hshown : '\n' ∉ (r.locale.getD "-").toList := by
      cases hr : r.locale with
      | none => decide
      | some s => exact hlocale s hr
    simp only [String.toList_append, List.mem_append, not_or]
    exact ⟨⟨hpath, newline_notMem_styleCell r⟩, hshown⟩

/-- The style stands between the two places, with a gap after it. -/
theorem Placed.localeAt_eq {styleAt localeAt : Nat} {row : String}
    (h : Placed color styleAt localeAt r row) : localeAt = styleAt + weightWidth r.weight + 9 := by
  obtain ⟨fill, -, hstyle, hlocale⟩ := h.row_eq
  have hgap : "  ".length = 2 := rfl
  rw [hlocale, hstyle]
  simp only [String.length_append, length_styleCell, hgap]
  omega

/-- The place where all styles begin, after the column of paths and a gap. -/
def styleStart (records : List Record) : Nat := pathWidth (records.map Row.ofRecord) + 2

-- Every record has the row that is laid out for it.
theorem forall₂_columns_iff {P : Record → String → Prop} :
    List.Forall₂ P records (columns color records) ↔
      ∀ r ∈ records, P r (rowLine color (pathWidth (records.map Row.ofRecord)) (.ofRecord r)) := by
  rw [columns, List.map_map, List.forall₂_map_right_iff, List.forall₂_same]
  rfl

/-- Where the columns of some records begin, whether or not they are coloured. All styles begin at
the same place, and each locale as far behind it as its weight is wide. So the locales begin at the
same place exactly if no weight is wider than another: all below a thousand, or all from there to
below ten thousand, or all from there on. -/
theorem columns_aligned (color : Bool) (records : List Record)
    (hlength : ∀ r ∈ records, r.pathWithIndex.length ≤ 120)
    (hpath : ∀ r ∈ records, '\n' ∉ r.pathWithIndex.toList)
    (hlocale : ∀ r ∈ records, ∀ s ∈ r.locale, '\n' ∉ s.toList) :
    (∃ styleAt, List.Forall₂
      (fun r row => Placed color styleAt (styleAt + weightWidth r.weight + 9) r row) records
        (columns color records)) ∧
    ((∃ styleAt localeAt,
        List.Forall₂ (Placed color styleAt localeAt) records (columns color records)) ↔
      ∀ r ∈ records, ∀ r' ∈ records, weightWidth r.weight = weightWidth r'.weight) := by
  have hplaced : ∀ r ∈ records,
      Placed color (styleStart records) (styleStart records + weightWidth r.weight + 9) r
        (rowLine color (pathWidth (records.map Row.ofRecord)) (.ofRecord r)) := fun r hr =>
    placed_rowLine color (length_le_pathWidth hr (hlength r hr)) (hpath r hr) (hlocale r hr)
  refine ⟨⟨styleStart records, forall₂_columns_iff.mpr hplaced⟩, ?_, ?_⟩
  · rintro ⟨styleAt, localeAt, h⟩ r hr r' hr'
    have hplace := (forall₂_columns_iff.mp h r hr).localeAt_eq
    have hplace' := (forall₂_columns_iff.mp h r' hr').localeAt_eq
    omega
  · intro hsame
    cases records with
    | nil => exact ⟨0, 0, .nil⟩
    | cons first rest =>
      refine ⟨styleStart (first :: rest), styleStart (first :: rest) + weightWidth first.weight + 9,
        forall₂_columns_iff.mpr ?_⟩
      intro r hr
      rw [hsame first List.mem_cons_self r hr]
      exact hplaced r hr

/-- Two fonts with names and locales that have more bytes than characters. -/
def umlautFonts : List Record :=
  [⟨.ofString "/f/Grün.ttf", 50, false, 0, some "dé", []⟩,
    ⟨.ofString "/f/字.ttc", 900, true, 12, none, [⟨⟨0x77676874⟩, ⟨0x43C80000⟩⟩]⟩]

theorem columns_aligned_umlautFonts :
    columns false umlautFonts =
        ["/f/Grün.ttf     50 normal  dé\n", "/f/字.ttc#12    900 italic  -          wght=400\n"] ∧
      ∃ styleAt localeAt,
        List.Forall₂ (Placed false styleAt localeAt) umlautFonts (columns false umlautFonts) := by
  refine ⟨by decide +kernel, (columns_aligned false umlautFonts ?_ ?_ ?_).2.mpr ?_⟩
  all_goals decide +kernel

/-! ## Weights of more digits -/

/-- Two fonts of which one has a weight of four digits. -/
def heavyFonts : List Record :=
  [⟨.ofString "fonts/a.ttf", 400, false, 0, none, []⟩,
    ⟨.ofString "fonts/b.ttf", 1000, false, 0, none, []⟩]

/-- The locale of the second row begins a character further on than that of the first row, though
both paths are short and neither path nor locale breaks a line. -/
theorem locales_apart :
    (∀ r ∈ heavyFonts, r.pathWithIndex.length ≤ 120 ∧ '\n' ∉ r.pathWithIndex.toList ∧
      ∀ s ∈ r.locale, '\n' ∉ s.toList) ∧
    columns false heavyFonts =
      ["fonts/a.ttf  400 normal  -\n", "fonts/b.ttf  1000 normal  -\n"] ∧
    ¬ ∃ styleAt localeAt,
      List.Forall₂ (Placed false styleAt localeAt) heavyFonts (columns false heavyFonts) := by
  refine ⟨by decide +kernel, by decide +kernel, ?_⟩
  rintro ⟨styleAt, localeAt, h⟩
  obtain ⟨hfirst, hrest⟩ := List.forall₂_cons.mp h
  obtain ⟨hsecond, -⟩ := List.forall₂_cons.mp hrest
  have hthree : localeAt = styleAt + 3 + 9 := hfirst.localeAt_eq
  have hfour : localeAt = styleAt + 4 + 9 := hsecond.localeAt_eq
  omega

end FontCatalog.Output
