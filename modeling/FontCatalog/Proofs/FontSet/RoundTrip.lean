import FontCatalog.Proofs.FontSet.Entries
import FontCatalog.Proofs.Walk.Results
import FontCatalog.Proofs.Walk.Trees
import FontCatalog.Proofs.Xml.RoundTrip

/-!
# Reading a font set back

A walk through the document of a written font set hands out the records that the font set says.
-/

namespace FontCatalog

open Xml

/-! ## Elements -/

theorem filter_map_tree {α : Type} (tree : α → Node) {tag : String}
    (helement : ∀ a, (tree a).isElement = true) (hname : ∀ a, (tree a).name = tag)
    (entries : List α) :
    ((entries.map tree).filter Node.isElement).filter (·.name == tag) = entries.map tree := by
  rw [List.filter_eq_self.mpr, List.filter_eq_self.mpr]
  · intro c hc
    obtain ⟨a, -, rfl⟩ := List.mem_map.mp hc
    exact helement a
  · intro c hc
    obtain ⟨a, -, rfl⟩ := List.mem_map.mp (List.mem_filter.mp hc).1
    exact beq_iff_eq.mpr (hname a)

theorem ofText?_of_length {s : String} (h : (Utf8.encodeString s).length = 4) :
    Tag.ofText? s =
      some ⟨.ofNat ((Utf8.encodeString s).foldl (fun code b => code * 256 + b.toNat) 0)⟩ := by
  obtain ⟨a, b, c, d, hbytes⟩ := List.length_eq_four.mp h
  rw [Tag.ofText?, hbytes]
  simp [Tag.ofBytes]

theorem isBlank_of_isGraphic {c : Char} (h : Number.IsGraphic c) : Text.isBlank c = false := by
  obtain ⟨hlow, hhigh⟩ := h
  simp only [Text.isBlank, Bool.or_eq_false_iff, Bool.and_eq_false_iff, decide_eq_false_iff_not,
    beq_eq_false_iff_ne]
  omega

theorem isXmlBlank_of_isGraphic {c : Char} (h : Number.IsGraphic c) :
    Text.isXmlBlank c = false := by
  apply Bool.eq_false_iff.mpr
  intro hblank
  have hfalse := isBlank_of_isGraphic h
  rw [Text.isBlank_of_isXmlBlank hblank] at hfalse
  cases hfalse

theorem AxisEntry.ofTree?_tree (e : AxisEntry) : Axis.ofTree? e.tree = some e.axis := by
  have hvalue := Option.some_get e.value_reads
  have hgraphic := Number.Single.isGraphic_of_read hvalue.symm
  have htrim : Text.trim Text.isBlank e.value.toList = e.value.toList :=
    Text.trim_eq_self
      (fun c hc => isBlank_of_isGraphic (hgraphic c (List.mem_of_mem_head? hc)))
      (fun c hc => isBlank_of_isGraphic (hgraphic c (List.mem_of_mem_getLast? hc)))
  have htag : e.tree.attribute? "tag" = some e.tag := rfl
  have hstyle : e.tree.attribute? "stylevalue" = some e.value := rfl
  rw [Axis.ofTree?, htag, hstyle]
  simp only [Option.bind_eq_bind, Option.bind_some, ofText?_of_length e.length_tag, htrim]
  rw [← hvalue]
  rfl

/-! ## Fonts -/

theorem numberOr_decimal {α : Type} {read : List Char → Except Number.DigitsError α}
    {number : α → Nat} (hread : ∀ a, read (Number.decimal (number a)) = .ok a)
    (value : Option α) (default : α) :
    Record.numberOr read (value.map fun a => String.ofList (Number.decimal (number a))) default =
      value.getD default := by
  cases value with
  | none => rfl
  | some a =>
    have hblank : ∀ c ∈ Number.decimal (number a), Text.isXmlBlank c = false := by
      intro c hc
      have hdigit := Number.digitIn?_of_isDigit (Number.isDigit_of_mem_decimal hc)
      exact isXmlBlank_of_isGraphic (Number.isGraphic_of_digitIn? hdigit)
    have htrim := Text.trim_eq_self (fun c hc => hblank c (List.mem_of_mem_head? hc))
      (fun c hc => hblank c (List.mem_of_mem_getLast? hc))
    rw [Option.map_some, Record.numberOr, String.toList_ofList, htrim, hread]
    rfl

namespace FontEntry

variable (e : FontEntry)

theorem attribute?_weight : e.tree.attribute? "weight" =
    e.weight.map fun n => String.ofList (Number.decimal n.toNat) := by
  cases e with
  | mk name weight style index axes =>
    cases weight <;> cases style <;> cases index <;> rfl

theorem attribute?_style : e.tree.attribute? "style" = e.style := by
  cases e with
  | mk name weight style index axes =>
    cases weight <;> cases style <;> cases index <;> rfl

theorem attribute?_index : e.tree.attribute? "index" =
    e.index.map fun n => String.ofList (Number.decimal n.toNat) := by
  cases e with
  | mk name weight style index axes =>
    cases weight <;> cases style <;> cases index <;> rfl

theorem ownText_tree : e.tree.ownText = e.name := by
  have haxes : (e.axes.map AxisEntry.tree).flatMap Node.directText = [] := by
    rw [List.flatMap_map]
    exact List.flatMap_eq_nil_iff.mpr fun axis _ => rfl
  rw [Node.ownText, tree, Node.children, children, List.flatMap_append, haxes, List.append_nil]
  split
  · rename_i hname
    rw [hname]
    rfl
  · rw [List.flatMap_singleton, Node.directText, String.ofList_toList]

theorem named_tree : e.tree.named "axis" = e.axes.map AxisEntry.tree := by
  have htext : ((if e.name = "" then [] else [Node.text e.name]).filter Node.isElement) = [] := by
    split <;> rfl
  rw [tree, Node.named, Node.children, children, List.filter_append, htext, List.nil_append]
  exact filter_map_tree AxisEntry.tree (fun _ => rfl) (fun _ => rfl) e.axes

/-- The record of a font is read off its tree. -/
theorem ofTree_tree (family : FamilyEntry) (dir : Path) :
    Record.ofTree family.tree e.tree dir .family = e.record dir family.lang := by
  have hlocale : LocaleSource.ofTree family.tree .family = family.lang := by
    cases family with
    | mk lang fonts => cases lang <;> rfl
  have htrim : Text.trim Text.isXmlBlank e.name.toList = e.name.toList :=
    Text.trim_eq_self e.name_head e.name_last
  have haxes : (e.axes.map AxisEntry.tree).filterMap Axis.ofTree? = e.axes.map AxisEntry.axis := by
    rw [List.filterMap_map, ← List.filterMap_eq_map]
    exact List.filterMap_congr fun axis _ => axis.ofTree?_tree
  rw [Record.ofTree, attribute?_weight, attribute?_style, attribute?_index, ownText_tree,
    named_tree, hlocale, htrim, haxes, numberOr_decimal Number.readUInt16_decimal,
    numberOr_decimal Number.readUInt32_decimal]
  rfl

end FontEntry

/-! ## Font sets -/

theorem allOfTree_fontSetTree (families : List FamilyEntry) (dir : Path) :
    Record.allOfTree (fontSetTree families) dir .family = families.flatMap (·.records dir) := by
  have hfamilies : (fontSetTree families).named Document.familyTag =
      families.map FamilyEntry.tree :=
    filter_map_tree FamilyEntry.tree (fun _ => rfl) (fun _ => rfl) families
  rw [Record.allOfTree, hfamilies, List.flatMap_map]
  apply List.flatMap_congr
  intro family _
  have hfonts : family.tree.named Document.fontTag = family.fonts.map FontEntry.tree :=
    filter_map_tree FontEntry.tree (fun _ => rfl) (fun _ => rfl) family.fonts
  rw [hfonts, List.map_map, FamilyEntry.records]
  exact List.map_congr_left fun font _ => font.ofTree_tree family dir

/-- A font set is written as a document, and draining a walk through that document gives the records
of the font set in order, if every file is available. -/
theorem records_print_fontSetTree (families : List FamilyEntry) (c : Config) :
    ∃ d, Document.parse (fontSetTree families).print = .ok (d, []) ∧
      (Walk.ofDocument d (c.withLocaleSource .family)).records (fun _ => true) =
        families.flatMap (·.records c.fontDir) := by
  refine ⟨.ofTree (fontSetTree families), ?_, ?_⟩
  · rw [Document.parse, read_print (plain_fontSetTree families) rfl]
  · have hahead := Walk.Ahead.unstarted (d := .ofTree (fontSetTree families)) c.fontDir .family
    have helement : (fontSetTree families).isElement = true := rfl
    have hfonts := Document.map_fonts_ofTree helement c.fontDir .family
    rw [allOfTree_fontSetTree] at hfonts
    rw [← hfonts, ← Record.handedOut_true (List.map _ _)]
    exact hahead.records fun _ => true

end FontCatalog
