import FontCatalog.Proofs.Walk.Fonts

/-!
# The records of a tree

The records of a document read off the tree that it was made from, without numbers for its
elements: one record for each `font` child of each `family` child of the root.
-/

namespace FontCatalog

/-- The setting that an `axis` element of a tree makes. -/
def Axis.ofTree? (axis : Xml.Node) : Option Axis := do
  let tag ← Tag.ofText? (← axis.attribute? "tag")
  let value ← axis.attribute? "stylevalue"
  return ⟨tag, ← Number.Single.read (Text.trim Text.isBlank value.toList)⟩

/-- The locale of the fonts of a `family` element of a tree. -/
def LocaleSource.ofTree (family : Xml.Node) : LocaleSource → Option String
  | .family => family.attribute? "lang"
  | .documentParent => none

/-- The record of a `font` element of a tree, below its `family` element. -/
def Record.ofTree (family font : Xml.Node) (dir : Path) (source : LocaleSource) : Record where
  path := dir.under (Utf8.encode (Text.trim Text.isXmlBlank font.ownText.toList))
  weight := numberOr Number.readUInt16 (font.attribute? "weight") defaultWeight
  italic := font.attribute? "style" == some "italic"
  index := numberOr Number.readUInt32 (font.attribute? "index") 0
  locale := source.ofTree family
  axes := (font.named "axis").filterMap Axis.ofTree?

/-- The records of a tree, one for each font of each family. -/
def Record.allOfTree (root : Xml.Node) (dir : Path) (source : LocaleSource) : List Record :=
  (root.named Document.familyTag).flatMap fun family =>
    (family.named Document.fontTag).map fun font => Record.ofTree family font dir source

namespace Document

/-- An element of a tree has a number in the document. -/
def Shows (d : Document) (parent : Option ElementId) (n : ElementId) (t : Xml.Node) : Prop :=
  t.isElement = true ∧ ∃ slot, d.Holds parent slot n t

variable {d : Document} {parent : Option ElementId} {n : ElementId} {t : Xml.Node}

theorem shows_ofTree {root : Xml.Node} (h : root.isElement = true) :
    (ofTree root).Shows none 0 root :=
  ⟨h, 0, holds_ofTree root⟩

theorem Shows.exists_element (h : d.Shows parent n t) :
    ∃ e, d.element? n = some e ∧ e.name = t.name ∧ e.parent = parent ∧ e.text = t.ownText ∧
      (∀ key, e.attributes.lookup key = t.attribute? key) := by
  obtain ⟨helement, slot, hholds⟩ := h
  cases t with
  | element space name as ts => exact ⟨_, hholds.element.1, rfl, rfl, rfl, fun _ => rfl⟩
  | text s => cases helement
  | comment s => cases helement
  | instruction target data => cases helement

theorem Shows.name (h : d.Shows parent n t) : d.name n = t.name := by
  obtain ⟨e, he, hname, -⟩ := h.exists_element
  simp [Document.name, he, hname]

theorem Shows.text (h : d.Shows parent n t) : d.text n = t.ownText := by
  obtain ⟨e, he, -, -, htext, -⟩ := h.exists_element
  simp [Document.text, he, htext]

theorem Shows.parent? (h : d.Shows parent n t) : d.parent? n = parent := by
  obtain ⟨e, he, -, hparent, -⟩ := h.exists_element
  simp [Document.parent?, he, hparent]

theorem Shows.attribute? (h : d.Shows parent n t) (key : String) :
    d.attribute? n key = t.attribute? key := by
  obtain ⟨e, he, -, -, -, hattributes⟩ := h.exists_element
  simp [Document.attribute?, he, hattributes]

-- The children of an element are the elements among the children in the tree.
theorem Shows.children (h : d.Shows parent n t) :
    List.Forall₂ (d.Shows (some n)) (d.children n) (t.children.filter Xml.Node.isElement) := by
  obtain ⟨helement, slot, hholds⟩ := h
  cases t with
  | element space name as ts =>
    obtain ⟨hentry, hbelow⟩ := hholds.element
    rw [children_of_element? hentry, Xml.Node.children, ← List.zipIdx_map_fst 0 (ts.filter _),
      List.forall₂_map_right_iff]
    exact hbelow.forall₂.imp fun c t hc => ⟨hc.1, t.2, hc.2⟩
  | text s => cases helement
  | comment s => cases helement
  | instruction target data => cases helement

theorem Shows.filter_children (h : d.Shows parent n t) (tag : String) :
    List.Forall₂ (d.Shows (some n)) ((d.children n).filter (d.name · == tag)) (t.named tag) := by
  refine List.rel_filter (fun c t hc => ?_) h.children
  simp only [hc.name]

-- Lists whose members go together have the same images.
private theorem map_eq_map_of_forall₂ {α β γ : Type} {R : α → β → Prop} {f : α → γ} {g : β → γ}
    {as : List α} {bs : List β} (h : List.Forall₂ R as bs) (hfg : ∀ a b, R a b → f a = g b) :
    as.map f = bs.map g := by
  induction h with
  | nil => rfl
  | cons hab _ ih => rw [List.map_cons, List.map_cons, hfg _ _ hab, ih]

theorem Shows.axis (h : d.Shows parent n t) : Axis.ofElement? d n = Axis.ofTree? t := by
  rw [Axis.ofElement?, Axis.ofTree?, h.attribute?, h.attribute?]

theorem Shows.record {family : Xml.Node} {m : ElementId} (hfamily : d.Shows parent m family)
    (h : d.Shows (some m) n t) (dir : Path) (source : LocaleSource) :
    Record.ofElement d n dir source = Record.ofTree family t dir source := by
  have hlocale : Record.localeOf d n source = source.ofTree family := by
    cases source with
    | family =>
      rw [Record.localeOf, h.parent?]
      exact hfamily.attribute? "lang"
    | documentParent => rfl
  have haxes : (d.childrenNamed n "axis").filterMap (Axis.ofElement? d) =
      (t.named "axis").filterMap Axis.ofTree? := by
    have hmap := map_eq_map_of_forall₂ (h.filter_children "axis") fun c t hc => hc.axis
    rw [childrenNamed_eq_filter]
    simpa [List.filterMap_map] using congrArg (List.filterMap id) hmap
  rw [Record.ofElement, Record.ofTree, h.text, h.attribute?, h.attribute?, h.attribute?, hlocale,
    haxes]

/-- The records of the fonts of a document are those of its tree. -/
theorem map_fonts_ofTree {root : Xml.Node} (h : root.isElement = true) (dir : Path)
    (source : LocaleSource) :
    ((ofTree root).fonts.map fun font => Record.ofElement (ofTree root) font dir source) =
      Record.allOfTree root dir source := by
  have hroot := shows_ofTree h
  have hfamilies : (ofTree root).families =
      ((ofTree root).children 0).filter ((ofTree root).name · == familyTag) := by
    rw [families, root?_ofTree h, Option.toList_some, List.flatMap_singleton]
  rw [fonts, List.map_flatMap, hfamilies, Record.allOfTree, List.flatMap_def, List.flatMap_def,
    map_eq_map_of_forall₂ (hroot.filter_children familyTag)]
  intro m family hfamily
  exact map_eq_map_of_forall₂ (hfamily.filter_children fontTag) fun n font hfont =>
    hfamily.record hfont dir source

end Document

end FontCatalog
