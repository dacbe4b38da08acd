import FontCatalog.Proofs.Document.Shape

/-!
# Documents that differ in attributes

Two documents with the same elements, whose attributes are the same where they belong to families
and otherwise may differ in any way. They have the same fonts, and these have the same texts and
their families the same attributes.
-/

namespace FontCatalog

/-- The same element, up to the attributes of an element that is no family. -/
structure Element.Agrees (e e' : Element) : Prop where
  name : e.name = e'.name
  text : e.text = e'.text
  parent : e.parent = e'.parent
  children : e.children = e'.children
  slot : e.slot = e'.slot
  attributes : e.name = Document.familyTag → e.attributes = e'.attributes

namespace Document

/-- The same elements in the same order, up to the attributes of those that are no families. -/
structure Agrees (d d' : Document) : Prop where
  size : d.size = d'.size
  element : ∀ {n e e'}, d.element? n = some e → d'.element? n = some e' → e.Agrees e'

namespace Agrees

variable {d d' : Document} {n font : ElementId}

-- Documents agree if their elements do, one by one.
theorem of_forall₂ (h : List.Forall₂ Element.Agrees d.elements.toList d'.elements.toList) :
    d.Agrees d' :=
  have halike := Alike.of_forall₂ h
  ⟨halike.size, halike.element⟩

theorem sameShape (h : d.Agrees d') : d.SameShape d' where
  size := h.size
  element := by
    intro n e e' he he'
    obtain ⟨hname, htext, hparent, hchildren, hslot, -⟩ := h.element he he'
    exact ⟨hname, htext, hparent, hchildren, hslot⟩

theorem text (h : d.Agrees d') : d.text = d'.text := h.sameShape.text

theorem fonts (h : d.Agrees d') : d.fonts = d'.fonts := h.sameShape.fonts

theorem attribute? (h : d.Agrees d') (hfamily : d.name n = familyTag) :
    d.attribute? n = d'.attribute? n := by
  funext key
  have he := Alike.element? ⟨h.size, h.element⟩ n
  rw [Document.name] at hfamily
  rw [Document.attribute?, Document.attribute?]
  generalize d.element? n = e, d'.element? n = e' at he hfamily
  cases he with
  | none => rfl
  | some he => exact congrArg (List.lookup key) (he.attributes hfamily)

/-- The locale of a font comes from its family, and so do its attributes that matter to it. -/
theorem localeOf (h : d.Agrees d') (hfont : font ∈ d.fonts) (source : LocaleSource) :
    Record.localeOf d font source = Record.localeOf d' font source := by
  cases source with
  | documentParent => rfl
  | family =>
    obtain ⟨_, family, -, ⟨-, hname⟩, hchild, -⟩ := mem_fonts.mp hfont
    have hparent : d.parent? font = some family := parent?_of_mem_children hchild
    have hparent' : d'.parent? font = some family := h.sameShape.parent? ▸ hparent
    rw [Record.localeOf, Record.localeOf, hparent, hparent']
    exact congrFun (h.attribute? hname) "lang"

end Agrees

end Document

end FontCatalog
