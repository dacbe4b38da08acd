import FontCatalog.Proofs.Walk.Fonts
import Mathlib.Data.List.Forall2

/-!
# Documents of the same shape

Two documents whose elements go together one by one. Where the elements that go together have the
same names, texts and places, so do the documents have the same fonts, whatever attributes they
have.
-/

namespace FontCatalog

/-- The same element, up to its attributes. -/
structure Element.SameShape (e e' : Element) : Prop where
  name : e.name = e'.name
  text : e.text = e'.text
  parent : e.parent = e'.parent
  children : e.children = e'.children
  slot : e.slot = e'.slot

namespace Document

/-- As many elements, which go together in their order. -/
structure Alike (R : Element → Element → Prop) (d d' : Document) : Prop where
  size : d.size = d'.size
  element : ∀ {n e e'}, d.element? n = some e → d'.element? n = some e' → R e e'

namespace Alike

variable {R S : Element → Element → Prop} {d d' : Document}

theorem of_forall₂ (h : List.Forall₂ R d.elements.toList d'.elements.toList) : d.Alike R d' where
  size := h.length_eq
  element := by
    intro n e e' he he'
    obtain ⟨hn, rfl⟩ := Array.getElem?_eq_some_iff.mp he
    obtain ⟨hn', rfl⟩ := Array.getElem?_eq_some_iff.mp he'
    exact h.get hn hn'

theorem imp (h : d.Alike R d') (hRS : ∀ e e', R e e' → S e e') : d.Alike S d' :=
  ⟨h.size, fun he he' => hRS _ _ (h.element he he')⟩

theorem element? (h : d.Alike R d') (n : ElementId) :
    Option.Rel R (d.element? n) (d'.element? n) := by
  have hsize : d.elements.size = d'.elements.size := h.size
  by_cases hn : n < d.elements.size
  · have he : d.element? n = some d.elements[n] := Array.getElem?_eq_getElem hn
    have he' : d'.element? n = some d'.elements[n] := Array.getElem?_eq_getElem (hsize ▸ hn)
    rw [he, he']
    exact .some (h.element he he')
  · have he : d.element? n = none := Array.getElem?_eq_none (Nat.le_of_not_lt hn)
    have he' : d'.element? n = none := Array.getElem?_eq_none (Nat.le_of_not_lt (hsize ▸ hn))
    rw [he, he']
    exact .none

-- What is read from elements that go together is the same if it is the same for each two.
theorem read_eq {α : Type} (h : d.Alike R d') {f : Option Element → α}
    (hf : ∀ e e', R e e' → f (some e) = f (some e')) (n : ElementId) :
    f (d.element? n) = f (d'.element? n) := by
  have he := h.element? n
  generalize d.element? n = e, d'.element? n = e' at he
  cases he with
  | none => rfl
  | some he => exact hf _ _ he

end Alike

/-- The same elements in the same order, up to their attributes. -/
abbrev SameShape (d d' : Document) : Prop := d.Alike Element.SameShape d'

namespace SameShape

variable {d d' : Document}

theorem name (h : d.SameShape d') : d.name = d'.name :=
  funext (h.read_eq (f := (Option.elim · "" Element.name)) fun _ _ he => he.name)

theorem text (h : d.SameShape d') : d.text = d'.text :=
  funext (h.read_eq (f := (Option.elim · "" Element.text)) fun _ _ he => he.text)

theorem parent? (h : d.SameShape d') : d.parent? = d'.parent? :=
  funext (h.read_eq (f := (Option.bind · Element.parent)) fun _ _ he => he.parent)

theorem children (h : d.SameShape d') : d.children = d'.children :=
  funext (h.read_eq (f := (Option.elim · [] Element.children)) fun _ _ he => he.children)

theorem childrenNamed (h : d.SameShape d') : d.childrenNamed = d'.childrenNamed := by
  funext n tag
  rw [childrenNamed_eq_filter, childrenNamed_eq_filter, h.children, h.name]

theorem fonts (h : d.SameShape d') : d.fonts = d'.fonts := by
  have hroot : d.root? = d'.root? := by
    have hsize : d.elements.size = d'.elements.size := h.size
    simp [Document.root?, Array.isEmpty, hsize]
  have hbelow : d.fontsBelow = d'.fontsBelow := by
    funext family
    rw [fontsBelow, fontsBelow, h.children, h.name]
  rw [Document.fonts, Document.fonts, families, families, hroot, h.children, h.name, hbelow]

end SameShape

end Document

end FontCatalog
