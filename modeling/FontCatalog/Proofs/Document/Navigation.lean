import FontCatalog.Proofs.Document.Table
import Mathlib.Data.List.Nodup
import Mathlib.Data.Finset.Card
import Mathlib.Data.Finset.Range

/-!
# Moving about in a document

Children and parents point at each other: a child knows its parent and its place there. So the
siblings after an element are what follows it among the children of its parent, and going from one
sibling to the next visits all children with a name, in order and once each.
-/

namespace FontCatalog.Document

open Element

variable {d : Document} {n c : ElementId} {i : Nat}

theorem isSome_element?_iff : (d.element? n).isSome ↔ n < d.size := by
  simp [element?, size]

theorem element?_eq_none_iff : d.element? n = none ↔ d.size ≤ n := by
  simp [element?, size]

theorem children_of_element? {e : Element} (h : d.element? n = some e) :
    d.children n = e.children := by
  simp [children, h]

theorem lt_size_of_mem_children (h : c ∈ d.children n) : n < d.size := by
  by_contra hn
  have hnone := element?_eq_none_iff.mpr (Nat.le_of_not_lt hn)
  simp [children, hnone] at h

theorem element?_of_children (h : (d.children n)[i]? = some c) :
    ∃ e, d.element? c = some e ∧ e.parent = some n ∧ e.slot = i := by
  have hn : n < d.size := lt_size_of_mem_children (List.mem_of_getElem? h)
  obtain ⟨parent, slot, t, ht, hholds⟩ := exists_holds hn
  cases t with
  | element space name as ts =>
    obtain ⟨helement, hbelow⟩ := hholds.element
    rw [children_of_element? helement] at h
    have hall := hbelow.forall₂
    obtain ⟨hi, rfl⟩ := List.getElem?_eq_some_iff.mp h
    obtain ⟨hchild, hbegins⟩ := hall.get hi (hall.length_eq ▸ hi)
    obtain ⟨e, he, hparent, hslot⟩ := hbegins.exists_element hchild
    refine ⟨e, he, hparent, ?_⟩
    rw [hslot, List.get_eq_getElem, List.getElem_zipIdx, Nat.zero_add]
  | text => simp [Xml.Node.isElement] at ht
  | comment => simp [Xml.Node.isElement] at ht
  | instruction => simp [Xml.Node.isElement] at ht

theorem parent?_of_mem_children (h : c ∈ d.children n) : d.parent? c = some n := by
  obtain ⟨i, hi⟩ := List.getElem?_of_mem h
  obtain ⟨e, he, hparent, -⟩ := element?_of_children hi
  simp [parent?, he, hparent]

theorem following_of_children (h : (d.children n)[i]? = some c) :
    d.following c = (d.children n).drop (i + 1) := by
  obtain ⟨e, he, hparent, hslot⟩ := element?_of_children h
  simp [following, he, hparent, hslot]

theorem nodup_children (d : Document) (n : ElementId) : (d.children n).Nodup := by
  -- A child that stood in two places would have two of them in its entry.
  rw [List.nodup_iff_injective_getElem]
  intro ⟨i, hi⟩ ⟨j, hj⟩ hij
  obtain ⟨e, he, -, hslot⟩ := element?_of_children (List.getElem?_eq_getElem hi)
  obtain ⟨e', he', -, hslot'⟩ := element?_of_children (List.getElem?_eq_getElem hj)
  simp only at hij
  rw [hij, he'] at he
  obtain rfl := Option.some.inj he
  exact Fin.ext (hslot.symm.trans hslot')

-- As many different elements as there are in a list are in the document.
theorem length_le_size_of_nodup {ns : List ElementId} (hnodup : ns.Nodup)
    (hmem : ∀ n ∈ ns, (d.element? n).isSome) : ns.length ≤ d.size := by
  have hsubset : ns.toFinset ⊆ Finset.range d.size := by
    intro n hn
    have hsome := hmem n (List.mem_toFinset.mp hn)
    exact Finset.mem_range.mpr (isSome_element?_iff.mp hsome)
  calc ns.length = ns.toFinset.card := (List.toFinset_card_of_nodup hnodup).symm
    _ ≤ (Finset.range d.size).card := Finset.card_le_card hsubset
    _ = d.size := Finset.card_range d.size

theorem isSome_element?_of_mem_children (h : c ∈ d.children n) : (d.element? c).isSome := by
  obtain ⟨i, hi⟩ := List.getElem?_of_mem h
  obtain ⟨e, he, -, -⟩ := element?_of_children hi
  simp [he]

theorem length_children_le_size (d : Document) (n : ElementId) :
    (d.children n).length ≤ d.size :=
  length_le_size_of_nodup (d.nodup_children n) fun _ => isSome_element?_of_mem_children

/-! ## Children by name -/

-- The next sibling is looked for after the element itself.
theorem nextSibling?_of_children {before after : List ElementId}
    (h : d.children n = before ++ c :: after) (tag : String) :
    d.nextSibling? c tag = after.find? (d.name · == tag) := by
  have hget : (d.children n)[before.length]? = some c := by simp [h]
  rw [nextSibling?, following_of_children hget, h, List.drop_append,
    List.drop_of_length_le (by omega), Nat.add_sub_cancel_left, List.nil_append,
    List.drop_one, List.tail_cons]

-- Going from sibling to sibling gives what is left of the children with a name.
theorem withNextSiblings_eq_filter {before after : List ElementId}
    (h : d.children n = before ++ after) (tag : String) {fuel : Nat}
    (hfuel : after.length ≤ fuel) :
    d.withNextSiblings tag fuel (after.find? (d.name · == tag)) =
      after.filter (d.name · == tag) := by
  -- The induction is on the children that are left. Those that were passed only name the place.
  induction after generalizing before fuel with
  | nil => cases fuel <;> rfl
  | cons c after ih =>
    have hrest : d.children n = (before ++ [c]) ++ after := by simp [h]
    by_cases hc : (d.name c == tag) = true
    · obtain ⟨fuel, rfl⟩ := Nat.exists_eq_add_of_lt hfuel
      simp only [List.find?_cons, List.filter_cons, hc, ↓reduceIte]
      rw [withNextSiblings, nextSibling?_of_children h tag, ih hrest (by omega)]
    · simp only [Bool.not_eq_true] at hc
      simp only [List.find?_cons, List.filter_cons, hc, Bool.false_eq_true, ↓reduceIte]
      exact ih hrest (by rw [List.length_cons] at hfuel; omega)

/-- The children with a name are all of them, in order. -/
theorem childrenNamed_eq_filter (d : Document) (n : ElementId) (tag : String) :
    d.childrenNamed n tag = (d.children n).filter (d.name · == tag) :=
  withNextSiblings_eq_filter (List.nil_append _).symm tag (d.length_children_le_size n)

end FontCatalog.Document
