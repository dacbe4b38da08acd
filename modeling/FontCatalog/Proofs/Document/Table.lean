import FontCatalog.Document
import FontCatalog.Proofs.Xml.Addresses
import Mathlib.Data.List.Forall2

/-!
# Subtrees in the table

Where a subtree stands in the table of a document. A subtree takes up a stretch of the table that
begins with its own element, and the stretches of the children follow each other inside it. Every
element of a document begins the stretch of such a subtree.
-/

namespace FontCatalog

namespace Element

theorem tableOfAll_cons_element {parent : ElementId} {slot base : Nat} {t : Xml.Node}
    (h : t.isElement = true) (ts : List Xml.Node) :
    tableOfAll parent slot base (t :: ts) =
      let own := tableOf (some parent) slot base t
      let rest := tableOfAll parent (slot + 1) (base + own.length) ts
      (base :: rest.1, own ++ rest.2) := by
  rw [tableOfAll, if_pos h]

theorem tableOfAll_cons_other {parent : ElementId} {slot base : Nat} {t : Xml.Node}
    (h : t.isElement = false) (ts : List Xml.Node) :
    tableOfAll parent slot base (t :: ts) = tableOfAll parent slot base ts := by
  rw [tableOfAll, if_neg (by simp [h])]

mutual

-- The table of a tree has one entry for each of its addresses.
theorem length_tableOf (parent : Option ElementId) (slot base : Nat) :
    ∀ t : Xml.Node, (tableOf parent slot base t).length = t.addresses.length
  | .element space name as ts => by
    rw [tableOf, Xml.Node.addresses, List.length_cons, List.length_cons, length_tableOfAll]
  | .text _ => rfl
  | .comment _ => rfl
  | .instruction _ _ => rfl

theorem length_tableOfAll (parent : ElementId) (slot base : Nat) :
    ∀ ts : List Xml.Node,
      (tableOfAll parent slot base ts).2.length = (Xml.Node.addressesBelow slot ts).length
  | [] => rfl
  | t :: ts => by
    cases ht : t.isElement with
    | false =>
      rw [tableOfAll_cons_other ht, Xml.Node.addressesBelow_cons_other ht]
      exact length_tableOfAll parent slot base ts
    | true =>
      rw [tableOfAll_cons_element ht, Xml.Node.addressesBelow_cons_element ht, List.length_append,
        List.length_append, List.length_map, length_tableOf, length_tableOfAll]

end

/-- The addresses below a sibling have the numbers that follow that of the sibling. -/
theorem mem_zipIdx_addressesBelow {parent : ElementId} {slot base i m : Nat} {c : ElementId}
    {ts : List Xml.Node} {t : Xml.Node} {a : List Nat}
    (hc : (tableOfAll parent slot base ts).1[i]? = some c)
    (ht : (ts.filter Xml.Node.isElement)[i]? = some t) (ha : (a, m) ∈ t.addresses.zipIdx c) :
    ((slot + i) :: a, m) ∈ (Xml.Node.addressesBelow slot ts).zipIdx base := by
  induction ts generalizing slot base i with
  | nil => simp at ht
  | cons u ts ih =>
    cases hu : u.isElement with
    | false =>
      rw [tableOfAll_cons_other hu] at hc
      rw [List.filter_cons_of_neg (by simp [hu])] at ht
      rw [Xml.Node.addressesBelow_cons_other hu]
      exact ih hc ht
    | true =>
      rw [tableOfAll_cons_element hu] at hc
      rw [List.filter_cons_of_pos hu] at ht
      rw [Xml.Node.addressesBelow_cons_element hu, List.zipIdx_append, List.mem_append,
        List.length_map, List.zipIdx_map]
      cases i with
      | zero =>
        obtain rfl := Option.some.inj hc
        obtain rfl := Option.some.inj ht
        exact .inl (List.mem_map.mpr ⟨(a, m), ha, rfl⟩)
      | succ i =>
        rw [← length_tableOf (some parent) slot base u]
        have hlater := ih (i := i) hc ht
        rw [Nat.add_assoc, Nat.add_comm 1 i] at hlater
        exact .inr hlater

end Element

namespace Document

open Element

/-- A tree stands in the table from the number `n` on, below a parent and in a place among its
siblings. -/
def Holds (d : Document) (parent : Option ElementId) (slot : Nat) (n : ElementId)
    (t : Xml.Node) : Prop :=
  tableOf parent slot n t <+: d.elements.toList.drop n

/-- Siblings stand in the table one after the other from the number `base` on. -/
def HoldsAll (d : Document) (parent : ElementId) (slot base : Nat) (ts : List Xml.Node) : Prop :=
  (tableOfAll parent slot base ts).2 <+: d.elements.toList.drop base

private theorem prefix_drop_append {α : Type} {a b l : List α} {n : Nat}
    (h : a ++ b <+: l.drop n) : a <+: l.drop n ∧ b <+: l.drop (n + a.length) := by
  obtain ⟨c, hc⟩ := h
  refine ⟨⟨b ++ c, by rw [← hc, List.append_assoc]⟩, ⟨c, ?_⟩⟩
  rw [← List.drop_drop, ← hc, List.append_assoc, List.drop_left]

variable {d : Document} {parent : Option ElementId} {slot : Nat} {n : ElementId}

theorem holds_ofTree (t : Xml.Node) : (ofTree t).Holds none 0 0 t := by
  simp [Holds, ofTree]

theorem Holds.element {space : Option String} {name : String} {as : List Xml.Attribute}
    {ts : List Xml.Node} (h : d.Holds parent slot n (.element space name as ts)) :
    d.element? n = some
        { name, attributes := as.map fun a => (a.name, a.value)
          text := String.ofList (ts.flatMap Xml.Node.directText), parent
          children := (tableOfAll n 0 (n + 1) ts).1, slot } ∧
      d.HoldsAll n 0 (n + 1) ts := by
  rw [Holds, tableOf] at h
  change [_] ++ _ <+: _ at h
  obtain ⟨⟨rest, hfirst⟩, hbelow⟩ := prefix_drop_append h
  refine ⟨?_, hbelow⟩
  have hget : (d.elements.toList.drop n)[0]? = d.elements.toList[n]? := by
    rw [List.getElem?_drop, Nat.add_zero]
  rw [← hfirst] at hget
  simpa [element?] using hget.symm

theorem Holds.exists_element {t : Xml.Node} (ht : t.isElement = true)
    (h : d.Holds parent slot n t) :
    ∃ e, d.element? n = some e ∧ e.parent = parent ∧ e.slot = slot := by
  cases t with
  | element => exact ⟨_, h.element.1, rfl, rfl⟩
  | text => simp [Xml.Node.isElement] at ht
  | comment => simp [Xml.Node.isElement] at ht
  | instruction => simp [Xml.Node.isElement] at ht

theorem HoldsAll.cons {parent : ElementId} {base : Nat} {t : Xml.Node} {ts : List Xml.Node}
    (ht : t.isElement = true) (h : d.HoldsAll parent slot base (t :: ts)) :
    d.Holds (some parent) slot base t ∧
      d.HoldsAll parent (slot + 1) (base + (tableOf (some parent) slot base t).length) ts := by
  rw [HoldsAll, tableOfAll_cons_element ht] at h
  exact prefix_drop_append h

-- The children of an element are the elements among the children of its tree, in order.
theorem HoldsAll.forall₂ {parent : ElementId} {base : Nat} {ts : List Xml.Node}
    (h : d.HoldsAll parent slot base ts) :
    List.Forall₂ (fun c (t : Xml.Node × Nat) =>
        t.1.isElement = true ∧ d.Holds (some parent) t.2 c t.1)
      (tableOfAll parent slot base ts).1 ((ts.filter Xml.Node.isElement).zipIdx slot) := by
  -- Only elements take up places among the siblings and in the table.
  induction ts generalizing slot base with
  | nil => exact List.Forall₂.nil
  | cons t ts ih =>
    cases ht : t.isElement with
    | false =>
      rw [HoldsAll, tableOfAll_cons_other ht] at h
      rw [tableOfAll_cons_other ht, List.filter_cons_of_neg (by simp [ht])]
      exact ih h
    | true =>
      obtain ⟨hhead, htail⟩ := h.cons ht
      rw [tableOfAll_cons_element ht, List.filter_cons_of_pos ht, List.zipIdx_cons]
      exact List.Forall₂.cons ⟨ht, hhead⟩ (ih htail)

-- The element with a place among siblings has a number there.
theorem HoldsAll.exists_child {parent : ElementId} {base i : Nat} {ts : List Xml.Node}
    {t : Xml.Node} (h : d.HoldsAll parent slot base ts)
    (ht : (ts.filter Xml.Node.isElement)[i]? = some t) :
    ∃ c, (tableOfAll parent slot base ts).1[i]? = some c ∧ t.isElement = true ∧
      d.Holds (some parent) (slot + i) c t := by
  obtain ⟨hi, rfl⟩ := List.getElem?_eq_some_iff.mp ht
  have hall := h.forall₂
  have hi' : i < (tableOfAll parent slot base ts).1.length := by
    rw [hall.length_eq, List.length_zipIdx]
    exact hi
  obtain ⟨hchild, hholds⟩ := hall.get hi' (hall.length_eq ▸ hi')
  simp only [List.get_eq_getElem, List.getElem_zipIdx] at hchild hholds
  exact ⟨_, List.getElem?_eq_getElem hi', hchild, hholds⟩

/-- Every element of a tree that stands in the table begins a subtree there. Its number is the place
of its address, its slot ends the address, and its parent has what is before that. -/
theorem Holds.at? {t t' : Xml.Node} {a : List Nat} (h : d.Holds parent slot n t)
    (ht : t.isElement = true) (hat : t.at? a = some t') :
    ∃ parent' slot' m, (a, m) ∈ t.addresses.zipIdx n ∧ t'.isElement = true ∧
      d.Holds parent' slot' m t' ∧ (a = [] → parent' = parent ∧ slot' = slot) ∧
      ∀ b i, a = b ++ [i] → slot' = i ∧ ∃ k, (b, k) ∈ t.addresses.zipIdx n ∧ parent' = some k := by
  induction a generalizing parent slot n t with
  | nil =>
    obtain rfl := Option.some.inj hat
    refine ⟨parent, slot, n, ?_, ht, h, fun _ => ⟨rfl, rfl⟩, fun b i hb => by simp at hb⟩
    exact Xml.Node.mem_zipIdx_addresses ht n
  | cons j a ih =>
    cases t with
    | element space name as ts =>
      -- The way goes on from the child with this slot.
      obtain ⟨u, hu, hat⟩ := Option.bind_eq_some_iff.mp hat
      obtain ⟨c, hc, hchild, hholds⟩ := h.element.2.exists_child hu
      obtain ⟨parent', slot', m, hm, ht', hholds', htop, hlinked⟩ := ih hholds hchild hat
      have hbelow : ∀ {b k}, (b, k) ∈ u.addresses.zipIdx c →
          (j :: b, k) ∈ (Xml.Node.element space name as ts).addresses.zipIdx n := by
        intro b k hb
        have hnumber := mem_zipIdx_addressesBelow hc hu hb
        rw [Nat.zero_add] at hnumber
        rw [Xml.Node.addresses, List.zipIdx_cons]
        exact List.mem_cons_of_mem _ hnumber
      refine ⟨parent', slot', m, hbelow hm, ht', hholds', fun hnil => by simp at hnil, ?_⟩
      intro b i hsplit
      cases b with
      | nil =>
        obtain ⟨rfl, rfl⟩ := List.cons.inj hsplit
        obtain ⟨hparent, hslot⟩ := htop rfl
        exact ⟨hslot.trans (Nat.zero_add j), n, Xml.Node.mem_zipIdx_addresses rfl n, hparent⟩
      | cons _ b =>
        obtain ⟨rfl, hrest⟩ := List.cons.inj hsplit
        obtain ⟨hslot, k, hk, hparent⟩ := hlinked b i hrest
        exact ⟨hslot, k, hbelow hk, hparent⟩
    | text => cases ht
    | comment => cases ht
    | instruction => cases ht

theorem exists_ofTree (d : Document) : ∃ root, d = ofTree root := by
  obtain ⟨elements, root, rfl⟩ := d
  exact ⟨root, rfl⟩

-- Every number of a document is that of an address of its tree.
theorem exists_holds_ofTree {root : Xml.Node} {a : List Nat} (ha : root.addresses[n]? = some a) :
    ∃ parent slot t, root.at? a = some t ∧ t.isElement = true ∧
      (ofTree root).Holds parent slot n t ∧ (a = [] → parent = none ∧ slot = 0) ∧
      ∀ b i, a = b ++ [i] → slot = i ∧ ∃ k, root.addresses[k]? = some b ∧ parent = some k := by
  have hroot : root.isElement = true := by
    cases root with
    | element => rfl
    | text => simp [Xml.Node.addresses] at ha
    | comment => simp [Xml.Node.addresses] at ha
    | instruction => simp [Xml.Node.addresses] at ha
  obtain ⟨t, hat⟩ := Option.isSome_iff_exists.mp
    ((Xml.Node.mem_addresses hroot).mp (List.mem_of_getElem? ha))
  obtain ⟨parent, slot, m, hm, ht, hholds, htop, hlinked⟩ := (holds_ofTree root).at? hroot hat
  rw [List.mk_mem_zipIdx_iff_getElem?] at hm
  obtain rfl := Xml.Node.number_unique hm ha
  refine ⟨parent, slot, t, hat, ht, hholds, htop, ?_⟩
  intro b i hsplit
  obtain ⟨hslot, k, hk, hparent⟩ := hlinked b i hsplit
  exact ⟨hslot, k, List.mk_mem_zipIdx_iff_getElem?.mp hk, hparent⟩

theorem size_ofTree (root : Xml.Node) : (ofTree root).size = root.addresses.length := by
  rw [size, ofTree, List.size_toArray, length_tableOf]

-- The root element comes first in the table.
theorem root?_ofTree {root : Xml.Node} (h : root.isElement = true) :
    (ofTree root).root? = some 0 := by
  cases root with
  | element => simp [root?, ofTree, tableOf]
  | text => cases h
  | comment => cases h
  | instruction => cases h

/-- Every element begins a subtree. -/
theorem exists_holds (hn : n < d.size) :
    ∃ (parent : Option ElementId) (slot : Nat) (t : Xml.Node), t.isElement = true ∧
      d.Holds parent slot n t := by
  obtain ⟨root, rfl⟩ := d.exists_ofTree
  rw [size_ofTree] at hn
  obtain ⟨parent, slot, t, -, ht, hholds, -⟩ := exists_holds_ofTree (List.getElem?_eq_getElem hn)
  exact ⟨parent, slot, t, ht, hholds⟩

end Document

end FontCatalog
