import FontCatalog.Proofs.Document.Navigation

/-!
# The tree of a document

A document is its tree, element by element: the numbers are the places of the addresses in document
order, and the links between the entries of the table are those between the elements of the tree.
-/

namespace FontCatalog.Document

/-- A document shows a tree. Elements of the tree are known by their addresses. -/
structure Represents (d : Document) (tree : Xml.Node) : Prop where
  /-- An address leads from an element to its child elements in turn. -/
  below : ∀ a t, tree.at? a = some t →
    ∀ i, tree.at? (a ++ [i]) = (t.children.filter Xml.Node.isElement)[i]?
  /-- Every element has a number, which is its place in document order. -/
  complete : ∀ a, a ∈ tree.addresses ↔ (tree.at? a).isSome
  sorted : tree.addresses.Pairwise Xml.Node.Before
  size : d.size = tree.addresses.length
  root : d.root? = some 0
  /-- Only the root has no parent. -/
  orphan : ∀ n < d.size, d.parent? n = none ↔ n = 0
  /-- Name, attributes and direct text are those of the element. -/
  content : ∀ n a, tree.addresses[n]? = some a → ∃ e t, d.element? n = some e ∧
    tree.at? a = some t ∧ e.name = t.name ∧ e.attributes = t.attributes ∧ e.text = t.ownText
  /-- The children are the child elements, in order. -/
  children : ∀ n a, tree.addresses[n]? = some a →
    ∀ i c, (d.children n)[i]? = some c ↔ tree.addresses[c]? = some (a ++ [i])
  /-- A child knows its parent and its place there. -/
  child : ∀ n i c, (d.children n)[i]? = some c →
    ∃ e, d.element? c = some e ∧ e.parent = some n ∧ e.slot = i
  /-- Children come after their parent and after the siblings before them. -/
  increasing : ∀ n, (n :: d.children n).Pairwise (· < ·)
  /-- Every element but the root is a child in one place. -/
  once : ∀ c, 0 < c → c < d.size → ∃! p : ElementId × Nat, (d.children p.1)[p.2]? = some c

variable {root : Xml.Node} {n c : ElementId} {i : Nat} {a : List Nat}

-- An element has the parent and the place that its address says.
theorem exists_element_ofTree (ha : root.addresses[n]? = some a) :
    ∃ e t, (ofTree root).element? n = some e ∧ root.at? a = some t ∧ e.name = t.name ∧
      e.attributes = t.attributes ∧ e.text = t.ownText ∧ (a = [] → e.parent = none) ∧
      ∀ b i, a = b ++ [i] → e.slot = i ∧ ∃ k, root.addresses[k]? = some b ∧ e.parent = some k := by
  obtain ⟨parent, slot, t, hat, ht, hholds, htop, hlinked⟩ := exists_holds_ofTree ha
  cases t with
  | element space name as ts =>
    exact ⟨_, _, hholds.element.1, hat, rfl, rfl, rfl, fun hnil => (htop hnil).1, hlinked⟩
  | text => cases ht
  | comment => cases ht
  | instruction => cases ht

theorem exists_address (h : ((ofTree root).element? n).isSome) :
    ∃ a, root.addresses[n]? = some a := by
  have hn := isSome_element?_iff.mp h
  rw [size_ofTree] at hn
  exact ⟨_, List.getElem?_eq_getElem hn⟩

-- A child has the address of its parent, continued by its place.
theorem address_of_children (ha : root.addresses[n]? = some a)
    (hc : ((ofTree root).children n)[i]? = some c) : root.addresses[c]? = some (a ++ [i]) := by
  obtain ⟨e, he, hparent, hslot⟩ := element?_of_children hc
  obtain ⟨b, hb⟩ := exists_address (Option.isSome_of_eq_some he)
  obtain ⟨e', -, he', -, -, -, -, htop, hlinked⟩ := exists_element_ofTree hb
  obtain rfl : e = e' := Option.some.inj (he.symm.trans he')
  rcases List.eq_nil_or_concat' b with rfl | ⟨b', j, rfl⟩
  · rw [htop rfl] at hparent
    cases hparent
  · obtain ⟨hslot', k, hk, hparent'⟩ := hlinked b' j rfl
    obtain rfl : k = n := Option.some.inj (hparent'.symm.trans hparent)
    obtain rfl : b' = a := Option.some.inj (hk.symm.trans ha)
    obtain rfl : j = i := hslot'.symm.trans hslot
    exact hb

theorem children_of_address (ha : root.addresses[n]? = some a)
    (hc : root.addresses[c]? = some (a ++ [i])) : ((ofTree root).children n)[i]? = some c := by
  obtain ⟨parent, slot, t, hat, ht, hholds, -⟩ := exists_holds_ofTree ha
  obtain ⟨-, -, u, hu, -⟩ := exists_holds_ofTree hc
  rw [Xml.Node.at?_append_singleton hat] at hu
  cases t with
  | element space name as ts =>
    obtain ⟨helement, hbelow⟩ := hholds.element
    -- There is a child in this place, and it has the address.
    obtain ⟨c', hc', -⟩ := hbelow.exists_child hu
    have hchild : ((ofTree root).children n)[i]? = some c' := by
      rw [children_of_element? helement]
      exact hc'
    rwa [Xml.Node.number_unique hc (address_of_children ha hchild)]
  | text => cases ht
  | comment => cases ht
  | instruction => cases ht

theorem pairwise_children (root : Xml.Node) (n : ElementId) :
    (n :: (ofTree root).children n).Pairwise (· < ·) := by
  -- The numbers are ordered as the addresses are.
  have haddress : ∀ c ∈ (ofTree root).children n, ∃ a, root.addresses[n]? = some a := by
    intro c hc
    have hn := lt_size_of_mem_children hc
    rw [size_ofTree] at hn
    exact ⟨_, List.getElem?_eq_getElem hn⟩
  rw [List.pairwise_cons, List.pairwise_iff_getElem]
  constructor
  · intro c hc
    obtain ⟨a, ha⟩ := haddress c hc
    obtain ⟨i, hi⟩ := List.getElem?_of_mem hc
    exact Xml.Node.lt_of_before ha (address_of_children ha hi) (.append_singleton a i)
  · intro i j hi hj hij
    obtain ⟨a, ha⟩ := haddress _ (List.getElem_mem hi)
    exact Xml.Node.lt_of_before (address_of_children ha (List.getElem?_eq_getElem hi))
      (address_of_children ha (List.getElem?_eq_getElem hj)) (.append_left a hij)

-- An element has no parent exactly if its address is that of the root.
theorem parent?_eq_none_iff (ha : root.addresses[n]? = some a) :
    (ofTree root).parent? n = none ↔ a = [] := by
  obtain ⟨e, -, he, -, -, -, -, htop, hlinked⟩ := exists_element_ofTree ha
  rw [parent?, he, Option.bind_some]
  refine ⟨fun hparent => ?_, htop⟩
  rcases List.eq_nil_or_concat' a with rfl | ⟨b, i, rfl⟩
  · rfl
  · obtain ⟨-, k, -, hparent'⟩ := hlinked b i rfl
    rw [hparent] at hparent'
    cases hparent'

theorem existsUnique_children {b : List Nat} (hc : root.addresses[c]? = some (b ++ [i])) :
    ∃! p : ElementId × Nat, ((ofTree root).children p.1)[p.2]? = some c := by
  obtain ⟨e, -, he, -, -, -, -, -, hlinked⟩ := exists_element_ofTree hc
  obtain ⟨hslot, k, hk, hparent⟩ := hlinked b i rfl
  refine ⟨(k, i), children_of_address hk hc, ?_⟩
  -- Where an element is a child is written in its own entry.
  rintro ⟨m, j⟩ hchild
  obtain ⟨e', he', hparent', hslot'⟩ := element?_of_children hchild
  obtain rfl : e = e' := Option.some.inj (he.symm.trans he')
  have hk' : k = m := Option.some.inj (hparent.symm.trans hparent')
  have hj : i = j := hslot.symm.trans hslot'
  rw [hk', hj]

/-- The document of an element and all that is below it shows this tree. -/
theorem represents_ofTree (space : Option String) (name : String)
    (attributes : List Xml.Attribute) (children : List Xml.Node) :
    (ofTree (.element space name attributes children)).Represents
      (.element space name attributes children) := by
  have hroot : (Xml.Node.element space name attributes children).addresses[0]? = some [] := by
    rw [Xml.Node.addresses, List.getElem?_cons_zero]
  have haddress : ∀ c < (ofTree (.element space name attributes children)).size,
      ∃ a, (Xml.Node.element space name attributes children).addresses[c]? = some a := by
    intro c hc
    rw [size_ofTree] at hc
    exact ⟨_, List.getElem?_eq_getElem hc⟩
  constructor
  case below => exact fun a t => Xml.Node.at?_append_singleton
  case complete => exact fun a => Xml.Node.mem_addresses rfl
  case sorted => exact Xml.Node.sorted_addresses _
  case size => exact size_ofTree _
  case root => exact root?_ofTree rfl
  case orphan =>
    intro n hn
    obtain ⟨a, ha⟩ := haddress n hn
    rw [parent?_eq_none_iff ha]
    constructor
    · rintro rfl
      exact Xml.Node.number_unique ha hroot
    · rintro rfl
      exact Option.some.inj (ha.symm.trans hroot)
  case content =>
    intro n a ha
    obtain ⟨e, t, he, hat, hname, hattributes, htext, -⟩ := exists_element_ofTree ha
    exact ⟨e, t, he, hat, hname, hattributes, htext⟩
  case children => exact fun n a ha i c => ⟨address_of_children ha, children_of_address ha⟩
  case child => exact fun n i c => element?_of_children
  case increasing => exact pairwise_children _
  case once =>
    intro c hc hsize
    obtain ⟨a, ha⟩ := haddress c hsize
    rcases List.eq_nil_or_concat' a with rfl | ⟨b, i, rfl⟩
    · exact absurd (Xml.Node.number_unique ha hroot) (Nat.ne_of_gt hc)
    · exact existsUnique_children ha

end FontCatalog.Document
