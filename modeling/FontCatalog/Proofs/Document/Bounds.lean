import FontCatalog.Proofs.Document.Loading

/-!
# Moving about stays inside the table

Moving about in a document looks up elements by their numbers and cuts off the front of lists of
children. Here each of these accesses fails if it reaches outside of what is there. From an element
of the document none does, and each move leads to the child elements that the tree has.
-/

namespace FontCatalog

namespace Xml.Node

/-- The places of the child elements with a name, in order. -/
def places (t : Node) (tag : String) : List Nat :=
  (List.range (t.children.filter isElement).length).filter fun i =>
    (t.children.filter isElement)[i]?.any (·.name == tag)

/-- The number of the element at an address. -/
def number (t : Node) (a : List Nat) : Nat := t.addresses.idxOf a

theorem number_eq {t : Node} {n : Nat} {a : List Nat} (h : t.addresses[n]? = some a) :
    t.number a = n := by
  obtain ⟨hn, rfl⟩ := List.getElem?_eq_some_iff.mp h
  exact t.nodup_addresses.idxOf_getElem n hn

end Xml.Node

namespace Document

/-! ## Accesses that can fail -/

/-- An access that reaches outside of what is there. -/
inductive Outside where
  | index
  | slice
  deriving DecidableEq, Repr

/-- The entry of an element, which has to be there. -/
def entry (d : Document) (n : ElementId) : Except Outside Element :=
  (d.element? n).elim (.error .index) .ok

/-- A list without its first members, of which there have to be as many. -/
def sliceFrom (start : Nat) (ids : List ElementId) : Except Outside (List ElementId) :=
  if start ≤ ids.length then .ok (ids.drop start) else .error .slice

/-- The first of some elements that has a name. Elements up to it are looked at. -/
def findNamed (d : Document) (tag : String) : List ElementId → Except Outside (Option ElementId)
  | [] => .ok none
  | n :: ids => do
    let e ← d.entry n
    if e.name = tag then return some n else d.findNamed tag ids

/-- The first child with a name. -/
def firstChildOf (d : Document) (n : ElementId) (tag : String) :
    Except Outside (Option ElementId) := do
  d.findNamed tag (← d.entry n).children

/-- The next sibling with a name. -/
def nextSiblingOf (d : Document) (n : ElementId) (tag : String) :
    Except Outside (Option ElementId) := do
  let e ← d.entry n
  match e.parent with
  | none => return none
  | some parent => d.findNamed tag (← sliceFrom (e.slot + 1) (← d.entry parent).children)

/-- The first results of going from sibling to sibling, where `upcoming` comes next. After the first
result that is none there are only such. -/
def pulls (d : Document) (tag : String) : (count : Nat) → (upcoming : Option ElementId) →
    Except Outside (List (Option ElementId))
  | 0, _ => .ok []
  | count + 1, none => do return none :: (← d.pulls tag count none)
  | count + 1, some n => do
    let upcoming ← d.nextSiblingOf n tag
    return some n :: (← d.pulls tag count upcoming)

/-- The first results of going through the children with a name. -/
def childPulls (d : Document) (n : ElementId) (tag : String) (count : Nat) :
    Except Outside (List (Option ElementId)) := do
  d.pulls tag count (← d.firstChildOf n tag)

variable {d : Document} {root t u : Xml.Node} {n c : ElementId} {i j : Nat} {a b : List Nat}
  {tag : String} {ids before after : List ElementId}

theorem entry_eq_ok {e : Element} (h : d.element? n = some e) : d.entry n = .ok e := by
  rw [entry, h]
  rfl

theorem name_of_element? {e : Element} (h : d.element? n = some e) : d.name n = e.name := by
  rw [name, h]
  rfl

theorem findNamed_eq_ok (h : ∀ n ∈ ids, (d.element? n).isSome) :
    d.findNamed tag ids = .ok (ids.find? (d.name · == tag)) := by
  induction ids with
  | nil => rfl
  | cons n ids ih =>
    obtain ⟨hn, hids⟩ := List.forall_mem_cons.mp h
    obtain ⟨e, he⟩ := Option.isSome_iff_exists.mp hn
    rw [findNamed, entry_eq_ok he]
    change (if e.name = tag then Except.ok (some n) else d.findNamed tag ids) = _
    by_cases hname : e.name = tag
    · rw [if_pos hname, List.find?_cons_of_pos (by simp [name_of_element? he, hname])]
    · rw [if_neg hname, List.find?_cons_of_neg (by simp [name_of_element? he, hname]), ih hids]

theorem firstChildOf_eq_ok {e : Element} (h : d.element? n = some e) :
    d.firstChildOf n tag = .ok (d.firstChild? n tag) := by
  have hids : ∀ c ∈ e.children, (d.element? c).isSome := by
    intro c hc
    exact isSome_element?_of_mem_children (by rwa [children_of_element? h])
  rw [firstChildOf, entry_eq_ok h, firstChild?, children_of_element? h]
  exact findNamed_eq_ok hids

/-- An element with a parent stands in its slot among the children of the parent. -/
theorem children_of_parent {e : Element} {parent : ElementId} (h : d.element? n = some e)
    (hparent : e.parent = some parent) : (d.children parent)[e.slot]? = some n := by
  obtain ⟨root, rfl⟩ := d.exists_ofTree
  obtain ⟨a, ha⟩ := exists_address (Option.isSome_of_eq_some h)
  obtain ⟨e', -, he', -, -, -, -, htop, hlinked⟩ := exists_element_ofTree ha
  obtain rfl : e = e' := Option.some.inj (h.symm.trans he')
  rcases List.eq_nil_or_concat' a with rfl | ⟨b, i, rfl⟩
  · rw [htop rfl] at hparent
    cases hparent
  · obtain ⟨rfl, k, hk, hparent'⟩ := hlinked b i rfl
    obtain rfl : k = parent := Option.some.inj (hparent'.symm.trans hparent)
    exact children_of_address hk ha

-- The root has no siblings.
theorem nextSibling?_of_orphan {e : Element} (h : d.element? n = some e) (hparent : e.parent = none)
    (tag : String) : d.nextSibling? n tag = none := by
  have hfollowing : d.following n = [] := by simp [following, h, hparent]
  rw [nextSibling?, hfollowing]
  rfl

theorem nextSiblingOf_eq_ok {e : Element} (h : d.element? n = some e) :
    d.nextSiblingOf n tag = .ok (d.nextSibling? n tag) := by
  rw [nextSiblingOf, entry_eq_ok h]
  change (match e.parent with
    | none => Except.ok none
    | some parent => d.entry parent >>= fun e' =>
        sliceFrom (e.slot + 1) e'.children >>= d.findNamed tag) = _
  cases hparent : e.parent with
  | none => rw [nextSibling?_of_orphan h hparent]
  | some parent =>
    -- The element itself stands in its slot, so the slice begins inside the list or at its end.
    have hslot := children_of_parent h hparent
    have hparent' := lt_size_of_mem_children (List.mem_of_getElem? hslot)
    obtain ⟨e', he'⟩ := Option.isSome_iff_exists.mp (isSome_element?_iff.mpr hparent')
    obtain ⟨hlt, -⟩ := List.getElem?_eq_some_iff.mp hslot
    have hrest : ∀ c ∈ (d.children parent).drop (e.slot + 1), (d.element? c).isSome :=
      fun c hc => isSome_element?_of_mem_children (List.mem_of_mem_drop hc)
    rw [nextSibling?, following_of_children hslot]
    change (d.entry parent >>= fun e' => sliceFrom (e.slot + 1) e'.children >>= d.findNamed tag) = _
    rw [entry_eq_ok he', ← findNamed_eq_ok hrest]
    change (sliceFrom (e.slot + 1) e'.children >>= d.findNamed tag) = _
    rw [← children_of_element? he', sliceFrom, if_pos (Nat.succ_le_of_lt hlt)]
    rfl

theorem pulls_none (d : Document) (tag : String) (count : Nat) :
    d.pulls tag count none = .ok ((List.range count).map fun _ => none) := by
  induction count with
  | zero => rfl
  | succ count ih =>
    rw [pulls, ih, List.range_succ_eq_map, List.map_cons, List.map_map]
    rfl

-- The results are what is left of the children with a name, and none from then on.
theorem pulls_eq_ok (h : d.children n = before ++ after) (count : Nat) :
    d.pulls tag count (after.find? (d.name · == tag)) =
      .ok ((List.range count).map fun i => (after.filter (d.name · == tag))[i]?) := by
  induction after generalizing before count with
  | nil => exact pulls_none d tag count
  | cons c after ih =>
    have hrest : d.children n = (before ++ [c]) ++ after := by simp [h]
    by_cases hc : (d.name c == tag) = true
    · simp only [List.find?_cons, List.filter_cons, hc, ↓reduceIte]
      cases count with
      | zero => rfl
      | succ count =>
        obtain ⟨e, he⟩ := Option.isSome_iff_exists.mp
          (isSome_element?_of_mem_children (d := d) (n := n) (c := c) (by simp [h]))
        rw [pulls, nextSiblingOf_eq_ok he, nextSibling?_of_children h]
        change (d.pulls tag count (after.find? (d.name · == tag)) >>= fun rest =>
          Except.ok (some c :: rest)) = _
        rw [ih hrest, List.range_succ_eq_map, List.map_cons, List.map_map]
        rfl
    · simp only [Bool.not_eq_true] at hc
      simp only [List.find?_cons, List.filter_cons, hc, Bool.false_eq_true, ↓reduceIte]
      exact ih hrest count

theorem childPulls_eq_ok {e : Element} (h : d.element? n = some e) (count : Nat) :
    d.childPulls n tag count =
      .ok ((List.range count).map fun i => (d.childrenNamed n tag)[i]?) := by
  rw [childPulls, firstChildOf_eq_ok h, childrenNamed_eq_filter]
  exact pulls_eq_ok (List.nil_append _).symm count

/-! ## Where the moves lead -/

-- The element at an address is the one that has its number.
theorem addresses_number (h : root.isElement = true) (ha : (root.at? a).isSome) :
    root.addresses[root.number a]? = some a := by
  obtain ⟨m, hm⟩ := List.getElem?_of_mem ((Xml.Node.mem_addresses h).mpr ha)
  rwa [Xml.Node.number_eq hm]

/-- The children are the child elements, each under its own number. -/
theorem children_eq (h : root.isElement = true) (ha : root.addresses[n]? = some a)
    (hat : root.at? a = some t) :
    (ofTree root).children n =
      (List.range (t.children.filter Xml.Node.isElement).length).map fun i =>
        root.number (a ++ [i]) := by
  refine List.ext_getElem? fun i => ?_
  have hplace : (root.at? (a ++ [i])).isSome ↔
      i < (t.children.filter Xml.Node.isElement).length := by
    rw [Xml.Node.at?_append_singleton hat]
    simp
  rw [List.getElem?_map]
  by_cases hi : i < (t.children.filter Xml.Node.isElement).length
  · rw [List.getElem?_range hi]
    exact children_of_address ha (addresses_number h (hplace.mpr hi))
  · have hnone : (List.range (t.children.filter Xml.Node.isElement).length)[i]? = none := by
      simpa using hi
    rw [hnone]
    refine Option.eq_none_iff_forall_ne_some.mpr fun c hc => hi (hplace.mp ?_)
    exact (Xml.Node.mem_addresses h).mp (List.mem_of_getElem? (address_of_children ha hc))

-- The places of the children with a name are those where the tree has it.
theorem filter_name_eq_places (h : root.isElement = true) (hat : root.at? a = some t)
    (tag : String) :
    (List.range (t.children.filter Xml.Node.isElement).length).filter
        (((ofTree root).name · == tag) ∘ fun i => root.number (a ++ [i])) = t.places tag := by
  refine List.filter_congr fun i hi => ?_
  have hchild := (Xml.Node.at?_append_singleton hat i).trans
    (List.getElem?_eq_getElem (List.mem_range.mp hi))
  obtain ⟨e, c, he, hc, hname, -⟩ :=
    exists_element_ofTree (addresses_number h (Option.isSome_of_eq_some hchild))
  rw [Function.comp_apply, name_of_element? he, hname, ← Xml.Node.at?_append_singleton hat i, hc]
  rfl

theorem childrenNamed_eq (h : root.isElement = true) (ha : root.addresses[n]? = some a)
    (hat : root.at? a = some t) (tag : String) :
    (ofTree root).childrenNamed n tag = (t.places tag).map fun i => root.number (a ++ [i]) := by
  rw [childrenNamed_eq_filter, children_eq h ha hat, List.filter_map,
    filter_name_eq_places h hat]

theorem firstChild?_eq_head? (d : Document) (n : ElementId) (tag : String) :
    d.firstChild? n tag = (d.childrenNamed n tag).head? := by
  rw [childrenNamed_eq_filter, List.head?_filter, firstChild?]

-- A filter that leaves out the first part of a list and keeps the rest.
theorem filter_append_eq_right {α : Type} {p : α → Bool} {xs ys : List α}
    (hleft : ∀ x ∈ xs, ¬ p x = true) (hkept : ∀ y ∈ ys, p y = true) :
    (xs ++ ys).filter p = ys := by
  rw [List.filter_append, List.filter_eq_nil_iff.mpr hleft, List.filter_eq_self.mpr hkept,
    List.nil_append]

-- What comes after a place in a range is what is greater.
theorem drop_range_eq_filter {count : Nat} (h : i < count) :
    (List.range count).drop (i + 1) = (List.range count).filter (i < ·) := by
  obtain ⟨rest, rfl⟩ := Nat.exists_eq_add_of_le (Nat.succ_le_of_lt h)
  have hbefore : ∀ j ∈ List.range (i + 1), ¬ decide (i < j) = true := by
    intro j hj
    simpa [Nat.lt_succ_iff] using hj
  have hafter : ∀ j ∈ (List.range rest).map (i + 1 + ·), decide (i < j) = true := by
    intro j hj
    obtain ⟨k, -, rfl⟩ := List.mem_map.mp hj
    exact decide_eq_true (by omega)
  rw [List.range_add, List.drop_left' List.length_range, filter_append_eq_right hbefore hafter]

theorem nextSibling?_eq (h : root.isElement = true) (ha : root.addresses[n]? = some (a ++ [i]))
    (hat : root.at? a = some t) (tag : String) :
    (ofTree root).nextSibling? n tag =
      ((t.places tag).find? (i < ·)).map fun j => root.number (a ++ [j]) := by
  have hparent := addresses_number h (Option.isSome_of_eq_some hat)
  have hplace : i < (t.children.filter Xml.Node.isElement).length := by
    have hsome := (Xml.Node.mem_addresses h).mp (List.mem_of_getElem? ha)
    rw [Xml.Node.at?_append_singleton hat] at hsome
    simpa using hsome
  rw [nextSibling?, following_of_children (children_of_address hparent ha),
    children_eq h hparent hat, ← List.map_drop, drop_range_eq_filter hplace, List.find?_map,
    ← List.head?_filter, List.filter_comm, filter_name_eq_places h hat, List.head?_filter]

theorem nextSibling?_of_root (ha : root.addresses[n]? = some []) (tag : String) :
    (ofTree root).nextSibling? n tag = none := by
  have hparent := (parent?_eq_none_iff ha).mpr rfl
  obtain ⟨e, -, he, -⟩ := exists_element_ofTree ha
  rw [parent?, he, Option.bind_some] at hparent
  exact nextSibling?_of_orphan he hparent tag

/-- Moving about in a document from the element with an address, where a name is looked for. -/
structure Moves (d : Document) (tree : Xml.Node) (a : List Nat) (t : Xml.Node) (tag : String) :
    Prop where
  /-- No access on the way to the first child is outside. -/
  firstChild_ok : d.firstChildOf (tree.number a) tag = .ok (d.firstChild? (tree.number a) tag)
  /-- The first child with the name is the first child element of the tree that has it. -/
  firstChild : d.firstChild? (tree.number a) tag =
    (t.places tag).head?.map fun i => tree.number (a ++ [i])
  nextSibling_ok : d.nextSiblingOf (tree.number a) tag = .ok (d.nextSibling? (tree.number a) tag)
  /-- The next sibling is the first one with the name in a later place. -/
  nextSibling : ∀ b i u, a = b ++ [i] → tree.at? b = some u → d.nextSibling? (tree.number a) tag =
    ((u.places tag).find? (i < ·)).map fun j => tree.number (b ++ [j])
  nextSibling_root : a = [] → d.nextSibling? (tree.number a) tag = none
  /-- The children with the name are all child elements that have it, in order. -/
  childrenNamed : d.childrenNamed (tree.number a) tag =
    (t.places tag).map fun i => tree.number (a ++ [i])
  /-- None is passed twice. -/
  increasing : (d.childrenNamed (tree.number a) tag).Pairwise (· < ·)
  /-- Going through the children gives one after the other, and nothing from then on. -/
  childPulls_ok : ∀ count, d.childPulls (tree.number a) tag count =
    .ok ((List.range count).map fun i => (d.childrenNamed (tree.number a) tag)[i]?)

theorem moves_ofTree (h : root.isElement = true) (hat : root.at? a = some t) (tag : String) :
    (ofTree root).Moves root a t tag := by
  have ha := addresses_number h (Option.isSome_of_eq_some hat)
  obtain ⟨e, -, he, -⟩ := exists_element_ofTree ha
  have hnamed := childrenNamed_eq h ha hat tag
  refine ⟨firstChildOf_eq_ok he, ?firstChild, nextSiblingOf_eq_ok he, ?nextSibling, ?root, hnamed,
    ?increasing, childPulls_eq_ok he⟩
  case firstChild => rw [firstChild?_eq_head?, hnamed, List.head?_map]
  case nextSibling =>
    rintro b i u rfl hu
    exact nextSibling?_eq h ha hu tag
  case root =>
    rintro rfl
    exact nextSibling?_of_root ha tag
  case increasing =>
    rw [childrenNamed_eq_filter]
    exact (pairwise_children root _).of_cons.filter _

theorem parse_cases {xml : List Char} {log : List Log.Entry} (h : parse xml = .ok (d, log)) :
    (∃ tree, Xml.read xml = .ok tree ∧ d = ofTree tree) ∨ d = empty := by
  rw [parse] at h
  split at h
  · rename_i tree hread
    cases h
    exact .inl ⟨tree, hread, rfl⟩
  · cases h
    exact .inr rfl
  · cases h

/-- Whatever element of a document of an XML text one is at, and whatever name is looked for, moving
about stays inside the table and leads to the elements that the tree of the text has there. -/
theorem moves_of_parse (xml : List Char) (d : Document) (log : List Log.Entry)
    (h : parse xml = .ok (d, log)) (n : ElementId) (hn : n < d.size) (tag : String) :
    ∃ tree a t, Xml.read xml = .ok tree ∧ tree.addresses[n]? = some a ∧ tree.number a = n ∧
      tree.at? a = some t ∧ d.Moves tree a t tag := by
  rcases parse_cases h with ⟨tree, hread, rfl⟩ | rfl
  · have htree := Xml.isElement_of_read hread
    rw [size_ofTree] at hn
    have ha := List.getElem?_eq_getElem hn
    obtain ⟨-, t, -, hat, -⟩ := exists_element_ofTree ha
    exact ⟨tree, _, t, hread, ha, Xml.Node.number_eq ha, hat, moves_ofTree htree hat tag⟩
  · cases hn

/-- Two families with an alias between them. -/
def twoFamiliesText : List Char :=
  "<familyset><family/><alias/><family>a<font/><axis/><font/></family></familyset>".toList

/-- The document of two families with an alias between them. -/
def twoFamilies : Document :=
  ofTree (.element none "familyset" [] [.element none "family" [] [], .element none "alias" [] [],
    .element none "family" [] [.text "a", .element none "font" [] [], .element none "axis" [] [],
      .element none "font" [] []]])

-- The font is a last child, so nothing is left of the children behind it.
theorem moves_of_parse_lastChild :
    parse twoFamiliesText = .ok (twoFamilies, []) ∧ 6 < twoFamilies.size ∧
      ∃ tree a t, Xml.read twoFamiliesText = .ok tree ∧ tree.addresses[6]? = some a ∧
        tree.number a = 6 ∧ tree.at? a = some t ∧ twoFamilies.Moves tree a t "font" := by
  have hparse : parse twoFamiliesText = .ok (twoFamilies, []) := by decide +kernel
  have hlast : 6 < twoFamilies.size := by decide
  exact ⟨hparse, hlast, moves_of_parse twoFamiliesText twoFamilies [] hparse 6 hlast "font"⟩

end Document

end FontCatalog
