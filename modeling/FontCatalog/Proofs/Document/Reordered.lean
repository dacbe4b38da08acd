import FontCatalog.Proofs.Document.Shape
import FontCatalog.Proofs.Document.Table
import FontCatalog.Proofs.Xml.Reordered
import FontCatalog.Record

/-!
# Documents with attributes in another order

The table of a tree keeps the attributes of each element in their order and without their
namespaces, and the first one with a key is read. So from elements with attributes in another order
the same is read with a key, if all attributes with that key have the same value. A record is read
with a few keys, by the names of the elements.
-/

namespace FontCatalog

/-- The same element, up to the order of its attributes. -/
structure Element.Reordered (e e' : Element) : Prop extends Element.SameShape e e' where
  attributes : e.attributes.Perm e'.attributes

namespace Element

/-- The elements below siblings go together, and the siblings have the same numbers. -/
def SameBelow (nodes nodes' : List Xml.Node) : Prop :=
  ∀ parent slot base,
    (tableOfAll parent slot base nodes).1 = (tableOfAll parent slot base nodes').1 ∧
      List.Forall₂ Element.Reordered (tableOfAll parent slot base nodes).2
        (tableOfAll parent slot base nodes').2

variable {nodes nodes' : List Xml.Node}

theorem directText_reordered (h : Xml.Node.Reordered nodes nodes') :
    nodes.flatMap Xml.Node.directText = nodes'.flatMap Xml.Node.directText := by
  induction h with
  | nil => rfl
  | element _ _ _ _ ih => exact ih
  | other _ _ ih => rw [List.flatMap_cons, List.flatMap_cons, ih]

theorem tableOf_reordered (space space' : Option String) (name : String)
    {as as' : List Xml.Attribute} (has : as.Perm as') (h : Xml.Node.Reordered nodes nodes')
    (hbelow : SameBelow nodes nodes') (parent : Option ElementId) (slot base : Nat) :
    List.Forall₂ Element.Reordered (tableOf parent slot base (.element space name as nodes))
      (tableOf parent slot base (.element space' name as' nodes')) := by
  obtain ⟨hids, hrest⟩ := hbelow base 0 (base + 1)
  rw [tableOf, tableOf]
  refine .cons ⟨⟨rfl, ?_, rfl, hids, rfl⟩, has.map _⟩ hrest
  exact congrArg String.ofList (directText_reordered h)

theorem sameBelow (h : Xml.Node.Reordered nodes nodes') : SameBelow nodes nodes' := by
  -- The induction is on the siblings. What stands below an element comes before the next one.
  induction h with
  | nil => exact fun _ _ _ => ⟨rfl, .nil⟩
  | @element space space' name as as' _ _ _ _ has hchildren _ hbelow ih =>
    intro parent slot base
    have hown := tableOf_reordered space space' name has hchildren hbelow (some parent) slot base
    obtain ⟨hids, hrest⟩ := ih parent (slot + 1)
      (base + (tableOf (some parent) slot base (.element space name as _)).length)
    rw [tableOfAll_cons_element rfl, tableOfAll_cons_element rfl]
    simp only [← hown.length_eq]
    exact ⟨congrArg (base :: ·) hids, List.rel_append hown hrest⟩
  | other hnode _ ih =>
    intro parent slot base
    rw [tableOfAll_cons_other hnode, tableOfAll_cons_other hnode]
    exact ih parent slot base

end Element

namespace Document

/-- The same elements in the same order, up to the order of their attributes. -/
abbrev Reordered (d d' : Document) : Prop := d.Alike Element.Reordered d'

theorem ofTree_reordered {root root' : Xml.Node} (h : Xml.Node.Reordered [root] [root']) :
    (ofTree root).Reordered (ofTree root') := by
  refine .of_forall₂ ?_
  cases h with
  | @element space space' name _ _ _ _ _ _ has hchildren _ =>
    exact Element.tableOf_reordered space space' name has hchildren (Element.sameBelow hchildren)
      none 0 0
  | other hnode _ =>
    cases root with
    | element => cases hnode
    | text | comment | instruction => exact .nil

/-- Two texts that differ in the order of attributes are read as documents that differ in it, with
the same warnings, or reading breaks down on both. -/
theorem parse_reordered {s s' : List Char} (h : Xml.Reordered s s') :
    EndAlike (fun r r' => r.1.Reordered r'.1 ∧ r.2 = r'.2) (parse s) (parse s') := by
  have hread := h.read
  unfold parse
  generalize Xml.read s = x, Xml.read s' = x' at hread
  cases hread with
  | error e =>
    cases e with
    | malformed => exact .ok ⟨ofTree_reordered (.refl _), rfl⟩
    | nothingOpen => exact .error _
  | ok hroot => exact .ok ⟨ofTree_reordered hroot, rfl⟩

/-! ## Reading attributes -/

/-- All attributes of an element with a key have the same value. -/
def OneValue (d : Document) (n : ElementId) (key : String) : Prop :=
  ∀ e ∈ d.element? n, ∀ v v', (key, v) ∈ e.attributes → (key, v') ∈ e.attributes → v = v'

/-- The keys of the attributes that records are read from, by the name of the element. -/
def keysOf (name : String) : List String :=
  if name = familyTag then ["lang"]
  else if name = fontTag then ["weight", "style", "index"]
  else if name = "axis" then ["tag", "stylevalue"]
  else []

/-- No attribute that records are read from has two values. -/
def Unambiguous (d : Document) : Prop := ∀ n, ∀ key ∈ keysOf (d.name n), d.OneValue n key

variable {d d' : Document} {n font : ElementId} {key : String}

/-- No attribute has two values if the attributes of every element have different keys. -/
theorem unambiguous_of_nodup (h : ∀ e ∈ d.elements, (e.attributes.map (·.1)).Nodup) :
    d.Unambiguous := by
  intro n key _ e he v v' hv hv'
  obtain ⟨hn, rfl⟩ := Array.getElem?_eq_some_iff.mp he
  have hinj := List.inj_on_of_nodup_map (h _ (Array.getElem_mem hn)) hv hv' rfl
  exact congrArg Prod.snd hinj

theorem mem_of_lookup {attributes : List (String × String)} {value : String}
    (h : attributes.lookup key = some value) : (key, value) ∈ attributes := by
  obtain ⟨before, after, rfl, -⟩ := List.lookup_eq_some_iff.mp h
  exact List.mem_append_right before List.mem_cons_self

theorem lookup_perm {attributes attributes' : List (String × String)}
    (hperm : attributes.Perm attributes')
    (hone : ∀ v v', (key, v) ∈ attributes → (key, v') ∈ attributes → v = v') :
    attributes.lookup key = attributes'.lookup key := by
  cases hlookup : attributes.lookup key with
  | none =>
    rw [List.lookup_eq_none_iff] at hlookup
    exact (List.lookup_eq_none_iff.mpr fun a ha => hlookup a (hperm.mem_iff.mpr ha)).symm
  | some v =>
    have hv := mem_of_lookup hlookup
    cases hlookup' : attributes'.lookup key with
    | none =>
      rw [List.lookup_eq_none_iff] at hlookup'
      exact absurd (hlookup' _ (hperm.mem_iff.mp hv)) (by simp)
    | some v' => rw [hone v v' hv (hperm.mem_iff.mpr (mem_of_lookup hlookup'))]

namespace Reordered

theorem sameShape (h : d.Reordered d') : d.SameShape d' :=
  h.imp fun _ _ he => he.toSameShape

/-- With a key that has one value, the same is read from attributes in any order. -/
theorem attribute?_eq (h : d.Reordered d') (hkey : d.OneValue n key) :
    d.attribute? n key = d'.attribute? n key := by
  have he := h.element? n
  rw [OneValue] at hkey
  rw [attribute?, attribute?]
  generalize d.element? n = e, d'.element? n = e' at he hkey
  cases he with
  | none => rfl
  | some he => exact lookup_perm he.attributes (hkey _ rfl)

theorem axis_eq (h : d.Reordered d') (hd : d.Unambiguous) (hname : d.name n = "axis") :
    Axis.ofElement? d n = Axis.ofElement? d' n := by
  have hkeys : keysOf (d.name n) = ["tag", "stylevalue"] := by rw [hname]; decide
  rw [Axis.ofElement?, Axis.ofElement?, h.attribute?_eq (hd n "tag" (by simp [hkeys])),
    h.attribute?_eq (hd n "stylevalue" (by simp [hkeys]))]

theorem localeOf_eq (h : d.Reordered d') (hd : d.Unambiguous) (hfont : font ∈ d.fonts)
    (source : LocaleSource) : Record.localeOf d font source = Record.localeOf d' font source := by
  cases source with
  | documentParent => rfl
  | family =>
    obtain ⟨_, family, -, ⟨-, hname⟩, hchild, -⟩ := mem_fonts.mp hfont
    have hkeys : keysOf (d.name family) = ["lang"] := by rw [hname]; decide
    have hparent : d.parent? font = some family := parent?_of_mem_children hchild
    have hparent' : d'.parent? font = some family := h.sameShape.parent? ▸ hparent
    rw [Record.localeOf, Record.localeOf, hparent, hparent']
    exact h.attribute?_eq (hd family "lang" (by simp [hkeys]))

/-- The records of a font are the same if no attribute that is read has two values. -/
theorem ofElement_eq (h : d.Reordered d') (hd : d.Unambiguous) (hfont : font ∈ d.fonts) (dir : Path)
    (source : LocaleSource) :
    Record.ofElement d font dir source = Record.ofElement d' font dir source := by
  obtain ⟨_, _, -, -, -, hname⟩ := mem_fonts.mp hfont
  have hkeys : keysOf (d.name font) = ["weight", "style", "index"] := by rw [hname]; decide
  have haxes : (d.childrenNamed font "axis").filterMap (Axis.ofElement? d) =
      (d'.childrenNamed font "axis").filterMap (Axis.ofElement? d') := by
    rw [← h.sameShape.childrenNamed]
    refine List.filterMap_congr fun n hn => h.axis_eq hd ?_
    rw [childrenNamed_eq_filter, List.mem_filter] at hn
    exact beq_iff_eq.mp hn.2
  rw [Record.ofElement, Record.ofElement, h.sameShape.text, h.localeOf_eq hd hfont, haxes,
    h.attribute?_eq (hd font "weight" (by simp [hkeys])),
    h.attribute?_eq (hd font "style" (by simp [hkeys])),
    h.attribute?_eq (hd font "index" (by simp [hkeys]))]

end Reordered

end Document

end FontCatalog
