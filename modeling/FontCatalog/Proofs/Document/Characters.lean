import FontCatalog.Proofs.Document.Representation
import FontCatalog.Proofs.Xml.Characters

/-!
# Characters that documents hold

What is true of the characters of a tree is true of the texts and attributes in its table. The
entities that may bring in other characters are those that the file of the document declares.
-/

namespace FontCatalog

theorem Xml.Node.Clean.at? {entities : List Entity} {root t : Node} {a : List Nat}
    (h : root.Clean entities) (hat : root.at? a = some t) : t.Clean entities := by
  induction a generalizing root with
  | nil =>
    obtain rfl := Option.some.inj hat
    exact h
  | cons i a ih =>
    obtain ⟨c, hc, hbelow⟩ := Option.bind_eq_some_iff.mp hat
    have hmem : c ∈ root.children := List.mem_of_mem_filter (List.mem_of_getElem? hc)
    cases h with
    | element has hcs => exact ih (hcs c hmem) hbelow
    | text | comment | instruction => cases hmem

theorem Xml.Node.Clean.ownText {entities : List Entity} {t : Node} (h : t.Clean entities) :
    Legal t.ownText := by
  intro c hc
  rw [Node.ownText, String.toList_ofList, List.mem_flatMap] at hc
  obtain ⟨child, hchild, hc⟩ := hc
  cases h with
  | element has hcs =>
    cases hcs child hchild with
    | text hs => exact hs c hc
    | comment | instruction | element => cases hc
  | text | comment | instruction => cases hchild

theorem Xml.Node.Clean.attributes {entities : List Entity} {t : Node} (h : t.Clean entities)
    {key value : String} (hmem : (key, value) ∈ t.attributes) :
    ∀ c ∈ value.toList, Admitted entities c := by
  cases h with
  | element has hcs =>
    obtain ⟨a, ha, heq⟩ := List.mem_map.mp hmem
    cases heq
    exact has a ha
  | text | comment | instruction => cases hmem

namespace Document

open Xml (Entity Node Admitted isXmlChar)

variable {entities : List Entity} {root : Node}

/-- The entities that the file at a path declares. -/
def entitiesOf (files : Files.Tree) (path : Path) : List Entity :=
  match files.read path with
  | .error _ => []
  | .ok bytes =>
    match Utf8.decode bytes with
    | .error _ => []
    | .ok text => (Xml.Scan.document text).1

theorem entitiesOf_eq {files : Files.Tree} {path : Path} {bytes : List UInt8} {text : List Char}
    (hread : files.read path = .ok bytes) (hdecode : Utf8.decode bytes = .ok text) :
    entitiesOf files path = (Xml.Scan.document text).1 := by
  simp only [entitiesOf, hread, hdecode]

-- An element of a table stands for one of the tree.
theorem exists_node {n : ElementId} {e : Element} (h : (ofTree root).element? n = some e) :
    ∃ a t, root.at? a = some t ∧ e.attributes = t.attributes ∧ e.text = t.ownText := by
  obtain ⟨a, ha⟩ := exists_address (Option.isSome_of_eq_some h)
  obtain ⟨e', t, he, hat, -, hattributes, htext, -⟩ := exists_element_ofTree ha
  obtain rfl : e = e' := Option.some.inj (h.symm.trans he)
  exact ⟨a, t, hat, hattributes, htext⟩

/-- The text of an element holds characters of a document. -/
theorem legal_text (h : root.Clean entities) (n : ElementId) :
    ∀ c ∈ ((ofTree root).text n).toList, isXmlChar c = true := by
  rw [text]
  cases he : (ofTree root).element? n with
  | none => simp
  | some e =>
    obtain ⟨a, t, hat, -, htext⟩ := exists_node he
    rw [Option.elim_some, htext]
    exact (h.at? hat).ownText

/-- An attribute holds characters of a document and of entities. -/
theorem admitted_attribute? (h : root.Clean entities) {n : ElementId} {key value : String}
    (hvalue : (ofTree root).attribute? n key = some value) :
    ∀ c ∈ value.toList, Admitted entities c := by
  obtain ⟨e, he, hlookup⟩ := Option.bind_eq_some_iff.mp hvalue
  obtain ⟨a, t, hat, hattributes, -⟩ := exists_node he
  obtain ⟨before, after, hsplit, -⟩ := List.lookup_eq_some_iff.mp hlookup
  have hmem : (key, value) ∈ t.attributes := by
    rw [← hattributes, hsplit]
    simp
  exact (h.at? hat).attributes hmem

/-- The document of a file is that of a clean tree. -/
theorem clean_load {files : Files.Tree} {path : Path} {d : Document} {log : List Log.Entry}
    (h : load files path = .ok (d, log)) :
    ∃ root, d = ofTree root ∧ root.Clean (entitiesOf files path) := by
  have hempty (entities : List Entity) : ∃ root, empty = ofTree root ∧ root.Clean entities :=
    ⟨.text "", rfl, .text (by simp [Xml.Legal])⟩
  unfold load at h
  split at h
  · rename_i hread
    cases h
    exact hempty _
  · rename_i bytes hread
    split at h
    · cases h
      exact hempty _
    · rename_i text hdecode
      obtain ⟨⟨d', log'⟩, hparse, h⟩ := exists_of_bind_ok h
      cases h
      rw [parse] at hparse
      split at hparse
      · rename_i root hroot
        cases hparse
        refine ⟨root, rfl, ?_⟩
        rw [entitiesOf_eq hread hdecode]
        exact Xml.clean_read hroot
      · cases hparse
        exact hempty _
      · cases hparse

end Document

end FontCatalog
