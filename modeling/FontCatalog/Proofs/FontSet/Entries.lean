import FontCatalog.Proofs.Number.Decimal
import FontCatalog.Proofs.Number.Spelling
import FontCatalog.Proofs.Xml.Print
import FontCatalog.Record

/-!
# Font sets and how they are written

What a configuration says, before it is a text: families of fonts with their settings, as long as
every text in them is legal and every axis makes a setting. A font set is written as a `familyset`
document with numbers in decimal, and it says which records are to be read from it.
-/

namespace FontCatalog

/-- A setting of an axis, by texts that denote a tag and a number. -/
structure AxisEntry where
  tag : String
  value : String
  tag_legal : Xml.Legal tag
  length_tag : (Utf8.encodeString tag).length = 4
  value_reads : (Number.Single.read value.toList).isSome = true

structure FontEntry where
  name : String
  weight : Option UInt16
  style : Option String
  index : Option UInt32
  axes : List AxisEntry
  name_legal : Xml.Legal name
  /-- The name neither begins nor ends with white space. -/
  name_head : ∀ c ∈ name.toList.head?, Text.isXmlBlank c = false
  name_last : ∀ c ∈ name.toList.getLast?, Text.isXmlBlank c = false
  style_legal : ∀ s ∈ style, Xml.Legal s

structure FamilyEntry where
  lang : Option String
  fonts : List FontEntry
  lang_legal : ∀ s ∈ lang, Xml.Legal s

/-! ## Records -/

/-- The tag with the bytes of the text, and the number that the value denotes. -/
def AxisEntry.axis (e : AxisEntry) : Axis where
  tag := ⟨.ofNat ((Utf8.encodeString e.tag).foldl (fun code b => code * 256 + b.toNat) 0)⟩
  value := (Number.Single.read e.value.toList).get e.value_reads

/-- The record of a font in a directory. -/
def FontEntry.record (e : FontEntry) (dir : Path) (lang : Option String) : Record where
  path := dir.under (Utf8.encodeString e.name)
  weight := e.weight.getD 400
  italic := e.style == some "italic"
  index := e.index.getD 0
  locale := lang
  axes := e.axes.map AxisEntry.axis

def FamilyEntry.records (e : FamilyEntry) (dir : Path) : List Record :=
  e.fonts.map fun font => font.record dir e.lang

/-! ## Trees -/

/-- An attribute, if it has a value. -/
def optionalAttribute (name : String) (value : Option String) : List Xml.Attribute :=
  value.toList.map fun value => ⟨none, name, value⟩

def AxisEntry.tree (e : AxisEntry) : Xml.Node :=
  .element none "axis" [⟨none, "tag", e.tag⟩, ⟨none, "stylevalue", e.value⟩] []

def FontEntry.attributes (e : FontEntry) : List Xml.Attribute :=
  optionalAttribute "weight" (e.weight.map fun n => String.ofList (Number.decimal n.toNat)) ++
    optionalAttribute "style" e.style ++
    optionalAttribute "index" (e.index.map fun n => String.ofList (Number.decimal n.toNat))

/-- The name as text, if there is any, and the axes. -/
def FontEntry.children (e : FontEntry) : List Xml.Node :=
  (if e.name = "" then [] else [.text e.name]) ++ e.axes.map AxisEntry.tree

def FontEntry.tree (e : FontEntry) : Xml.Node := .element none "font" e.attributes e.children

def FamilyEntry.tree (e : FamilyEntry) : Xml.Node :=
  .element none "family" (optionalAttribute "lang" e.lang) (e.fonts.map FontEntry.tree)

/-- The root element of a font set. -/
def fontSetTree (families : List FamilyEntry) : Xml.Node :=
  .element none "familyset" [] (families.map FamilyEntry.tree)

/-! ## Plain trees -/

open Xml

theorem legal_of_isGraphic {s : String} (h : ∀ c ∈ s.toList, Number.IsGraphic c) : Legal s := by
  intro c hc
  obtain ⟨hlow, hhigh⟩ := h c hc
  rw [isXmlChar, if_neg (by omega)]
  simp only [Bool.and_eq_true, bne_iff_ne]
  omega

theorem legal_decimal (n : Nat) : Legal (String.ofList (Number.decimal n)) := by
  apply legal_of_isGraphic
  intro c hc
  rw [String.toList_ofList] at hc
  exact Number.isGraphic_of_digitIn? (Number.digitIn?_of_isDigit (Number.isDigit_of_mem_decimal hc))

theorem legal_map_decimal {α : Type} (number : α → Nat) (value : Option α) :
    ∀ s ∈ value.map fun a => String.ofList (Number.decimal (number a)), Legal s := by
  intro s hs
  obtain ⟨a, -, rfl⟩ := Option.map_eq_some_iff.mp hs
  exact legal_decimal (number a)

theorem AxisEntry.value_legal (e : AxisEntry) : Legal e.value := by
  obtain ⟨x, hx⟩ := Option.isSome_iff_exists.mp e.value_reads
  exact legal_of_isGraphic (Number.Single.isGraphic_of_read hx)

theorem plainName_of_isLower {s : String} (hne : s.toList ≠ [])
    (h : s.toList.all Char.isLower = true) : PlainName s := by
  have hlower : ∀ c ∈ s.toList, c.isLower = true := List.all_eq_true.mp h
  have hletter : ∀ c ∈ s.toList, isNameStart c = true := by
    intro c hc
    obtain ⟨hlow, hhigh⟩ : 'a' ≤ c ∧ c ≤ 'z' := by
      obtain ⟨hlow, hhigh⟩ := Bool.and_eq_true_iff.mp (hlower c hc)
      exact ⟨of_decide_eq_true hlow, of_decide_eq_true hhigh⟩
    simp [isNameStart, isAsciiLetter, hlow, hhigh]
  obtain ⟨c, cs, hcons⟩ := List.exists_cons_of_ne_nil hne
  refine ⟨⟨c, cs, hcons, hletter c (by simp [hcons])⟩, ?_, ?_⟩
  · intro c hc
    rw [isNameChar, hletter c hc, Bool.true_or, Bool.true_or, Bool.true_or, Bool.true_or]
  · intro hcolon
    exact absurd (hlower ':' hcolon) (by decide)

theorem plain_attribute {name value : String} (hname : PlainName name) (hxmlns : name ≠ "xmlns")
    (hvalue : Legal value) : Attribute.Plain ⟨none, name, value⟩ :=
  ⟨rfl, hname, hxmlns, hvalue⟩

theorem plain_optionalAttribute {name : String} {value : Option String} (hname : PlainName name)
    (hxmlns : name ≠ "xmlns") (hvalue : ∀ s ∈ value, Legal s) :
    ∀ a ∈ optionalAttribute name value, a.Plain := by
  cases value with
  | none => simp [optionalAttribute]
  | some value =>
    intro a ha
    obtain rfl := List.mem_singleton.mp ha
    exact plain_attribute hname hxmlns (hvalue value rfl)

theorem names_optionalAttribute (name : String) (value : Option String) :
    ((optionalAttribute name value).map (·.name)).Sublist [name] := by
  cases value with
  | none => simp [optionalAttribute]
  | some value => simp [optionalAttribute]

-- Elements after at most one other node do not touch each other.
theorem isChain_of_isElement {cs : List Node} (h : ∀ c ∈ cs, c.isElement = true) (t : Node) :
    (t :: cs).IsChain fun c c' => c.isElement = true ∨ c'.isElement = true := by
  induction cs generalizing t with
  | nil => exact List.isChain_singleton t
  | cons c cs ih =>
    rw [List.isChain_cons_cons]
    exact ⟨Or.inr (h c List.mem_cons_self), ih (fun c hc => h c (List.mem_cons_of_mem _ hc)) c⟩

theorem plain_and_isElement_of_mem_map {α : Type} {tree : α → Node} (hplain : ∀ a, (tree a).Plain)
    (helement : ∀ a, (tree a).isElement = true) (entries : List α) :
    ∀ c ∈ entries.map tree, c.Plain ∧ c.isElement = true := by
  intro c hc
  obtain ⟨a, -, rfl⟩ := List.mem_map.mp hc
  exact ⟨hplain a, helement a⟩

theorem AxisEntry.plain_tree (e : AxisEntry) : e.tree.Plain := by
  refine .element (plainName_of_isLower (by decide) (by decide)) ?_ (by simp) (by simp)
    List.isChain_nil
  intro a ha
  simp only [List.mem_cons, List.not_mem_nil, or_false] at ha
  rcases ha with rfl | rfl
  · exact plain_attribute (plainName_of_isLower (by decide) (by decide)) (by decide) e.tag_legal
  · exact plain_attribute (plainName_of_isLower (by decide) (by decide)) (by decide) e.value_legal

theorem FontEntry.plain_attributes (e : FontEntry) : ∀ a ∈ e.attributes, a.Plain := by
  intro a ha
  simp only [attributes, List.mem_append] at ha
  rcases ha with (ha | ha) | ha
  · exact plain_optionalAttribute (plainName_of_isLower (by decide) (by decide)) (by decide)
      (legal_map_decimal UInt16.toNat _) a ha
  · exact plain_optionalAttribute (plainName_of_isLower (by decide) (by decide)) (by decide)
      e.style_legal a ha
  · exact plain_optionalAttribute (plainName_of_isLower (by decide) (by decide)) (by decide)
      (legal_map_decimal UInt32.toNat _) a ha

theorem FontEntry.nodup_names (e : FontEntry) : (e.attributes.map (·.name)).Nodup := by
  have hsublist : (e.attributes.map (·.name)).Sublist (["weight"] ++ ["style"] ++ ["index"]) := by
    rw [attributes, List.map_append, List.map_append]
    exact ((names_optionalAttribute _ _).append (names_optionalAttribute _ _)).append
      (names_optionalAttribute _ _)
  exact List.Nodup.sublist hsublist (by decide)

theorem FontEntry.plain_tree (e : FontEntry) : e.tree.Plain := by
  have haxes := plain_and_isElement_of_mem_map AxisEntry.plain_tree (fun _ => rfl) e.axes
  have hchain := isChain_of_isElement (fun c hc => (haxes c hc).2) (.text e.name)
  -- The name is the only text, and it stands before the axes, if it is there at all.
  refine .element (plainName_of_isLower (by decide) (by decide)) e.plain_attributes e.nodup_names
    ?_ ?_
  · intro c hc
    rcases List.mem_append.mp hc with hc | hc
    · split at hc
      · simp at hc
      · rename_i hname
        obtain rfl := List.mem_singleton.mp hc
        exact .text hname e.name_legal
    · exact (haxes c hc).1
  · rw [children]
    split
    · exact hchain.tail
    · exact hchain

theorem FamilyEntry.plain_tree (e : FamilyEntry) : e.tree.Plain := by
  have hfonts := plain_and_isElement_of_mem_map FontEntry.plain_tree (fun _ => rfl) e.fonts
  refine .element (plainName_of_isLower (by decide) (by decide))
    (plain_optionalAttribute (plainName_of_isLower (by decide) (by decide)) (by decide)
      e.lang_legal)
    ((names_optionalAttribute _ _).nodup (by decide)) (fun c hc => (hfonts c hc).1) ?_
  exact (isChain_of_isElement (fun c hc => (hfonts c hc).2) (.text "")).tail

theorem plain_fontSetTree (families : List FamilyEntry) : (fontSetTree families).Plain := by
  have hfamilies := plain_and_isElement_of_mem_map FamilyEntry.plain_tree (fun _ => rfl) families
  refine .element (plainName_of_isLower (by decide) (by decide)) (by simp) (by simp)
    (fun c hc => (hfamilies c hc).1) ?_
  exact (isChain_of_isElement (fun c hc => (hfamilies c hc).2) (.text "")).tail

end FontCatalog
