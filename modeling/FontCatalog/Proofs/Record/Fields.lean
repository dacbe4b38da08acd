import FontCatalog.Proofs.Document.Navigation
import FontCatalog.Proofs.Number.Grammar
import FontCatalog.Proofs.Tag.Codec
import FontCatalog.Proofs.Text.Lossy
import FontCatalog.Proofs.Text.Trim
import FontCatalog.Record

/-!
# The fields of records

What the record of an element says, field by field and in terms of the document alone: which texts
are a number, what is left out at the ends of a text, where a locale and an axis come from. An
element has exactly one such record in a directory.
-/

namespace FontCatalog

variable {d : Document} {n font : ElementId} {key value : String}

/-! ## Attributes -/

namespace Document

/-- An element has an attribute, and its first one with this key has this value. -/
def FirstAttribute (d : Document) (n : ElementId) (key value : String) : Prop :=
  ∃ e before after, d.element? n = some e ∧ e.attributes = before ++ (key, value) :: after ∧
    ∀ other, (key, other) ∉ before

theorem firstAttribute_iff : d.FirstAttribute n key value ↔ d.attribute? n key = some value := by
  have hbefore (before : List (String × String)) :
      (∀ other, (key, other) ∉ before) ↔ ∀ a ∈ before, (key != a.1) = true := by
    constructor
    · rintro h ⟨k, other⟩ ha
      refine bne_iff_ne.mpr ?_
      rintro rfl
      exact h other ha
    · exact fun h other ha => bne_iff_ne.mp (h _ ha) rfl
  simp only [FirstAttribute, attribute?, Option.bind_eq_some_iff, List.lookup_eq_some_iff, hbefore]
  constructor
  · rintro ⟨e, before, after, he, h⟩
    exact ⟨e, he, before, after, h⟩
  · rintro ⟨e, he, before, after, h⟩
    exact ⟨e, before, after, he, h⟩

/-- An attribute holds a decimal number: with the white space of XML around it, an optional `+` and
one or more digits, of a value that does not exceed the bound. -/
def NumberIn (d : Document) (n : ElementId) (key : String) (max k : Nat) : Prop :=
  ∃ value text digits, d.FirstAttribute n key value ∧
    Text.Stripped Text.isXmlBlank value.toList text ∧ (text = digits ∨ text = '+' :: digits) ∧
    digits ≠ [] ∧ Number.Denotes 10 digits k ∧ k ≤ max

/-- The number in an attribute, or a default if there is no number in it. -/
def NumberOr (d : Document) (n : ElementId) (key : String) (max default k : Nat) : Prop :=
  d.NumberIn n key max k ∨ (∀ j, ¬ d.NumberIn n key max j) ∧ k = default

variable {max k : Nat}

theorem numberIn_iff :
    d.NumberIn n key max k ↔
      ∃ value, d.attribute? n key = some value ∧
        Number.readUnsigned 10 max (Text.trim Text.isXmlBlank value.toList) = .ok k := by
  simp only [NumberIn, firstAttribute_iff, Text.stripped_iff,
    Number.readUnsigned_eq_ok_iff (by omega : 10 ≤ 16)]
  constructor
  · rintro ⟨value, _, digits, hvalue, rfl, hdigits⟩
    exact ⟨value, hvalue, digits, hdigits⟩
  · rintro ⟨value, hvalue, digits, hdigits⟩
    exact ⟨value, _, digits, hvalue, rfl, hdigits⟩

/-- Reading an attribute gives its number or the default, for numbers of any width. -/
theorem numberOr_iff {α : Type} (ofNat : Nat → α) (toNat : α → Nat)
    (hto : ∀ k ≤ max, toNat (ofNat k) = k) (hof : ∀ x, ofNat (toNat x) = x) (default x : α) :
    d.NumberOr n key max (toNat default) (toNat x) ↔
      x = Record.numberOr (fun s => (Number.readUnsigned 10 max s).map ofNat)
        (d.attribute? n key) default := by
  have hinj : ∀ y z : α, toNat y = toNat z ↔ y = z := fun y z =>
    ⟨fun h => by rw [← hof y, h, hof], congrArg toNat⟩
  simp only [NumberOr, numberIn_iff, hinj, Record.numberOr]
  cases d.attribute? n key with
  | none => simp
  | some value =>
    simp only [Option.some.injEq, exists_eq_left']
    cases hread : Number.readUnsigned 10 max (Text.trim Text.isXmlBlank value.toList) with
    | error e => simp [Except.map, Except.toOption]
    | ok k =>
      have hk : k ≤ max := by
        obtain ⟨-, -, -, -, hk⟩ := (Number.readUnsigned_eq_ok_iff (by omega)).mp hread
        exact hk
      have hnumber : k = toNat x ↔ x = ofNat k := by
        rw [← hinj, hto k hk, eq_comm]
      simp [Except.map, Except.toOption, hnumber]

end Document

/-! ## Axes -/

namespace Axis

/-- An element sets an axis: its tag has the four bytes of the axis, and what is left of its value
without white space at its ends is the number. -/
def SetBy (d : Document) (n : ElementId) (a : Axis) : Prop :=
  ∃ tag value text, d.FirstAttribute n "tag" tag ∧ Utf8.encodeString tag = a.tag.toBytes ∧
    d.FirstAttribute n "stylevalue" value ∧ Text.Stripped Text.isBlank value.toList text ∧
    Number.Single.read text = some a.value

/-- The axes that some elements set, in their order. An element that sets none is left out. -/
inductive AllOf (d : Document) : List ElementId → List Axis → Prop where
  | nil : AllOf d [] []
  | set {n : ElementId} {a : Axis} {ns : List ElementId} {as : List Axis} (h : SetBy d n a)
      (rest : AllOf d ns as) : AllOf d (n :: ns) (a :: as)
  | drop {n : ElementId} {ns : List ElementId} {as : List Axis} (h : ∀ a, ¬ SetBy d n a)
      (rest : AllOf d ns as) : AllOf d (n :: ns) as

variable {a : Axis} {ns : List ElementId} {as : List Axis}

theorem setBy_iff : SetBy d n a ↔ ofElement? d n = some a := by
  obtain ⟨tag, value⟩ := a
  simp only [SetBy, Document.firstAttribute_iff, Text.stripped_iff, ← Tag.ofText?_eq_some_iff,
    ofElement?, Option.bind_eq_bind, Option.bind_eq_some_iff, Option.pure_def, Option.some.injEq,
    Axis.mk.injEq]
  constructor
  · rintro ⟨raw, text, _, hraw, htag, htext, rfl, hvalue⟩
    exact ⟨raw, hraw, tag, htag, text, htext, value, hvalue, rfl, rfl⟩
  · rintro ⟨raw, hraw, _, htag, text, htext, _, hvalue, rfl, rfl⟩
    exact ⟨raw, text, _, hraw, htag, htext, rfl, hvalue⟩

theorem allOf_iff : AllOf d ns as ↔ as = ns.filterMap (ofElement? d) := by
  constructor
  · intro h
    induction h with
    | nil => rfl
    | set h rest ih => rw [List.filterMap_cons_some (setBy_iff.mp h), ih]
    | @drop n ns as h rest ih =>
      have hnone : ofElement? d n = none :=
        Option.eq_none_iff_forall_ne_some.mpr fun a ha => h a (setBy_iff.mpr ha)
      rw [List.filterMap_cons_none hnone, ih]
  · rintro rfl
    induction ns with
    | nil => exact .nil
    | cons n ns ih =>
      cases hn : ofElement? d n with
      | none =>
        rw [List.filterMap_cons_none hn]
        refine .drop (fun a ha => ?_) ih
        rw [setBy_iff.mp ha] at hn
        cases hn
      | some a =>
        rw [List.filterMap_cons_some hn]
        exact .set (setBy_iff.mpr hn) ih

end Axis

/-! ## Records -/

namespace Record

variable {dir : Path} {source : LocaleSource} {r : Record}

/-- What is said of a font by its element in a document, given the directory of the font files and
where locales are looked up. -/
structure ReadFrom (d : Document) (font : ElementId) (dir : Path) (source : LocaleSource)
    (r : Record) : Prop where
  path : ∃ name, Text.Stripped Text.isXmlBlank (d.text font).toList name ∧
    r.path.bytes = dir.bytes ++
      (if dir.bytes ≠ [] ∧ dir.bytes.getLast? ≠ some Path.separator then [Path.separator] else []) ++
        Utf8.encode name
  weight : d.NumberOr font "weight" 65535 400 r.weight.toNat
  italic : r.italic = true ↔ d.FirstAttribute font "style" "italic"
  index : d.NumberOr font "index" 4294967295 0 r.index.toNat
  locale : ∀ text, r.locale = some text ↔
    source = .family ∧ ∃ family, d.parent? font = some family ∧ d.FirstAttribute family "lang" text
  axes : Axis.AllOf d ((d.children font).filter (d.name · == "axis")) r.axes

theorem bytes_under (dir : Path) (name : List UInt8) :
    (dir.under name).bytes = dir.bytes ++
      (if dir.bytes ≠ [] ∧ dir.bytes.getLast? ≠ some Path.separator then [Path.separator] else []) ++
        name := by
  rw [Path.under]
  by_cases h : dir.bytes = [] ∨ dir.bytes.getLast? = some Path.separator
  · rw [if_pos h, if_neg (by tauto), List.append_nil]
  · rw [if_neg h, if_pos (by tauto), List.append_assoc, List.singleton_append]

theorem localeOf_eq_some_iff {text : String} :
    localeOf d font source = some text ↔
      source = .family ∧
        ∃ family, d.parent? font = some family ∧ d.FirstAttribute family "lang" text := by
  simp only [Document.firstAttribute_iff]
  cases source with
  | family => simp [localeOf, Option.bind_eq_some_iff]
  | documentParent => simp [localeOf]

theorem weight_iff :
    d.NumberOr font "weight" 65535 400 r.weight.toNat ↔
      r.weight = (ofElement d font dir source).weight :=
  Document.numberOr_iff UInt16.ofNat UInt16.toNat
    (fun k hk => UInt16.toNat_ofNat_of_lt' (by simp only [UInt16.size]; omega))
    (fun _ => UInt16.ofNat_toNat) defaultWeight r.weight

theorem index_iff :
    d.NumberOr font "index" 4294967295 0 r.index.toNat ↔
      r.index = (ofElement d font dir source).index :=
  Document.numberOr_iff UInt32.ofNat UInt32.toNat
    (fun k hk => UInt32.toNat_ofNat_of_lt' (by simp only [UInt32.size]; omega))
    (fun _ => UInt32.ofNat_toNat) 0 r.index

theorem readFrom_ofElement (d : Document) (font : ElementId) (dir : Path)
    (source : LocaleSource) : ReadFrom d font dir source (ofElement d font dir source) where
  path := ⟨_, Text.stripped_trim _ _, bytes_under dir _⟩
  weight := weight_iff.mpr rfl
  italic := by rw [Document.firstAttribute_iff, ofElement, beq_iff_eq]
  index := index_iff.mpr rfl
  locale _ := localeOf_eq_some_iff
  axes := by
    rw [← Document.childrenNamed_eq_filter]
    exact Axis.allOf_iff.mpr rfl

-- Each field is determined by what is said of it.
theorem ReadFrom.eq_ofElement (h : ReadFrom d font dir source r) :
    r = ofElement d font dir source := by
  have hown := readFrom_ofElement d font dir source
  have hpath : r.path = (ofElement d font dir source).path := by
    obtain ⟨name, hname, hbytes⟩ := h.path
    obtain rfl := Text.stripped_iff.mp hname
    rw [← bytes_under] at hbytes
    exact congrArg Path.mk hbytes
  have hitalic : r.italic = (ofElement d font dir source).italic :=
    Bool.eq_iff_iff.mpr (h.italic.trans hown.italic.symm)
  have hlocale : r.locale = (ofElement d font dir source).locale :=
    Option.ext fun text => (h.locale text).trans (hown.locale text).symm
  have haxes : r.axes = (ofElement d font dir source).axes :=
    (Axis.allOf_iff.mp h.axes).trans (Axis.allOf_iff.mp hown.axes).symm
  have hweight : r.weight = (ofElement d font dir source).weight := weight_iff.mp h.weight
  have hindex : r.index = (ofElement d font dir source).index := index_iff.mp h.index
  cases r
  simp only at hpath hweight hitalic hindex hlocale haxes
  rw [hpath, hweight, hitalic, hindex, hlocale, haxes]

/-- The record of an element is the one that says of each field what the document says, and no other
does. Whether a directory ends in a separator is seen from its bytes as well as from its text, in
which anything that is not UTF-8 is replaced. -/
theorem readFrom_iff (d : Document) (font : ElementId) (dir : Path) (source : LocaleSource) :
    (∀ r, ReadFrom d font dir source r ↔ r = ofElement d font dir source) ∧
      (dir.display.toList.getLast? = some '/' ↔ dir.bytes.getLast? = some Path.separator) := by
  refine ⟨fun r => ⟨ReadFrom.eq_ofElement, ?_⟩, ?_⟩
  · rintro rfl
    exact readFrom_ofElement d font dir source
  · rw [Path.display, Utf8.decodeStringLossy, String.toList_ofList]
    exact Utf8.getLast?_decodeLossy (b := Path.separator) (by decide)

end Record

end FontCatalog
