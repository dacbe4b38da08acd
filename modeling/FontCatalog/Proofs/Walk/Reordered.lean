import FontCatalog.Proofs.Document.Reordered
import FontCatalog.Proofs.Walk.Abreast

/-!
# Walks through configurations with attributes in another order

The order of attributes decides neither whether a configuration is read nor which fonts a walk goes
through. It also decides nothing about the records as long as no attribute that they are read from
has two values. An attribute with a scope and one without it are read with the same key, so one
element may have two values for it, and then the first one counts.
-/

namespace FontCatalog.Walk

variable {d d' : Document}

/-- A step of two walks through documents that differ in the order of attributes. -/
theorem step_reordered (h : d.Reordered d') (c : Config) (available : Path → Bool) (count : Nat) :
    let stepOf (d : Document) := ((ofDocument d c).after available count).next available
    (stepOf d).checked = (stepOf d').checked ∧
      (stepOf d).record.map (·.path) = (stepOf d').record.map (·.path) ∧
        (d.Unambiguous → (stepOf d).record = (stepOf d').record) := by
  intro stepOf
  have hpaths (font : ElementId) :
      (Record.ofElement d font c.fontDir c.localeSource).path =
        (Record.ofElement d' font c.fontDir c.localeSource).path := by
    simp only [Record.ofElement, h.sameShape.text]
  obtain ⟨hchecked, place, hplace, hrecord, hrecord'⟩ :=
    (Abreast.start h.sameShape.fonts hpaths).step available count
  refine ⟨hchecked, ?_, fun hd => ?_⟩
  · simp only [stepOf, hrecord, hrecord']
    cases place with
    | none => rfl
    | some font => exact congrArg some (hpaths font)
  · simp only [stepOf, hrecord, hrecord']
    cases place with
    | none => rfl
    | some font => exact congrArg some (h.ofElement_eq hd (hplace font rfl) _ _)

/-- Two texts that differ in the order of the attributes in their start tags are read to the same
end and with the same warnings. A key under which an element has one value is read alike. Walks
through them hand out something at the same steps, with the same path, and ask for the same files.
They hand out the same records if no attribute that records are read from has two values. -/
theorem order_irrelevant (s s' : List Char) (h : Xml.Reordered s s') :
    EndAlike
      (fun r r' =>
        r.2 = r'.2 ∧
        (∀ n key, r.1.OneValue n key → r.1.attribute? n key = r'.1.attribute? n key) ∧
        ∀ (c : Config) (available : Path → Bool) (count : Nat),
          let stepOf (d : Document) := ((ofDocument d c).after available count).next available
          (stepOf r.1).checked = (stepOf r'.1).checked ∧
            (stepOf r.1).record.map (·.path) = (stepOf r'.1).record.map (·.path) ∧
              (r.1.Unambiguous → (stepOf r.1).record = (stepOf r'.1).record))
      (Document.parse s) (Document.parse s') := by
  have hparse := Document.parse_reordered h
  generalize Document.parse s = x, Document.parse s' = x' at hparse
  cases hparse with
  | error b => exact .error b
  | ok hr =>
    obtain ⟨hdocument, hlog⟩ := hr
    exact .ok ⟨hlog, fun _ _ hone => hdocument.attribute?_eq hone, step_reordered hdocument⟩

/-! ## One font -/

/-- A configuration with one font. -/
def oneFont (family font : String) : List Char :=
  ("<familyset><family " ++ family ++ "><font " ++ font ++
    ">a.ttf</font></family></familyset>").toList

/-- Its tree, if no name in it has a scope. -/
def oneFontTree (family font : List Xml.Attribute) : Xml.Node :=
  .element none "familyset" [] [.element none "family" family [.element none "font" font
    [.text "a.ttf"]]]

/-- The first record that a walk through a document hands out. -/
def firstRecord (d : Document) : Option Record := ((ofDocument d .default).next fun _ => true).record

theorem order_irrelevant_oneFont :
    Xml.Reordered (oneFont "lang='ja' n='1'" "weight='700' index='1'")
        (oneFont "n='1' lang='ja'" "index='1' weight='700'") ∧
      ∃ d d', Document.parse (oneFont "lang='ja' n='1'" "weight='700' index='1'") = .ok (d, []) ∧
        Document.parse (oneFont "n='1' lang='ja'" "index='1' weight='700'") = .ok (d', []) ∧
        (firstRecord d).map (fun r => (r.weight, r.index, r.locale)) = some (700, 1, some "ja") ∧
          firstRecord d = firstRecord d' := by
  have h : Xml.Reordered (oneFont "lang='ja' n='1'" "weight='700' index='1'")
      (oneFont "n='1' lang='ja'" "index='1' weight='700'") := by
    simp only [oneFont, String.toList_append, String.reduceToList]
    refine .of_tokens ?_ ?_ ?_ <;> decide +kernel
  let d := Document.ofTree (oneFontTree [⟨none, "lang", "ja"⟩, ⟨none, "n", "1"⟩]
    [⟨none, "weight", "700"⟩, ⟨none, "index", "1"⟩])
  have hs : Document.parse (oneFont "lang='ja' n='1'" "weight='700' index='1'") = .ok (d, []) := by
    decide +kernel
  have hd : d.Unambiguous := Document.unambiguous_of_nodup (by decide +kernel)
  have halike := order_irrelevant _ _ h
  rw [hs] at halike
  cases hs' : Document.parse (oneFont "n='1' lang='ja'" "index='1' weight='700'") with
  | error b =>
    rw [hs'] at halike
    cases halike
  | ok r =>
    obtain ⟨d', log⟩ := r
    rw [hs'] at halike
    cases halike with
    | ok hr =>
      obtain ⟨rfl, -, hsteps⟩ := hr
      obtain ⟨-, -, hrecord⟩ := hsteps .default (fun _ => true) 0
      exact ⟨h, d, d', hs, rfl, by decide +kernel, hrecord hd⟩

/-- The same key with a scope and without one: the order decides which language the record has. -/
theorem scoped_order_relevant :
    Xml.Reordered (oneFont "xml:lang='en' lang='fr'" "weight='700'")
        (oneFont "lang='fr' xml:lang='en'" "weight='700'") ∧
      (Document.parse (oneFont "xml:lang='en' lang='fr'" "weight='700'")).map
          (fun r => (firstRecord r.1).bind (·.locale)) = .ok (some "en") ∧
        (Document.parse (oneFont "lang='fr' xml:lang='en'" "weight='700'")).map
          (fun r => (firstRecord r.1).bind (·.locale)) = .ok (some "fr") := by
  refine ⟨?_, by decide +kernel, by decide +kernel⟩
  simp only [oneFont, String.toList_append, String.reduceToList]
  refine .of_tokens ?_ ?_ ?_ <;> decide +kernel

end FontCatalog.Walk
