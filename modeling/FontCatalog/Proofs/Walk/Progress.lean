import FontCatalog.Proofs.Document.Bounds
import FontCatalog.Proofs.Walk.Checks

/-!
# Every search in a walk comes to an end

A walk looks for its next font in two loops, one through the families and one over the fonts that
are missing, and neither counts its rounds. They end because every round goes on to an element that
is further on in document order, and because all that is below a family comes before the families
after it. So the bounds on these searches are never reached, and a step asks for no more files than
there are fonts after the one at which it begins.
-/

namespace FontCatalog

namespace Document

variable {d : Document} {n c next font parent family : ElementId} {tag : String} {i j count : Nat}
  {passed ahead : List ElementId} {r : Option ElementId × Nat}

/-! ## Further on in document order -/

/-- A later sibling comes after an element and after the children of the element. -/
theorem lt_of_sibling (hn : (d.children parent)[i]? = some n)
    (hnext : (d.children parent)[j]? = some next) (hij : i < j) :
    n < next ∧ ∀ c ∈ d.children n, c < next := by
  obtain ⟨root, rfl⟩ := d.exists_ofTree
  have hparent := lt_size_of_mem_children (List.mem_of_getElem? hn)
  rw [size_ofTree] at hparent
  have ha := List.getElem?_eq_getElem hparent
  have hn := address_of_children ha hn
  have hnext := address_of_children ha hnext
  refine ⟨Xml.Node.lt_of_before hn hnext (.append_left _ hij), fun c hc => ?_⟩
  obtain ⟨k, hk⟩ := List.getElem?_of_mem hc
  exact Xml.Node.lt_of_before (address_of_children hn hk) hnext (.append_below _ hij [k])

theorem mem_children_of_parent? (h : d.parent? n = some parent) : n ∈ d.children parent := by
  obtain ⟨e, he, hparent⟩ := Option.bind_eq_some_iff.mp h
  exact List.mem_of_getElem? (children_of_parent he hparent)

-- There is nothing to search through outside of the document.
theorem nextSibling?_of_size_le (h : d.size ≤ n) (tag : String) : d.nextSibling? n tag = none := by
  simp [nextSibling?, following, element?_eq_none_iff.mpr h]

theorem nextFont_of_size_le (h : d.size ≤ n) : d.nextFont n = (none, 0) := by
  simp [nextFont, nextSibling?_of_size_le h, parent?, element?_eq_none_iff.mpr h]

theorem exists_of_nextSibling? (h : d.nextSibling? n tag = some next) :
    ∃ (parent : ElementId) (i j : Nat), (d.children parent)[i]? = some n ∧
      (d.children parent)[j]? = some next ∧ i < j := by
  have hn : n < d.size := by
    by_contra hn
    cases h.symm.trans (nextSibling?_of_size_le (Nat.le_of_not_lt hn) tag)
  obtain ⟨e, he⟩ := Option.isSome_iff_exists.mp (isSome_element?_iff.mpr hn)
  cases hparent : e.parent with
  | none => cases h.symm.trans (nextSibling?_of_orphan he hparent tag)
  | some parent =>
    have hslot := children_of_parent he hparent
    have hfollowing := List.mem_of_find?_eq_some h
    rw [following_of_children hslot] at hfollowing
    obtain ⟨k, hk⟩ := List.getElem?_of_mem hfollowing
    rw [List.getElem?_drop] at hk
    exact ⟨parent, e.slot, e.slot + 1 + k, hslot, hk, by omega⟩

theorem lt_of_nextSibling? (h : d.nextSibling? n tag = some next) :
    n < next ∧ ∀ c ∈ d.children n, c < next := by
  obtain ⟨parent, i, j, hn, hnext, hij⟩ := exists_of_nextSibling? h
  exact lt_of_sibling hn hnext hij

-- Each round takes one off the bound.
theorem size_le_of_lt {fuel : Nat} (hfuel : d.size ≤ n + (fuel + 1)) (hlt : n < next) :
    d.size ≤ next + fuel :=
  calc d.size ≤ n + 1 + fuel := by rwa [Nat.add_assoc, Nat.add_comm 1 fuel]
    _ ≤ next + fuel := Nat.add_le_add_right hlt fuel

theorem lt_of_firstChild? (h : d.firstChild? n tag = some c) : n < c := by
  obtain ⟨root, rfl⟩ := d.exists_ofTree
  exact (List.pairwise_cons.mp (pairwise_children root n)).1 c (List.mem_of_find?_eq_some h)

/-! ## The families -/

/-- The search through the families after another one as it goes on, however long it takes: it finds
a font and counts the families that it looks into. -/
inductive FamilyLoop (d : Document) : ElementId → Option ElementId × Nat → Prop where
  /-- There is no family left. -/
  | last {family : ElementId} (h : d.nextSibling? family familyTag = none) :
      FamilyLoop d family (none, 0)
  /-- The next family has a font. -/
  | found {family next font : ElementId} (h : d.nextSibling? family familyTag = some next)
      (hfont : d.firstChild? next fontTag = some font) : FamilyLoop d family (some font, 1)
  /-- The next family has none, and the search goes on from it. -/
  | empty {family next : ElementId} {font : Option ElementId} {count : Nat}
      (h : d.nextSibling? family familyTag = some next)
      (hfont : d.firstChild? next fontTag = none) (hrest : FamilyLoop d next (font, count)) :
      FamilyLoop d family (font, count + 1)

-- The number of the family grows with each round, and the elements come to an end.
theorem familyLoop_fontAfterFamily {fuel : Nat} (hfuel : d.size ≤ family + fuel) :
    d.FamilyLoop family (d.fontAfterFamily fuel family) := by
  induction fuel generalizing family with
  | zero => exact .last (nextSibling?_of_size_le hfuel familyTag)
  | succ fuel ih =>
    rw [fontAfterFamily]
    cases hnext : d.nextSibling? family familyTag with
    | none => exact .last hnext
    | some next =>
      obtain ⟨hlt, -⟩ := lt_of_nextSibling? hnext
      cases hfont : d.firstChild? next fontTag with
      | some font => simpa only [hfont] using .found hnext hfont
      | none => simpa only [hfont] using .empty hnext hfont (ih (size_le_of_lt hfuel hlt))

theorem FamilyLoop.eq_fontAfterFamily (h : d.FamilyLoop family r) {fuel : Nat}
    (hfuel : d.size ≤ family + fuel) : d.fontAfterFamily fuel family = r := by
  induction h generalizing fuel with
  | last h => cases fuel <;> simp [fontAfterFamily, h]
  | found h hfont =>
    cases fuel with
    | zero => cases h.symm.trans (nextSibling?_of_size_le hfuel familyTag)
    | succ fuel => simp [fontAfterFamily, h, hfont]
  | empty h hfont hrest ih =>
    cases fuel with
    | zero => cases h.symm.trans (nextSibling?_of_size_le hfuel familyTag)
    | succ fuel =>
      obtain ⟨hlt, -⟩ := lt_of_nextSibling? h
      simp [fontAfterFamily, h, hfont, ih (size_le_of_lt hfuel hlt)]

/-- The bound on the search through the families does not cut it short. -/
theorem fontAfterFamily_eq_iff (family : ElementId) :
    d.fontAfterFamily d.size family = r ↔ d.FamilyLoop family r := by
  constructor
  · rintro rfl
    exact familyLoop_fontAfterFamily (Nat.le_add_left d.size family)
  · exact fun h => h.eq_fontAfterFamily (Nat.le_add_left d.size family)

-- The font that is found comes after the nearest family.
theorem FamilyLoop.lt_font (h : d.FamilyLoop family r) (hr : r.1 = some font) :
    ∃ next, d.nextSibling? family familyTag = some next ∧ next < font := by
  induction h with
  | last h => cases hr
  | found h hfont =>
    obtain rfl := Option.some.inj hr
    exact ⟨_, h, lt_of_firstChild? hfont⟩
  | empty h hfont hrest ih =>
    obtain ⟨next, hnext, hlt⟩ := ih hr
    exact ⟨_, h, Nat.lt_trans (lt_of_nextSibling? hnext).1 hlt⟩

/-! ## The next font -/

theorem lt_of_nextFont (h : (d.nextFont n).1 = some next) : n < next := by
  rw [nextFont] at h
  cases hsibling : d.nextSibling? n fontTag with
  | some sibling =>
    simp only [hsibling] at h
    obtain rfl := Option.some.inj h
    exact (lt_of_nextSibling? hsibling).1
  | none =>
    cases hfamily : d.parent? n with
    | none => simp [hsibling, hfamily] at h
    | some family =>
      simp only [hsibling, hfamily] at h
      -- All that is below the family comes before the families after it.
      obtain ⟨later, hlater, hlt⟩ := ((fontAfterFamily_eq_iff family).mp rfl).lt_font h
      obtain ⟨-, hbelow⟩ := lt_of_nextSibling? hlater
      exact Nat.lt_trans (hbelow n (mem_children_of_parent? hfamily)) hlt

-- The fonts are listed in document order, since each of them leads to the one after it.
theorem pairwise_fonts (d : Document) : d.fonts.Pairwise (· < ·) := by
  refine List.isChain_iff_pairwise.mp
    (List.isChain_iff_forall_rel_of_append_cons_cons.mpr fun font next passed ahead h => ?_)
  exact lt_of_nextFont (by rw [fst_nextFont h, List.head?_cons])

theorem lt_of_fonts_eq (h : d.fonts = passed ++ font :: ahead) :
    (∀ other ∈ passed, other < font) ∧ (∀ other ∈ ahead, font < other) ∧
      ahead.Pairwise (· < ·) := by
  have hsorted := d.pairwise_fonts
  rw [h, List.pairwise_append, List.pairwise_cons] at hsorted
  obtain ⟨-, ⟨hafter, hahead⟩, hbefore⟩ := hsorted
  exact ⟨fun other hother => hbefore other hother font List.mem_cons_self, hafter, hahead⟩

theorem filter_lt_fonts (h : d.fonts = passed ++ font :: ahead) :
    d.fonts.filter (font < ·) = ahead := by
  obtain ⟨hbefore, hafter, -⟩ := lt_of_fonts_eq h
  have hsplit : d.fonts = (passed ++ [font]) ++ ahead := by simp [h]
  have hleft : ∀ other ∈ passed ++ [font], ¬ decide (font < other) = true := by
    intro other hother
    rcases List.mem_append.mp hother with hpassed | hfont
    · simpa using Nat.le_of_lt (hbefore other hpassed)
    · simpa using Nat.le_of_eq (List.mem_singleton.mp hfont)
  rw [hsplit]
  exact filter_append_eq_right hleft fun other hother => decide_eq_true (hafter other hother)

/-- Where the search for the next font leads from a font. -/
structure Proceeds (d : Document) (font : ElementId) : Prop where
  /-- The next font is the nearest one that is further on. -/
  nearest : ∀ next, (d.nextFont font).1 = some next →
    font < next ∧ next ∈ d.fonts ∧ ∀ other ∈ d.fonts, other ≤ font ∨ next ≤ other
  /-- There is no next font only behind the last one. -/
  last : (d.nextFont font).1 = none → ∀ other ∈ d.fonts, other ≤ font

theorem proceeds_of_mem (h : font ∈ d.fonts) : d.Proceeds font := by
  obtain ⟨passed, ahead, hfonts⟩ := List.append_of_mem h
  obtain ⟨hbefore, hafter, hahead⟩ := lt_of_fonts_eq hfonts
  have hmem : ∀ other ∈ d.fonts, other ≤ font ∨ other ∈ ahead := by
    intro other hother
    rw [hfonts, List.mem_append, List.mem_cons] at hother
    rcases hother with hpassed | rfl | hlater
    · exact .inl (Nat.le_of_lt (hbefore other hpassed))
    · exact .inl (Nat.le_refl _)
    · exact .inr hlater
  constructor
  case nearest =>
    intro next hnext
    rw [fst_nextFont hfonts] at hnext
    obtain ⟨rest, rfl⟩ := List.head?_eq_some_iff.mp hnext
    refine ⟨hafter next List.mem_cons_self, by simp [hfonts], fun other hother => ?_⟩
    refine (hmem other hother).imp_right fun hlater => ?_
    rcases List.mem_cons.mp hlater with rfl | hrest
    · exact Nat.le_refl _
    · exact Nat.le_of_lt ((List.pairwise_cons.mp hahead).1 other hrest)
  case last =>
    intro hnone other hother
    rw [fst_nextFont hfonts, List.head?_eq_none_iff] at hnone
    exact (hmem other hother).resolve_right (by simp [hnone])

end Document

namespace Walk

variable {d : Document} {w : Walk} {font : ElementId} {ahead : List ElementId}
  {available : Path → Bool} {s : Step}

/-! ## The fonts that are missing -/

/-- The search for a font that is there as it goes on, however long it takes, and the step that it
makes. -/
inductive SkipLoop (d : Document) (w : Walk) (available : Path → Bool) :
    ElementId → Step → Prop where
  /-- There is no font left. -/
  | last {font : ElementId} {families : Nat} (h : d.nextFont font = (none, families)) :
      SkipLoop d w available font ⟨none, w.exhaust, [],
        List.replicate families advancingEntry ++ [exhaustedEntry]⟩
  /-- The next font is there. -/
  | found {font next : ElementId} {families : Nat} (h : d.nextFont font = (some next, families))
      (hpath : available (w.recordOf d next).path = true) :
      SkipLoop d w available font ⟨some (w.recordOf d next), { w with cursor := .at next },
        [(w.recordOf d next).path], List.replicate families advancingEntry⟩
  /-- The next font is missing, and the search goes on from it. -/
  | missing {font next : ElementId} {families : Nat} {s : Step}
      (h : d.nextFont font = (some next, families))
      (hpath : available (w.recordOf d next).path = false)
      (hrest : SkipLoop d w available next s) :
      SkipLoop d w available font
        { s with
          checked := (w.recordOf d next).path :: s.checked
          log := List.replicate families advancingEntry ++
            skippingEntry (w.recordOf d next).path :: s.log }

theorem skipLoop_seek {fuel : Nat} (hfuel : d.size ≤ font + fuel) :
    SkipLoop d w available font (w.seek d available fuel font) := by
  induction fuel generalizing font with
  | zero => exact .last (Document.nextFont_of_size_le hfuel)
  | succ fuel ih =>
    rw [seek]
    rcases hnext : d.nextFont font with ⟨_ | next, families⟩
    · exact .last hnext
    · have hlt : font < next := Document.lt_of_nextFont (by rw [hnext])
      cases hpath : available (w.recordOf d next).path with
      | true => simpa only [hpath] using .found hnext hpath
      | false =>
        have hfuel := Document.size_le_of_lt hfuel hlt
        simpa only [hpath] using .missing hnext hpath (ih hfuel)

theorem SkipLoop.eq_seek (h : SkipLoop d w available font s) {fuel : Nat}
    (hfuel : d.size ≤ font + fuel) : w.seek d available fuel font = s := by
  induction h generalizing fuel with
  | last h =>
    cases fuel with
    | zero =>
      obtain ⟨-, rfl⟩ := Prod.mk.inj (h.symm.trans (Document.nextFont_of_size_le hfuel))
      rfl
    | succ fuel => simp [seek, h]
  | found h hpath =>
    cases fuel with
    | zero => cases h.symm.trans (Document.nextFont_of_size_le hfuel)
    | succ fuel => simp [seek, h, hpath]
  | missing h hpath hrest ih =>
    cases fuel with
    | zero => cases h.symm.trans (Document.nextFont_of_size_le hfuel)
    | succ fuel =>
      have hlt := Document.lt_of_nextFont (congrArg Prod.fst h)
      simp [seek, h, hpath, ih (Document.size_le_of_lt hfuel hlt)]

/-- The bound on the search for a font that is there does not cut it short. -/
theorem next_eq_iff (hdocument : w.document = some d) (hcursor : w.cursor = .at font) :
    w.next available = s ↔ SkipLoop d w available font s := by
  have hnext : w.next available = w.seek d available d.size font := by
    simp [next, hdocument, hcursor]
  rw [hnext]
  constructor
  · rintro rfl
    exact skipLoop_seek (Nat.le_add_left d.size font)
  · exact fun h => h.eq_seek (Nat.le_add_left d.size font)

/-- The fonts after the cursor. -/
def fontsAfter (d : Document) (w : Walk) : List ElementId :=
  match w.cursor with
  | .unstarted => d.fonts
  | .at font => d.fonts.filter (font < ·)
  | .exhausted => []

theorem Ahead.eq_fontsAfter (h : Ahead d w ahead) : ahead = w.fontsAfter d := by
  cases h with
  | unstarted => rfl
  | standing dir source hfonts => exact (Document.filter_lt_fonts hfonts).symm
  | exhausted => rfl

theorem Ahead.length_checked_le (h : Ahead d w ahead) (available : Path → Bool) :
    (w.next available).checked.length ≤ (w.fontsAfter d).length := by
  rw [← h.eq_fontsAfter]
  obtain ⟨taken, rest, rfl, -, hchecked⟩ := h.next_taken available
  rw [hchecked, List.length_map, List.length_drop, List.length_append]
  omega

theorem length_checked_le (hdocument : w.document = some d)
    (hcursor : ∀ font, w.cursor = .at font → font ∈ d.fonts) (available : Path → Bool) :
    (w.next available).checked.length ≤ (w.fontsAfter d).length := by
  obtain ⟨document, cursor, dir, source⟩ := w
  obtain rfl : document = some d := hdocument
  cases cursor with
  | unstarted => exact (Ahead.unstarted dir source).length_checked_le available
  | exhausted => exact Nat.zero_le _
  | «at» font =>
    obtain ⟨passed, ahead, hfonts⟩ := List.append_of_mem (hcursor font rfl)
    exact (Ahead.standing dir source hfonts).length_checked_le available

/-- From a font the search goes on to the nearest font after it, and both loops of the search come
to an end, whatever files are there. A step asks for at most as many files as there are fonts after
the cursor. -/
theorem searches_end (d : Document) (available : Path → Bool) :
    (∀ font ∈ d.fonts, d.Proceeds font) ∧
      (∀ family r, d.fontAfterFamily d.size family = r ↔ d.FamilyLoop family r) ∧
      ∀ w : Walk, w.document = some d →
        (∀ font s, w.cursor = .at font →
          (w.next available = s ↔ SkipLoop d w available font s)) ∧
        ((∀ font, w.cursor = .at font → font ∈ d.fonts) →
          (w.next available).checked.length ≤ (w.fontsAfter d).length) := by
  refine ⟨fun _ => Document.proceeds_of_mem, fun family _ => Document.fontAfterFamily_eq_iff family,
    fun w hdocument => ⟨fun font s hcursor => ?loop, fun hcursor => ?checks⟩⟩
  case loop => exact next_eq_iff hdocument hcursor
  case checks => exact length_checked_le hdocument hcursor available

/-- Three families with fonts in the first and the last one. -/
def scattered : Document :=
  .ofTree (.element none "familyset" [] [
    .element none "family" [] [.element none "font" [] [.text "a.ttf"]],
    .element none "family" [] [],
    .element none "alias" [] [.element none "font" [] [.text "b.ttf"]],
    .element none "family" [] [.element none "font" [] [.text "c.ttf"],
      .element none "font" [] [.text "d.ttf"]]])

-- All files are missing, and each of the fonts that are left is asked for.
theorem searches_end_scattered :
    let w : Walk := ⟨some scattered, .at 2, .ofString "/fonts", .family⟩
    let missing := fun _ : Path => false
    w.fontsAfter scattered = [7, 8] ∧ scattered.Proceeds 2 ∧
      SkipLoop scattered w missing 2 (w.next missing) ∧ (w.next missing).checked.length ≤ 2 := by
  intro w missing
  have hfont : 2 ∈ scattered.fonts := by decide +kernel
  have hafter : w.fontsAfter scattered = [7, 8] := by decide +kernel
  obtain ⟨hproceeds, -, hwalk⟩ := searches_end scattered missing
  obtain ⟨hloop, hchecked⟩ := hwalk w rfl
  refine ⟨hafter, hproceeds 2 hfont, (hloop 2 _ rfl).mp rfl, ?_⟩
  have hle := hchecked fun font hat => by
    obtain rfl := Cursor.at.inj hat
    exact hfont
  rwa [hafter] at hle

end Walk

end FontCatalog
