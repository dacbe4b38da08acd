import FontCatalog.Proofs.Document.Agreement
import FontCatalog.Proofs.Walk.Checks

/-!
# Two walks side by side

Two walks through documents with the same fonts, whose records have the same paths, stand at the
same font after every step, whatever else they read from the fonts. So attributes of fonts and axes
decide neither which fonts are handed out nor which files are asked for, and neither does the source
of the locale.
-/

namespace FontCatalog.Walk

variable {d d' : Document} {w w' : Walk} {ahead ahead' : List ElementId}

/-! ## What decides a step -/

-- Where a walk stands decides which fonts are ahead of it.
theorem Ahead.ahead_eq (h : Ahead d w ahead) : ahead = d.fonts.drop (w.reached d) := by
  obtain ⟨hsplit, hlength⟩ := h.fonts_eq
  have htaken : (d.fonts.take (w.reached d)).length = w.reached d := by
    rw [List.length_take]
    omega
  conv_rhs => rw [hsplit]
  rw [List.drop_append, List.drop_of_length_le (Nat.le_of_eq htaken), htaken, Nat.sub_self]
  rfl

/-- Where a step leads and what it asks for. Of the records, only their paths matter to it. -/
theorem Ahead.next_decided (h : Ahead d w ahead) (available : Path → Bool) :
    let rest := ahead.dropWhile (w.misses d available)
    (w.next available).walk.cursor =
        (match w.cursor with
        | .unstarted => d.fonts.head?.elim .exhausted .at
        | .at _ => rest.head?.elim .exhausted .at
        | .exhausted => .exhausted) ∧
      (w.next available).checked =
        match w.cursor with
        | .at _ => (ahead.takeWhile (w.misses d available) ++ rest.head?.toList).map
            fun font => (w.recordOf d font).path
        | _ => [] := by
  cases h with
  | exhausted dir source => exact ⟨rfl, rfl⟩
  | unstarted dir source =>
    simp only [Walk.next, Document.firstFont?_eq_head?]
    cases d.fonts.head? <;> exact ⟨rfl, rfl⟩
  | @standing dir source passed ahead font hfonts =>
    obtain ⟨-, hwalk, hchecked⟩ := next_standing dir source available hfonts
    refine ⟨?_, hchecked⟩
    rw [hwalk]
    cases (ahead.dropWhile _).head? <;> rfl

/-! ## Side by side -/

/-- Two walks that stand at the same place of documents with the same fonts and paths. -/
structure Abreast (d d' : Document) (w w' : Walk) : Prop where
  fonts : d.fonts = d'.fonts
  paths : ∀ font, (w.recordOf d font).path = (w'.recordOf d' font).path
  left : ∃ ahead, Ahead d w ahead
  right : ∃ ahead, Ahead d' w' ahead
  cursor : w.cursor = w'.cursor

namespace Abreast

theorem start (hfonts : d.fonts = d'.fonts) {c c' : Config}
    (hpaths : ∀ font, (Record.ofElement d font c.fontDir c.localeSource).path =
      (Record.ofElement d' font c'.fontDir c'.localeSource).path) :
    Abreast d d' (ofDocument d c) (ofDocument d' c') where
  fonts := hfonts
  paths := hpaths
  left := ⟨d.fonts, .unstarted c.fontDir c.localeSource⟩
  right := ⟨d'.fonts, .unstarted c'.fontDir c'.localeSource⟩
  cursor := rfl

/-- One step of each walk asks for the same files and leaves them at the same place. -/
theorem next (h : Abreast d d' w w') (available : Path → Bool) :
    (w.next available).checked = (w'.next available).checked ∧
      Abreast d d' (w.next available).walk (w'.next available).walk := by
  obtain ⟨ahead, hleft⟩ := h.left
  obtain ⟨ahead', hright⟩ := h.right
  have hahead : ahead = ahead' := by
    rw [hleft.ahead_eq, hright.ahead_eq, h.fonts, reached, reached, h.cursor, h.fonts]
  subst hahead
  have hpath : (fun font => (w.recordOf d font).path) = fun font => (w'.recordOf d' font).path :=
    funext h.paths
  have hmisses : w.misses d available = w'.misses d' available := by
    funext font
    rw [misses, misses, h.paths font]
  obtain ⟨hcursor, hchecked⟩ := hleft.next_decided available
  obtain ⟨hcursor', hchecked'⟩ := hright.next_decided available
  rw [h.cursor, h.fonts, hmisses, ← hcursor'] at hcursor
  rw [h.cursor, hmisses, hpath, ← hchecked'] at hchecked
  refine ⟨hchecked, h.fonts, fun font => ?_, ?_, ?_, hcursor⟩
  · rw [hleft.recordOf_next, hright.recordOf_next, h.paths font]
  · obtain ⟨_, rest, -, hrest, -⟩ := hleft.next_taken available
    exact ⟨rest, hrest⟩
  · obtain ⟨_, rest, -, hrest, -⟩ := hright.next_taken available
    exact ⟨rest, hrest⟩

/-- One step of each walk hands out the record of the same font, or nothing. -/
theorem next_record (h : Abreast d d' w w') (available : Path → Bool) :
    ∃ place : Option ElementId, (∀ font ∈ place, font ∈ d.fonts) ∧
      (w.next available).record = place.map (w.recordOf d) ∧
        (w'.next available).record = place.map (w'.recordOf d') := by
  obtain ⟨_, hleft⟩ := h.left
  obtain ⟨_, hright⟩ := h.right
  have hnext := (h.next available).2
  obtain ⟨_, hrest⟩ := hnext.left
  have hrecord := hleft.next_record available
  have hrecord' := hright.next_record available
  rw [← hnext.cursor] at hrecord'
  cases hcursor : (w.next available).walk.cursor with
  | unstarted =>
    rw [hcursor] at hrecord
    cases hrecord
  | «at» font =>
    rw [hcursor] at hrecord hrecord'
    refine ⟨some font, ?_, Option.some.inj hrecord, Option.some.inj hrecord'⟩
    rintro _ ⟨⟩
    exact hrest.mem_fonts hcursor
  | exhausted =>
    rw [hcursor] at hrecord hrecord'
    exact ⟨none, by simp, Option.some.inj hrecord, Option.some.inj hrecord'⟩

theorem after (h : Abreast d d' w w') (available : Path → Bool) (count : Nat) :
    Abreast d d' (w.after available count) (w'.after available count) := by
  induction count with
  | zero => exact h
  | succ count ih => exact (ih.next available).2

/-- Whatever step comes next, both walks hand out the record of the same font and ask for the same
files. -/
theorem step (h : Abreast d d' w w') (available : Path → Bool) (count : Nat) :
    let s := (w.after available count).next available
    let s' := (w'.after available count).next available
    s.checked = s'.checked ∧
      ∃ place : Option ElementId, (∀ font ∈ place, font ∈ d.fonts) ∧
        s.record = place.map (w.recordOf d) ∧ s'.record = place.map (w'.recordOf d') := by
  intro s s'
  obtain ⟨_, hleft⟩ := h.left
  obtain ⟨_, hright⟩ := h.right
  obtain ⟨_, -, hrecord⟩ := hleft.after available count
  obtain ⟨_, -, hrecord'⟩ := hright.after available count
  have hafter := h.after available count
  refine ⟨(hafter.next available).1, ?_⟩
  rw [← hrecord, ← hrecord']
  exact hafter.next_record available

end Abreast

/-! ## What attributes do not decide -/

/-- Walks through two documents that differ only in attributes, and not in those of families, hand
out something at the same steps, with the same path and the same locale, and ask for the same files.
Where locales come from changes nothing but the locales, and there are none if they do not come from
the families. -/
theorem attributes_undecisive (d d' : Document) (h : d.Agrees d') (c : Config)
    (available : Path → Bool) (count : Nat) :
    let stepOf (d : Document) (c : Config) :=
      ((ofDocument d c).after available count).next available
    ((stepOf d c).record.map (fun r => (r.path, r.locale)) =
        (stepOf d' c).record.map (fun r => (r.path, r.locale)) ∧
      (stepOf d c).checked = (stepOf d' c).checked) ∧
    (stepOf d (c.withLocaleSource .documentParent)).record =
        (stepOf d (c.withLocaleSource .family)).record.map (fun r => { r with locale := none }) ∧
      (stepOf d (c.withLocaleSource .documentParent)).checked =
        (stepOf d (c.withLocaleSource .family)).checked := by
  intro stepOf
  constructor
  · have hpaths (font : ElementId) :
        (Record.ofElement d font c.fontDir c.localeSource).path =
          (Record.ofElement d' font c.fontDir c.localeSource).path := by
      simp only [Record.ofElement, h.text]
    obtain ⟨hchecked, place, hplace, hrecord, hrecord'⟩ :=
      (Abreast.start h.fonts hpaths).step available count
    refine ⟨?_, hchecked⟩
    simp only [stepOf, hrecord, hrecord']
    cases place with
    | none => rfl
    | some font =>
      exact congrArg some (Prod.ext (hpaths font) (h.localeOf (hplace font rfl) c.localeSource))
  · have hstart : Abreast d d (ofDocument d (c.withLocaleSource .family))
        (ofDocument d (c.withLocaleSource .documentParent)) := .start rfl fun _ => rfl
    obtain ⟨hchecked, place, -, hrecord, hrecord'⟩ := hstart.step available count
    refine ⟨?_, hchecked.symm⟩
    simp only [stepOf, hrecord, hrecord']
    cases place <;> rfl

/-- A configuration with two fonts, with some attributes for the second one and its axis. -/
def twoFonts (font axis : List Xml.Attribute) : Document :=
  .ofTree (.element none "familyset" [] [
    .element none "family" [⟨none, "lang", "ja"⟩] [
      .element none "font" [] [.text "a.ttf"],
      .element none "font" font [.text "b.ttf", .element none "axis" axis []]]])

theorem attributes_undecisive_twoFonts :
    let d := twoFonts [⟨none, "weight", "70000"⟩] [⟨none, "tag", "wght"⟩, ⟨none, "tag", ""⟩]
    let d' := twoFonts [⟨none, "weight", "700"⟩, ⟨none, "index", "1"⟩] []
    let second (d : Document) := ((ofDocument d .default).after (fun _ => true) 1).next fun _ => true
    d.Agrees d' ∧
      (second d).record.map (fun r => (r.path, r.locale)) =
        (second d').record.map (fun r => (r.path, r.locale)) ∧
      (second d).checked = (second d').checked := by
  intro d d' second
  have h : d.Agrees d' := by
    refine .of_forall₂ (.cons ?_ (.cons ?_ (.cons ?_ (.cons ?_ (.cons ?_ .nil)))))
    all_goals exact ⟨rfl, rfl, rfl, rfl, rfl, by decide⟩
  exact ⟨h, (attributes_undecisive d d' h .default (fun _ => true) 1).1⟩

end FontCatalog.Walk
