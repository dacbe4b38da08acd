import FontCatalog.Proofs.Walk.Results

/-!
# What a walk asks for

Every step of a walk takes away some of the fonts that are ahead and asks for each of them once, in
order, except for the very first font of the document. So what was asked for so far are the fonts
after the first one, up to the font at which the walk stands.
-/

namespace FontCatalog.Walk

/-- The walk after some steps. -/
def after (available : Path → Bool) : (count : Nat) → Walk → Walk
  | 0, w => w
  | count + 1, w => ((after available count w).next available).walk

/-- The paths whose availability was asked for in the first steps, in order. -/
def checks (available : Path → Bool) : (count : Nat) → Walk → List Path
  | 0, _ => []
  | count + 1, w => checks available count w ++ ((w.after available count).next available).checked

/-- The number of fonts that a walk has come to: the place of the font at which it stands, counted
from one, and all fonts once it is exhausted. -/
def reached (d : Document) (w : Walk) : Nat :=
  match w.cursor with
  | .unstarted => 0
  | .at font => d.fonts.idxOf font + 1
  | .exhausted => d.fonts.length

variable {d : Document} {w : Walk} {font : ElementId} {ahead : List ElementId}

theorem after_next (available : Path → Bool) (count : Nat) (w : Walk) :
    (w.next available).walk.after available count = w.after available (count + 1) := by
  induction count with
  | zero => rfl
  | succ count ih => rw [after, ih, ← after]

-- The last of some results is that of the step after the others.
theorem results_succ (available : Path → Bool) (count : Nat) (w : Walk) :
    w.results available (count + 1) =
      w.results available count ++ [((w.after available count).next available).record] := by
  induction count generalizing w with
  | zero => rfl
  | succ count ih =>
    rw [results, ih, after_next]
    rfl

-- A walk has come to the fonts that are not ahead of it.
theorem Ahead.fonts_eq (h : Ahead d w ahead) :
    d.fonts = d.fonts.take (w.reached d) ++ ahead ∧
      w.reached d + ahead.length = d.fonts.length := by
  cases h with
  | unstarted dir source => exact ⟨rfl, Nat.zero_add _⟩
  | exhausted dir source => simp [reached]
  | @standing dir source passed ahead font hfonts =>
    -- No font occurs twice, so the place of this one is known.
    have hnodup := d.nodup_fonts
    rw [hfonts] at hnodup
    have hpassed : font ∉ passed := by
      intro hmem
      exact (List.nodup_append.mp hnodup).2.2 font hmem font List.mem_cons_self rfl
    have hreached : reached d ⟨some d, .at font, dir, source⟩ = (passed ++ [font]).length := by
      simp only [reached]
      rw [hfonts, List.idxOf_append_of_notMem hpassed, List.idxOf_cons_self, Nat.add_zero,
        List.length_append, List.length_singleton]
    have hsplit : d.fonts = (passed ++ [font]) ++ ahead := by simp [hfonts]
    rw [hreached, hsplit, List.take_left]
    exact ⟨rfl, List.length_append.symm⟩

/-! ## One step -/

/-- One step takes away the first of the fonts ahead and stops at the last of them or at the end.
It asks for each of them that is not the very first font. -/
theorem Ahead.next_taken (h : Ahead d w ahead) (available : Path → Bool) :
    ∃ taken rest, ahead = taken ++ rest ∧ Ahead d (w.next available).walk rest ∧
      (w.next available).checked =
        (taken.drop (1 - w.reached d)).map fun font => (w.recordOf d font).path := by
  cases h with
  | exhausted dir source => exact ⟨[], [], rfl, .exhausted dir source, by simp [Walk.next]⟩
  | unstarted dir source =>
    simp only [Walk.next, Document.firstFont?_eq_head?]
    cases hfonts : d.fonts with
    | nil => exact ⟨[], [], rfl, .exhausted dir source, rfl⟩
    | cons font rest =>
      have hpassed : d.fonts = [] ++ font :: rest := hfonts
      exact ⟨[font], rest, rfl, .standing dir source hpassed, rfl⟩
  | @standing dir source passed ahead font hfonts =>
    let w : Walk := ⟨some d, .at font, dir, source⟩
    obtain ⟨-, hwalk, hchecked⟩ := next_standing dir source available hfonts
    have hsplit : ahead.takeWhile (w.misses d available) ++ ahead.dropWhile (w.misses d available) =
        ahead := List.takeWhile_append_dropWhile
    rw [hwalk, hchecked]
    cases hrest : ahead.dropWhile (w.misses d available) with
    | nil =>
      rw [hrest] at hsplit
      exact ⟨_, [], hsplit.symm, .exhausted dir source, by simp [reached, w]⟩
    | cons next rest =>
      rw [hrest] at hsplit
      have hpassed : d.fonts =
          (passed ++ font :: ahead.takeWhile (w.misses d available)) ++ next :: rest := by
        rw [hfonts, List.append_assoc, List.cons_append, hsplit]
      refine ⟨ahead.takeWhile (w.misses d available) ++ [next], rest, ?_,
        .standing dir source hpassed, by simp [reached, w]⟩
      rw [List.append_assoc, List.singleton_append, hsplit]

-- A step hands out the record of the font at which it stops, and nothing at the end.
theorem Ahead.next_record (h : Ahead d w ahead) (available : Path → Bool) :
    some (w.next available).record =
      match (w.next available).walk.cursor with
      | .unstarted => none
      | .at font => some (some (w.recordOf d font))
      | .exhausted => some none := by
  cases h with
  | exhausted dir source => rfl
  | unstarted dir source =>
    simp only [Walk.next]
    cases d.firstFont? <;> rfl
  | @standing dir source passed ahead font hfonts =>
    obtain ⟨hrecord, hwalk, -⟩ := next_standing dir source available hfonts
    rw [hrecord, hwalk]
    cases (ahead.dropWhile _).head? <;> rfl

-- A step leaves the settings of a walk as they are.
theorem Ahead.recordOf_next (h : Ahead d w ahead) (available : Path → Bool) :
    (w.next available).walk.recordOf = w.recordOf := by
  cases h with
  | exhausted dir source => rfl
  | unstarted dir source =>
    simp only [Walk.next]
    cases d.firstFont? <;> rfl
  | @standing dir source passed ahead font hfonts =>
    obtain ⟨-, hwalk, -⟩ := next_standing dir source available hfonts
    rw [hwalk]
    cases (ahead.dropWhile _).head? <;> rfl

/-! ## Several steps -/

theorem Ahead.after (h : Ahead d w ahead) (available : Path → Bool) (count : Nat) :
    ∃ rest, Ahead d (w.after available count) rest ∧
      (w.after available count).recordOf = w.recordOf := by
  induction count with
  | zero => exact ⟨ahead, h, rfl⟩
  | succ count ih =>
    obtain ⟨_, hbefore, hrecord⟩ := ih
    obtain ⟨_, rest, -, hahead, -⟩ := hbefore.next_taken available
    exact ⟨rest, hahead, (hbefore.recordOf_next available).trans hrecord⟩

/-- The first steps ask for the fonts that the walk comes to, except for the very first font. -/
theorem Ahead.checks (h : Ahead d w ahead) (available : Path → Bool) (count : Nat) :
    ((d.fonts.take ((w.after available count).reached d)).drop 1).map
        (fun font => (w.recordOf d font).path) =
      ((d.fonts.take (w.reached d)).drop 1).map (fun font => (w.recordOf d font).path) ++
        w.checks available count := by
  induction count with
  | zero => simp [Walk.after, Walk.checks]
  | succ count ih =>
    obtain ⟨_, hbefore, hrecord⟩ := h.after available count
    obtain ⟨taken, rest, rfl, hahead, hchecked⟩ := hbefore.next_taken available
    -- What the walk has come to after one more step is what it had come to before and what is taken.
    have hcome : d.fonts.take ((w.after available (count + 1)).reached d) =
        d.fonts.take ((w.after available count).reached d) ++ taken := by
      have hsplit := hbefore.fonts_eq.1.symm.trans hahead.fonts_eq.1
      rw [← List.append_assoc] at hsplit
      exact (List.append_cancel_right hsplit).symm
    have hlength : (d.fonts.take ((w.after available count).reached d)).length =
        (w.after available count).reached d := by
      have hle := hbefore.fonts_eq.2
      rw [List.length_take]
      omega
    rw [hcome, List.drop_append, hlength, List.map_append, ih, Walk.checks, hchecked, hrecord,
      List.append_assoc]

/-- After any number of steps, the availability of every font of the document up to the one at which
the walk stands has been asked for once, in order, except for the first font. The walk stands at the
font that it handed out last, and once it is exhausted it asks for nothing. -/
theorem checks_ofDocument (d : Document) (c : Config) (available : Path → Bool) (count : Nat) :
    let w := (ofDocument d c).after available count
    let record := fun font => Record.ofElement d font c.fontDir c.localeSource
    (ofDocument d c).checks available count =
        ((d.fonts.map fun font => (record font).path).take (w.reached d)).drop 1 ∧
      ((ofDocument d c).results available count).getLast? =
        (match w.cursor with
        | .unstarted => none
        | .at font => some (some (record font))
        | .exhausted => some none) ∧
      (∀ font, w.cursor = .at font → font ∈ d.fonts) ∧
      (w.cursor = .exhausted → (w.next available).checked = []) := by
  intro w record
  have hstart : Ahead d (ofDocument d c) d.fonts := .unstarted c.fontDir c.localeSource
  obtain ⟨rest, hahead, -⟩ := hstart.after available count
  refine ⟨?checks, ?last, fun font => hahead.mem_fonts, ?silent⟩
  case checks =>
    have hchecks := hstart.checks available count
    rw [show (ofDocument d c).reached d = 0 from rfl, List.take_zero, List.drop_nil, List.map_nil,
      List.nil_append] at hchecks
    rw [← hchecks, List.map_drop, List.map_take]
    rfl
  case last =>
    cases count with
    | zero => rfl
    | succ count =>
      obtain ⟨_, hbefore, hrecord⟩ := hstart.after available count
      rw [results_succ, List.getLast?_concat, hbefore.next_record available, hrecord]
      rfl
  case silent =>
    intro hexhausted
    rw [next_of_document_eq_none (hahead.document_eq_none_iff.mpr hexhausted)]

end FontCatalog.Walk
