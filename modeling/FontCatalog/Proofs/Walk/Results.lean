import FontCatalog.Proofs.Walk.Fonts

/-!
# What a walk hands out

A walk that is at some place has a list of fonts ahead of it, and each step takes away those up to
the one that it hands out. So the records of a walk are those of all fonts in order, without the
ones whose file is not available, where the first font is never asked for.
-/

namespace FontCatalog

/-- The records that a walk hands out of all records of a document: the first one, and of the others
those whose file is available. -/
def Record.handedOut (available : Path → Bool) : List Record → List Record
  | [] => []
  | first :: rest => first :: rest.filter (available ·.path)

theorem Record.handedOut_true (records : List Record) :
    Record.handedOut (fun _ => true) records = records := by
  cases records with
  | nil => rfl
  | cons first rest => rw [handedOut, List.filter_eq_self.mpr fun _ _ => rfl]

namespace Walk

/-- A walk through a document with the fonts that are still ahead of it. -/
inductive Ahead (d : Document) : Walk → List ElementId → Prop where
  | unstarted (dir : Path) (source : LocaleSource) :
      Ahead d ⟨some d, .unstarted, dir, source⟩ d.fonts
  | standing (dir : Path) (source : LocaleSource) {passed ahead : List ElementId} {font : ElementId}
      (h : d.fonts = passed ++ font :: ahead) :
      Ahead d ⟨some d, .at font, dir, source⟩ ahead
  | exhausted (dir : Path) (source : LocaleSource) : Ahead d ⟨none, .exhausted, dir, source⟩ []

/-- Whether the file of a font is missing. -/
def misses (w : Walk) (d : Document) (available : Path → Bool) (font : ElementId) : Bool :=
  !available (w.recordOf d font).path

/-- The records that are still to come, given the fonts ahead. -/
def upcoming (w : Walk) (d : Document) (available : Path → Bool) (ahead : List ElementId) :
    List Record :=
  match w.cursor with
  | .unstarted => Record.handedOut available (ahead.map (w.recordOf d))
  | _ => (ahead.map (w.recordOf d)).filter (available ·.path)

/-- The records of the first steps of a walk. -/
def results (available : Path → Bool) : (count : Nat) → Walk → List (Option Record)
  | 0, _ => []
  | count + 1, w =>
    let s := w.next available
    s.record :: results available count s.walk

variable {d : Document} {w : Walk} {font : ElementId} {passed ahead : List ElementId}

-- A walk has let go of its document exactly when it is exhausted.
theorem Ahead.document_eq_none_iff (h : Ahead d w ahead) :
    w.document = none ↔ w.cursor = .exhausted := by
  cases h with
  | unstarted => simp
  | standing => simp
  | exhausted => simp

theorem Ahead.mem_fonts (h : Ahead d w ahead) {font : ElementId} (hat : w.cursor = .at font) :
    font ∈ d.fonts := by
  cases h with
  | unstarted => simp at hat
  | standing dir source hfonts =>
    obtain rfl := Cursor.at.inj hat
    simp [hfonts]
  | exhausted => simp at hat

theorem next_of_document_eq_none (h : w.document = none) (available : Path → Bool) :
    w.next available = ⟨none, w, [], []⟩ := by
  simp [next, h]

/-! ## One step -/

/-- The step from a font passes over the fonts that are missing, asks for each of them once, and
stops at the first one that is not or at the end. -/
theorem seek_spec (w : Walk) (available : Path → Bool) (h : d.fonts = passed ++ font :: ahead)
    {fuel : Nat} (hfuel : ahead.length < fuel) :
    let rest := ahead.dropWhile (w.misses d available)
    (w.seek d available fuel font).record = rest.head?.map (w.recordOf d) ∧
      (w.seek d available fuel font).walk =
        rest.head?.elim w.exhaust (fun next => { w with cursor := .at next }) ∧
      (w.seek d available fuel font).checked =
        (ahead.takeWhile (w.misses d available) ++ rest.head?.toList).map
          fun next => (w.recordOf d next).path := by
  obtain ⟨fuel, rfl⟩ := Nat.exists_eq_add_of_lt hfuel
  induction ahead generalizing passed font with
  | nil => simp [seek, Document.fst_nextFont h]
  | cons next ahead ih =>
    have hnext : d.fonts = (passed ++ [font]) ++ next :: ahead := by simp [h]
    rw [List.length_cons, show ahead.length + 1 + fuel + 1 = (ahead.length + fuel + 1) + 1 by omega,
      seek]
    simp only [Document.fst_nextFont h, List.head?_cons]
    cases hpath : available (w.recordOf d next).path with
    | true => simp [misses, hpath]
    | false =>
      -- The font is passed over, and the search goes on from it.
      have hmisses : w.misses d available next = true := by simp [misses, hpath]
      rw [List.dropWhile_cons_of_pos hmisses, List.takeWhile_cons_of_pos hmisses]
      obtain ⟨hrecord, hwalk, hchecked⟩ := ih hnext (by omega)
      simp only [Bool.false_eq_true, ↓reduceIte]
      exact ⟨hrecord, hwalk, by rw [hchecked]; rfl⟩

/-- The step of a walk that stands at a font, by the fonts ahead of it. -/
theorem next_standing (dir : Path) (source : LocaleSource) (available : Path → Bool)
    (h : d.fonts = passed ++ font :: ahead) :
    let w : Walk := ⟨some d, .at font, dir, source⟩
    let rest := ahead.dropWhile (w.misses d available)
    (w.next available).record = rest.head?.map (w.recordOf d) ∧
      (w.next available).walk =
        rest.head?.elim w.exhaust (fun next => { w with cursor := .at next }) ∧
      (w.next available).checked =
        (ahead.takeWhile (w.misses d available) ++ rest.head?.toList).map
          fun next => (w.recordOf d next).path :=
  seek_spec _ available h (Document.length_ahead_lt_size h)

-- The records of the fonts that are not missing begin with that of the first such font.
private theorem filter_available (w : Walk) (d : Document) (available : Path → Bool)
    (ahead : List ElementId) :
    let rest := ahead.dropWhile (w.misses d available)
    (ahead.map (w.recordOf d)).filter (available ·.path) =
      (rest.head?.map (w.recordOf d)).toList ++
        (rest.tail.map (w.recordOf d)).filter (available ·.path) := by
  induction ahead with
  | nil => rfl
  | cons next ahead ih =>
    cases hpath : available (w.recordOf d next).path with
    | true => simp [misses, hpath]
    | false =>
      rw [List.dropWhile_cons_of_pos (by simp [misses, hpath]), List.map_cons,
        List.filter_cons_of_neg (by simp [hpath])]
      exact ih

/-- One step hands out the first record that is still to come and leaves the others. -/
theorem Ahead.next (h : Ahead d w ahead) (available : Path → Bool) :
    (w.next available).record = (w.upcoming d available ahead).head? ∧
      ∃ rest, Ahead d (w.next available).walk rest ∧
        (w.next available).walk.upcoming d available rest =
          (w.upcoming d available ahead).tail := by
  cases h with
  | exhausted dir source =>
    exact ⟨rfl, [], .exhausted dir source, rfl⟩
  | unstarted dir source =>
    simp only [Walk.next, Document.firstFont?_eq_head?]
    cases hfonts : d.fonts with
    | nil => exact ⟨rfl, [], .exhausted dir source, rfl⟩
    | cons font rest =>
      have hpassed : d.fonts = [] ++ font :: rest := hfonts
      exact ⟨rfl, rest, .standing dir source hpassed, rfl⟩
  | @standing dir source passed ahead font hfonts =>
    let w : Walk := ⟨some d, .at font, dir, source⟩
    obtain ⟨hrecord, hwalk, -⟩ := next_standing dir source available hfonts
    have hupcoming : w.upcoming d available ahead = _ := filter_available w d available ahead
    rw [hrecord, hwalk, hupcoming]
    cases hrest : ahead.dropWhile (w.misses d available) with
    | nil => exact ⟨rfl, [], .exhausted dir source, rfl⟩
    | cons next rest =>
      have hpassed : d.fonts =
          (passed ++ font :: ahead.takeWhile (w.misses d available)) ++ next :: rest := by
        rw [hfonts, List.append_assoc, List.cons_append, ← hrest, List.takeWhile_append_dropWhile]
      exact ⟨rfl, rest, .standing dir source hpassed, rfl⟩

/-! ## Several steps -/

/-- The first steps hand out the records that are still to come, in order, and nothing after
them. -/
theorem Ahead.results (h : Ahead d w ahead) (available : Path → Bool) (count : Nat) :
    w.results available count =
      ((w.upcoming d available ahead).take count).map some ++
        List.replicate (count - (w.upcoming d available ahead).length) none := by
  -- Each step takes away one record, whatever place it leaves the walk at.
  induction count generalizing w ahead with
  | zero => simp [Walk.results]
  | succ count ih =>
    obtain ⟨hrecord, rest, hahead, hupcoming⟩ := h.next available
    rw [Walk.results, hrecord, ih hahead, hupcoming]
    cases w.upcoming d available ahead with
    | nil => simp [List.replicate_succ]
    | cons r rs => simp

-- The steps up to the first that gives nothing hand out all records that are still to come.
theorem Ahead.filterMap_stepsWith (h : Ahead d w ahead) (available : Path → Bool) {fuel : Nat}
    (hfuel : (w.upcoming d available ahead).length < fuel) :
    (w.stepsWith available fuel).filterMap (·.record) = w.upcoming d available ahead := by
  induction fuel generalizing w ahead with
  | zero => exact absurd hfuel (Nat.not_lt_zero _)
  | succ fuel ih =>
    obtain ⟨hrecord, rest, hahead, hupcoming⟩ := h.next available
    rw [stepsWith]
    cases hrecords : w.upcoming d available ahead with
    | nil =>
      rw [hrecords, List.head?_nil] at hrecord
      simp [hrecord]
    | cons r rs =>
      rw [hrecords, List.head?_cons] at hrecord
      rw [hrecords, List.tail_cons] at hupcoming
      rw [hrecords, List.length_cons] at hfuel
      have htail := ih hahead (by rw [hupcoming]; omega)
      simp [hrecord, htail, hupcoming]

theorem Ahead.length_upcoming_le (h : Ahead d w ahead) (available : Path → Bool) :
    (w.upcoming d available ahead).length ≤ ahead.length := by
  unfold upcoming
  split
  · cases ahead with
    | nil => exact Nat.le_refl 0
    | cons font ahead =>
      have hle := List.length_filter_le (available ·.path) (ahead.map (w.recordOf d))
      rw [List.length_map] at hle
      simp only [List.map_cons, Record.handedOut, List.length_cons]
      omega
  · have hle := List.length_filter_le (available ·.path) (ahead.map (w.recordOf d))
    rwa [List.length_map] at hle

/-- Draining a walk gives all records that are still to come. -/
theorem Ahead.records (h : Ahead d w ahead) (available : Path → Bool) :
    w.records available = w.upcoming d available ahead := by
  -- No font occurs twice, so there is fuel for every font that is ahead.
  refine h.filterMap_stepsWith available (Nat.lt_of_le_of_lt (h.length_upcoming_le available) ?_)
  cases h with
  | unstarted => exact Nat.lt_succ_of_le d.length_fonts_le_size
  | standing dir source hfonts => exact Nat.lt_succ_of_lt (Document.length_ahead_lt_size hfonts)
  | exhausted => exact Nat.one_pos

/-- A walk through a document hands out the records of its fonts in order, where the first one is
handed out as it is and the others only if their file is available, and nothing after that. -/
theorem results_ofDocument (d : Document) (c : Config) (available : Path → Bool) (count : Nat) :
    let records := Record.handedOut available
      (d.fonts.map fun font => Record.ofElement d font c.fontDir c.localeSource)
    (ofDocument d c).results available count =
      (records.take count).map some ++ List.replicate (count - records.length) none :=
  (Ahead.unstarted c.fontDir c.localeSource).results available count

end Walk

end FontCatalog
