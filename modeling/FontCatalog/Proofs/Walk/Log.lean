import FontCatalog.Proofs.Walk.Checks

/-!
# What a walk tells

The messages of a walk account for all that it does. Every file that is missing is named once, every
family after that of the first font is announced once, and the end is told once. The steps of a walk
keep three sums, of what was told so far and what is still to come, and the sums of a whole run follow
from them.
-/

namespace FontCatalog

namespace Walk

/-- Whether a message says that a font is passed over. -/
def isSkipping (message : String) : Bool := "skipping ".toList.isPrefixOf message.toList

/-- The message that a font file is missing. -/
def skipping (p : Path) : String := "skipping " ++ p.display ++ ": font file is not installed"

/-- Families are announced for tracing only. -/
def levelOf (message : String) : Log.Level :=
  if message = "advancing to next family" then .trace else .debug

/-- The log of the first steps. -/
def logs (available : Path → Bool) : (count : Nat) → Walk → List Log.Entry
  | 0, _ => []
  | count + 1, w => logs available count w ++ ((w.after available count).next available).log

/-- The families that are still to be looked into. -/
def familiesLeft (d : Document) (w : Walk) : List ElementId :=
  match w.cursor with
  | .unstarted => d.laterFamilies
  | .at font => d.familiesAfter font
  | .exhausted => []

end Walk

namespace Step

-- What a step tells, without levels.
def messages (s : Step) : List String := s.log.map (·.message)

/-- The log of a step from a walk accounts for what the step does. -/
structure Accounted (d : Document) (available : Path → Bool) (w : Walk) (s : Step) : Prop where
  level : ∀ e ∈ s.log, e.level = Walk.levelOf e.message
  /-- Each file that was asked for and is missing is named. -/
  skipped : s.messages.filter Walk.isSkipping =
    (s.checked.filter fun p => !available p).map Walk.skipping
  /-- Each font that the step comes to is handed out or passed over. -/
  taken : w.reached d + (s.record.toList.length + (s.checked.filter fun p => !available p).length) =
    s.walk.reached d
  /-- Each family that the step looks into is announced. -/
  advanced : s.messages.count "advancing to next family" + (s.walk.familiesLeft d).length =
    (w.familiesLeft d).length
  /-- The end is told when it is come to. -/
  ended : w.isExhausted.toNat + s.messages.count "font configuration exhausted" =
    s.walk.isExhausted.toNat

end Step

namespace Walk

variable {d : Document} {w : Walk} {font : ElementId} {passed ahead : List ElementId}

/-! ## The messages -/

@[simp]
theorem isSkipping_skipping (p : Path) : isSkipping (skipping p) = true := by
  rw [isSkipping, skipping, String.append_assoc, String.toList_append]
  exact List.isPrefixOf_iff_prefix.mpr (List.prefix_append _ _)

@[simp]
theorem isSkipping_advancing : isSkipping "advancing to next family" = false := by
  decide

@[simp]
theorem isSkipping_exhausted : isSkipping "font configuration exhausted" = false := by
  decide

-- A message of another kind is not that a file is missing.
theorem skipping_ne {message : String} (h : isSkipping message = false) (p : Path) :
    skipping p ≠ message := by
  rintro rfl
  rw [isSkipping_skipping] at h
  cases h

-- Announcing families does not tell the end.
theorem count_advances (families : Nat) :
    (List.replicate families "advancing to next family").count "font configuration exhausted" =
      0 := by
  rw [List.count_replicate]
  simp

/-! ## One step -/

theorem messages_advances (families : Nat) (log : List Log.Entry) :
    (List.replicate families advancingEntry ++ log).map (·.message) =
      List.replicate families "advancing to next family" ++ log.map (·.message) := by
  rw [List.map_append, List.map_replicate]
  rfl

theorem level_advances (families : Nat) {log : List Log.Entry}
    (h : ∀ e ∈ log, e.level = levelOf e.message) :
    ∀ e ∈ List.replicate families advancingEntry ++ log, e.level = levelOf e.message := by
  intro e he
  rcases List.mem_append.mp he with he | he
  · rw [List.eq_of_mem_replicate he]
    rfl
  · exact h e he

theorem level_exhaustedEntry : ∀ e ∈ [exhaustedEntry], e.level = levelOf e.message := by
  decide

-- That a file is missing does not announce a family.
theorem level_skippingEntry (p : Path) :
    (skippingEntry p).level = levelOf (skippingEntry p).message := by
  have hne : (skippingEntry p).message ≠ "advancing to next family" :=
    skipping_ne isSkipping_advancing p
  rw [levelOf, if_neg hne]
  rfl

-- The next font is one further on in the list of all fonts.
theorem reached_next {next : ElementId} (w : Walk)
    (h : d.fonts = passed ++ font :: next :: ahead) :
    reached d { w with cursor := .at font } + 1 = reached d { w with cursor := .at next } := by
  have hnext : d.fonts = (passed ++ [font]) ++ next :: ahead := by simp [h]
  have hfont := (Ahead.standing w.fontDir w.localeSource h).fonts_eq.2
  have hnext := (Ahead.standing w.fontDir w.localeSource hnext).fonts_eq.2
  rw [List.length_cons] at hfont
  simp only [reached] at hfont hnext ⊢
  omega

section

variable {next : ElementId} {families : Nat} {available : Path → Bool}

/-- Behind the last font there are only families without fonts, and the end. -/
theorem accounted_end (w : Walk) (h : d.fonts = passed ++ [font])
    (hfamilies : families = (d.familiesAfter font).length) :
    Step.Accounted d available { w with cursor := .at font }
      ⟨none, w.exhaust, [], List.replicate families advancingEntry ++ [exhaustedEntry]⟩ where
  level := level_advances families level_exhaustedEntry
  skipped := by simp [Step.messages, advancingEntry, exhaustedEntry]
  taken := (Ahead.standing w.fontDir w.localeSource h).fonts_eq.2
  advanced := by
    have hend : ["font configuration exhausted"].count "advancing to next family" = 0 := by decide
    rw [Step.messages, messages_advances, List.count_append, List.count_replicate_self]
    exact (congrArg (families + ·) hend).trans hfamilies
  ended := by
    rw [Step.messages, messages_advances, List.count_append, count_advances]
    rfl

/-- The search stops at a font that is there. -/
theorem accounted_stop (w : Walk) (r : Record) (h : d.fonts = passed ++ font :: next :: ahead)
    (hfamilies : families + (d.familiesAfter next).length = (d.familiesAfter font).length)
    {p : Path} (hthere : available p = true) :
    Step.Accounted d available { w with cursor := .at font }
      ⟨some r, { w with cursor := .at next }, [p], List.replicate families advancingEntry⟩ where
  level := by simpa using level_advances families (List.forall_mem_nil _)
  skipped := by simp [Step.messages, advancingEntry, hthere]
  taken := by simpa [hthere] using reached_next w h
  advanced := by
    rw [Step.messages, List.map_replicate, advancingEntry, List.count_replicate_self]
    exact hfamilies
  ended := by
    rw [Step.messages, List.map_replicate, advancingEntry, count_advances]
    rfl

/-- A font that is missing is passed over: it was asked for, and the message of this stands between
those of the families before it and what the search from it tells. -/
theorem accounted_pass {s : Step} {p : Path} (h : d.fonts = passed ++ font :: next :: ahead)
    (hfamilies : families + (d.familiesAfter next).length = (d.familiesAfter font).length)
    (hmissing : available p = false)
    (hs : s.Accounted d available { w with cursor := .at next }) :
    Step.Accounted d available { w with cursor := .at font }
      { s with
        checked := p :: s.checked
        log := List.replicate families advancingEntry ++ skippingEntry p :: s.log } where
  level := level_advances families (List.forall_mem_cons.mpr ⟨level_skippingEntry p, hs.level⟩)
  skipped := by
    have hskipped := hs.skipped
    rw [Step.messages] at hskipped
    rw [Step.messages, messages_advances, List.map_cons,
      show (skippingEntry p).message = skipping p from rfl]
    simp [hmissing, hskipped]
  taken := by
    have htaken := hs.taken
    rw [← reached_next w h] at htaken
    simp only [List.filter_cons, hmissing, Bool.not_false, ↓reduceIte, List.length_cons]
    omega
  advanced := by
    have hadvanced := hs.advanced
    have hne : (skippingEntry p).message ≠ "advancing to next family" :=
      skipping_ne isSkipping_advancing p
    rw [Step.messages, messages_advances, List.count_append, List.count_replicate_self,
      List.map_cons, List.count_cons_of_ne hne]
    simp only [familiesLeft, Step.messages] at hadvanced ⊢
    omega
  ended := by
    have hne : (skippingEntry p).message ≠ "font configuration exhausted" :=
      skipping_ne isSkipping_exhausted p
    rw [Step.messages, messages_advances, List.count_append, count_advances, List.map_cons,
      List.count_cons_of_ne hne, Nat.zero_add]
    exact hs.ended

end

/-- The step from a font accounts for the fonts that are missing, one by one, and for the font at
which it stops or the end. -/
theorem accounted_seek (w : Walk) (available : Path → Bool)
    (h : d.fonts = passed ++ font :: ahead) {fuel : Nat} (hfuel : ahead.length < fuel) :
    (w.seek d available fuel font).Accounted d available { w with cursor := .at font } := by
  obtain ⟨fuel, rfl⟩ := Nat.exists_eq_add_of_lt hfuel
  induction ahead generalizing passed font with
  | nil =>
    obtain ⟨hnext, hfamilies⟩ := Document.nextFont_spec h
    simp only [seek, hnext, List.head?_nil]
    exact accounted_end w h hfamilies
  | cons next ahead ih =>
    have hpassed : d.fonts = (passed ++ [font]) ++ next :: ahead := by simp [h]
    obtain ⟨hnext, hfamilies⟩ := Document.nextFont_spec h
    rw [List.length_cons, show ahead.length + 1 + fuel + 1 = (ahead.length + fuel + 1) + 1 by omega,
      seek]
    simp only [hnext, List.head?_cons]
    cases hpath : available (w.recordOf d next).path with
    | true => exact accounted_stop w _ h hfamilies hpath
    | false =>
      simp only [Bool.false_eq_true, ↓reduceIte]
      exact accounted_pass h hfamilies hpath (ih hpassed (by omega))

/-- Every step of a walk accounts for what it does. -/
theorem Ahead.accounted (h : Ahead d w ahead) (available : Path → Bool) :
    (w.next available).Accounted d available w := by
  cases h with
  | exhausted dir source => exact ⟨List.forall_mem_nil _, rfl, rfl, rfl, rfl⟩
  | unstarted dir source =>
    simp only [Walk.next, Document.firstFont?_eq_head?]
    cases hfonts : d.fonts with
    | nil =>
      refine ⟨level_exhaustedEntry, rfl, ?taken, ?advanced, rfl⟩
      case taken => simp [reached, exhaust, hfonts]
      case advanced =>
        have hend : ["font configuration exhausted"].count "advancing to next family" = 0 := by
          decide
        simp [Step.messages, exhaustedEntry, familiesLeft, exhaust, Document.laterFamilies, hfonts,
          hend]
    | cons font rest =>
      refine ⟨List.forall_mem_nil _, rfl, ?taken, ?advanced, rfl⟩
      case taken => simp [reached, hfonts]
      case advanced => simp [Step.messages, familiesLeft, Document.laterFamilies, hfonts]
  | @standing dir source _ _ font hfonts =>
    let w : Walk := ⟨some d, .at font, dir, source⟩
    exact accounted_seek w available hfonts (Document.length_ahead_lt_size hfonts)

/-! ## Several steps -/

-- What the first steps tell, without levels.
def messages (available : Path → Bool) (count : Nat) (w : Walk) : List String :=
  (w.logs available count).map (·.message)

theorem messages_succ (available : Path → Bool) (count : Nat) (w : Walk) :
    w.messages available (count + 1) =
      w.messages available count ++ ((w.after available count).next available).messages := by
  rw [messages, logs, List.map_append]
  rfl

/-- The first steps of a walk account for what they do. -/
structure Accounts (d : Document) (available : Path → Bool) (w : Walk) (count : Nat) : Prop where
  level : ∀ e ∈ w.logs available count, e.level = levelOf e.message
  skipped : (w.messages available count).filter isSkipping =
    ((w.checks available count).filter fun p => !available p).map skipping
  taken : w.reached d + ((w.results available count).countP Option.isSome +
      (w.messages available count).countP isSkipping) =
    (w.after available count).reached d
  advanced : (w.messages available count).count "advancing to next family" +
      ((w.after available count).familiesLeft d).length =
    (w.familiesLeft d).length
  ended : w.isExhausted.toNat + (w.messages available count).count "font configuration exhausted" =
    (w.after available count).isExhausted.toNat

-- What the steps account for one by one, they account for together.
theorem Ahead.accounts (h : Ahead d w ahead) (available : Path → Bool) (count : Nat) :
    w.Accounts d available count := by
  induction count with
  | zero => exact ⟨List.forall_mem_nil _, rfl, rfl, Nat.zero_add _, rfl⟩
  | succ count ih =>
    obtain ⟨_, hbefore, -⟩ := h.after available count
    have hstep := hbefore.accounted available
    refine ⟨?level, ?skipped, ?taken, ?advanced, ?ended⟩
    case level => exact List.forall_mem_append.mpr ⟨ih.level, hstep.level⟩
    case skipped =>
      rw [messages_succ, Walk.checks, List.filter_append, List.filter_append, List.map_append,
        ih.skipped, hstep.skipped]
    case taken =>
      have hskips : ((w.after available count).next available).messages.countP isSkipping =
          (((w.after available count).next available).checked.filter fun p => !available p).length := by
        rw [List.countP_eq_length_filter, hstep.skipped, List.length_map]
      have hyield : [((w.after available count).next available).record].countP Option.isSome =
          ((w.after available count).next available).record.toList.length := by
        cases ((w.after available count).next available).record <;> rfl
      have htaken := hstep.taken
      rw [results_succ, List.countP_append, hyield, messages_succ, List.countP_append, hskips,
        Walk.after, ← htaken, ← ih.taken]
      omega
    case advanced =>
      have hadvanced := hstep.advanced
      rw [messages_succ, List.count_append, Walk.after, ← ih.advanced, ← hadvanced]
      omega
    case ended =>
      rw [messages_succ, List.count_append, ← Nat.add_assoc, ih.ended, hstep.ended, Walk.after]

/-! ## The end -/

-- A step hands out nothing exactly if it comes to the end or stands there.
theorem Ahead.record_eq_none_iff (h : Ahead d w ahead) (available : Path → Bool) :
    (w.next available).record = none ↔ (w.next available).walk.isExhausted = true := by
  have hrecord := h.next_record available
  rw [isExhausted]
  cases hcursor : (w.next available).walk.cursor with
  | unstarted =>
    rw [hcursor] at hrecord
    cases hrecord
  | «at» font =>
    rw [hcursor] at hrecord
    rw [Option.some.inj hrecord]
    simp
  | exhausted =>
    rw [hcursor] at hrecord
    rw [Option.some.inj hrecord]
    simp

/-- A walk that has begun has come to its end exactly if a step handed out nothing. -/
theorem Ahead.none_mem_results_iff (h : Ahead d w ahead) (hw : w.isExhausted = false)
    (available : Path → Bool) (count : Nat) :
    none ∈ w.results available count ↔ (w.after available count).isExhausted = true := by
  induction count with
  | zero => simp [Walk.results, Walk.after, hw]
  | succ count ih =>
    obtain ⟨_, hbefore, -⟩ := h.after available count
    have hstays : (w.after available count).isExhausted = true →
        (w.after available (count + 1)).isExhausted = true := by
      intro hexhausted
      have hended := (hbefore.accounted available).ended
      rw [hexhausted] at hended
      rw [Walk.after]
      cases hnext : ((w.after available count).next available).walk.isExhausted with
      | true => rfl
      | false => simp [hnext] at hended
    have hrecord := hbefore.record_eq_none_iff available
    rw [results_succ, List.mem_append, ih, List.mem_singleton, @eq_comm _ none, hrecord]
    exact ⟨fun hor => hor.elim hstays id, Or.inr⟩

-- What is told between two states of a flag that is never taken back.
private theorem told_eq {before after : Bool} {told : Nat}
    (h : before.toNat + told = after.toNat) :
    told = if before = false ∧ after = true then 1 else 0 := by
  cases before <;> cases after <;> simp_all

/-- The messages of a walk name the files that were asked for and are missing, in order. The end is
told once, by the first step that hands out nothing, and a walk comes to its end. Then each font was
handed out or passed over, and each family after that of the first font was looked into once.
Everything is told for debugging, but the families for tracing. -/
theorem log_accounts (d : Document) (c : Config) (available : Path → Bool) (count : Nat) :
    let w := ofDocument d c
    let results := w.results available count
    let log := w.logs available count
    let messages := log.map (·.message)
    let step := (w.after available count).next available
    messages.filter isSkipping =
        ((w.checks available count).filter fun p => !available p).map
          (fun p => "skipping " ++ p.display ++ ": font file is not installed") ∧
      messages.count "font configuration exhausted" = (if none ∈ results then 1 else 0) ∧
      (step.log.map (·.message)).count "font configuration exhausted" =
        (if none ∉ results ∧ step.record = none then 1 else 0) ∧
      (none ∈ results →
        results.countP Option.isSome + messages.countP isSkipping = d.fonts.length ∧
          messages.count "advancing to next family" = d.laterFamilies.length) ∧
      (d.fonts.length < count → none ∈ results) ∧
      ∀ e ∈ log, e.level = if e.message = "advancing to next family" then .trace else .debug := by
  intro w results log messages step
  have hstart : Ahead d w d.fonts := .unstarted c.fontDir c.localeSource
  have haccounts := hstart.accounts available count
  have hnone : none ∈ results ↔ (w.after available count).isExhausted = true :=
    hstart.none_mem_results_iff rfl available count
  refine ⟨haccounts.skipped, ?told, ?first, ?drained, ?drains, haccounts.level⟩
  case told =>
    have htold := told_eq haccounts.ended
    rw [show messages = w.messages available count from rfl, htold]
    simp [hnone, show w.isExhausted = false from rfl]
  case first =>
    obtain ⟨_, hbefore, -⟩ := hstart.after available count
    have hrecord : step.record = none ↔ step.walk.isExhausted = true :=
      hbefore.record_eq_none_iff available
    simp only [hnone, hrecord, Bool.not_eq_true]
    exact told_eq (hbefore.accounted available).ended
  case drained =>
    intro hdrained
    have hcursor : (w.after available count).cursor = .exhausted :=
      eq_of_beq (hnone.mp hdrained)
    have htaken := haccounts.taken
    have hadvanced := haccounts.advanced
    simp only [reached, familiesLeft, hcursor] at htaken hadvanced
    exact ⟨(Nat.zero_add _).symm.trans htaken, hadvanced⟩
  case drains =>
    intro hcount
    have hle := hstart.length_upcoming_le available
    have hresults : results = _ := hstart.results available count
    rw [hresults, List.mem_append]
    exact .inr (List.mem_replicate.mpr ⟨by omega, rfl⟩)

end Walk

end FontCatalog
