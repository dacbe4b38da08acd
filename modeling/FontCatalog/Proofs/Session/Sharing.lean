import FontCatalog.Proofs.Session.Actions
import FontCatalog.Proofs.Walk.Results

/-!
# Walks that share a document

Every walk of a session on a shared document stands at one of its fonts, or is exhausted and has let
go of it. It answers as it does when it is the only walk, in whatever order the walks are moved on.
-/

namespace FontCatalog

namespace Walk

variable {d : Document} {w : Walk} {ahead : List ElementId}

theorem nth_of_document_eq_none (h : w.document = none) (available : Path → Bool) (n : Nat) :
    (w.nth available n).walk = w := by
  cases n <;> simp [nth, next_of_document_eq_none h]

theorem steps_of_document_eq_none (h : w.document = none) (available : Path → Bool) :
    w.steps available = [⟨none, w, [], []⟩] := by
  simp [steps, h, stepsWith, next_of_document_eq_none h]

theorem Ahead.nth (h : Ahead d w ahead) (available : Path → Bool) (n : Nat) :
    ∃ rest, Ahead d (w.nth available n).walk rest := by
  induction n generalizing w ahead with
  | zero =>
    obtain ⟨-, rest, hrest, -⟩ := h.next available
    exact ⟨rest, hrest⟩
  | succ n ih =>
    obtain ⟨-, rest, hrest, -⟩ := h.next available
    simp only [Walk.nth]
    split
    · exact ⟨rest, hrest⟩
    · exact ih hrest

-- Every step of a walk leaves it at a font of the document or exhausted.
theorem Ahead.stepsWith (h : Ahead d w ahead) (available : Path → Bool) (fuel : Nat) :
    ∀ s ∈ w.stepsWith available fuel, ∃ rest, Ahead d s.walk rest := by
  induction fuel generalizing w ahead with
  | zero => simp [Walk.stepsWith]
  | succ fuel ih =>
    obtain ⟨-, rest, hrest, -⟩ := h.next available
    intro s hs
    simp only [Walk.stepsWith] at hs
    split at hs
    · obtain rfl := List.mem_singleton.mp hs
      exact ⟨rest, hrest⟩
    · rcases List.mem_cons.mp hs with rfl | hs
      · exact ⟨rest, hrest⟩
      · exact ih hrest s hs

end Walk

namespace Session

variable {s t : Session} {a : Action} {i : Nat} {d : Document} {w w' : Walk}
  {ahead : List ElementId}

/-! ## Where the walks stand -/

theorem Action.ahead_move (h : w.Ahead d ahead) (available : Path → Bool) (a : Action)
    (hmove : (a.move available w).1 = some w') : ∃ rest, w'.Ahead d rest := by
  cases a with
  | next j =>
    obtain rfl := Option.some.inj hmove
    obtain ⟨-, rest, hrest, -⟩ := h.next available
    exact ⟨rest, hrest⟩
  | nth j n =>
    obtain rfl := Option.some.inj hmove
    exact h.nth available n
  | drain j =>
    obtain rfl := Option.some.inj hmove
    rw [lastWalk]
    cases hlast : (w.steps available).getLast? with
    | none => exact ⟨ahead, h⟩
    | some step => exact h.stepsWith available _ step (List.mem_of_getLast? hlast)
  | close j => simp [Action.move] at hmove
  | _ =>
    obtain rfl := Option.some.inj hmove
    exact ⟨ahead, h⟩

-- A walk that has let go of its document is not moved by anything.
theorem Action.move_of_document_eq_none (h : w.document = none) (available : Path → Bool)
    (a : Action) (hmove : (a.move available w).1 = some w') : w' = w := by
  cases a with
  | next j =>
    obtain rfl := Option.some.inj hmove
    rw [Walk.next_of_document_eq_none h]
  | nth j n =>
    obtain rfl := Option.some.inj hmove
    exact Walk.nth_of_document_eq_none h available n
  | drain j =>
    obtain rfl := Option.some.inj hmove
    rw [Walk.steps_of_document_eq_none h]
    rfl
  | close j => simp [Action.move] at hmove
  | _ => exact (Option.some.inj hmove).symm

/-- All open walks of a session go through one document. -/
structure Shares (d : Document) (s : Session) : Prop where
  source : s.source = .shared d
  ahead : ∀ i w, s.walk? i = some w → ∃ ahead, w.Ahead d ahead

theorem shares_start (d : Document) (c : Config) : Shares d (start (.shared d) c) :=
  ⟨rfl, by simp [start, walk?]⟩

theorem Shares.act (h : Shares d s) (available : Nat → Path → Bool) (a : Action) :
    Shares d (s.act available a).1 := by
  refine ⟨source_act h.source available a, ?_⟩
  intro i w hw
  rcases act_cases h.source available a with ⟨c, -, hact⟩ | ⟨answer, hact, -⟩ | ⟨j, v, -, hv, hact⟩
  · -- A new walk has all fonts ahead of it.
    rw [hact] at hw
    by_cases hi : i < s.walks.length
    · exact h.ahead i w (by simpa [walk?, List.getElem?_append_left hi] using hw)
    · obtain ⟨k, rfl⟩ := Nat.exists_eq_add_of_le (Nat.le_of_not_lt hi)
      cases k with
      | zero =>
        obtain rfl : Walk.ofDocument d c = w := by simpa [walk?] using hw
        exact ⟨d.fonts, .unstarted c.fontDir c.localeSource⟩
      | succ k => simp [walk?] at hw
  · rw [hact] at hw
    exact h.ahead i w hw
  · rw [hact] at hw
    by_cases hij : j = i
    · subst hij
      rw [walk?_setWalk_self (lt_length_of_walk? hv)] at hw
      obtain ⟨ahead, hahead⟩ := h.ahead j v hv
      exact Action.ahead_move hahead (available j) a hw
    · rw [walk?_setWalk_of_ne hij] at hw
      exact h.ahead i w hw

theorem Shares.runEach (h : Shares d s) (available : Nat → Path → Bool) (actions : List Action) :
    Shares d (s.runEach available actions).1 := by
  induction actions generalizing s with
  | nil => exact h
  | cons a rest ih =>
    rw [runEach_cons h.source]
    exact ih (h.act available a)

/-- The walks that hold the document are those that are open and not exhausted. -/
theorem Shares.holderCount_eq (h : Shares d s) :
    s.holderCount = s.walks.countP fun w => w.any (!·.isExhausted) := by
  simp only [holderCount, h.source]
  apply List.countP_congr
  intro o ho
  cases o with
  | none => rfl
  | some w =>
    obtain ⟨i, hi⟩ := List.getElem?_of_mem ho
    obtain ⟨ahead, hahead⟩ := h.ahead i w (by simp [walk?, hi])
    cases hahead <;> simp [Walk.isExhausted]

/-! ## Exhausted walks -/

/-- The walk with this number has let go of its document, or it has been closed. -/
structure Released (i : Nat) (s : Session) : Prop where
  opened : i < s.walks.length
  document : ∀ w, s.walk? i = some w → w.document = none

theorem Released.act (h : Released i s) (hs : s.source = .shared d)
    (available : Nat → Path → Bool) (a : Action) : Released i (s.act available a).1 := by
  refine ⟨h.opened.trans_le (length_walks_le_act hs available a), ?_⟩
  intro w hw
  by_cases ha : a.target? = some i
  · rw [act_of_target available ha] at hw
    cases hv : s.walk? i with
    | none => simp [hv] at hw
    | some v =>
      simp only [hv, walk?_setWalk_self h.opened] at hw
      rw [Action.move_of_document_eq_none (h.document v hv) (available i) a hw]
      exact h.document v hv
  · rw [walk?_act_of_ne hs available ha h.opened] at hw
    exact h.document w hw

theorem Released.runEach (h : Released i s) (hs : s.source = .shared d)
    (available : Nat → Path → Bool) (actions : List Action) :
    Released i (s.runEach available actions).1 := by
  induction actions generalizing s with
  | nil => exact h
  | cons a rest ih =>
    rw [runEach_cons hs]
    exact ih (h.act hs available a) (source_act hs available a)

theorem Shares.exhausted_runEach (h : Shares d s) (hw : s.walk? i = some w)
    (hexhausted : w.cursor = .exhausted) (available : Nat → Path → Bool) (actions : List Action)
    (hw' : (s.runEach available actions).1.walk? i = some w') : w'.cursor = .exhausted := by
  obtain ⟨ahead, hahead⟩ := h.ahead i w hw
  have hreleased : Released i s := by
    refine ⟨lt_length_of_walk? hw, fun v hv => ?_⟩
    rw [hw] at hv
    rw [← Option.some.inj hv]
    exact hahead.document_eq_none_iff.mpr hexhausted
  obtain ⟨ahead', hahead'⟩ := (h.runEach available actions).ahead i w' hw'
  exact hahead'.document_eq_none_iff.mp
    ((hreleased.runEach h.source available actions).document w' hw')

/-! ## A walk on its own -/

/-- The answers to the actions that name one walk. -/
def answersOf (i : Nat) (actions : List Action) (answers : List Answer) : List Answer :=
  ((actions.zip answers).filter (·.1.target? == some i)).map (·.2)

/-- The actions that name one walk, as actions on the walk `j`. -/
def actionsOn (i j : Nat) (actions : List Action) : List Action :=
  (actions.filter (·.target? == some i)).map (Action.on j)

/-- A walk that two sessions have in the same state answers the same in both, where the second one
moves no other walk. -/
theorem answersOf_runEach {j : Nat} (hs : s.source = .shared d) (ht : t.source = .shared d)
    (hi : i < s.walks.length) (hj : j < t.walks.length) (hsame : s.walk? i = t.walk? j)
    (available : Nat → Path → Bool) (actions : List Action) :
    answersOf i actions (s.runEach available actions).2 =
      (t.runEach (fun _ => available i) (actionsOn i j actions)).2 := by
  -- Every action leaves the walk the same in both sessions, whether it names the walk or not.
  induction actions generalizing s t with
  | nil => rfl
  | cons a rest ih =>
    have hs' := source_act hs available a
    have hi' := hi.trans_le (length_walks_le_act hs available a)
    rw [runEach_cons hs, answersOf, List.zip_cons_cons]
    by_cases ha : a.target? = some i
    · have hon : (a.on j).target? = some j := by simp [ha]
      have ht' := source_act ht (fun _ => available i) (a.on j)
      have hj' := hj.trans_le (length_walks_le_act ht (fun _ => available i) (a.on j))
      rw [List.filter_cons_of_pos (by simp [ha]), List.map_cons, actionsOn,
        List.filter_cons_of_pos (by simp [ha]), List.map_cons, runEach_cons ht]
      have hanswer : (s.act available a).2 = (t.act (fun _ => available i) (a.on j)).2 := by
        rw [act_of_target available ha, act_of_target _ hon, hsame]
        cases t.walk? j <;> simp
      have hwalk : (s.act available a).1.walk? i =
          (t.act (fun _ => available i) (a.on j)).1.walk? j := by
        rw [act_of_target available ha, act_of_target _ hon, hsame]
        cases hw : t.walk? j with
        | none => simp [hsame, hw]
        | some w => simp [walk?_setWalk_self hi, walk?_setWalk_self hj]
      rw [hanswer]
      exact congrArg (_ :: ·) (ih hs' ht' hi' hj' hwalk)
    · have hwalk := (walk?_act_of_ne hs available ha hi).trans hsame
      rw [List.filter_cons_of_neg (by simp [ha]), actionsOn,
        List.filter_cons_of_neg (by simp [ha])]
      exact ih hs' ht hi' hj hwalk

/-- The action that opens a walk with its own settings, or with those of the session. -/
def Action.opening : Option Config → Action
  | none => .open
  | some c => .openWith c

theorem act_opening (hs : s.source = .shared d) (available : Nat → Path → Bool)
    (own : Option Config) :
    (s.act available (.opening own)).1 =
      { s with walks := s.walks ++ [some (Walk.ofDocument d (own.getD s.config))] } := by
  cases own <;> simp [Action.opening, Session.act, openWalk, newWalk, hs]

theorem answersOf_opening (hs : s.source = .shared d) (available : Nat → Path → Bool)
    (own : Option Config) (actions : List Action) :
    answersOf s.walks.length actions
        ((s.act available (.opening own)).1.runEach available actions).2 =
      ((start (.shared d) s.config).runEach (fun _ => available s.walks.length)
        (.opening own :: actionsOn s.walks.length 0 actions)).2.tail := by
  have hstart : (start (.shared d) s.config).source = .shared d := rfl
  have hopened := act_opening hs available own
  have halone := act_opening hstart (fun _ => available s.walks.length) own
  rw [runEach_cons hstart, List.tail_cons]
  apply answersOf_runEach (source_act hs available _) (source_act hstart _ _)
  · simp [hopened]
  · simp [halone]
  · rw [hopened, halone]
    simp [walk?, start]

/-- Whatever is done to the walks that share a document: each of them answers as if it were the only
one; the walks that hold the document are those that are open and not exhausted; a walk has let go
of it exactly when it is exhausted, stands at a font of a family of the root before that, and stays
exhausted after that. -/
theorem shared_document (d : Document) (c : Config) (available : Nat → Path → Bool)
    (own : Option Config) (before after : List Action) :
    let s := ((start (.shared d) c).runEach available before).1
    answersOf s.walks.length after
        ((s.act available (.opening own)).1.runEach available after).2 =
      ((start (.shared d) c).runEach (fun _ => available s.walks.length)
        (.opening own :: actionsOn s.walks.length 0 after)).2.tail ∧
    s.holderCount = (s.walks.countP fun w => w.any (!·.isExhausted)) ∧
    ∀ i w, s.walk? i = some w →
      (w.document = none ↔ w.cursor = .exhausted) ∧
      (∀ font, w.cursor = .at font → ∃ root family, d.root? = some root ∧
        (family ∈ d.children root ∧ d.name family = Document.familyTag) ∧
        (font ∈ d.children family ∧ d.name font = Document.fontTag)) ∧
      (w.cursor = .exhausted → ∀ w', (s.runEach available after).1.walk? i = some w' →
        w'.cursor = .exhausted) := by
  intro s
  have hs : Shares d s := (shares_start d c).runEach available before
  have hconfig : s.config = c := config_runEach _ _ _
  refine ⟨?answers, hs.holderCount_eq, ?walks⟩
  case answers =>
    have hanswers := answersOf_opening hs.source available own after
    rwa [hconfig] at hanswers
  case walks =>
    intro i w hw
    obtain ⟨ahead, hahead⟩ := hs.ahead i w hw
    refine ⟨hahead.document_eq_none_iff, ?_, ?_⟩
    · intro font hat
      exact Document.mem_fonts.mp (hahead.mem_fonts hat)
    · intro hexhausted w' hw'
      exact hs.exhausted_runEach hw hexhausted available after hw'

end Session

end FontCatalog
