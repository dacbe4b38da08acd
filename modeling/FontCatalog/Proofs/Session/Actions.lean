import FontCatalog.Proofs.Slots
import FontCatalog.Session

/-!
# The actions of a session

What an action does to the walk that it names depends on this walk alone, and other walks stay as
they are. On a shared document an action opens a walk, or only answers, or moves one walk on.
-/

namespace FontCatalog.Session

/-- The walk that an action names. -/
def Action.target? : Action → Option Nat
  | .open => none
  | .openWith _ => none
  | .holders => none
  | .next i => some i
  | .nth i _ => some i
  | .drain i => some i
  | .exhausted i => some i
  | .close i => some i

/-- The same action on another walk. -/
def Action.on (j : Nat) : Action → Action
  | .open => .open
  | .openWith c => .openWith c
  | .holders => .holders
  | .next _ => .next j
  | .nth _ n => .nth j n
  | .drain _ => .drain j
  | .exhausted _ => .exhausted j
  | .close _ => .close j

/-- What an action makes of the walk that it names, and the answer. -/
def Action.move (available : Path → Bool) (w : Walk) : Action → Option Walk × Answer
  | .next _ =>
    let step := w.next available
    (some step.walk, .stepped step.record step.checked step.log)
  | .nth _ n =>
    let step := w.nth available n
    (some step.walk, .stepped step.record step.checked step.log)
  | .drain _ =>
    let steps := w.steps available
    (some (lastWalk w steps),
      .drained (steps.filterMap (·.record)) (steps.flatMap (·.checked)) (steps.flatMap (·.log)))
  | .exhausted _ => (some w, .exhausted w.isExhausted)
  | .close _ => (none, .closed)
  | _ => (some w, .unknownWalk)

variable {s : Session} {a : Action} {i j : Nat} {d : Document} {w w' : Walk}

theorem lt_length_of_walk? (h : s.walk? i = some w) : i < s.walks.length :=
  lt_length_of_slot? h

theorem walk?_setWalk_self (h : i < s.walks.length) (o : Option Walk) :
    (s.setWalk i o).walk? i = o :=
  slot?_set_self h o

theorem walk?_setWalk_of_ne (h : i ≠ j) (o : Option Walk) :
    (s.setWalk i o).walk? j = s.walk? j :=
  slot?_set_of_ne h o

theorem setWalk_self (h : s.walk? i = some w) : s.setWalk i (some w) = s := by
  have hi := lt_length_of_walk? h
  have hget : s.walks[i] = some w := by
    simpa [walk?, hi] using h
  simp [setWalk, ← hget]

-- An action that names a walk does to it what it does to the walk on its own.
theorem act_of_target (available : Nat → Path → Bool) (h : a.target? = some i) :
    s.act available a =
      match s.walk? i with
      | none => (s, .unknownWalk)
      | some w => (s.setWalk i (a.move (available i) w).1, (a.move (available i) w).2) := by
  cases a with
  | «open» => simp [Action.target?] at h
  | openWith c => simp [Action.target?] at h
  | holders => simp [Action.target?] at h
  | next j =>
    obtain rfl := Option.some.inj h
    rfl
  | nth j n =>
    obtain rfl := Option.some.inj h
    rfl
  | drain j =>
    obtain rfl := Option.some.inj h
    rfl
  | exhausted j =>
    obtain rfl := Option.some.inj h
    cases hw : s.walk? j with
    | none => simp [act, hw]
    | some w => simp [act, hw, Action.move, setWalk_self hw]
  | close j =>
    obtain rfl := Option.some.inj h
    rfl

@[simp] theorem Action.target?_on (j : Nat) (a : Action) :
    (a.on j).target? = a.target?.map fun _ => j := by
  cases a <;> rfl

@[simp] theorem Action.move_on (j : Nat) (a : Action) (available : Path → Bool) (w : Walk) :
    (a.on j).move available w = a.move available w := by
  cases a <;> rfl

theorem Action.snd_move_ne_broken (available : Path → Bool) (w : Walk) (a : Action)
    (b : Document.Breakdown) : (a.move available w).2 ≠ .broken b := by
  cases a <;> simp [Action.move]

/-- What an action does in a session on a shared document: it opens a walk, or it only answers, or
it moves the walk that it names. -/
theorem act_cases (hs : s.source = .shared d) (available : Nat → Path → Bool) (a : Action) :
    (∃ c, a.target? = none ∧ s.act available a =
        ({ s with walks := s.walks ++ [some (Walk.ofDocument d c)] },
          .opened s.walks.length [])) ∨
      (∃ answer, s.act available a = (s, answer) ∧ ∀ b, answer ≠ .broken b) ∨
      ∃ i w, a.target? = some i ∧ s.walk? i = some w ∧ s.act available a =
        (s.setWalk i (a.move (available i) w).1, (a.move (available i) w).2) := by
  cases ha : a.target? with
  | some i =>
    rw [act_of_target available ha]
    cases hw : s.walk? i with
    | none => exact .inr (.inl ⟨.unknownWalk, rfl, by simp⟩)
    | some w => exact .inr (.inr ⟨i, w, rfl, hw, rfl⟩)
  | none =>
    cases a with
    | «open» => exact .inl ⟨s.config, rfl, by simp [act, openWalk, newWalk, hs]⟩
    | openWith c => exact .inl ⟨c, rfl, by simp [act, openWalk, newWalk, hs]⟩
    | holders => exact .inr (.inl ⟨.holders s.holderCount, rfl, by simp⟩)
    | next => simp [Action.target?] at ha
    | nth => simp [Action.target?] at ha
    | drain => simp [Action.target?] at ha
    | exhausted => simp [Action.target?] at ha
    | close => simp [Action.target?] at ha

theorem source_act (hs : s.source = .shared d) (available : Nat → Path → Bool) (a : Action) :
    (s.act available a).1.source = .shared d := by
  rcases act_cases hs available a with ⟨c, -, h⟩ | ⟨answer, h, -⟩ | ⟨i, w, -, -, h⟩ <;>
    simp [h, setWalk, hs]

theorem config_act (s : Session) (available : Nat → Path → Bool) (a : Action) :
    (s.act available a).1.config = s.config := by
  cases a <;> simp only [act, openWalk] <;> split <;> rfl

theorem config_runEach (s : Session) (available : Nat → Path → Bool) (actions : List Action) :
    (s.runEach available actions).1.config = s.config := by
  induction actions generalizing s with
  | nil => rfl
  | cons a rest ih =>
    have h := config_act s available a
    rw [runEach]
    split
    · next s' b hact =>
      rw [hact] at h
      exact h
    · next s' answer hne hact =>
      rw [hact] at h
      exact (ih s').trans h

theorem length_walks_le_act (hs : s.source = .shared d) (available : Nat → Path → Bool)
    (a : Action) : s.walks.length ≤ (s.act available a).1.walks.length := by
  rcases act_cases hs available a with ⟨c, -, h⟩ | ⟨answer, h, -⟩ | ⟨i, w, -, -, h⟩ <;>
    simp [h, setWalk]

theorem walk?_act_of_ne (hs : s.source = .shared d) (available : Nat → Path → Bool)
    (ha : a.target? ≠ some i) (hi : i < s.walks.length) :
    (s.act available a).1.walk? i = s.walk? i := by
  rcases act_cases hs available a with ⟨c, -, h⟩ | ⟨answer, h, -⟩ | ⟨j, w, hj, -, h⟩
  · rw [h]
    exact slot?_append hi _
  · rw [h]
  · rw [h]
    refine walk?_setWalk_of_ne ?_ _
    rintro rfl
    exact ha hj

-- On a shared document no action ends the session.
theorem runEach_cons (hs : s.source = .shared d) (available : Nat → Path → Bool) (a : Action)
    (rest : List Action) :
    s.runEach available (a :: rest) =
      (((s.act available a).1.runEach available rest).1,
        (s.act available a).2 :: ((s.act available a).1.runEach available rest).2) := by
  have hne : ∀ b, (s.act available a).2 ≠ .broken b := by
    intro b
    rcases act_cases hs available a with ⟨c, -, h⟩ | ⟨answer, h, hanswer⟩ | ⟨i, w, -, -, h⟩
    · simp [h]
    · rw [h]
      exact hanswer b
    · rw [h]
      exact Action.snd_move_ne_broken (available i) w a b
  rw [runEach]
  split
  · next s' b h =>
    have hb := hne b
    rw [h] at hb
    exact absurd rfl hb
  · next s' answer hanswer h => rw [h]

end FontCatalog.Session
