import FontCatalog.Proofs.Query.Conditions
import Mathlib.Data.List.Induction

/-!
# Queries built call by call

A query is built by calls that each set one of its five conditions. A call takes the place of an
earlier one for the same condition, so a query asks for what the last call for each condition does.
Calls for different conditions narrow a query down. A record that is accepted in the end was
accepted at an earlier point exactly if it meets what was asked for there and replaced since.
-/

namespace FontCatalog.Query

/-- The conditions of a query. -/
inductive Condition where
  | axes
  | locales
  | patterns
  | italic
  | weights
  deriving DecidableEq, Repr

/-- A call that sets a condition. -/
inductive Call where
  | axes (tags : List Tag)
  | locales (ls : List String)
  | patterns (ps : List Pattern)
  | italic (value : Option Bool)
  | weights (range : WeightRange)

namespace Call

/-- The condition that a call is for. -/
def condition : Call → Condition
  | .axes _ => .axes
  | .locales _ => .locales
  | .patterns _ => .patterns
  | .italic _ => .italic
  | .weights _ => .weights

/-- The query after a call. -/
def set (q : Query) : Call → Query
  | .axes tags => q.withAxes tags
  | .locales ls => q.withLocales ls
  | .patterns ps => q.withPatterns ps
  | .italic value => q.withItalic value
  | .weights range => q.withWeights range

/-- A record meets the condition as a call sets it. -/
def Holds (r : Record) : Call → Prop
  | .axes tags => ∀ tag ∈ tags, ∃ a ∈ r.axes, a.tag = tag
  | .locales ls => ls = [] ∨ ∃ locale ∈ ls, r.locale = some locale
  | .patterns ps => ps = [] ∨ ∃ p ∈ ps, p.matchesIn r.path.display = true
  | .italic value => ∀ italic, value = some italic → r.italic = italic
  | .weights range => range.low ≤ r.weight ∧ r.weight ≤ range.high

/-- The last of some calls that is for a condition. -/
def lastFor? (condition : Condition) (calls : List Call) : Option Call :=
  (calls.filter (·.condition == condition)).getLast?

theorem lastFor?_append (condition : Condition) (calls others : List Call) :
    lastFor? condition (calls ++ others) =
      (lastFor? condition others).or (lastFor? condition calls) := by
  rw [lastFor?, List.filter_append, List.getLast?_append]
  rfl

theorem condition_of_lastFor? {condition : Condition} {calls : List Call} {c : Call}
    (h : lastFor? condition calls = some c) : c ∈ calls ∧ c.condition = condition := by
  obtain ⟨hc, hcondition⟩ := List.mem_filter.mp (List.mem_of_getLast? h)
  exact ⟨hc, eq_of_beq hcondition⟩

end Call

/-- The query that some calls build, one after the other. -/
def built (calls : List Call) : Query := calls.foldl Call.set any

/-- The call by which a condition of a query can be set. -/
def call? (q : Query) : Condition → Option Call
  | .axes => some (.axes q.axes)
  | .locales => some (.locales q.locales)
  | .patterns => some (.patterns q.patterns)
  | .italic => some (.italic q.italic)
  | .weights => q.weights.map .weights

variable {q : Query} {r : Record} {c : Call} {calls others : List Call} {condition : Condition}

/-! ## One call -/

theorem meets_iff_holds : q.Meets r ↔ ∀ condition c, q.call? condition = some c → c.Holds r := by
  constructor
  · intro h condition c hc
    cases condition with
    | axes =>
      obtain rfl := Option.some.inj hc
      exact h.axes
    | locales =>
      obtain rfl := Option.some.inj hc
      exact h.locale
    | patterns =>
      obtain rfl := Option.some.inj hc
      exact h.path
    | italic =>
      obtain rfl := Option.some.inj hc
      exact h.italic
    | weights =>
      obtain ⟨range, hrange, rfl⟩ := Option.map_eq_some_iff.mp hc
      exact h.weight range hrange
  · intro h
    refine ⟨h .italic _ rfl, fun range hrange => ?_, h .axes _ rfl, h .locales _ rfl,
      h .patterns _ rfl⟩
    exact h .weights (.weights range) (by rw [call?, hrange, Option.map_some])

-- A call sets its own condition and leaves the others as they are.
theorem call?_set (q : Query) (c : Call) (condition : Condition) :
    (c.set q).call? condition = if c.condition = condition then some c else q.call? condition := by
  cases c <;> cases condition <;> rfl

-- Nothing is asked for before the first call.
theorem holds_of_call?_any (h : any.call? condition = some c) : c.Holds r := by
  cases condition with
  | weights => cases h
  | axes =>
    obtain rfl := Option.some.inj h
    exact nofun
  | locales =>
    obtain rfl := Option.some.inj h
    exact .inl rfl
  | patterns =>
    obtain rfl := Option.some.inj h
    exact .inl rfl
  | italic =>
    obtain rfl := Option.some.inj h
    exact nofun

/-! ## Several calls -/

/-- Each condition is set as the last call for it does. -/
theorem call?_built (calls : List Call) (condition : Condition) :
    (built calls).call? condition =
      (Call.lastFor? condition calls).or (any.call? condition) := by
  induction calls using List.reverseRecOn with
  | nil => rfl
  | append_singleton calls c ih =>
    have hbuilt : built (calls ++ [c]) = c.set (built calls) := by
      rw [built, List.foldl_append]
      rfl
    rw [hbuilt, call?_set, ih, Call.lastFor?_append]
    by_cases hc : c.condition = condition
    · simp [Call.lastFor?, hc]
    · simp [Call.lastFor?, hc]

/-- A record is accepted if it meets each condition as the last call for it sets it. -/
theorem accepts_built_iff :
    (built calls).accepts r = true ↔
      ∀ condition c, Call.lastFor? condition calls = some c → c.Holds r := by
  rw [accepts_iff, meets_iff_holds]
  refine forall_congr' fun condition => ?_
  rw [call?_built]
  cases hlast : Call.lastFor? condition calls with
  | none =>
    rw [Option.none_or]
    exact ⟨fun _ => nofun, fun _ c hc => holds_of_call?_any hc⟩
  | some c => rw [Option.some_or]

/-- A record that is accepted in the end was accepted after the first calls exactly if it meets the
conditions that these set and that a later call sets anew. So it was accepted if no condition is set
anew. -/
theorem accepted_before (calls others : List Call) (r : Record)
    (h : (built (calls ++ others)).accepts r = true) :
    ((built calls).accepts r = true ↔
      ∀ condition c, Call.lastFor? condition calls = some c →
        (∃ d ∈ others, d.condition = condition) → c.Holds r) ∧
      ((∀ c ∈ calls, ∀ d ∈ others, d.condition ≠ c.condition) →
        (built calls).accepts r = true) := by
  rw [accepts_built_iff] at h
  have hiff : (built calls).accepts r = true ↔
      ∀ condition c, Call.lastFor? condition calls = some c →
        (∃ d ∈ others, d.condition = condition) → c.Holds r := by
    rw [accepts_built_iff]
    refine ⟨fun hcalls condition c hc _ => hcalls condition c hc, fun hanew condition c hc => ?_⟩
    cases hlast : Call.lastFor? condition others with
    | some d => exact hanew condition c hc ⟨d, Call.condition_of_lastFor? hlast⟩
    | none =>
      -- The call is still the last one for its condition.
      refine h condition c ?_
      rw [Call.lastFor?_append, hlast, Option.none_or, hc]
  refine ⟨hiff, fun hdifferent => hiff.mpr ?_⟩
  rintro condition c hc ⟨d, hd, hcondition⟩
  obtain ⟨hmem, rfl⟩ := Call.condition_of_lastFor? hc
  exact absurd hcondition (hdifferent c hmem d hd)

/-- A font with an optical size axis. -/
def opticalFont : Record :=
  ⟨.ofString "/system/fonts/Literata.ttf", 400, false, 0, some "en", [⟨⟨0x6F70737A⟩, ⟨0x41400000⟩⟩]⟩

/-- The axis is asked for first, and a locale and an upright style later. -/
theorem accepted_before_opticalFont :
    let first := [Call.axes [⟨0x6F70737A⟩]]
    let others := [Call.locales ["en"], Call.italic (some false)]
    (built (first ++ others)).accepts opticalFont = true ∧
      (built first).accepts opticalFont = true := by
  intro first others
  have haccepts : (built (first ++ others)).accepts opticalFont = true := by decide +kernel
  obtain ⟨-, hdifferent⟩ := accepted_before first others opticalFont haccepts
  exact ⟨haccepts, hdifferent (by simp [first, others, Call.condition])⟩

/-- A second call for axes lets a font through that the first one keeps out. -/
theorem axes_set_anew :
    (built [.axes [⟨0x77676874⟩], .axes [⟨0x6F70737A⟩]]).accepts opticalFont = true ∧
      (built [.axes [⟨0x77676874⟩]]).accepts opticalFont = false := by
  decide +kernel

end FontCatalog.Query
