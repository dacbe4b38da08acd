import FontCatalog.Proofs.Document.Breakdown
import FontCatalog.Proofs.Handles.Refinement

/-!
# Breaking the contract

A call breaks the contract if its handle is null, or if it asks a font for an axis that the font
does not have. The first such call ends the process with a line that says what is wrong. Only the
opening of a walk can end it otherwise, with a configuration on which reading breaks down, and such
a configuration declares an entity that closes an element around it. No axis is looked up that a
font does not have.
-/

namespace FontCatalog.Handles

-- What the handle of a call stands for, and the handle.
def Call.argument? : Call → Option (String × Handle)
  | .open | .openConfig _ _ => none
  | .next walk | .closeWalk walk => some ("iterator", walk)
  | .closeFont font | .filePath font | .weight font | .isItalic font | .locale font
  | .collectionIndex font | .axisCount font | .axisTag font _ | .axisValue font _ =>
    some ("font", font)

-- The font and the number of the axis that a call asks for, and what it tells of an axis.
def Call.axis? : Call → Option (Nat × Nat × (Axis → Answer))
  | .axisTag (some f) axis => some (f, axis, fun a => .number a.tag.code.toNat)
  | .axisValue (some f) axis => some (f, axis, fun a => .value a.value)
  | _ => none

/-- The handle of a call is open, or null. -/
def Call.OpenOrNull (past : Trace) : Call → Prop
  | .open | .openConfig _ _ => True
  | .next walk | .closeWalk walk => ∀ h ∈ walk, ∃ c count, past.OpenWalk h c count
  | .closeFont font | .filePath font | .weight font | .isItalic font | .locale font
  | .collectionIndex font | .axisCount font | .axisTag font _ | .axisValue font _ =>
    ∀ f ∈ font, ∃ c count, past.OpenFont f c count

/-- A call breaks the contract, and a line says how. -/
inductive Call.Violates (files : Files.Tree) (past : Trace) (call : Call) : String → Prop
  | null {name : String} (hnull : call.argument? = some (name, none)) :
      Violates files past call ("sysfont: fatal: nullptr has passed as " ++ name ++ " argument")
  | axis {f axis count : Nat} {tell : Axis → Answer} {c : Config} {r : Record}
      (haxis : call.axis? = some (f, axis, tell)) (hopen : past.OpenFont f c count)
      (hrecord : recordAfter files c count = some r) (hbound : r.axes.length ≤ axis) :
      Violates files past call
        ("sysfont: fatal: given axis index is out of bounds. (< " ++ toString r.axes.length ++ ")")

/-- A call opens a walk with a configuration on which reading breaks down. The line does not say
so. -/
def Call.BreaksDown (files : Files.Tree) (call : Call) (line : String) : Prop :=
  line = "fatal runtime error: failed to initiate panic, error 3, aborting" ∧
    ∃ c b, call.config? = some c ∧ Walk.start files c = .error b

variable {files : Files.Tree} {past : Trace} {s : State} {call : Call}

/-! ## One call -/

-- A null handle is found before anything else.
theorem State.call_of_null {name : String} (hnull : call.argument? = some (name, none)) :
    ∃ reason, (s.call call).2 = .fatal reason ∧
      reason.line = "sysfont: fatal: nullptr has passed as " ++ name ++ " argument" := by
  cases call with
  | «open» | openConfig _ _ => cases hnull
  | next walk | closeWalk walk =>
    cases hnull
    exact ⟨.nullWalk, rfl, rfl⟩
  | _ font =>
    cases hnull
    exact ⟨.nullFont, rfl, rfl⟩

theorem State.onFont_ne_noAxis {tell : Font → Answer} {message : String}
    (htell : ∀ font, tell font ≠ .fatal (.noAxis message)) (s : State) (font : Handle) :
    (s.onFont font tell).2 ≠ .fatal (.noAxis message) := by
  cases font with
  | none => simp [State.onFont]
  | some f =>
    rw [State.onFont]
    cases (s.fonts[f]?).join with
    | none => simp
    | some font => exact htell font

theorem State.onAxis_ne_noAxis {tell : Axis → Answer} {message : String}
    (htell : ∀ a, tell a ≠ .fatal (.noAxis message)) (axis : Nat) (font : Font) :
    State.onAxis axis tell font ≠ .fatal (.noAxis message) := by
  rcases Nat.lt_or_ge axis font.record.axes.length with haxis | haxis
  · rw [State.onAxis_of_lt tell haxis]
    exact htell _
  · simp [State.onAxis_of_le tell haxis]

theorem State.openWith_ne_noAxis (s : State) (c : Config) (message : String) :
    (s.openWith c).2 ≠ .fatal (.noAxis message) := by
  rw [openWith]
  split <;> simp

/-- No call looks up an axis that the font does not have, whatever its handle. -/
theorem State.call_ne_noAxis (s : State) (call : Call) (message : String) :
    (s.call call).2 ≠ .fatal (.noAxis message) := by
  cases call with
  | «open» => exact s.openWith_ne_noAxis _ message
  | openConfig configPath fontDir => exact s.openWith_ne_noAxis _ message
  | next walk =>
    cases walk with
    | none => simp [State.call]
    | some h =>
      simp only [State.call]
      split
      · simp
      · split <;> simp
  | closeWalk handle | closeFont handle =>
    cases handle with
    | none => simp [State.call]
    | some h =>
      simp only [State.call]
      split <;> simp
  | filePath font | weight font | isItalic font | locale font | collectionIndex font
  | axisCount font => exact State.onFont_ne_noAxis (by simp) s font
  | axisTag font axis | axisValue font axis =>
    exact State.onFont_ne_noAxis (State.onAxis_ne_noAxis (by simp) axis) s font

namespace Agrees

-- The check of the number comes before the look-up, and both go by the same record.
theorem call_of_axis? (hagrees : Agrees files past s) {f axis count : Nat}
    {tell : Axis → Answer} {c : Config} (haxis : call.axis? = some (f, axis, tell))
    (hopen : past.OpenFont f c count) :
    ∃ r, recordAfter files c count = some r ∧
      (r.axes.length ≤ axis → (s.call call).2 = .fatal (.axisOutOfBounds r.axes.length)) ∧
      (axis < r.axes.length → ∃ a, r.axis axis = .ok a ∧ (s.call call).2 = tell a) := by
  obtain ⟨r, hrecord, hask⟩ := hagrees.onFont hopen
  have hcall : (s.call call).2 = State.onAxis axis tell (Font.ofRecord r) := by
    cases call with
    | axisTag font i | axisValue font i =>
      cases font <;> cases haxis
      rw [State.call, hask]
    | _ => cases haxis
  refine ⟨r, hrecord, ?out, ?within⟩
  case out =>
    intro hout
    rw [hcall]
    exact State.onAxis_of_le tell hout
  case within =>
    intro hwithin
    refine ⟨_, Record.axis_of_lt hwithin, ?_⟩
    rw [hcall]
    exact State.onAxis_of_lt tell hwithin

theorem fatal_of_violates (hagrees : Agrees files past s) {line : String}
    (hviolates : call.Violates files past line) :
    ∃ reason, (s.call call).2 = .fatal reason ∧ reason.line = line := by
  cases hviolates with
  | null hnull => exact State.call_of_null hnull
  | axis haxis hopen hrecord hbound =>
    obtain ⟨r, hrecord', hout, -⟩ := hagrees.call_of_axis? haxis hopen
    obtain rfl := Option.some.inj (hrecord.symm.trans hrecord')
    exact ⟨_, hout hbound, rfl⟩

theorem fatal_of_start_error (hagrees : Agrees files past s) {c : Config} {b : Document.Breakdown}
    (hconfig : call.config? = some c) (hstart : Walk.start files c = .error b) :
    (s.call call).2 = .fatal (.broken b) := by
  rw [← hagrees.files_eq] at hstart
  rw [State.call_of_config? hconfig, State.openWith_of_error hstart]

-- A call with an open handle keeps the contract, or asks for an axis that there is not.
theorem keeps_or_violates (hagrees : Agrees files past s) (hopen : call.OpenOrNull past) :
    call.Keeps files past ∨ ∃ line, call.Violates files past line := by
  cases call with
  | «open» | openConfig _ _ => exact .inl trivial
  | next walk | closeWalk walk =>
    cases walk with
    | none => exact .inr ⟨_, .null rfl⟩
    | some h =>
      obtain ⟨c, count, hwalk⟩ := hopen h rfl
      exact .inl ⟨h, c, count, rfl, hwalk⟩
  | closeFont font | filePath font | weight font | isItalic font | locale font
  | collectionIndex font | axisCount font =>
    cases font with
    | none => exact .inr ⟨_, .null rfl⟩
    | some f =>
      obtain ⟨c, count, hfont⟩ := hopen f rfl
      exact .inl ⟨f, c, count, rfl, hfont⟩
  | axisTag font axis | axisValue font axis =>
    cases font with
    | none => exact .inr ⟨_, .null rfl⟩
    | some f =>
      obtain ⟨c, count, hfont⟩ := hopen f rfl
      obtain ⟨r, hrecord, -⟩ := hagrees.font hfont
      by_cases hbound : axis < r.axes.length
      · exact .inl ⟨f, c, count, r, rfl, hfont, hrecord, hbound⟩
      · exact .inr ⟨_, .axis rfl hfont hrecord (Nat.le_of_not_lt hbound)⟩

/-- A call ends the process with a line exactly if the line says how the call breaks the contract,
or reading breaks down with it. -/
theorem fatal_iff (hagrees : Agrees files past s) (hopen : call.OpenOrNull past) (line : String) :
    (∃ reason, (s.call call).2 = .fatal reason ∧ reason.line = line) ↔
      call.Violates files past line ∨ call.BreaksDown files line := by
  constructor
  · rintro ⟨reason, hfatal, rfl⟩
    rcases hagrees.keeps_or_violates hopen with hkeeps | ⟨line, hviolates⟩
    · obtain ⟨-, hbroken⟩ := hagrees.answered_of_keeps hkeeps
      obtain ⟨c, b, hconfig, hstart⟩ := hbroken reason hfatal
      rw [hagrees.fatal_of_start_error hconfig hstart] at hfatal
      cases hfatal
      exact .inr ⟨rfl, c, b, hconfig, hstart⟩
    · obtain ⟨reason', hfatal', rfl⟩ := hagrees.fatal_of_violates hviolates
      obtain rfl : reason' = reason := Answer.fatal.inj (hfatal'.symm.trans hfatal)
      exact .inl hviolates
  · rintro (hviolates | ⟨rfl, c, b, hconfig, hstart⟩)
    · exact hagrees.fatal_of_violates hviolates
    · exact ⟨_, hagrees.fatal_of_start_error hconfig hstart, rfl⟩

end Agrees

/-! ## Several calls -/

theorem State.trace_cons_of_fatal {reason : Fatal} (hfatal : (s.call call).2 = .fatal reason)
    (calls : List Call) : s.trace (call :: calls) = [(call, .fatal reason)] := by
  have hcall : s.call call = ((s.call call).1, .fatal reason) := Prod.ext rfl hfatal
  rw [trace, run, hcall, List.zip_cons_cons, List.zip_nil_right]

-- After an answer that ends the process there are no more.
theorem State.eq_nil_of_trace_fatal {calls : List Call} {later : Trace} {reason : Fatal}
    (htrace : s.trace calls = past ++ (call, .fatal reason) :: later) : later = [] := by
  induction calls generalizing s past with
  | nil => simp [trace] at htrace
  | cons first calls ih =>
    obtain ⟨later', hcons, hlater⟩ := s.trace_cons first calls
    cases past with
    | nil =>
      obtain ⟨⟨rfl, hfatal⟩, rfl⟩ := by simpa [hcons] using htrace
      rw [State.trace_cons_of_fatal hfatal] at hcons
      exact (List.cons.inj hcons).2.symm
    | cons x past =>
      rw [hcons, List.cons_append] at htrace
      rcases hlater with rfl | ⟨rfl, -⟩
      · exact ih (List.cons.inj htrace).2
      · simp at htrace

/-- A run of calls goes on up to the first one that breaks the contract, and no further. The last
line names the argument that is null, or the number of axes that the font has. No other call on an
open or null handle ends it, unless it opens a configuration with an entity that closes an element
around it. The axis that a call within the bounds tells of is the one that the record has, and no
other is looked up. -/
theorem trace_contract (files : Files.Tree) (calls : List Call) :
    let t := (State.start files).trace calls
    (t.map (·.1) = calls ∨ ∃ past call reason, t = past ++ [(call, .fatal reason)]) ∧
      ∀ (past : Trace) call answer later, t = past ++ (call, answer) :: later →
        (∀ reason, answer = .fatal reason → later = []) ∧
        (call.OpenOrNull past → ∀ line,
          (∃ reason, answer = .fatal reason ∧ reason.line = line) ↔
            call.Violates files past line ∨ call.BreaksDown files line) ∧
        (∀ line, call.BreaksDown files line → ∃ c, call.config? = some c ∧
          ∃ e ∈ Document.entitiesOf files c.configPath, e.Overcloses) ∧
        (∀ message, answer ≠ .fatal (.noAxis message)) ∧
        ∀ f axis tell c count, call.axis? = some (f, axis, tell) → past.OpenFont f c count →
          ∃ r, recordAfter files c count = some r ∧
            (axis < r.axes.length → ∃ a, r.axis axis = .ok a ∧ answer = tell a) := by
  intro t
  refine ⟨State.trace_complete _ calls, ?_⟩
  intro past call answer later htrace
  obtain ⟨s, hagrees, hanswer⟩ := Agrees.of_trace htrace
  refine ⟨?last, ?fatal, ?breaks, ?lookup, ?axis⟩
  case last =>
    rintro reason rfl
    exact State.eq_nil_of_trace_fatal htrace
  case fatal =>
    intro hopen
    rw [hanswer]
    exact hagrees.fatal_iff hopen
  case breaks =>
    rintro line ⟨-, c, b, hconfig, hstart⟩
    have hload := Walk.load_of_start_error hstart
    exact ⟨c, hconfig, Document.exists_overcloses_of_load hload⟩
  case lookup =>
    rw [hanswer]
    exact s.call_ne_noAxis call
  case axis =>
    intro f axis tell c count haxis hopen
    obtain ⟨r, hrecord, -, hwithin⟩ := hagrees.call_of_axis? haxis hopen
    rw [hanswer]
    exact ⟨r, hrecord, hwithin⟩

/-! ## A configuration on which reading breaks down -/

def overclosedFiles : Files.Tree :=
  ⟨[(Utf8.encodeString "fonts.xml", .file (Utf8.encodeString overclosedConfiguration))], []⟩

def overclosedCalls : List Call :=
  [.openConfig (some (.ofString "fonts.xml")) (some (.ofString "fonts")), .next (some 0)]

/-- Opening the configuration ends the process, and no call breaks the contract. -/
theorem open_breaks_down :
    (State.start overclosedFiles).trace overclosedCalls =
      [(.openConfig (some (.ofString "fonts.xml")) (some (.ofString "fonts")),
        .fatal (.broken .nothingOpen))] ∧
      (Fatal.broken .nothingOpen).line =
        "fatal runtime error: failed to initiate panic, error 3, aborting" ∧
      ∀ line, ¬ (Call.openConfig (some (.ofString "fonts.xml"))
        (some (.ofString "fonts"))).Violates overclosedFiles [] line := by
  refine ⟨by decide +kernel, rfl, ?_⟩
  intro line hviolates
  cases hviolates with
  | null hnull => cases hnull
  | axis haxis => cases haxis

end FontCatalog.Handles
