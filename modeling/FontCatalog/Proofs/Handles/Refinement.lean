import FontCatalog.Proofs.Handles.Trace
import FontCatalog.Proofs.Tag
import FontCatalog.Proofs.Walk.Checks

/-!
# Handles stand for walks and records

Whatever was opened, asked and closed before, the walk behind an open handle stands where a walk of
its own would stand after as many steps, and the font behind an open handle is the record that this
walk gave then. So every answer is that of the walk or the record.
-/

namespace FontCatalog.Handles

/-- What a walk of its own with some settings gives after a number of steps. -/
def recordAfter (files : Files.Tree) (c : Config) (count : Nat) : Option Record :=
  match Walk.start files c with
  | .ok (w, _) => ((w.after files.isFile count).next files.isFile).record
  | .error _ => none

/-- A call that keeps the contract: the handle that it names is open, and the font has the axis that
it asks for. -/
def Call.Keeps (files : Files.Tree) (past : Trace) : Call → Prop
  | .open | .openConfig _ _ => True
  | .next walk | .closeWalk walk => ∃ h c count, walk = some h ∧ past.OpenWalk h c count
  | .closeFont font | .filePath font | .weight font | .isItalic font | .locale font
  | .collectionIndex font | .axisCount font => ∃ f c count, font = some f ∧ past.OpenFont f c count
  | .axisTag font axis | .axisValue font axis =>
    ∃ f c count r, font = some f ∧ past.OpenFont f c count ∧
      recordAfter files c count = some r ∧ axis < r.axes.length

/-- A call is made and answered, unless it opens a walk with a configuration on which reading breaks
down. -/
def Call.Answered (files : Files.Tree) (call : Call) (answer : Answer) : Prop :=
  answer ≠ .badHandle ∧ ∀ reason, answer = .fatal reason →
    ∃ c b, call.config? = some c ∧ Walk.start files c = .error b

/-- A question about a font is answered as a record has it. An axis tag is given as the number with
its four bytes, the first one most significant. -/
structure Tells (r : Record) (f : Nat) (call : Call) (answer : Answer) : Prop where
  weight : call = .weight (some f) → answer = .number r.weight.toNat
  isItalic : call = .isItalic (some f) → answer = .flag r.italic
  locale : call = .locale (some f) → ∃ s, answer = .text s ∧ (s = none ↔ r.locale = none)
  collectionIndex : call = .collectionIndex (some f) → answer = .number r.index.toNat
  axisCount : call = .axisCount (some f) → answer = .number r.axes.length
  axisTag : ∀ axis (h : axis < r.axes.length), call = .axisTag (some f) axis →
    answer = .number (r.axes[axis].tag.toBytes.foldl (fun n byte => n * 256 + byte.toNat) 0)
  axisValue : ∀ axis (h : axis < r.axes.length), call = .axisValue (some f) axis →
    answer = .value r.axes[axis].value

variable {files : Files.Tree} {past : Trace} {s : State} {call : Call}

/-! ## What is open and what was called -/

/-- The walks and fonts that are open are those that the calls so far and their answers tell of. -/
structure Agrees (files : Files.Tree) (past : Trace) (s : State) : Prop where
  files_eq : s.files = files
  walk : ∀ {h c count}, past.OpenWalk h c count → ∃ w log, Walk.start files c = .ok (w, log) ∧
    slot? s.walks h = some (w.after files.isFile count)
  font : ∀ {f c count}, past.OpenFont f c count → ∃ r, recordAfter files c count = some r ∧
    slot? s.fonts f = some (Font.ofRecord r)

namespace Agrees

theorem start (files : Files.Tree) : Agrees files [] (State.start files) :=
  ⟨rfl, fun hopen => absurd hopen (Trace.not_openWalk_nil _ _ _),
    fun hopen => absurd hopen (Trace.not_openFont_nil _ _ _)⟩

-- After one more call, an open walk has taken one more step if the call asked it for a font.
theorem walk_step (hagrees : Agrees files past s) {call : Call} {c : Config} {h count : Nat}
    (hopen : Trace.OpenWalk (past ++ [(call, (s.call call).2)]) h c count) :
    ∃ w log, Walk.start files c = .ok (w, log) ∧
      slot? (s.call call).1.walks h = some (w.after files.isFile count) := by
  obtain ⟨rfl, hwalk, -⟩ := hagrees
  have hdoes := s.does_call call
  generalize s.call call = result at hdoes hopen
  rcases hopen.of_append_singleton with ⟨hconfig, hanswer, rfl⟩ | ⟨hkept, earlier, hbefore, rfl⟩
  · -- The call opened the walk.
    cases hdoes with
    | @opens _ c' w log hconfig' hstart =>
      obtain rfl := Answer.walk.inj hanswer
      obtain rfl : c' = c := by simpa [hconfig'] using hconfig
      exact ⟨w, log, hstart, slot?_length_append s.walks w⟩
    | steps hw => simp at hanswer
    | closesWalk h => simp at hanswer
    | closesFont f => simp at hanswer
    | @nothing _ answer hanswer' hnext =>
      obtain rfl : answer = .walk h := hanswer
      cases hanswer'
  · obtain ⟨w, log, hstart, hslot⟩ := hwalk hbefore
    refine ⟨w, log, hstart, ?_⟩
    cases hdoes with
    | opens hconfig hstart =>
      have hcall : call ≠ .next (some h) := by
        rintro rfl
        simp [Call.config?] at hconfig
      rw [if_neg hcall]
      exact (slot?_append (lt_length_of_slot? hslot) _).trans hslot
    | @steps h' w' hw =>
      by_cases heq : h' = h
      · subst heq
        obtain rfl : w' = w.after s.files.isFile earlier := by simpa [hw] using hslot
        rw [if_pos rfl]
        exact slot?_set_self (lt_length_of_slot? hw) _
      · have hne : Call.next (some h') ≠ .next (some h) := by simpa using heq
        rw [if_neg hne]
        exact (slot?_set_of_ne heq _).trans hslot
    | closesWalk h' =>
      have hne : h' ≠ h := by simpa using hkept
      exact (slot?_set_of_ne hne _).trans hslot
    | closesFont f => exact hslot
    | nothing hanswer hnext =>
      have hcall : call ≠ .next (some h) := by
        intro hcall
        simp [hnext h hcall] at hslot
      rw [if_neg hcall]
      exact hslot

-- A font that a call hands out is the record that the walk gives, and others stay as they are.
theorem font_step (hagrees : Agrees files past s) {call : Call} {c : Config} {f count : Nat}
    (hopen : Trace.OpenFont (past ++ [(call, (s.call call).2)]) f c count) :
    ∃ r, recordAfter files c count = some r ∧
      slot? (s.call call).1.fonts f = some (Font.ofRecord r) := by
  obtain ⟨rfl, hwalk, hfont⟩ := hagrees
  have hdoes := s.does_call call
  generalize s.call call = result at hdoes hopen
  rcases hopen.of_append_singleton with ⟨h, rfl, hanswer, hasked⟩ | ⟨hkept, hbefore⟩
  · -- The call handed out the font.
    obtain ⟨w, log, hstart, hslot⟩ := hwalk hasked
    cases hdoes with
    | opens hconfig hstart => simp [Call.config?] at hconfig
    | @steps h' w' hw =>
      obtain rfl : w' = w.after s.files.isFile count := by simpa [hw] using hslot
      obtain ⟨r, hrecord, rfl⟩ := Option.map_eq_some_iff.mp (Answer.font.inj hanswer)
      refine ⟨r, by rw [recordAfter, hstart]; exact hrecord, ?_⟩
      rw [hrecord]
      exact slot?_length_append s.fonts _
    | @nothing _ answer hanswer' hnext =>
      obtain rfl : answer = .font (some f) := hanswer
      cases hanswer'
  · obtain ⟨r, hrecord, hslot⟩ := hfont hbefore
    refine ⟨r, hrecord, ?_⟩
    cases hdoes with
    | opens hconfig hstart => exact hslot
    | steps hw => exact (slot?_append (lt_length_of_slot? hslot) _).trans hslot
    | closesWalk h => exact hslot
    | closesFont f' =>
      have hne : f' ≠ f := by simpa using hkept
      exact (slot?_set_of_ne hne _).trans hslot
    | nothing hanswer hnext => exact hslot

theorem step (hagrees : Agrees files past s) (call : Call) :
    Agrees files (past ++ [(call, (s.call call).2)]) (s.call call).1 where
  files_eq := by
    have hdoes := s.does_call call
    generalize s.call call = result at hdoes
    cases hdoes <;> exact hagrees.files_eq
  walk := hagrees.walk_step
  font := hagrees.font_step

/-- At every point of a run, what is open agrees with what was called before. -/
theorem of_trace {calls : List Call} {later : Trace} {answer : Answer}
    (htrace : (State.start files).trace calls = past ++ (call, answer) :: later) :
    ∃ s, Agrees files past s ∧ answer = (s.call call).2 :=
  State.exists_state_of_trace (fun _ _ call hagrees => hagrees.step call) (start files) htrace

/-! ## The next answer -/

theorem snd_call_next (hagrees : Agrees files past s) {h count : Nat} {c : Config}
    (hopen : past.OpenWalk h c count) :
    (s.call (.next (some h))).2 =
      .font ((recordAfter files c count).map fun _ => s.fonts.length) := by
  obtain ⟨w, log, hstart, hslot⟩ := hagrees.walk hopen
  rw [State.call_next_of_slot? hslot, recordAfter, hstart, hagrees.files_eq]

-- A handle that is not in use yet.
theorem not_openWalk (hagrees : Agrees files past s) (c : Config) (count : Nat) :
    ¬ past.OpenWalk s.walks.length c count := by
  intro hopen
  obtain ⟨w, log, -, hslot⟩ := hagrees.walk hopen
  exact absurd (lt_length_of_slot? hslot) (Nat.lt_irrefl _)

theorem not_openFont (hagrees : Agrees files past s) (c : Config) (count : Nat) :
    ¬ past.OpenFont s.fonts.length c count := by
  intro hopen
  obtain ⟨r, -, hslot⟩ := hagrees.font hopen
  exact absurd (lt_length_of_slot? hslot) (Nat.lt_irrefl _)

theorem onFont (hagrees : Agrees files past s) {f count : Nat} {c : Config}
    (hopen : past.OpenFont f c count) :
    ∃ r, recordAfter files c count = some r ∧
      ∀ answer, s.onFont (some f) answer = (s, answer (Font.ofRecord r)) := by
  obtain ⟨r, hrecord, hslot⟩ := hagrees.font hopen
  exact ⟨r, hrecord, State.onFont_of_slot? hslot⟩

theorem tells (hagrees : Agrees files past s) {f count : Nat} {c : Config}
    (hopen : past.OpenFont f c count) (call : Call) :
    ∃ r, recordAfter files c count = some r ∧ Tells r f call (s.call call).2 := by
  obtain ⟨r, hrecord, hask⟩ := hagrees.onFont hopen
  refine ⟨r, hrecord, ?_⟩
  constructor
  case weight | isItalic | collectionIndex | axisCount =>
    rintro rfl
    rw [State.call, hask]
    rfl
  case locale =>
    rintro rfl
    rw [State.call, hask]
    exact ⟨_, rfl, by simp [Font.ofRecord]⟩
  case axisTag =>
    rintro axis haxis rfl
    rw [State.call, hask, State.onAxis_of_lt _ haxis, Tag.foldl_toBytes]
    rfl
  case axisValue =>
    rintro axis haxis rfl
    rw [State.call, hask, State.onAxis_of_lt _ haxis]
    rfl

theorem answered_of_config? (hagrees : Agrees files past s) {call : Call} {c : Config}
    (hconfig : call.config? = some c) : call.Answered files (s.call call).2 := by
  rw [State.call_of_config? hconfig]
  cases hstart : Walk.start s.files c with
  | ok started =>
    rw [State.openWith_of_ok hstart]
    exact ⟨by simp, by simp⟩
  | error b =>
    rw [State.openWith_of_error hstart]
    rw [hagrees.files_eq] at hstart
    exact ⟨by simp, fun _ _ => ⟨c, b, hconfig, hstart⟩⟩

theorem answered_of_keeps (hagrees : Agrees files past s) {call : Call}
    (hkeeps : call.Keeps files past) : call.Answered files (s.call call).2 := by
  cases call with
  | «open» => exact hagrees.answered_of_config? rfl
  | openConfig configPath fontDir =>
    exact hagrees.answered_of_config? (State.config?_openConfig configPath fontDir)
  | next walk =>
    obtain ⟨h, c, count, rfl, hopen⟩ := hkeeps
    rw [hagrees.snd_call_next hopen]
    exact ⟨by simp, by simp⟩
  | closeWalk walk =>
    obtain ⟨h, c, count, rfl, hopen⟩ := hkeeps
    obtain ⟨w, -, -, hslot⟩ := hagrees.walk hopen
    rw [State.call_closeWalk_of_slot? hslot]
    exact ⟨by simp, by simp⟩
  | closeFont font =>
    obtain ⟨f, c, count, rfl, hopen⟩ := hkeeps
    obtain ⟨r, -, hslot⟩ := hagrees.font hopen
    rw [State.call_closeFont_of_slot? hslot]
    exact ⟨by simp, by simp⟩
  | filePath font | weight font | isItalic font | locale font | collectionIndex font
  | axisCount font =>
    obtain ⟨f, c, count, rfl, hopen⟩ := hkeeps
    obtain ⟨r, -, hask⟩ := hagrees.onFont hopen
    rw [State.call, hask]
    exact ⟨by simp, by simp⟩
  | axisTag font axis | axisValue font axis =>
    obtain ⟨f, c, count, r, rfl, hopen, hrecord, haxis⟩ := hkeeps
    obtain ⟨r', hrecord', hask⟩ := hagrees.onFont hopen
    obtain rfl : r = r' := by simpa [hrecord] using hrecord'
    rw [State.call, hask, State.onAxis_of_lt _ haxis]
    exact ⟨by simp, by simp⟩

end Agrees

/-- At every point of every run, the next answer is the one that walks and records of their own
give. An opening gives a walk that is not in use. Asked for a font, a walk gives one that is not in
use exactly if a walk of its own gives a record at this step. A question about an open font is
answered by the record that the walk gave with it. Calls that keep the contract are all answered,
unless reading breaks down on a configuration. -/
theorem trace_refines (files : Files.Tree) (calls : List Call) :
    let t := (State.start files).trace calls
    (t.map (·.1) = calls ∨ ∃ past call reason, t = past ++ [(call, .fatal reason)]) ∧
      ∀ past call answer later, t = past ++ (call, answer) :: later →
        (call.Keeps files past → call.Answered files answer) ∧
        (∀ c started, call.config? = some c → Walk.start files c = .ok started →
          ∃ h, answer = .walk h ∧ ∀ c' count, ¬ past.OpenWalk h c' count) ∧
        (∀ h c count, past.OpenWalk h c count → call = .next (some h) →
          ∃ font, answer = .font font ∧ font.isSome = (recordAfter files c count).isSome ∧
            ∀ f ∈ font, ∀ c' count', ¬ past.OpenFont f c' count') ∧
        ∀ f c count, past.OpenFont f c count →
          ∃ r, recordAfter files c count = some r ∧ Tells r f call answer := by
  intro t
  refine ⟨State.trace_complete _ calls, ?_⟩
  intro past call answer later htrace
  obtain ⟨s, hagrees, rfl⟩ := Agrees.of_trace htrace
  refine ⟨hagrees.answered_of_keeps, ?opened, ?asked, fun f c count hopen => hagrees.tells hopen call⟩
  case opened =>
    intro c started hconfig hstart
    rw [← hagrees.files_eq] at hstart
    rw [State.call_of_config? hconfig, State.openWith_of_ok hstart]
    exact ⟨_, rfl, hagrees.not_openWalk⟩
  case asked =>
    rintro h c count hopen rfl
    refine ⟨_, hagrees.snd_call_next hopen, by simp, ?_⟩
    intro f hf
    obtain ⟨r, -, rfl⟩ := Option.map_eq_some_iff.mp hf
    exact hagrees.not_openFont

end FontCatalog.Handles
