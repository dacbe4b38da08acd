import FontCatalog.Handles
import FontCatalog.Proofs.Slots

/-!
# What is open after some calls

Which walks and fonts are open, what a walk was opened with and how often it was asked since, can be
read off the calls that were made and their answers. A run of calls is looked at from every point on
the way: what was called and answered before it, and the call that comes next.
-/

namespace FontCatalog

-- An axis within the bounds is the one that the record has there.
theorem Record.axis_of_lt {r : Record} {axis : Nat} (h : axis < r.axes.length) :
    r.axis axis = .ok r.axes[axis] := by
  rw [Record.axis, List.getElem?_eq_getElem h, Option.elim_some]

namespace Handles

/-- The settings that a call opens a walk with: the defaults, where each argument that is given
replaces its field. -/
def Call.config? : Call → Option Config
  | .open => some Config.default
  | .openConfig configPath fontDir =>
    let c := configPath.elim Config.default fun p =>
      Config.default.withConfigPath (State.givenPath p)
    some (fontDir.elim c fun p => c.withFontDir (State.givenPath p))
  | _ => none

-- Answers that hand over a walk, or a font or its absence.
def Answer.isHandle : Answer → Bool
  | .walk _ => true
  | .font _ => true
  | _ => false

/-- Calls and their answers, in order. -/
abbrev Trace := List (Call × Answer)

namespace Trace

/-- A walk is open. It was opened with some settings, and a number of calls asked it for a font
since. -/
def OpenWalk (t : Trace) (h : Nat) (c : Config) (count : Nat) : Prop :=
  ∃ (before : Trace) (opening : Call) (since : Trace),
    t = before ++ (opening, .walk h) :: since ∧ opening.config? = some c ∧
      (∀ x ∈ since, x.1 ≠ .closeWalk (some h)) ∧
      since.countP (fun x => x.1 = .next (some h)) = count

/-- A font is open. It came from a walk with some settings, after a number of other calls for a font
of this walk. -/
def OpenFont (t : Trace) (f : Nat) (c : Config) (count : Nat) : Prop :=
  ∃ (before : Trace) (h : Nat) (since : Trace),
    t = before ++ (.next (some h), .font (some f)) :: since ∧ OpenWalk before h c count ∧
      ∀ x ∈ since, x.1 ≠ .closeFont (some f)

-- A font stays open when its walk is closed.
example :
    OpenFont [(.open, .walk 0), (.next (some 0), .font (some 0)), (.closeWalk (some 0), .closed)] 0
      Config.default 0 :=
  ⟨[(.open, .walk 0)], 0, [(.closeWalk (some 0), .closed)], rfl,
    ⟨[], .open, [], rfl, rfl, by simp, rfl⟩, by simp⟩

variable {t : Trace} {call : Call} {answer : Answer} {c : Config} {count : Nat}

-- What is open at first.
theorem not_openWalk_nil (h : Nat) (c : Config) (count : Nat) : ¬ OpenWalk [] h c count := by
  rintro ⟨before, opening, since, ht, -⟩
  simp at ht

theorem not_openFont_nil (f : Nat) (c : Config) (count : Nat) : ¬ OpenFont [] f c count := by
  rintro ⟨before, h, since, ht, -⟩
  simp at ht

/-- A walk that is open after one more call was opened by this call, or it was open before and the
call did not close it. -/
theorem OpenWalk.of_append_singleton {h : Nat} (hopen : OpenWalk (t ++ [(call, answer)]) h c count) :
    (call.config? = some c ∧ answer = .walk h ∧ count = 0) ∨
      call ≠ .closeWalk (some h) ∧ ∃ earlier, OpenWalk t h c earlier ∧
        count = earlier + if call = .next (some h) then 1 else 0 := by
  obtain ⟨before, opening, since, ht, hconfig, hkept, hcount⟩ := hopen
  rcases List.eq_nil_or_concat since with rfl | ⟨earlier, last, rfl⟩
  · obtain ⟨-, hlast⟩ := List.append_inj' ht rfl
    obtain ⟨rfl, rfl⟩ : call = opening ∧ answer = .walk h := by simpa using hlast
    exact .inl ⟨hconfig, rfl, hcount.symm⟩
  · rw [List.concat_eq_append, ← List.cons_append, ← List.append_assoc] at ht
    obtain ⟨hinit, hlast⟩ := List.append_inj' ht rfl
    obtain rfl : (call, answer) = last := by simpa using hlast
    rw [List.concat_eq_append] at hkept hcount
    refine .inr ⟨hkept (call, answer) (by simp), _,
      ⟨before, opening, earlier, hinit, hconfig, fun x hx => hkept x (by simp [hx]), rfl⟩, ?_⟩
    rw [← hcount, List.countP_append, List.countP_singleton]
    simp

/-- A font that is open after one more call was handed out by this call, or it was open before and
the call did not close it. -/
theorem OpenFont.of_append_singleton {f : Nat} (hopen : OpenFont (t ++ [(call, answer)]) f c count) :
    (∃ h, call = .next (some h) ∧ answer = .font (some f) ∧ OpenWalk t h c count) ∨
      call ≠ .closeFont (some f) ∧ OpenFont t f c count := by
  obtain ⟨before, h, since, ht, hwalk, hkept⟩ := hopen
  rcases List.eq_nil_or_concat since with rfl | ⟨earlier, last, rfl⟩
  · obtain ⟨rfl, hlast⟩ := List.append_inj' ht rfl
    obtain ⟨rfl, rfl⟩ : call = .next (some h) ∧ answer = .font (some f) := by simpa using hlast
    exact .inl ⟨h, rfl, rfl, hwalk⟩
  · rw [List.concat_eq_append, ← List.cons_append, ← List.append_assoc] at ht
    obtain ⟨hinit, hlast⟩ := List.append_inj' ht rfl
    obtain rfl : (call, answer) = last := by simpa using hlast
    rw [List.concat_eq_append] at hkept
    exact .inr ⟨hkept (call, answer) (by simp), before, h, earlier, hinit, hwalk,
      fun x hx => hkept x (by simp [hx])⟩

end Trace

namespace State

/-- The calls of a run up to one that ends the process, with their answers. -/
def trace (s : State) (calls : List Call) : Trace := calls.zip (s.run calls)

variable {s : State} {call : Call} {w : Walk} {font : Font} {c : Config} {h f : Nat}

/-! ## One call -/

theorem config?_openConfig (configPath fontDir : Option Path) :
    (Call.openConfig configPath fontDir).config? = some (configFor configPath fontDir) := by
  cases configPath <;> cases fontDir <;> rfl

-- A call that opens a walk does it with its settings.
theorem call_of_config? (hconfig : call.config? = some c) : s.call call = s.openWith c := by
  cases call with
  | «open» =>
    cases hconfig
    rfl
  | openConfig configPath fontDir =>
    rw [config?_openConfig] at hconfig
    cases hconfig
    rfl
  | _ => cases hconfig

theorem openWith_of_ok {log : List Log.Entry} (hstart : Walk.start s.files c = .ok (w, log)) :
    s.openWith c = ({ s with walks := s.walks ++ [some w] }, .walk s.walks.length) := by
  rw [openWith, hstart]

theorem openWith_of_error {b : Document.Breakdown} (hstart : Walk.start s.files c = .error b) :
    s.openWith c = (s, .fatal (.broken b)) := by
  rw [openWith, hstart]

theorem call_next_of_slot? (hw : slot? s.walks h = some w) :
    s.call (.next (some h)) =
      ({ s with
          walks := s.walks.set h (some (w.next s.files.isFile).walk)
          fonts := s.fonts ++
            ((w.next s.files.isFile).record.map fun r => some (Font.ofRecord r)).toList },
        .font ((w.next s.files.isFile).record.map fun _ => s.fonts.length)) := by
  simp only [State.call]
  rw [← slot?, hw]
  cases hrecord : (w.next s.files.isFile).record <;> simp [hrecord]

theorem call_closeWalk_of_slot? (hw : slot? s.walks h = some w) :
    s.call (.closeWalk (some h)) = ({ s with walks := s.walks.set h none }, .closed) := by
  simp only [State.call]
  rw [← slot?, hw]

theorem call_closeFont_of_slot? (hf : slot? s.fonts f = some font) :
    s.call (.closeFont (some f)) = ({ s with fonts := s.fonts.set f none }, .closed) := by
  simp only [State.call]
  rw [← slot?, hf]

theorem onFont_of_slot? (hf : slot? s.fonts f = some font) (answer : Font → Answer) :
    s.onFont (some f) answer = (s, answer font) := by
  rw [onFont, ← slot?, hf]

/-- What a call does: it opens a walk, or takes a step of one, or closes a walk or a font, or leaves
everything as it is. -/
inductive Does (s : State) : Call → State × Answer → Prop
  | opens {call : Call} {c : Config} {w : Walk} {log : List Log.Entry}
      (hconfig : call.config? = some c) (hstart : Walk.start s.files c = .ok (w, log)) :
      Does s call ({ s with walks := s.walks ++ [some w] }, .walk s.walks.length)
  | steps {h : Nat} {w : Walk} (hw : slot? s.walks h = some w) :
      Does s (.next (some h))
        ({ s with
            walks := s.walks.set h (some (w.next s.files.isFile).walk)
            fonts := s.fonts ++
              ((w.next s.files.isFile).record.map fun r => some (Font.ofRecord r)).toList },
          .font ((w.next s.files.isFile).record.map fun _ => s.fonts.length))
  | closesWalk (h : Nat) :
      Does s (.closeWalk (some h)) ({ s with walks := s.walks.set h none }, .closed)
  | closesFont (f : Nat) :
      Does s (.closeFont (some f)) ({ s with fonts := s.fonts.set f none }, .closed)
  | nothing {call : Call} {answer : Answer} (hanswer : answer.isHandle = false)
      (hnext : ∀ h, call = .next (some h) → slot? s.walks h = none) : Does s call (s, answer)

-- A question about a font changes nothing.
theorem does_onFont {font : Handle} {answer : Font → Answer} (hcall : ∀ h, call ≠ .next (some h))
    (hanswer : ∀ font, (answer font).isHandle = false) : Does s call (s.onFont font answer) := by
  have hnext : ∀ h, call = .next (some h) → slot? s.walks h = none := fun h heq => absurd heq (hcall h)
  cases font with
  | none => exact .nothing rfl hnext
  | some f =>
    rw [onFont]
    cases (s.fonts[f]?).join with
    | none => exact .nothing rfl hnext
    | some font => exact .nothing (hanswer font) hnext

theorem onAxis_of_le {axis : Nat} (answer : Axis → Answer)
    (haxis : font.record.axes.length ≤ axis) :
    onAxis axis answer font = .fatal (.axisOutOfBounds font.record.axes.length) := by
  rw [onAxis, checkAxis, if_pos haxis]

-- Behind the check the look-up does not fail.
theorem onAxis_of_lt {axis : Nat} (answer : Axis → Answer)
    (haxis : axis < font.record.axes.length) :
    onAxis axis answer font = answer font.record.axes[axis] := by
  rw [onAxis, checkAxis, if_neg (Nat.not_le.mpr haxis), Record.axis_of_lt haxis]

theorem isHandle_onAxis (axis : Nat) {answer : Axis → Answer}
    (hanswer : ∀ a, (answer a).isHandle = false) (font : Font) :
    (onAxis axis answer font).isHandle = false := by
  rcases Nat.lt_or_ge axis font.record.axes.length with haxis | haxis
  · rw [onAxis_of_lt answer haxis]
    exact hanswer _
  · rw [onAxis_of_le answer haxis]
    rfl

theorem does_openWith (hconfig : call.config? = some c) : Does s call (s.openWith c) := by
  cases hstart : Walk.start s.files c with
  | ok started =>
    rw [openWith_of_ok hstart]
    exact .opens hconfig hstart
  | error b =>
    rw [openWith_of_error hstart]
    refine .nothing rfl ?_
    rintro h rfl
    simp [Call.config?] at hconfig

theorem does_call (s : State) (call : Call) : Does s call (s.call call) := by
  cases call with
  | «open» => exact does_openWith rfl
  | openConfig configPath fontDir => exact does_openWith (config?_openConfig configPath fontDir)
  | next walk =>
    cases walk with
    | none => exact .nothing rfl (by simp)
    | some h =>
      cases hw : slot? s.walks h with
      | none =>
        simp only [State.call]
        rw [← slot?, hw]
        refine .nothing rfl ?_
        rintro _ ⟨⟩
        exact hw
      | some w =>
        rw [call_next_of_slot? hw]
        exact .steps hw
  | closeWalk walk =>
    cases walk with
    | none => exact .nothing rfl (by simp)
    | some h =>
      cases hw : slot? s.walks h with
      | none =>
        simp only [State.call]
        rw [← slot?, hw]
        exact .nothing rfl (by simp)
      | some w =>
        rw [call_closeWalk_of_slot? hw]
        exact .closesWalk h
  | closeFont font =>
    cases font with
    | none => exact .nothing rfl (by simp)
    | some f =>
      cases hf : slot? s.fonts f with
      | none =>
        simp only [State.call]
        rw [← slot?, hf]
        exact .nothing rfl (by simp)
      | some font =>
        rw [call_closeFont_of_slot? hf]
        exact .closesFont f
  | filePath font => exact does_onFont (by simp) fun _ => rfl
  | weight font => exact does_onFont (by simp) fun _ => rfl
  | isItalic font => exact does_onFont (by simp) fun _ => rfl
  | locale font => exact does_onFont (by simp) fun _ => rfl
  | collectionIndex font => exact does_onFont (by simp) fun _ => rfl
  | axisCount font => exact does_onFont (by simp) fun _ => rfl
  | axisTag font axis => exact does_onFont (by simp) (isHandle_onAxis axis fun _ => rfl)
  | axisValue font axis => exact does_onFont (by simp) (isHandle_onAxis axis fun _ => rfl)

/-! ## Several calls -/

-- A run goes on after a call unless it ends the process.
theorem trace_cons (s : State) (call : Call) (calls : List Call) :
    ∃ later, s.trace (call :: calls) = (call, (s.call call).2) :: later ∧
      (later = (s.call call).1.trace calls ∨
        later = [] ∧ ∃ reason, (s.call call).2 = .fatal reason) := by
  rw [trace, run]
  split
  · next reason hcall =>
    refine ⟨[], ?_, .inr ⟨rfl, reason, by rw [hcall]⟩⟩
    rw [hcall, List.zip_cons_cons, List.zip_nil_right]
  · next next answer _ hcall => exact ⟨next.trace calls, by rw [hcall]; rfl, .inl (by rw [hcall])⟩

/-- All calls of a run are answered unless the last answer ends the process. -/
theorem trace_complete (s : State) (calls : List Call) :
    (s.trace calls).map (·.1) = calls ∨
      ∃ past call reason, s.trace calls = past ++ [(call, .fatal reason)] := by
  induction calls generalizing s with
  | nil => exact .inl rfl
  | cons call calls ih =>
    obtain ⟨later, htrace, rfl | ⟨rfl, reason, hfatal⟩⟩ := s.trace_cons call calls
    · rw [htrace]
      rcases ih (s.call call).1 with hall | ⟨past, last, reason, hlast⟩
      · exact .inl (by rw [List.map_cons, hall])
      · exact .inr ⟨_ :: past, last, reason, by rw [hlast, List.cons_append]⟩
    · exact .inr ⟨[], call, reason, by rw [htrace, hfatal, List.nil_append]⟩

/-- What every call keeps, of the calls so far and the state that they led to, holds at every point
of a run. -/
theorem exists_state_of_trace {Holds : Trace → State → Prop}
    (hcall : ∀ past s call, Holds past s →
      Holds (past ++ [(call, (s.call call).2)]) (s.call call).1)
    {calls : List Call} {seen past later : Trace} {answer : Answer} (hseen : Holds seen s)
    (htrace : s.trace calls = past ++ (call, answer) :: later) :
    ∃ s', Holds (seen ++ past) s' ∧ answer = (s'.call call).2 := by
  induction calls generalizing seen s past with
  | nil => simp [trace] at htrace
  | cons first calls ih =>
    obtain ⟨later', hcons, hlater⟩ := s.trace_cons first calls
    rw [hcons] at htrace
    cases past with
    | nil =>
      obtain ⟨⟨rfl, rfl⟩, -⟩ := by simpa using htrace
      exact ⟨s, by simpa using hseen, rfl⟩
    | cons x past =>
      rw [List.cons_append, List.cons.injEq] at htrace
      obtain ⟨rfl, htrace⟩ := htrace
      rcases hlater with rfl | ⟨rfl, -⟩
      · obtain ⟨s', hs', hanswer⟩ := ih (hcall seen s first hseen) htrace
        exact ⟨s', by simpa using hs', hanswer⟩
      · simp at htrace

end State

end Handles

end FontCatalog
