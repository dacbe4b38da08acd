import FontCatalog.Proofs.Handles.Texts
import FontCatalog.Proofs.Text.Sequences

/-!
# Walks on given paths

A walk that is opened on a configuration file and a font directory is the walk with these paths as
they read as text. It stands where that walk stands after as many steps, with the same files, and so
it asks for the availability of the same files and comes to the same fonts. The paths that read as
text are the given ones exactly if these are UTF-8.
-/

namespace FontCatalog.Handles

/-- The settings with a configuration file and a font directory, byte for byte. -/
def configOn (configPath fontDir : Path) : Config :=
  (Config.default.withConfigPath configPath).withFontDir fontDir

/-- The state after some calls. -/
def State.after (s : State) (calls : List Call) : State :=
  calls.foldl (fun s call => (s.call call).1) s

theorem State.after_concat (s : State) (calls : List Call) (call : Call) :
    s.after (calls ++ [call]) = ((s.after calls).call call).1 :=
  List.foldl_concat _ _ _ _

namespace Trace

/-- A walk is open. It was opened on a configuration file and a font directory, and a number of calls
asked it for a font since. -/
def WalkOn (t : Trace) (h : Nat) (configPath fontDir : Path) (count : Nat) : Prop :=
  ∃ before since : Trace,
    t = before ++ (.openConfig (some configPath) (some fontDir), .walk h) :: since ∧
      (∀ x ∈ since, x.1 ≠ .closeWalk (some h)) ∧
      since.countP (fun x => x.1 = .next (some h)) = count

/-- A font is open. It came from a walk on a configuration file and a font directory, after a number
of other calls for a font of this walk. -/
def FontOn (t : Trace) (f : Nat) (configPath fontDir : Path) (count : Nat) : Prop :=
  ∃ (before : Trace) (h : Nat) (since : Trace),
    t = before ++ (.next (some h), .font (some f)) :: since ∧
      before.WalkOn h configPath fontDir count ∧ ∀ x ∈ since, x.1 ≠ .closeFont (some f)

variable {t : Trace} {configPath fontDir : Path} {h f count : Nat}

theorem WalkOn.openWalk (hon : t.WalkOn h configPath fontDir count) :
    t.OpenWalk h (configOn (State.givenPath configPath) (State.givenPath fontDir)) count := by
  obtain ⟨before, since, ht, hkept, hcount⟩ := hon
  exact ⟨before, _, since, ht, rfl, hkept, hcount⟩

theorem FontOn.openFont (hon : t.FontOn f configPath fontDir count) :
    t.OpenFont f (configOn (State.givenPath configPath) (State.givenPath fontDir)) count := by
  obtain ⟨before, h, since, ht, hwalk, hkept⟩ := hon
  exact ⟨before, h, since, ht, hwalk.openWalk, hkept⟩

end Trace

/-- The walk behind a handle is at the same place as a walk of its own with some settings after a
number of steps, among the same files. -/
def Stands (files : Files.Tree) (s : State) (h : Nat) (c : Config) (count : Nat) : Prop :=
  s.files = files ∧ ∃ w log, Walk.start files c = .ok (w, log) ∧
    slot? s.walks h = some (w.after files.isFile count)

/-- A question about a font is answered as a record has it, texts included. Only a locale with a NUL
cannot be handed over. -/
structure Shows (r : Record) (f : Nat) (call : Call) (answer : Answer) : Prop
    extends Tells r f call answer where
  filePath : call = .filePath (some f) →
    ∃ text, answer = .text (some text) ∧ Utf8.encodeString text = r.path.bytes
  localeText : call = .locale (some f) → answer = .text r.locale ∨
    ∃ text, r.locale = some text ∧ '\x00' ∈ text.toList ∧ answer = .text (some "")

variable {files : Files.Tree} {past : Trace} {s : State} {call : Call}

/-! ## Paths as text -/

/-- A path is taken as it is given exactly if it is UTF-8. -/
theorem givenPath_eq_self_iff (p : Path) : State.givenPath p = p ↔ Utf8.WellFormed p.bytes := by
  rw [Utf8.wellFormed_iff]
  constructor
  · exact fun h => ⟨p.display, congrArg Path.bytes h⟩
  · rintro ⟨text, htext⟩
    obtain rfl : p = .ofString text := congrArg Path.mk htext.symm
    rw [State.givenPath, Path.display_ofString]

theorem configOn_given_eq_iff (configPath fontDir : Path) :
    configOn (State.givenPath configPath) (State.givenPath fontDir) = configOn configPath fontDir ↔
      Utf8.WellFormed configPath.bytes ∧ Utf8.WellFormed fontDir.bytes := by
  rw [← givenPath_eq_self_iff, ← givenPath_eq_self_iff]
  constructor
  · exact fun h => ⟨congrArg Config.configPath h, congrArg Config.fontDir h⟩
  · rintro ⟨hconfig, hdir⟩
    rw [hconfig, hdir]

theorem nul_notMem_givenPath {p : Path} (h : 0 ∉ p.bytes) : '\x00' ∉ p.display.toList := by
  rw [Path.display, Utf8.decodeStringLossy, String.toList_ofList]
  exact Utf8.nul_notMem_decodeLossy h

/-! ## Points of a run -/

-- The calls so far lead to a state that agrees with them.
theorem agrees_after {calls : List Call} {later : Trace} {answer : Answer}
    (htrace : (State.start files).trace calls = past ++ (call, answer) :: later) :
    Agrees files past ((State.start files).after (past.map (·.1))) ∧
      answer = (((State.start files).after (past.map (·.1))).call call).2 := by
  have hcall : ∀ (past : Trace) (s : State) (call : Call),
      Agrees files past s ∧ s = (State.start files).after (past.map (·.1)) →
        Agrees files (past ++ [(call, (s.call call).2)]) (s.call call).1 ∧
          (s.call call).1 =
            (State.start files).after ((past ++ [(call, (s.call call).2)]).map (·.1)) := by
    rintro past s call ⟨hagrees, rfl⟩
    refine ⟨hagrees.step call, ?_⟩
    rw [List.map_append, List.map_singleton, State.after_concat]
  obtain ⟨s, ⟨hagrees, rfl⟩, hanswer⟩ :=
    State.exists_state_of_trace hcall ⟨.start files, rfl⟩ htrace
  exact ⟨hagrees, hanswer⟩

namespace Agrees

theorem stands (hagrees : Agrees files past s) {h count : Nat} {c : Config}
    (hopen : past.OpenWalk h c count) : Stands files s h c count :=
  ⟨hagrees.files_eq, hagrees.walk hopen⟩

theorem shows (hagrees : Agrees files past s) {f count : Nat} {c : Config} {dir : String}
    (hopen : past.OpenFont f c count) (hdir : c.fontDir = .ofString dir)
    (hnul : '\x00' ∉ dir.toList) :
    ∃ r, recordAfter files c count = some r ∧ Shows r f call (s.call call).2 := by
  obtain ⟨r, hrecord, htells⟩ := hagrees.tells hopen call
  obtain ⟨r₁, hrecord₁, hpath⟩ := hagrees.filePath_text hopen hdir hnul
  obtain ⟨r₂, hrecord₂, hlocale⟩ := hagrees.locale_text hopen
  obtain rfl : r = r₁ := by simpa [hrecord] using hrecord₁
  obtain rfl : r = r₂ := by simpa [hrecord] using hrecord₂
  refine ⟨r, hrecord, htells, ?_, ?_⟩
  · rintro rfl
    obtain ⟨text, hanswer, hbytes, -⟩ := hpath
    exact ⟨text, hanswer, hbytes⟩
  · rintro rfl
    rcases hlocale with hlocale | ⟨text, hlocale, hmem, hanswer, -⟩
    · exact .inl hlocale
    · exact .inr ⟨text, hlocale, hmem, hanswer⟩

theorem opens (hagrees : Agrees files past s) {c : Config} (hconfig : call.config? = some c) :
    (∀ started, Walk.start files c = .ok started → ∃ h, (s.call call).2 = .walk h) ∧
      ∀ b, Walk.start files c = .error b → (s.call call).2 = .fatal (.broken b) := by
  rw [State.call_of_config? hconfig, ← hagrees.files_eq]
  refine ⟨fun started hstart => ?_, fun b hstart => ?_⟩
  · rw [State.openWith_of_ok hstart]
    exact ⟨_, rfl⟩
  · rw [State.openWith_of_error hstart]

end Agrees

/-! ## All paths -/

/-- A walk on two paths is the walk with what they read as text. It is opened if that walk can be
started. At every point of every run it stands where that walk stands after as many steps, among the
same files, and gives a font exactly if that walk gives a record; and a font that came from it shows
what that record says. The settings of that walk have exactly the given paths if and only if both
are UTF-8. -/
theorem walkOn_stands (files : Files.Tree) (calls : List Call) (past : Trace) (call : Call)
    (answer : Answer) (later : Trace)
    (htrace : (State.start files).trace calls = past ++ (call, answer) :: later)
    (configPath fontDir : Path) (hnul : 0 ∉ fontDir.bytes) :
    let c := configOn (State.givenPath configPath) (State.givenPath fontDir)
    (c = configOn configPath fontDir ↔
      Utf8.WellFormed configPath.bytes ∧ Utf8.WellFormed fontDir.bytes) ∧
    (call = .openConfig (some configPath) (some fontDir) →
      (∀ started, Walk.start files c = .ok started → ∃ h, answer = .walk h) ∧
        ∀ b, Walk.start files c = .error b → answer = .fatal (.broken b)) ∧
    (∀ h count, past.WalkOn h configPath fontDir count →
      Stands files ((State.start files).after (past.map (·.1))) h c count ∧
        (call = .next (some h) →
          ∃ font, answer = .font font ∧ font.isSome = (recordAfter files c count).isSome)) ∧
    ∀ f count, past.FontOn f configPath fontDir count →
      ∃ r, recordAfter files c count = some r ∧ Shows r f call answer := by
  intro c
  obtain ⟨hagrees, rfl⟩ := agrees_after htrace
  refine ⟨configOn_given_eq_iff configPath fontDir, ?opened, ?asked, ?shown⟩
  case opened =>
    rintro rfl
    exact hagrees.opens rfl
  case asked =>
    intro h count hon
    refine ⟨hagrees.stands hon.openWalk, ?_⟩
    rintro rfl
    exact ⟨_, hagrees.snd_call_next hon.openWalk, by simp [c]⟩
  case shown =>
    intro f count hon
    exact hagrees.shows hon.openFont rfl (nul_notMem_givenPath hnul)

/-! ## Two runs -/

def threeFonts : List UInt8 :=
  Utf8.encodeString ("<familyset><family><font>a.ttf</font><font>b.ttf</font>" ++
    "<font>c.ttf</font></family></familyset>")

/-- A configuration under a name that is UTF-8 but not ASCII, and one of its fonts. -/
def umlautFiles : Files.Tree :=
  ⟨[(Utf8.encodeString "ü.xml", .file threeFonts),
    (Utf8.encodeString "ü", .directory [(Utf8.encodeString "c.ttf", .file [])])], []⟩

def umlautPast : Trace :=
  [(.openConfig (some (.ofString "ü.xml")) (some (.ofString "ü")), .walk 0),
    (.next (some 0), .font (some 0)), (.next (some 0), .font (some 1))]

theorem walkOn_stands_umlaut :
    umlautPast.FontOn 1 (.ofString "ü.xml") (.ofString "ü") 1 ∧
      ∃ r, recordAfter umlautFiles (configOn (.ofString "ü.xml") (.ofString "ü")) 1 = some r ∧
        Utf8.encodeString "ü/c.ttf" = r.path.bytes := by
  have htrace : (State.start umlautFiles).trace (umlautPast.map (·.1) ++ [.filePath (some 1)]) =
      umlautPast ++ (.filePath (some 1), .text (some "ü/c.ttf")) :: [] := by
    decide +kernel
  have hnul : 0 ∉ (Path.ofString "ü").bytes := by decide
  have hon : umlautPast.FontOn 1 (.ofString "ü.xml") (.ofString "ü") 1 :=
    ⟨umlautPast.take 2, 0, [], rfl, ⟨[], [(.next (some 0), .font (some 0))], rfl, by simp, rfl⟩,
      by simp⟩
  obtain ⟨hsettings, -, -, hfonts⟩ :=
    walkOn_stands _ _ _ _ _ _ htrace (.ofString "ü.xml") (.ofString "ü") hnul
  obtain ⟨r, hrecord, hshows⟩ := hfonts 1 1 hon
  rw [hsettings.mpr ⟨Utf8.wellFormed_iff.mpr ⟨_, rfl⟩, Utf8.wellFormed_iff.mpr ⟨_, rfl⟩⟩] at hrecord
  obtain ⟨text, htext, hbytes⟩ := hshows.filePath rfl
  obtain rfl := Option.some.inj (Answer.text.inj htext)
  exact ⟨hon, r, hrecord, hbytes⟩

/-- A name that is not UTF-8. -/
def strayName : List UInt8 := 0xFF :: Utf8.encodeString ".xml"

def strayOpening : Call := .openConfig (some ⟨strayName⟩) (some (.ofString "fonts"))

/-- Of a configuration under a name that is not UTF-8 no fonts are given, and those of another one are
given if that is found under the name as it reads as text. -/
theorem stray_replaced :
    ((State.start ⟨[(strayName, .file threeFonts)], []⟩).trace [strayOpening, .next (some 0)] =
        [(strayOpening, .walk 0), (.next (some 0), .font none)] ∧
      (recordAfter ⟨[(strayName, .file threeFonts)], []⟩
        (configOn ⟨strayName⟩ (.ofString "fonts")) 0).isSome = true) ∧
    ((State.start ⟨[(Utf8.encodeString "\uFFFD.xml", .file threeFonts)], []⟩).trace
        [strayOpening, .next (some 0)] =
          [(strayOpening, .walk 0), (.next (some 0), .font (some 0))] ∧
      recordAfter ⟨[(Utf8.encodeString "\uFFFD.xml", .file threeFonts)], []⟩
        (configOn ⟨strayName⟩ (.ofString "fonts")) 0 = none) := by
  decide +kernel

end FontCatalog.Handles
