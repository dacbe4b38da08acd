import FontCatalog.Proofs.Handles.Refinement
import FontCatalog.Proofs.Record.Texts

/-!
# Texts that are handed over

A text with NUL cannot be handed over, and an empty one takes its place. No path has NUL: its
directory was given as such a text, and the rest is text of a document. A locale has none either,
unless the configuration declares an entity that does.
-/

namespace FontCatalog.Handles

theorem terminated_of_notMem {s : String} (h : '\x00' ∉ s.toList) : terminated s = s := by
  rw [terminated, if_neg (by simpa using h)]

theorem terminated_of_mem {s : String} (h : '\x00' ∈ s.toList) : terminated s = "" := by
  rw [terminated, if_pos (by simpa using h)]

/-- A font directory that is given to a call ends at its first zero byte, so it has none. -/
def Call.Terminated : Call → Prop
  | .openConfig _ (some fontDir) => 0 ∉ fontDir.bytes
  | _ => True

variable {files : Files.Tree} {past : Trace} {s : State}

-- The font directory of a walk that a call opens is text without NUL.
theorem Call.Terminated.fontDir {call : Call} {c : Config} (h : call.Terminated)
    (hconfig : call.config? = some c) :
    ∃ dir : String, c.fontDir = .ofString dir ∧ '\x00' ∉ dir.toList := by
  have hdefault : '\x00' ∉ Config.defaultFontDir.toList := by decide
  cases call with
  | «open» =>
    cases hconfig
    exact ⟨Config.defaultFontDir, rfl, hdefault⟩
  | openConfig configPath fontDir =>
    rw [State.config?_openConfig] at hconfig
    cases hconfig
    cases fontDir with
    | none => exact ⟨Config.defaultFontDir, rfl, hdefault⟩
    | some fontDir =>
      refine ⟨fontDir.display, rfl, ?_⟩
      rw [Path.display, Utf8.decodeStringLossy, String.toList_ofList]
      exact Utf8.nul_notMem_decodeLossy h
  | _ => cases hconfig

-- A font comes from a walk that was opened.
theorem Trace.OpenFont.exists_opening {f count : Nat} {c : Config} (h : past.OpenFont f c count) :
    ∃ opening ∈ past, opening.1.config? = some c := by
  obtain ⟨before, h, since, rfl, ⟨before', opening, since', rfl, hconfig, -⟩, -⟩ := h
  exact ⟨(opening, .walk h), by simp, hconfig⟩

/-- A record that a walk gives is that of a font of the document of its configuration. -/
theorem exists_font_of_recordAfter {c : Config} {count : Nat} {r : Record}
    (h : recordAfter files c count = some r) :
    ∃ root font, root.Clean (Document.entitiesOf files c.configPath) ∧
      r = Record.ofElement (.ofTree root) font c.fontDir c.localeSource := by
  rw [recordAfter] at h
  split at h
  · rename_i w log hstart
    obtain ⟨⟨d, _⟩, hload, hwalk⟩ := exists_of_bind_ok hstart
    cases hwalk
    obtain ⟨root, rfl, hclean⟩ := Document.clean_load hload
    have hahead : Walk.Ahead (.ofTree root) (Walk.ofDocument (.ofTree root) c) _ :=
      .unstarted c.fontDir c.localeSource
    obtain ⟨rest, hafter, hsettings⟩ := hahead.after files.isFile count
    have hrecord := hafter.next_record files.isFile
    rw [h, hsettings] at hrecord
    split at hrecord
    · cases hrecord
    · rename_i font hcursor
      exact ⟨root, font, hclean, Option.some.inj (Option.some.inj hrecord)⟩
    · cases hrecord
  · cases h

namespace Agrees

variable {f count : Nat} {c : Config}

/-- The path of a font is handed over byte for byte if its directory is text without NUL. -/
theorem filePath_text (hagrees : Agrees files past s) (hopen : past.OpenFont f c count)
    {dir : String} (hdir : c.fontDir = .ofString dir) (hnul : '\x00' ∉ dir.toList) :
    ∃ r, recordAfter files c count = some r ∧
      ∃ text, (s.call (.filePath (some f))).2 = .text (some text) ∧
        Utf8.encodeString text = r.path.bytes ∧ '\x00' ∉ text.toList := by
  obtain ⟨r, hrecord, hask⟩ := hagrees.onFont hopen
  obtain ⟨root, font, hclean, rfl⟩ := exists_font_of_recordAfter hrecord
  obtain ⟨p, hp, hnul⟩ := Record.path_ofElement hclean hnul
  rw [← hdir] at hp
  refine ⟨_, hrecord, p, ?_, ?_, hnul⟩
  · rw [State.call, hask, Font.ofRecord, hp, Path.display_ofString, terminated_of_notMem hnul]
  · rw [hp]
    rfl

/-- The locale of a font is handed over byte for byte, or empty if an entity brought a NUL into
it. -/
theorem locale_text (hagrees : Agrees files past s) (hopen : past.OpenFont f c count) :
    ∃ r, recordAfter files c count = some r ∧
      ((s.call (.locale (some f))).2 = .text r.locale ∨
        ∃ text, r.locale = some text ∧ '\x00' ∈ text.toList ∧
          (s.call (.locale (some f))).2 = .text (some "") ∧
          ∃ e ∈ Document.entitiesOf files c.configPath, '\x00' ∈ e.value) := by
  obtain ⟨r, hrecord, hask⟩ := hagrees.onFont hopen
  obtain ⟨root, font, hclean, rfl⟩ := exists_font_of_recordAfter hrecord
  refine ⟨_, hrecord, ?_⟩
  rw [State.call, hask]
  cases hlocale : (Record.ofElement (.ofTree root) font c.fontDir c.localeSource).locale with
  | none => exact .inl (by rw [Font.ofRecord, hlocale]; rfl)
  | some locale =>
    by_cases hnul : '\x00' ∈ locale.toList
    · refine .inr ⟨locale, rfl, hnul, ?_, Record.exists_entity_of_nul hclean hlocale hnul⟩
      rw [Font.ofRecord, hlocale, Option.map_some, terminated_of_mem hnul]
    · refine .inl ?_
      rw [Font.ofRecord, hlocale, Option.map_some, terminated_of_notMem hnul]

end Agrees

/-! ## A configuration with NUL -/

/-- A configuration in which the language of a family is an entity with NUL. -/
def nulConfiguration : String :=
  "<!DOCTYPE familyset [<!ENTITY nul \"e\x00n\">]>" ++
    "<familyset><family lang=\"&nul;\"><font>a.ttf</font></family></familyset>"

def nulFiles : Files.Tree :=
  ⟨[(Utf8.encodeString "fonts.xml", .file (Utf8.encodeString nulConfiguration))], []⟩

def nulConfig : Config :=
  State.configFor (some (.ofString "fonts.xml")) (some (.ofString "fonts"))

/-- Calls that take the font of this configuration and ask for its path and its locale. -/
def nulCalls : List Call :=
  [.openConfig (some (.ofString "fonts.xml")) (some (.ofString "fonts")), .next (some 0),
    .filePath (some 0), .locale (some 0)]

def nulPast : Trace :=
  [(.openConfig (some (.ofString "fonts.xml")) (some (.ofString "fonts")), .walk 0),
    (.next (some 0), .font (some 0))]

theorem trace_nulCalls :
    (State.start nulFiles).trace nulCalls = nulPast ++ (.filePath (some 0),
      .text (some "fonts/a.ttf")) :: [(.locale (some 0), .text (some ""))] := by
  decide +kernel

/-! ## All configurations -/

/-- The text of a path is handed over byte for byte. So is a locale, unless it has a NUL, which an
entity of the configuration must have brought in. Then it is handed over empty. -/
theorem trace_texts (files : Files.Tree) (calls : List Call)
    (hcalls : ∀ call ∈ calls, call.Terminated) :
    ∀ (past : Trace) call answer later, (State.start files).trace calls = past ++ (call, answer) :: later →
      ∀ f c count, past.OpenFont f c count → ∃ r, recordAfter files c count = some r ∧
        (call = .filePath (some f) → ∃ s, answer = .text (some s) ∧
          Utf8.encodeString s = r.path.bytes ∧ '\x00' ∉ s.toList) ∧
        (call = .locale (some f) → answer = .text r.locale ∨
          ∃ s, r.locale = some s ∧ '\x00' ∈ s.toList ∧ answer = .text (some "") ∧
            ∃ e ∈ Document.entitiesOf files c.configPath, '\x00' ∈ e.value) := by
  intro past call answer later htrace f c count hopen
  obtain ⟨s, hagrees, rfl⟩ := Agrees.of_trace htrace
  obtain ⟨r, hrecord, hlocale⟩ := hagrees.locale_text hopen
  refine ⟨r, hrecord, ?path, ?locale⟩
  case path =>
    rintro rfl
    obtain ⟨opening, hopening, hconfig⟩ := hopen.exists_opening
    have hmem : opening ∈ (State.start files).trace calls := by
      rw [htrace]
      exact List.mem_append_left _ hopening
    obtain ⟨dir, hdir, hnul⟩ := (hcalls _ (List.of_mem_zip hmem).1).fontDir hconfig
    obtain ⟨r', hrecord', hpath⟩ := hagrees.filePath_text hopen hdir hnul
    obtain rfl : r = r' := by simpa [hrecord] using hrecord'
    exact hpath
  case locale =>
    rintro rfl
    exact hlocale

theorem trace_texts_nulCalls :
    (∀ call ∈ nulCalls, call.Terminated) ∧ nulPast.OpenFont 0 nulConfig 0 ∧
      ∃ r, recordAfter nulFiles nulConfig 0 = some r ∧
        ∃ s, Answer.text (some "fonts/a.ttf") = .text (some s) ∧
          Utf8.encodeString s = r.path.bytes ∧ '\x00' ∉ s.toList := by
  have hdir : 0 ∉ (Path.ofString "fonts").bytes := by decide
  have hterminated : ∀ call ∈ nulCalls, call.Terminated := by
    simp only [nulCalls, List.forall_mem_cons]
    exact ⟨hdir, trivial, trivial, trivial, by simp⟩
  have hopen : nulPast.OpenFont 0 nulConfig 0 :=
    ⟨nulPast.take 1, 0, [], rfl, ⟨[], _, [], rfl, rfl, by simp, rfl⟩, by simp⟩
  obtain ⟨r, hrecord, hpath, -⟩ :=
    trace_texts nulFiles nulCalls hterminated _ _ _ _ trace_nulCalls 0 nulConfig 0 hopen
  exact ⟨hterminated, hopen, r, hrecord, hpath rfl⟩

/-- The locale of a record is lost. -/
theorem locale_nul_lost :
    (recordAfter nulFiles nulConfig 0).map (·.locale) = some (some "e\x00n") ∧
      (State.start nulFiles).trace nulCalls = nulPast ++ (.filePath (some 0),
        .text (some "fonts/a.ttf")) :: [(.locale (some 0), .text (some ""))] :=
  ⟨by decide +kernel, trace_nulCalls⟩

end FontCatalog.Handles
