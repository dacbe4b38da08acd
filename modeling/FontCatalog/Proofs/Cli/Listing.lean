import FontCatalog.Proofs.Cli.Unlisted
import FontCatalog.Proofs.Document.Loading
import FontCatalog.Proofs.Output.RoundTrip
import FontCatalog.Proofs.Output.Rows

/-!
# The forms of a listing

Whatever the form, a listing is about the same records: those of the walk that the query accepts, in
their order. Both JSON forms are read as these records, and both text forms have a line for each.
Where there is no configuration that can be read there are no records.
-/

namespace FontCatalog.Cli

open Output

/-! ## One form or another -/

/-- What is printed of some records in a form. In the text forms there is a line for each record,
and there are no other line ends where none stands in the texts of a record. -/
def IsListing (color : Bool) (records : List Record) (bytes : List UInt8) : Mode → Prop
  | .ndjson => IsLines bytes records
  | .json => IsArray bytes records
  | .columns =>
    bytes = records.flatMap (fun r =>
        Utf8.encodeString (rowLine color (pathWidth (records.map .ofRecord)) (.ofRecord r))) ∧
      ((∀ r ∈ records, Unbroken r) → bytes.count Utf8.newline = records.length)
  | .plain =>
    bytes = records.flatMap (fun r =>
        Utf8.encodeString (paint color .cyan r.pathWithIndex ++ "\n")) ∧
      (color = false →
        bytes = records.flatMap fun r => Utf8.encodeString (r.pathWithIndex ++ "\n")) ∧
      ((∀ r ∈ records, Unbroken r) → bytes.count Utf8.newline = records.length)

theorem isListing_output (mode : Mode) (color : Bool) {accepts : Record → Bool}
    {records : List Record}
    (hpath : ∀ r ∈ records.filter accepts, r.path.text?.isSome = true)
    (hfinite : ∀ r ∈ records.filter accepts, ∀ a ∈ r.axes, a.value.isFinite = true) :
    ∃ bytes, IsListing color (records.filter accepts) bytes mode ∧
      output mode color accepts records =
        ⟨.ok (records.filter accepts).length, records.length, bytes⟩ := by
  have hreads : ∀ r ∈ records.filter accepts, Json.Reads Record.read r.toJson (.ok r) :=
    fun r hr => Record.reads_self (hpath r hr) (hfinite r hr)
  cases mode with
  | ndjson =>
    have hwritable : Writable accepts records :=
      fun r hr haccepts => hpath r (List.mem_filter.mpr ⟨hr, haccepts⟩)
    exact ⟨_, isLines_linesBytes hreads, lines_of_fits hwritable (by simp)⟩
  | json => exact array_of_reads hreads
  | columns =>
    refine ⟨_, ⟨?_, fun hunbroken => ?_⟩, rfl⟩
    · rw [columns, List.map_map, List.flatMap_map]
      rfl
    · rw [columns, List.map_map, List.flatMap_map]
      exact Utf8.count_flatMap_lines fun r hr => (hunbroken r hr).isLine_rowLine color _
  | plain =>
    refine ⟨_, ⟨?_, ?_, fun hunbroken => ?_⟩, rfl⟩
    · rw [List.flatMap_map]
      rfl
    · rintro rfl
      rw [List.flatMap_map]
      rfl
    · rw [List.flatMap_map]
      exact Utf8.count_flatMap_lines fun r hr => (hunbroken r hr).isLine_plainLine color

/-! ## The command -/

/-- The records of the walk through a document that the query accepts, in their order. -/
def matched (w : World) (o : ListOptions) (q : Query) (d : Document) : List Record :=
  ((Walk.ofDocument d (configOf w o.source)).records w.files.isFile).filter q.accepts

def countEntry (count : Nat) : Log.Entry := infoEntry (toString count ++ " fonts matched")

/-- How a listing of some records ends, and in which form they are printed. -/
structure Lists (w : World) (verbosity : Nat) (o : ListOptions) (records : List Record)
    (e : Ending) : Prop where
  exitCode : e.exitCode = 0
  ndjson : o.ndjson = true → IsListing (useColor w o.color) records e.stdout .ndjson
  json : o.ndjson = false → o.json = true →
    IsListing (useColor w o.color) records e.stdout .json
  columns : o.ndjson = false → o.json = false → o.columns = true →
    IsListing (useColor w o.color) records e.stdout .columns
  plain : o.ndjson = false → o.json = false → o.columns = false →
    IsListing (useColor w o.color) records e.stdout .plain
  /-- The count is the last that is told. -/
  told : (runList w o).log.getLast? = some (countEntry records.length)
  shown : (filterFor w verbosity).1.shows (countEntry records.length) = true →
    e.stderr.getLast? = some (countEntry records.length).line

section

variable {w : World} {o : ListOptions} {q : Query}

-- A document without elements has no fonts to hand out.
theorem matched_empty : matched w o q .empty = [] := rfl

theorem runList_of_load_error {b : Document.Breakdown} (hquery : queryOf o = .ok q)
    (h : Document.load w.files (configOf w o.source).configPath = .error b) :
    runList w o = ⟨[], [readingEntry (configOf w o.source)], some (.broken b)⟩ := by
  simp only [runList, hquery, Walk.start_of_load_error h]

-- A listing whose records are printed tells their number at the end.
theorem runList_of_output {d : Document} {log : List Log.Entry} {count pulled : Nat}
    {bytes : List UInt8} (hquery : queryOf o = .ok q)
    (hload : Document.load w.files (configOf w o.source).configPath = .ok (d, log))
    (hout : output (modeOf o) (useColor w o.color) q.accepts
      ((Walk.ofDocument d (configOf w o.source)).records w.files.isFile) =
        ⟨.ok count, pulled, bytes⟩) :
    ∃ before, runList w o = ⟨bytes, before ++ [countEntry count], none⟩ := by
  rw [Walk.records] at hout
  simp only [runList, hquery, Walk.start_of_load hload, hout]
  exact ⟨_, rfl⟩

theorem lists_of_runList {records : List Record} {before : List Log.Entry} {bytes : List UInt8}
    (verbosity : Nat) (hlisting : IsListing (useColor w o.color) records bytes (modeOf o))
    (hrun : runList w o = ⟨bytes, before ++ [countEntry records.length], none⟩) :
    Lists w verbosity o records (runCommand w ⟨verbosity, .list o⟩) := by
  have hend : runCommand w ⟨verbosity, .list o⟩ = ⟨0, bytes, (filterFor w verbosity).2 ++
      ((before ++ [countEntry records.length]).filter (filterFor w verbosity).1.shows).map
        (·.line)⟩ := by
    simp only [runCommand, hrun]
  rw [hend]
  refine ⟨rfl, ?ndjson, ?json, ?columns, ?plain, ?told, ?shown⟩
  case ndjson =>
    intro hndjson
    simpa [modeOf, hndjson] using hlisting
  case json =>
    intro hndjson hjson
    simpa [modeOf, hndjson, hjson] using hlisting
  case columns =>
    intro hndjson hjson hcolumns
    simpa [modeOf, hndjson, hjson, hcolumns] using hlisting
  case plain =>
    intro hndjson hjson hcolumns
    simpa [modeOf, hndjson, hjson, hcolumns] using hlisting
  case told => rw [hrun, List.getLast?_concat]
  case shown =>
    intro hshows
    rw [List.filter_append, List.filter_singleton, hshows]
    simp

end

/-- Whatever the options on the form, a listing is about the records of the walk that the query
accepts, and it tells how many there are. Where the configuration cannot be read there are none,
which is no error, and the array of none is still an array. Nothing is printed if reading breaks
down on the configuration, which takes an entity that closes an element around it. -/
theorem list_forms (w : World) (verbosity : Nat) (o : ListOptions) (q : Query)
    (hquery : queryOf o = .ok q) :
    let c := configOf w o.source
    let e := runCommand w ⟨verbosity, .list o⟩
    (∀ b, Document.load w.files c.configPath = .error b →
      e.stdout = [] ∧ e.exitCode = 101 ∧
        ∃ entity ∈ Document.entitiesOf w.files c.configPath, entity.Overcloses) ∧
    (∀ d log, Document.load w.files c.configPath = .ok (d, log) →
      (∀ r ∈ matched w o q d, r.path.text?.isSome = true) →
      (∀ r ∈ matched w o q d, ∀ a ∈ r.axes, a.value.isFinite = true) →
      Lists w verbosity o (matched w o q d) e) ∧
    (Document.Unreadable w.files c.configPath → Lists w verbosity o [] e) := by
  intro c e
  have hread : ∀ d log, Document.load w.files c.configPath = .ok (d, log) →
      (∀ r ∈ matched w o q d, r.path.text?.isSome = true) →
      (∀ r ∈ matched w o q d, ∀ a ∈ r.axes, a.value.isFinite = true) →
      Lists w verbosity o (matched w o q d) e := by
    intro d log hload hpath hfinite
    obtain ⟨bytes, hlisting, hout⟩ :=
      isListing_output (modeOf o) (useColor w o.color) hpath hfinite
    obtain ⟨before, hrun⟩ := runList_of_output hquery hload hout
    exact lists_of_runList verbosity hlisting hrun
  refine ⟨?breakdown, hread, ?unreadable⟩
  case breakdown =>
    intro b hload
    have hrun : runList w o = ⟨[], [readingEntry c], some (.broken b)⟩ :=
      runList_of_load_error hquery hload
    refine ⟨?_, ?_, Document.exists_overcloses_of_load hload⟩
    · simp only [e, runCommand, hrun]
    · simp only [e, runCommand, hrun]
  case unreadable =>
    intro hunreadable
    obtain ⟨log, hload⟩ := Document.load_of_unreadable hunreadable
    have hlists := hread .empty log hload
    rw [matched_empty] at hlists
    exact hlists (List.forall_mem_nil _) (List.forall_mem_nil _)

/-- A bold italic and a regular font, both there. -/
def twoFontsWorld : World where
  files := ⟨[(Utf8.encodeString "fonts.xml", .file (Utf8.encodeString
      ("<familyset><family lang=\"ja\"><font weight=\"700\" style=\"italic\">a.ttf</font>" ++
        "<font>b.ttf</font></family></familyset>"))),
    (Utf8.encodeString "fonts", .directory [(Utf8.encodeString "a.ttf", .file []),
      (Utf8.encodeString "b.ttf", .file [])])], []⟩
  lookup _ := none
  terminal := false
  site := default

/-- Asks for italic fonts, in columns and as an array at once. -/
def italicOptions (config : String) : ListOptions where
  source := ⟨some (.ofString config), some (.ofString "fonts"), .family⟩
  axes := []
  locales := []
  italic := true
  upright := false
  weight := none
  patterns := []
  json := true
  ndjson := false
  columns := true
  color := .never

def italicQuery : Query := Query.any.withItalic (some true)

theorem list_forms_twoFonts :
    let listed := italicOptions "fonts.xml"
    let missing := italicOptions "none.xml"
    queryOf listed = .ok italicQuery ∧
      Lists twoFontsWorld 1 listed [⟨.ofString "fonts/a.ttf", 700, true, 0, some "ja", []⟩]
        (runCommand twoFontsWorld ⟨1, .list listed⟩) ∧
      queryOf missing = .ok italicQuery ∧
      Document.Unreadable twoFontsWorld.files (configOf twoFontsWorld missing.source).configPath ∧
      Lists twoFontsWorld 1 missing [] (runCommand twoFontsWorld ⟨1, .list missing⟩) := by
  intro listed missing
  have hmatched : (Document.load twoFontsWorld.files
      (configOf twoFontsWorld listed.source).configPath).toOption.map
        (fun loaded => matched twoFontsWorld listed italicQuery loaded.1) =
      some [⟨.ofString "fonts/a.ttf", 700, true, 0, some "ja", []⟩] := by
    decide +kernel
  have hread : twoFontsWorld.files.read (configOf twoFontsWorld missing.source).configPath =
      .error .notFound := by
    decide +kernel
  refine ⟨rfl, ?_, rfl, .missing hread,
    (list_forms twoFontsWorld 1 missing italicQuery rfl).2.2 (.missing hread)⟩
  cases hload : Document.load twoFontsWorld.files
      (configOf twoFontsWorld listed.source).configPath with
  | error b =>
    rw [hload] at hmatched
    cases hmatched
  | ok loaded =>
    rw [hload] at hmatched
    have hlists := (list_forms twoFontsWorld 1 listed italicQuery rfl).2.1 _ _ hload
    rw [show matched _ _ _ _ = _ from Option.some.inj hmatched] at hlists
    exact hlists (by decide +kernel) (by decide +kernel)

/-! ## A configuration on which reading breaks down -/

/-- A malformed configuration is not listed as an empty array: nothing is printed, and the command
fails. -/
theorem overclosed_not_listed :
    queryOf (italicOptions "fonts.xml") = .ok italicQuery ∧
      overclosedWorld.files.read (.ofString "fonts.xml") =
        .ok (Utf8.encodeString overclosedConfiguration) ∧
      runCommand overclosedWorld ⟨0, .list (italicOptions "fonts.xml")⟩ =
        ⟨101, [], overclosedReport⟩ ∧
      ¬ Lists overclosedWorld 0 (italicOptions "fonts.xml") []
        (runCommand overclosedWorld ⟨0, .list (italicOptions "fonts.xml")⟩) := by
  have hend : runCommand overclosedWorld ⟨0, .list (italicOptions "fonts.xml")⟩ =
      ⟨101, [], overclosedReport⟩ := by
    decide +kernel
  refine ⟨rfl, by decide +kernel, hend, fun h => ?_⟩
  have hexit := h.exitCode
  rw [hend] at hexit
  cases hexit

end FontCatalog.Cli
