import FontCatalog.Cli.Run
import FontCatalog.Proofs.Discovery.Found
import FontCatalog.Proofs.Document.Breakdown

/-!
# Font files that are not listed

The font files under the font directory fall into two parts: those with the path of a record, and
those that are printed. The path of a record is the font directory with the text of an element after
it, and a file that is found has the path that its directories spell, so the two are compared by
their components.
-/

namespace FontCatalog

-- The name of a file as an element of a font holds it.
def Document.fileName (d : Document) (font : ElementId) : List UInt8 :=
  Utf8.encode (Text.trim Text.isXmlBlank (d.text font).toList)

-- A record has the path that the names in its element lead to from the font directory.
theorem Record.components_ofElement (d : Document) (font : ElementId) {dir : Path}
    (hdir : dir.bytes ≠ []) (source : LocaleSource) :
    (Record.ofElement d font dir source).path.components =
      ((Path.names (d.fileName font)).foldl Path.under dir).components :=
  (Path.components_foldl_names hdir (d.fileName font)).symm

namespace Cli

/-- The font files that were found, parted by the records of a configuration into those that are
printed and those that are listed. -/
structure Parts (c : Config) (d : Document) (listed : List Record) (found printed : List Path) :
    Prop where
  printed_eq : printed =
    found.filter fun p => decide (∀ r ∈ listed, r.path.components ≠ p.components)
  sorted : printed.Pairwise fun p q => p.le q
  listed_iff : ∀ p ∈ found, (∃ r ∈ listed, r.path.components = p.components) ↔ p ∉ printed
  /-- Every file is found by names that lead to it from the font directory. -/
  below : ∀ p ∈ found, c.fontDir.Below p
  /-- A record lists a file if the names in its text lead there, whatever separators and `.` stand
  between them. -/
  named : ∀ p ∈ found, ∀ font, Record.ofElement d font c.fontDir c.localeSource ∈ listed →
    p = (Path.names (d.fileName font)).foldl Path.under c.fontDir → p ∉ printed

theorem unlistedPaths_eq (listed : List Record) (found : List Path) :
    unlistedPaths listed found =
      found.filter fun p => decide (∀ r ∈ listed, r.path.components ≠ p.components) := by
  rw [unlistedPaths]
  congr 1
  funext p
  rw [Bool.eq_iff_iff]
  simp [Path.same]

theorem parts_unlistedPaths {t : Files.Tree} {followLinks : Bool} {c : Config} {found : List Path}
    (hfound : Discovery.discover t followLinks [c.fontDir] = .ok found) (d : Document)
    (listed : List Record) : Parts c d listed found (unlistedPaths listed found) := by
  have hbelow : ∀ p ∈ found, c.fontDir.bytes ≠ [] ∧ c.fontDir.Below p := by
    intro p hp
    obtain ⟨root, hroot, hnil, hbelow⟩ := Discovery.exists_root_of_mem_discover hfound hp
    obtain rfl := List.mem_singleton.mp hroot
    exact ⟨hnil, hbelow⟩
  have hlisted : ∀ p ∈ found, (∃ r ∈ listed, r.path.components = p.components) ↔
      p ∉ unlistedPaths listed found := by
    intro p hp
    rw [unlistedPaths_eq, List.mem_filter]
    simp [hp]
  refine ⟨unlistedPaths_eq listed found, ?sorted, hlisted, fun p hp => (hbelow p hp).2, ?named⟩
  case sorted =>
    exact (Discovery.pairwise_le_discover hfound).sublist List.filter_sublist
  case named =>
    intro p hp font hfont hnames
    refine (hlisted p hp).mp ⟨_, hfont, ?_⟩
    rw [hnames]
    exact Record.components_ofElement d font (hbelow p hp).1 c.localeSource

/-! ## The command -/

section

variable {w : World} {o : UnlistedOptions}

theorem runUnlisted_of_load_error {b : Document.Breakdown}
    (h : Document.load w.files (configOf w o.source).configPath = .error b) :
    runUnlisted w o = ⟨[], [readingEntry (configOf w o.source)], some (.broken b)⟩ := by
  simp only [runUnlisted, Walk.start_of_load_error h]

variable {d : Document} {log : List Log.Entry}

theorem runUnlisted_of_discover_error {e : Discovery.Error}
    (hload : Document.load w.files (configOf w o.source).configPath = .ok (d, log))
    (h : Discovery.discover w.files o.followLinks [(configOf w o.source).fontDir] = .error e) :
    ∃ log messages, runUnlisted w o = .failed log messages := by
  simp only [runUnlisted, Walk.start_of_load hload, h]
  exact ⟨_, _, rfl⟩

theorem runUnlisted_of_discover {found : List Path}
    (hload : Document.load w.files (configOf w o.source).configPath = .ok (d, log))
    (h : Discovery.discover w.files o.followLinks [(configOf w o.source).fontDir] = .ok found) :
    let listed := (Walk.ofDocument d (configOf w o.source)).records w.files.isFile
    ∃ log, runUnlisted w o =
      ⟨(unlistedPaths listed found).flatMap fun p => Utf8.encodeString (p.display ++ "\n"), log,
        none⟩ := by
  simp only [runUnlisted, Walk.start_of_load hload, h]
  exact ⟨_, rfl⟩

end

/-- What is printed are the font files that were found and that no record of the configuration
lists, in the order of paths. If they are not found, nothing is printed. Neither is it if reading
breaks down on the configuration, which takes an entity that closes an element around it. -/
theorem unlisted_parts (w : World) (o : UnlistedOptions) :
    let c := configOf w o.source
    let r := runUnlisted w o
    (∀ e, Discovery.discover w.files o.followLinks [c.fontDir] = .error e →
      r.stdout = [] ∧ r.failure ≠ none) ∧
    (∀ b, Document.load w.files c.configPath = .error b →
      r.stdout = [] ∧ r.failure = some (.broken b) ∧
        ∃ e ∈ Document.entitiesOf w.files c.configPath, e.Overcloses) ∧
    ∀ d log found, Document.load w.files c.configPath = .ok (d, log) →
      Discovery.discover w.files o.followLinks [c.fontDir] = .ok found →
        ∃ printed, Parts c d ((Walk.ofDocument d c).records w.files.isFile) found printed ∧
          r.stdout = printed.flatMap (fun p => Utf8.encodeString (p.display ++ "\n")) ∧
            r.failure = none := by
  intro c r
  refine ⟨?scanning, ?reading, ?found⟩
  case scanning =>
    intro e hscan
    cases hload : Document.load w.files c.configPath with
    | error b =>
      have hr : r = _ := runUnlisted_of_load_error hload
      simp [hr]
    | ok loaded =>
      obtain ⟨log, messages, hr⟩ := runUnlisted_of_discover_error hload hscan
      have hr : r = .failed log messages := hr
      simp [hr, Result.failed]
  case reading =>
    intro b hload
    have hr : r = _ := runUnlisted_of_load_error hload
    rw [hr]
    exact ⟨rfl, rfl, Document.exists_overcloses_of_load hload⟩
  case found =>
    intro d log found hload hfound
    obtain ⟨log', hr⟩ := runUnlisted_of_discover hload hfound
    have hr : r = _ := hr
    rw [hr]
    exact ⟨_, parts_unlistedPaths hfound d _, rfl, rfl⟩

/-! ## A configuration on which reading breaks down -/

def overclosedWorld : World where
  files := ⟨[(Utf8.encodeString "fonts.xml", .file (Utf8.encodeString overclosedConfiguration)),
    (Utf8.encodeString "fonts", .directory [(Utf8.encodeString "a.ttf", .file [])])], []⟩
  lookup _ := none
  terminal := false
  site := ⟨5, "the reader", []⟩

def overclosedOptions : UnlistedOptions where
  source := ⟨some (.ofString "fonts.xml"), some (.ofString "fonts"), .family⟩
  followLinks := false

-- What the command tells before it ends.
def overclosedReport : List String := [
  "",
  "thread 'main' (5) panicked at the reader:",
  "internal error: entered unreachable code: should be already checked by the tokenizer",
  "note: run with `RUST_BACKTRACE=1` environment variable to display a backtrace"]

/-- A font file is found, and no record lists it, but it is not printed. -/
theorem found_not_printed :
    Discovery.discover overclosedWorld.files false [.ofString "fonts"] =
      .ok [.ofString "fonts/a.ttf"] ∧
      (runUnlisted overclosedWorld overclosedOptions).failure = some (.broken .nothingOpen) ∧
        runCommand overclosedWorld ⟨0, .unlisted overclosedOptions⟩ =
          ⟨101, [], overclosedReport⟩ := by
  decide +kernel

end Cli

end FontCatalog
