import FontCatalog.Record

/-!
# Walking through the configuration

A walk goes through the `font` elements of the `family` elements of the root in document order and
hands out one record at a time. Fonts whose file is not available are passed over, except for the
very first, which is handed out as it is. At its end a walk lets go of its document.
-/

namespace FontCatalog

/-- Where a walk stands. -/
inductive Cursor where
  | unstarted
  | at (font : ElementId)
  | exhausted
  deriving DecidableEq, Repr

structure Walk where
  /-- The document, until the walk has come to its end. -/
  document : Option Document
  cursor : Cursor
  fontDir : Path
  localeSource : LocaleSource
  deriving DecidableEq, Repr

/-- What one step of a walk gives. -/
structure Step where
  record : Option Record
  walk : Walk
  /-- The paths whose availability was asked for, in order. -/
  checked : List Path
  log : List Log.Entry

/-! ## The fonts of a document -/

namespace Document

def familyTag : String := "family"
def fontTag : String := "font"

-- The first font of the first family that has one.
def firstFont? (d : Document) : Option ElementId := do
  let root ← d.root?
  (d.childrenNamed root familyTag).findSome? fun family => d.firstChild? family fontTag

/-- The first font of the nearest family after another one that has any, and the number of families
that were looked into. There are fewer of them than elements in the document, which bounds the
search. -/
def fontAfterFamily (d : Document) : (fuel : Nat) → ElementId → Option ElementId × Nat
  -- Not reached from the number of elements.
  | 0, _ => (none, 0)
  | fuel + 1, family =>
    match d.nextSibling? family familyTag with
    | none => (none, 0)
    | some next =>
      match d.firstChild? next fontTag with
      | some font => (some font, 1)
      | none =>
        let (font, count) := fontAfterFamily d fuel next
        (font, count + 1)

/-- The font after another one: the next font of its family, or the first font of the families that
follow. The number of those that were looked into comes with it. -/
def nextFont (d : Document) (font : ElementId) : Option ElementId × Nat :=
  match d.nextSibling? font fontTag with
  | some next => (some next, 0)
  | none =>
    match d.parent? font with
    | none => (none, 0)
    | some family => d.fontAfterFamily d.size family

end Document

namespace Walk

def logTarget : String := "sysfont_core::iter"

-- A walk through a document.
def ofDocument (d : Document) (c : Config) : Walk :=
  ⟨some d, .unstarted, c.fontDir, c.localeSource⟩

-- A walk through the document that the settings name.
def start (files : Files.Tree) (c : Config) :
    Except Document.Breakdown (Walk × List Log.Entry) := do
  let (d, log) ← Document.load files c.configPath
  return (ofDocument d c, log)

def isExhausted (w : Walk) : Bool := w.cursor == .exhausted

-- The record of a font of the document.
def recordOf (w : Walk) (d : Document) (font : ElementId) : Record :=
  Record.ofElement d font w.fontDir w.localeSource

def exhaustedEntry : Log.Entry := ⟨.debug, logTarget, "font configuration exhausted"⟩

def advancingEntry : Log.Entry := ⟨.trace, logTarget, "advancing to next family"⟩

def skippingEntry (p : Path) : Log.Entry :=
  ⟨.debug, logTarget, "skipping " ++ p.display ++ ": font file is not installed"⟩

-- The end of a walk.
def exhaust (w : Walk) : Walk := { w with document := none, cursor := .exhausted }

/-- The step from a font to the next one that is available. There are fewer fonts after it than
elements in the document, which bounds the search. -/
def seek (w : Walk) (d : Document) (available : Path → Bool) : (fuel : Nat) → ElementId → Step
  -- Not reached from the number of elements.
  | 0, _ => ⟨none, w.exhaust, [], [exhaustedEntry]⟩
  | fuel + 1, font =>
    let (next, families) := d.nextFont font
    let advances := List.replicate families advancingEntry
    match next with
    | none => ⟨none, w.exhaust, [], advances ++ [exhaustedEntry]⟩
    | some font =>
      let r := w.recordOf d font
      if available r.path then ⟨some r, { w with cursor := .at font }, [r.path], advances⟩
      else
        let s := seek w d available fuel font
        { s with
          checked := r.path :: s.checked
          log := advances ++ skippingEntry r.path :: s.log }

-- One step of a walk.
def next (available : Path → Bool) (w : Walk) : Step :=
  match w.document with
  | none => ⟨none, w, [], []⟩
  | some d =>
    match w.cursor with
    | .exhausted => ⟨none, w, [], []⟩
    | .unstarted =>
      match d.firstFont? with
      | none => ⟨none, w.exhaust, [], [exhaustedEntry]⟩
      | some font => ⟨some (w.recordOf d font), { w with cursor := .at font }, [], []⟩
    | .at font => w.seek d available d.size font

/-! ## Several steps -/

-- Steps up to the first that gives no record, and at most `fuel` steps.
def stepsWith (available : Path → Bool) : (fuel : Nat) → Walk → List Step
  | 0, _ => []
  | fuel + 1, w =>
    let s := w.next available
    match s.record with
    | none => [s]
    | some _ => s :: stepsWith available fuel s.walk

/-- All steps of a walk up to the first that gives no record. Every other step goes to another
element of the document. -/
def steps (available : Path → Bool) (w : Walk) : List Step :=
  stepsWith available (w.document.elim 1 fun d => d.size + 1) w

-- All records that are left of a walk.
def records (available : Path → Bool) (w : Walk) : List Record :=
  (w.steps available).filterMap (·.record)

-- The step after `n` others, which are passed over. It stops at the first that gives nothing.
def nth (available : Path → Bool) : (n : Nat) → Walk → Step
  | 0, w => w.next available
  | n + 1, w =>
    let s := w.next available
    match s.record with
    | none => s
    | some _ =>
      let t := nth available n s.walk
      { t with checked := s.checked ++ t.checked, log := s.log ++ t.log }

end Walk

end FontCatalog
