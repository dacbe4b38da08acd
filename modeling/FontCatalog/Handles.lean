import FontCatalog.Walk

/-!
# Walks and fonts by handle

A caller opens walks, takes fonts from them and asks for the fields of the fonts, all by handles
that it has to close. A null handle, or an axis that a font does not have, breaks the contract and
ends the process, and so does a configuration on which reading breaks down. Texts are handed over as
NUL-terminated strings.
-/

namespace FontCatalog.Handles

-- A handle, or null.
abbrev Handle := Option Nat

inductive Call where
  /-- Open a walk with the settings by default. -/
  | open
  /-- Open a walk with a configuration file and a font directory in place of the defaults. -/
  | openConfig (configPath fontDir : Option Path)
  | next (walk : Handle)
  | closeWalk (walk : Handle)
  | closeFont (font : Handle)
  | filePath (font : Handle)
  | weight (font : Handle)
  | isItalic (font : Handle)
  | locale (font : Handle)
  | collectionIndex (font : Handle)
  | axisCount (font : Handle)
  | axisTag (font : Handle) (axis : Nat)
  | axisValue (font : Handle) (axis : Nat)
  deriving DecidableEq, Repr

/-- What ends the process: a caller that breaks the contract, a configuration that cannot be coped
with, or the look-up of an axis that a record does not have. -/
inductive Fatal where
  | nullWalk
  | nullFont
  | axisOutOfBounds (count : Nat)
  | broken (b : Document.Breakdown)
  | noAxis (message : String)
  deriving DecidableEq, Repr

/-- The last line that the process writes. It says how the contract was broken. What breaks down
inside a call cannot be handed on to the caller, and then the line says no more than that. -/
def Fatal.line : Fatal → String
  | nullWalk => "sysfont: fatal: nullptr has passed as iterator argument"
  | nullFont => "sysfont: fatal: nullptr has passed as font argument"
  | axisOutOfBounds count =>
    "sysfont: fatal: given axis index is out of bounds. (< " ++ toString count ++ ")"
  | broken _ | noAxis _ => "fatal runtime error: failed to initiate panic, error 3, aborting"

inductive Answer where
  | walk (handle : Nat)
  /-- A font, or null at the end of a walk. -/
  | font (handle : Handle)
  | closed
  | text (s : Option String)
  | number (n : Nat)
  | flag (b : Bool)
  | value (x : Number.Single)
  /-- The handle is not open. No call was made. -/
  | badHandle
  | fatal (f : Fatal)
  deriving DecidableEq, Repr

/-- A font that was handed out, with the texts that the caller sees. -/
structure Font where
  record : Record
  filePath : String
  locale : Option String
  deriving DecidableEq, Repr

/-- A text up to where a NUL-terminated string could hold it: all of it, or nothing if it has a
NUL. -/
def terminated (s : String) : String := if s.toList.contains '\x00' then "" else s

def Font.ofRecord (r : Record) : Font :=
  ⟨r, terminated r.path.display, r.locale.map terminated⟩

/-- Everything that is open. Handles are places in the lists; what is closed has left its place
empty. -/
structure State where
  files : Files.Tree
  walks : List (Option Walk)
  fonts : List (Option Font)

namespace State

def start (files : Files.Tree) : State := ⟨files, [], []⟩

-- A path as it is understood: bytes that are not UTF-8 are replaced.
def givenPath (p : Path) : Path := .ofString p.display

-- The settings for the arguments of an open call.
def configFor (configPath fontDir : Option Path) : Config :=
  { Config.default with
    configPath := (configPath.map givenPath).getD Config.default.configPath
    fontDir := (fontDir.map givenPath).getD Config.default.fontDir }

def openWith (s : State) (c : Config) : State × Answer :=
  match Walk.start s.files c with
  | .ok (w, _) => ({ s with walks := s.walks ++ [some w] }, .walk s.walks.length)
  | .error b => (s, .fatal (.broken b))

-- An answer about a font.
def onFont (s : State) (font : Handle) (f : Font → Answer) : State × Answer :=
  match font with
  | none => (s, .fatal .nullFont)
  | some h =>
    match (s.fonts[h]?).join with
    | none => (s, .badHandle)
    | some font => (s, f font)

-- What is wrong with the number of an axis.
def checkAxis (r : Record) (axis : Nat) : Option Fatal :=
  if r.axes.length ≤ axis then some (.axisOutOfBounds r.axes.length) else none

-- An answer about an axis of a font. The number is checked before the axis is looked up.
def onAxis (axis : Nat) (f : Axis → Answer) (font : Font) : Answer :=
  match checkAxis font.record axis with
  | some reason => .fatal reason
  | none =>
    match font.record.axis axis with
    | .ok a => f a
    | .error message => .fatal (.noAxis message)

-- One call.
def call (s : State) : Call → State × Answer
  | .open => s.openWith Config.default
  | .openConfig configPath fontDir => s.openWith (configFor configPath fontDir)
  | .next none => (s, .fatal .nullWalk)
  | .next (some h) =>
    match (s.walks[h]?).join with
    | none => (s, .badHandle)
    | some w =>
      let step := w.next s.files.isFile
      let s := { s with walks := s.walks.set h (some step.walk) }
      match step.record with
      | none => (s, .font none)
      | some r =>
        ({ s with fonts := s.fonts ++ [some (Font.ofRecord r)] }, .font (some s.fonts.length))
  | .closeWalk none => (s, .fatal .nullWalk)
  | .closeWalk (some h) =>
    match (s.walks[h]?).join with
    | none => (s, .badHandle)
    | some _ => ({ s with walks := s.walks.set h none }, .closed)
  | .closeFont none => (s, .fatal .nullFont)
  | .closeFont (some h) =>
    match (s.fonts[h]?).join with
    | none => (s, .badHandle)
    | some _ => ({ s with fonts := s.fonts.set h none }, .closed)
  | .filePath font => s.onFont font fun f => .text (some f.filePath)
  | .weight font => s.onFont font fun f => .number f.record.weight.toNat
  | .isItalic font => s.onFont font fun f => .flag f.record.italic
  | .locale font => s.onFont font fun f => .text f.locale
  | .collectionIndex font => s.onFont font fun f => .number f.record.index.toNat
  | .axisCount font => s.onFont font fun f => .number f.record.axes.length
  | .axisTag font axis => s.onFont font (onAxis axis fun a => .number a.tag.code.toNat)
  | .axisValue font axis => s.onFont font (onAxis axis fun a => .value a.value)

-- Calls in turn up to one that ends the process.
def run : State → List Call → List Answer
  | _, [] => []
  | s, c :: rest =>
    match s.call c with
    | (_, .fatal f) => [.fatal f]
    | (s, answer) => answer :: run s rest

end State

end FontCatalog.Handles
