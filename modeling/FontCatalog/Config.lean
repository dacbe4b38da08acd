import FontCatalog.Json.Path

/-!
# Settings

Where the font configuration stands, which directory its file names are relative to, and where the
locale of a font is looked up. Settings are read from the environment and have a JSON form.
-/

namespace FontCatalog

/-- Which node the locale of a font is read from. -/
inductive LocaleSource where
  /-- The family that holds the font. -/
  | family
  /-- The parent of the whole document. There is none, so no font has a locale. -/
  | documentParent
  deriving DecidableEq, Repr, Inhabited

namespace LocaleSource

def toText : LocaleSource → String
  | family => "family"
  | documentParent => "document-parent"

def ofText? (s : String) : Option LocaleSource :=
  if s = "family" then some family
  else if s = "document-parent" then some documentParent
  else none

-- The message for a text that names no locale source.
def unknownMessage (s : String) : String :=
  "unknown variant `" ++ s ++ "`, expected `family` or `document-parent`"

-- A locale source by its name.
def parse (s : String) : Except Json.ReadError LocaleSource :=
  (ofText? s).elim (.error (.wrongShape (unknownMessage s))) .ok

/-- A locale source as a string, or as an object whose only key is the string and whose value is
`null`. -/
def read : Json.Reader LocaleSource := fun s =>
  match Json.skipBlank s with
  | [] => .error .unexpectedEnd
  | '"' :: t => do
    let (name, rest) ← Json.stringBody t
    return (← parse (String.ofList name), rest)
  | '\x7b' :: t => do
    match ← Json.nextKey true t with
    | none => throw .syntaxError
    | some (name, t) =>
      let source ← parse name
      match Json.skipBlank (← Json.colon t) with
      | [] => throw .unexpectedEnd
      | 'n' :: t =>
        let t ← Json.word "ull".toList t
        return (source, ← Json.closeObject t)
      | t => throw (Json.unexpected "unit" t)
  | _ => .error .syntaxError

end LocaleSource

/-- Settings for reading the font configuration. -/
structure Config where
  configPath : Path
  fontDir : Path
  localeSource : LocaleSource
  deriving DecidableEq, Repr, Inhabited

namespace Config

def defaultConfigPath : String := "/system/etc/fonts.xml"
def defaultFontDir : String := "/system/fonts/"

-- The environment variables that override the defaults.
def configPathVariable : String := "SYSFONT_CONFIG"
def fontDirVariable : String := "SYSFONT_FONT_DIR"

def default : Config := ⟨.ofString defaultConfigPath, .ofString defaultFontDir, .family⟩

-- The value of a variable, if it is set and not empty.
def override? (lookup : String → Option Path) (variable_ : String) : Option Path :=
  (lookup variable_).filter fun p => p.bytes ≠ []

-- The defaults with what the environment overrides.
def ofEnvironment (lookup : String → Option Path) : Config :=
  { default with
    configPath := (override? lookup configPathVariable).getD default.configPath
    fontDir := (override? lookup fontDirVariable).getD default.fontDir }

def withConfigPath (c : Config) (p : Path) : Config := { c with configPath := p }

def withFontDir (c : Config) (p : Path) : Config := { c with fontDir := p }

def withLocaleSource (c : Config) (s : LocaleSource) : Config := { c with localeSource := s }

/-! ## JSON form -/

def toJson (c : Config) : Json :=
  .object [
    ("config_path", Json.ofPath c.configPath),
    ("font_dir", Json.ofPath c.fontDir),
    ("locale_source", .string c.localeSource.toText)]

/-- The fields read so far. -/
structure Fields where
  configPath : Option Path
  fontDir : Option Path
  localeSource : Option LocaleSource

def Fields.none : Fields := ⟨.none, .none, .none⟩

def readMember : Json.Member Fields := fun fields key =>
  if key = "config_path" then
    Json.once key fields.configPath Json.readPath fun v => { fields with configPath := some v }
  else if key = "font_dir" then
    Json.once key fields.fontDir Json.readPath fun v => { fields with fontDir := some v }
  else if key = "locale_source" then
    Json.once key fields.localeSource LocaleSource.read fun v =>
      { fields with localeSource := some v }
  else Json.ignored fields

-- Settings from their fields. The locale source has a default.
def Fields.finish (fields : Fields) : Except Json.ReadError Config := do
  return ⟨← Json.required "config_path" fields.configPath,
    ← Json.required "font_dir" fields.fontDir, fields.localeSource.getD .family⟩

-- Settings as a list of their fields.
def readItems : Json.Reader Config := fun s => do
  let (path, s) ← Json.readItem "SystemFontsConfig" 3 0 Json.readPath s
  let (dir, s) ← Json.readItem "SystemFontsConfig" 3 1 Json.readPath s
  match ← Json.nextItem false s with
  | none => return (⟨path, dir, .family⟩, s)
  | some t =>
    let (source, t) ← LocaleSource.read t
    return (⟨path, dir, source⟩, t)

def read : Json.Reader Config :=
  Json.readStruct "SystemFontsConfig" Fields.none readMember Fields.finish readItems

end Config

end FontCatalog
