import FontCatalog.Config

/-!
# Command line arguments

The two commands and their options. An option has a long name and sometimes a letter; letters may
stand together behind one hyphen. A value follows its option as the next argument, after an equals
sign, or right after the letter. Arguments that do not fit are refused as a whole.
-/

namespace FontCatalog.Cli

inductive Color where
  | auto
  | always
  | never
  deriving DecidableEq, Repr

/-- Options on where the configuration is read from. -/
structure SourceOptions where
  config : Option Path
  fontDir : Option Path
  localeSource : LocaleSource
  deriving DecidableEq, Repr

/-- Options of the command that lists fonts. -/
structure ListOptions where
  source : SourceOptions
  axes : List String
  locales : List String
  italic : Bool
  upright : Bool
  weight : Option String
  patterns : List String
  json : Bool
  ndjson : Bool
  columns : Bool
  color : Color
  deriving DecidableEq, Repr

/-- Options of the command that shows font files which are not listed. -/
structure UnlistedOptions where
  source : SourceOptions
  followLinks : Bool
  deriving DecidableEq, Repr

inductive Command where
  | list (options : ListOptions)
  | unlisted (options : UnlistedOptions)
  deriving DecidableEq, Repr

structure Invocation where
  /-- How often more log output was asked for. -/
  verbosity : Nat
  command : Command
  deriving DecidableEq, Repr

/-- Why there is no command to carry out. -/
inductive Stop where
  /-- The arguments do not fit. -/
  | usage
  /-- Help was asked for. -/
  | help
  deriving DecidableEq, Repr

-- An argument by its bytes.
abbrev Argument := List UInt8

/-! ## Options -/

inductive Key where
  | verbose
  | help
  | config
  | fontDir
  | localeSource
  | axes
  | locale
  | italic
  | upright
  | weight
  | path
  | json
  | ndjson
  | columns
  | color
  | followLinks
  deriving DecidableEq, Repr

/-- An option: its name, its letter, and whether it takes a value. -/
structure Spec where
  key : Key
  long : String
  short : Option Char
  takesValue : Bool

def commonSpecs : List Spec := [
  ⟨.verbose, "verbose", some 'v', false⟩,
  ⟨.help, "help", some 'h', false⟩]

def sourceSpecs : List Spec := [
  ⟨.config, "config", none, true⟩,
  ⟨.fontDir, "font-dir", none, true⟩,
  ⟨.localeSource, "locale-source", none, true⟩]

def listSpecs : List Spec :=
  commonSpecs ++ sourceSpecs ++ [
    ⟨.axes, "axes", some 'a', true⟩,
    ⟨.locale, "locale", some 'l', true⟩,
    ⟨.italic, "italic", none, false⟩,
    ⟨.upright, "upright", none, false⟩,
    ⟨.weight, "weight", some 'w', true⟩,
    ⟨.path, "path", some 'p', true⟩,
    ⟨.json, "json", none, false⟩,
    ⟨.ndjson, "ndjson", none, false⟩,
    ⟨.columns, "columns", none, false⟩,
    ⟨.color, "color", none, true⟩]

def unlistedSpecs : List Spec :=
  commonSpecs ++ sourceSpecs ++ [⟨.followLinks, "follow-symlinks", none, false⟩]

/-! ## From arguments to options -/

-- An option as it was given. Options that take no value have an empty one.
abbrev Occurrence := Key × Argument

/-- What a bundle of letters comes to. -/
inductive Bundle where
  | done (found : List Occurrence)
  /-- The last letter takes the next argument for its value. -/
  | needsValue (found : List Occurrence) (key : Key)
  | stopped (found : List Occurrence) (stop : Stop)

def Bundle.cons (o : Occurrence) : Bundle → Bundle
  | done found => done (o :: found)
  | needsValue found key => needsValue (o :: found) key
  | stopped found stop => stopped (o :: found) stop

-- The options that letters behind a hyphen stand for.
def readLetters (specs : List Spec) : List Char → Bundle
  | [] => .done []
  | c :: rest =>
    match specs.find? (·.short == some c) with
    | none => .stopped [] .usage
    | some spec =>
      if spec.key = .help then .stopped [] .help
      else if spec.takesValue then
        match rest with
        | [] => .needsValue [] spec.key
        | '=' :: value => .done [(spec.key, Utf8.encode value)]
        | value => .done [(spec.key, Utf8.encode value)]
      else (readLetters specs rest).cons (spec.key, [])

/-- What an argument looks like. -/
inductive Shape where
  /-- Two hyphens alone, after which there are no options. -/
  | escape
  | long (name : String) (value : Option Argument)
  | letters (cs : List Char)
  /-- Anything else, and what is not UTF-8 where it has to be. -/
  | other

def hyphen : UInt8 := 0x2D
def equals : UInt8 := 0x3D

def Shape.of (arg : Argument) : Shape :=
  match arg with
  | [] => .other
  | a :: rest =>
    if a ≠ hyphen ∨ rest = [] then .other
    else if rest = [hyphen] then .escape
    else if rest.head? = some hyphen then
      match (Utf8.decodeString (rest.tail.takeWhile (· ≠ equals))).toOption with
      | some name => .long name (rest.dropWhile (· ≠ equals)).tail?
      | none => .other
    else
      match (Utf8.decode rest).toOption with
      | some cs => .letters cs
      | none => .other

-- Whether an argument can be the value of the option before it.
def isValue (arg : Argument) : Bool := arg.head? != some hyphen || arg.length == 1

-- Occurrences before others.
def before (found : List Occurrence) (rest : List Occurrence × Option Stop) :
    List Occurrence × Option Stop :=
  (found ++ rest.1, rest.2)

-- The options in arguments that hold nothing else, up to where they stop to fit.
def readOptions (specs : List Spec) : List Argument → List Occurrence × Option Stop
  | [] => ([], none)
  | arg :: rest =>
    match Shape.of arg with
    | .other => ([], some .usage)
    | .escape => ([], if rest.isEmpty then none else some .usage)
    | .long name value =>
      match specs.find? (·.long == name) with
      | none => ([], some .usage)
      | some spec =>
        match spec.takesValue, value with
        | true, some value => before [(spec.key, value)] (readOptions specs rest)
        | true, none =>
          match rest with
          | next :: rest =>
            if isValue next then before [(spec.key, next)] (readOptions specs rest)
            else ([], some .usage)
          | [] => ([], some .usage)
        | false, some _ => ([], some .usage)
        | false, none =>
          if spec.key = .help then ([], some .help)
          else before [(spec.key, [])] (readOptions specs rest)
    | .letters cs =>
      match readLetters specs cs with
      | .stopped found stop => (found, some stop)
      | .done found => before found (readOptions specs rest)
      | .needsValue found key =>
        match rest with
        | next :: rest =>
          if isValue next then before (found ++ [(key, next)]) (readOptions specs rest)
          else (found, some .usage)
        | [] => (found, some .usage)

/-! ## From options to commands -/

/-- Options as far as they have been given. -/
structure Given where
  verbosity : Nat
  config : Option Path
  fontDir : Option Path
  localeSource : Option LocaleSource
  axes : List String
  locales : List String
  italic : Bool
  upright : Bool
  weight : Option String
  patterns : List String
  json : Bool
  ndjson : Bool
  columns : Bool
  color : Option Color
  followLinks : Bool

def Given.nothing : Given :=
  ⟨0, none, none, none, [], [], false, false, none, [], false, false, false, none, false⟩

namespace Given

-- A value as text.
def text (value : Argument) : Option String := (Utf8.decodeString value).toOption

-- The items of a value with commas between them.
def items (value : Argument) : Option (List String) :=
  (Utf8.decode value).toOption.map fun s => (Text.cut ',' s).map String.ofList

-- The value of an option that may be given once.
def setOnce {α : Type} (current : Option α) (value : Option α) : Option (Option α) :=
  if current.isSome then none else value.map some

-- An option without a value that may be given once.
def raise (current : Bool) : Option Bool := if current then none else some true

-- A path, which must not be empty.
def path (value : Argument) : Option Path := if value.isEmpty then none else some ⟨value⟩

def localeSourceOf (value : Argument) : Option LocaleSource := do
  [("family", LocaleSource.family), ("document", .documentParent)].lookup (← text value)

def colorOf (value : Argument) : Option Color := do
  [("auto", Color.auto), ("always", .always), ("never", .never)].lookup (← text value)

-- One more option, if its value fits and it may be given again.
def add (g : Given) : Occurrence → Option Given
  | (.verbose, _) => some { g with verbosity := g.verbosity + 1 }
  | (.help, _) => none
  | (.config, v) => do return { g with config := ← setOnce g.config (path v) }
  | (.fontDir, v) => do return { g with fontDir := ← setOnce g.fontDir (path v) }
  | (.localeSource, v) => do
    return { g with localeSource := ← setOnce g.localeSource (localeSourceOf v) }
  | (.axes, v) => do return { g with axes := g.axes ++ (← items v) }
  | (.locale, v) => do return { g with locales := g.locales ++ (← items v) }
  | (.italic, _) => do return { g with italic := ← raise g.italic }
  | (.upright, _) => do return { g with upright := ← raise g.upright }
  | (.weight, v) => do return { g with weight := ← setOnce g.weight (text v) }
  | (.path, v) => do return { g with patterns := g.patterns ++ [← text v] }
  | (.json, _) => do return { g with json := ← raise g.json }
  | (.ndjson, _) => do return { g with ndjson := ← raise g.ndjson }
  | (.columns, _) => do return { g with columns := ← raise g.columns }
  | (.color, v) => do return { g with color := ← setOnce g.color (colorOf v) }
  | (.followLinks, _) => do return { g with followLinks := ← raise g.followLinks }

def source (g : Given) : SourceOptions :=
  ⟨g.config, g.fontDir, g.localeSource.getD .family⟩

-- The options for listing. Two of them exclude each other, and so do two others.
def listOptions (g : Given) : Option ListOptions :=
  if g.italic && g.upright || g.json && g.ndjson then none
  else some {
    source := g.source
    axes := g.axes
    locales := g.locales
    italic := g.italic
    upright := g.upright
    weight := g.weight
    patterns := g.patterns
    json := g.json
    ndjson := g.ndjson
    columns := g.columns
    color := g.color.getD .auto }

end Given

-- What the arguments of a command give.
def readGiven (specs : List Spec) (args : List Argument) : Except Stop Given :=
  let (found, stop) := readOptions specs args
  match found.foldlM Given.add Given.nothing with
  | none => .error .usage
  | some g => stop.elim (.ok g) .error

/-- The command of a name with its arguments. The verbosity asked for before the command counts
unless some is asked for after it. -/
def readCommand (verbosity : Nat) (name : String) (args : List Argument) :
    Except Stop Invocation := do
  -- Only the later of the two counts.
  let total (g : Given) : Nat := if g.verbosity = 0 then verbosity else g.verbosity
  if name = "list" then
    let g ← readGiven listSpecs args
    match g.listOptions with
    | some o => return ⟨total g, .list o⟩
    | none => throw .usage
  else if name = "unlisted" then
    let g ← readGiven unlistedSpecs args
    return ⟨total g, .unlisted ⟨g.source, g.followLinks⟩⟩
  else if name = "help" then
    match args.map Given.text with
    | [] => throw .help
    | [some topic] =>
      throw (if ["list", "unlisted", "help"].contains topic then .help else .usage)
    | _ => throw .usage
  else throw .usage

-- The invocation that arguments stand for.
def Invocation.ofArguments : (verbosity : Nat) → List Argument → Except Stop Invocation
  | _, [] => .error .usage
  | verbosity, arg :: rest =>
    match Shape.of arg with
    | .other =>
      match Given.text arg with
      | some name => readCommand verbosity name rest
      | none => .error .usage
    | .escape => .error .usage
    | _ =>
      match readOptions commonSpecs [arg] with
      | (_, some stop) => .error stop
      | (found, none) => Invocation.ofArguments (verbosity + found.length) rest

end FontCatalog.Cli
