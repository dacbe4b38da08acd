import FontCatalog.Cli.Arguments
import FontCatalog.Discovery
import FontCatalog.Log.Filter
import FontCatalog.Output.Json
import FontCatalog.Output.Text
import FontCatalog.Query
import FontCatalog.Walk

/-!
# Carrying out a command

What a command prints, from its arguments, the environment and the files. Listing walks through the
configuration while it prints, so a record that cannot be printed ends the walk. A bad query ends
the command before the configuration is read.
-/

namespace FontCatalog.Cli

/-- Where a program breaks down, as far as it is told. -/
structure Site where
  /-- The number that the system has given to the thread. -/
  thread : Nat
  /-- The place in the code. -/
  place : String
  /-- The calls that led there, in the form in which they are told. -/
  trace : List String
  deriving Inhabited

/-- What a command can see of the world. -/
structure World where
  files : Files.Tree
  /-- The value of an environment variable, if it is set. -/
  lookup : String → Option Argument
  /-- Whether what is printed goes to a terminal. -/
  terminal : Bool
  /-- Where reading breaks down if it does. -/
  site : Site

/-- Why a command does not come to its end. -/
inductive Failure where
  /-- Its causes, outermost first. -/
  | causes (messages : List String)
  /-- The configuration broke reading down. -/
  | broken (b : Document.Breakdown)
  deriving DecidableEq, Repr

/-- What a command does before it ends. -/
structure Result where
  stdout : List UInt8
  log : List Log.Entry
  failure : Option Failure
  deriving DecidableEq, Repr

-- A command that fails before it prints anything.
def Result.failed (log : List Log.Entry) (messages : List String) : Result :=
  ⟨[], log, some (.causes messages)⟩

def logTarget : String := "sysfont_cli"

def infoEntry (message : String) : Log.Entry := ⟨.info, logTarget, message⟩

-- The settings from the defaults, the environment and the options, in this order.
def configOf (w : World) (o : SourceOptions) : Config :=
  let c := Config.ofEnvironment fun name => (w.lookup name).map Path.mk
  { configPath := o.config.getD c.configPath
    fontDir := o.fontDir.getD c.fontDir
    localeSource := o.localeSource }

def readingEntry (c : Config) : Log.Entry :=
  infoEntry ("reading " ++ c.configPath.display ++ " (fonts under " ++ c.fontDir.display ++ ")")

/-! ## Listing -/

-- The causes of a bad weight range.
def weightCauses (e : WeightRange.ParseError) : List String := e.message :: e.cause?.toList

/-- The query of the options, or what is wrong with the first bad one: axes before patterns, and
patterns before the weight. -/
def queryOf (o : ListOptions) : Except (List String) Query := do
  let axes ← (Tag.parseAll o.axes).mapError fun e => [e.message]
  let patterns ← (Pattern.compileAll o.patterns).mapError fun p => ["invalid regex: " ++ p]
  let weights ←
    match o.weight with
    | none => pure none
    | some raw => ((WeightRange.parse raw).mapError weightCauses).map some
  let italic := if o.italic then some true else if o.upright then some false else none
  return ⟨axes, o.locales, patterns, italic, weights⟩

/-- The forms in which records are listed. -/
inductive Mode where
  | ndjson
  | json
  | columns
  | plain
  deriving DecidableEq, Repr

def modeOf (o : ListOptions) : Mode :=
  if o.ndjson then .ndjson
  else if o.json then .json
  else if o.columns then .columns
  else .plain

def useColor (w : World) : Color → Bool
  | .always => true
  | .never => false
  | .auto => w.terminal

-- Texts that are always printed as a whole.
def printed (pulled : Nat) (count : Nat) (texts : List String) : Output.Outcome :=
  ⟨.ok count, pulled, texts.flatMap Utf8.encodeString⟩

-- The accepted ones of some records in a form.
def output (mode : Mode) (color : Bool) (accepts : Record → Bool) (records : List Record) :
    Output.Outcome :=
  let accepted := records.filter accepts
  match mode with
  | .ndjson => Output.lines accepts none records
  | .json => Output.array accepts none records
  | .columns => printed records.length accepted.length (Output.columns color accepted)
  | .plain => printed records.length accepted.length (accepted.map (Output.plainLine color))

-- The log of the steps that gave the first records, or of all steps.
def stepsLog (steps : List Step) (finished : Bool) (pulled : Nat) : List Log.Entry :=
  (if finished then steps else steps.take pulled).flatMap (·.log)

def runList (w : World) (o : ListOptions) : Result :=
  let c := configOf w o.source
  match queryOf o with
  | .error messages => .failed [readingEntry c] messages
  | .ok q =>
    match Walk.start w.files c with
    | .error b => ⟨[], [readingEntry c], some (.broken b)⟩
    | .ok (walk, loading) =>
      let steps := walk.steps w.files.isFile
      let out := output (modeOf o) (useColor w o.color) q.accepts (steps.filterMap (·.record))
      let start := readingEntry c :: loading
      match out.result with
      | .ok count =>
        ⟨out.bytes,
          start ++ stepsLog steps true out.pulled ++
            [infoEntry (toString count ++ " fonts matched")], none⟩
      | .error e =>
        /- An array is written when the walk has come to its end, and lines while it goes on. -/
        ⟨out.bytes, start ++ stepsLog steps (modeOf o == .json) out.pulled,
          some (.causes [e.message])⟩

/-! ## Unlisted files -/

-- The paths of some that are not the path of any record.
def unlistedPaths (records : List Record) (paths : List Path) : List Path :=
  paths.filter fun p => !records.any fun r => r.path.same p

def runUnlisted (w : World) (o : UnlistedOptions) : Result :=
  let c := configOf w o.source
  match Walk.start w.files c with
  | .error b => ⟨[], [readingEntry c], some (.broken b)⟩
  | .ok (walk, loading) =>
    let steps := walk.steps w.files.isFile
    let log := readingEntry c :: loading ++ stepsLog steps true 0
    match Discovery.discover w.files o.followLinks [c.fontDir] with
    | .error e =>
      .failed log (("scanning " ++ c.fontDir.display) :: e.message :: e.cause?.toList)
    | .ok paths =>
      let left := unlistedPaths (steps.filterMap (·.record)) paths
      ⟨left.flatMap fun p => Utf8.encodeString (p.display ++ "\n"), log, none⟩

/-! ## Commands -/

/-- How a command ends. -/
structure Ending where
  exitCode : Nat
  stdout : List UInt8
  stderr : List String
  deriving DecidableEq, Repr

-- The entries that are shown at a verbosity.
def filterFor (w : World) (verbosity : Nat) : Log.Filter × List String :=
  let level : Log.Level :=
    match verbosity with
    | 0 => .warn
    | 1 => .info
    | 2 => .debug
    | _ => .trace
  let start := Log.Filter.upTo level
  match (w.lookup "RUST_LOG").bind fun v => (Utf8.decodeString v).toOption with
  | some text => start.extend text
  | none => (start, [])

-- The causes of a failure on one line.
def failureLine (causes : List String) : String := "error: " ++ String.intercalate ": " causes

def traceVariable : String := "RUST_BACKTRACE"

-- Whether the calls that led to a breakdown are asked for.
def traceWanted (w : World) : Bool :=
  match w.lookup traceVariable with
  | some value => value != Utf8.encodeString "0"
  | none => false

-- How the calls that led to a breakdown are asked for.
def traceNote : String :=
  "note: run with `RUST_BACKTRACE=1` environment variable to display a backtrace"

/-- What is told of a breakdown, which nothing in the program expects. -/
def breakdownLines (w : World) (b : Document.Breakdown) : List String :=
  ["", "thread 'main' (" ++ toString w.site.thread ++ ") panicked at " ++ w.site.place ++ ":",
    b.message] ++ (if traceWanted w then w.site.trace else [traceNote])

def runCommand (w : World) (i : Invocation) : Ending :=
  let r :=
    match i.command with
    | .list o => runList w o
    | .unlisted o => runUnlisted w o
  let (filter, warnings) := filterFor w i.verbosity
  let log := warnings ++ (r.log.filter filter.shows).map (·.line)
  match r.failure with
  | none => ⟨0, r.stdout, log⟩
  | some (.causes messages) => ⟨1, r.stdout, log ++ [failureLine messages]⟩
  | some (.broken b) => ⟨101, r.stdout, log ++ breakdownLines w b⟩

def usageLines : List String := [
  "Inspect the system font configuration",
  "",
  "Usage: sysfont [OPTIONS] <COMMAND>",
  "",
  "Commands:",
  "  list      List installed fonts from the configuration",
  "  unlisted  Show font files in the font directory that the configuration does not yield",
  "  help      Print this message or the help of the given subcommand(s)",
  "",
  "Options:",
  "  -v, --verbose...  Increase log verbosity (-v info, -vv debug, -vvv trace)",
  "  -h, --help        Print help"]

-- How the program is used.
def usageText : String := String.join (usageLines.map (· ++ "\n"))

-- The whole program.
def run (w : World) (args : List Argument) : Ending :=
  match Invocation.ofArguments 0 args with
  | .ok i => runCommand w i
  | .error .help => ⟨0, Utf8.encodeString usageText, []⟩
  | .error .usage => ⟨2, [], [usageText]⟩

end FontCatalog.Cli
