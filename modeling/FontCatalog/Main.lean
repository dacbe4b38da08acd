import FontCatalog.Cli.Run

/-!
# The command line program

Looks up the files that a command can ask for, carries the command out on them, and prints what it
gives. All paths that may matter are known from the settings and from the configuration itself.
-/

namespace FontCatalog.Cli

open Files (Tree)

-- The names of a path of the file system.
def namesOf (path : String) : List String := (path.splitOn "/").filter (· ≠ "")

def pathOfNames (names : List String) : String := "/" ++ String.intercalate "/" names

-- The place that a path leads to in the end, by a path without links.
def realPath? (path : String) : IO (Option String) := do
  match ← (IO.FS.realPath path).toBaseIO with
  | .ok p => return some (toString p)
  | .error _ => return none

/-- A tree with what is found under names below a real directory, links and their targets
included. Files get their content only if `content` holds. -/
partial def reveal (content : Bool) (t : Tree) (dir : List String) : List String → IO Tree
  | [] => return t
  | "." :: rest => reveal content t dir rest
  | ".." :: rest => reveal content t dir.dropLast rest
  | name :: rest => do
    let here := dir ++ [name]
    let path := pathOfNames here
    let place : Path := .ofString path
    match ← ((← IO.currentDir) / path).symlinkMetadata.toBaseIO with
    | .error _ => return t
    | .ok m =>
      match m.type with
      | .dir => reveal content (t.put place (.directory [])) here rest
      | .symlink =>
        match ← realPath? path with
        | some target =>
          reveal content (t.put place (.link (.ofString target))) [] (namesOf target ++ rest)
        | none => return t.put place (.link (.ofString "\x00"))
      | .file =>
        if content then
          return t.put place (.file (← IO.FS.readBinFile path).toList)
        else if (t.lookup place).isOk then return t
        else return t.put place (.file [])
      | .other => return t.put place .device

/-- A tree with everything below a directory, through links if `follow` holds. -/
partial def revealAll (follow : Bool) (dir : List String) (t : Tree) (seen : List String) :
    IO (Tree × List String) := do
  let path := pathOfNames dir
  if seen.contains path then return (t, seen)
  match ← ((← IO.currentDir) / path).readDir.toBaseIO with
  | .error _ => return (t, seen)
  | .ok entries =>
    let mut t := t
    let mut seen := path :: seen
    for e in entries do
      let below := dir ++ [e.fileName]
      t ← reveal false t dir [e.fileName]
      let m ← ((← IO.currentDir) / pathOfNames below).symlinkMetadata
      match m.type with
      | .dir => (t, seen) ← revealAll follow below t seen
      | .symlink =>
        if follow then
          if let some target ← realPath? (pathOfNames below) then
            (t, seen) ← revealAll follow (namesOf target) t seen
      | _ => pure ()
    return (t, seen)

-- A path as names from the root.
def absolute (here : String) (p : Path) : List String :=
  if p.bytes.head? = some Path.separator then namesOf p.display
  else namesOf here ++ namesOf p.display

-- The files that a command may ask for.
def lookAround (here : String) (lookup : String → Option Argument) (i : Invocation) : IO Tree := do
  let place := (namesOf here).reverse.map Utf8.encodeString
  let (source, unlisted, follow) := match i.command with
    | .list o => (o.source, false, false)
    | .unlisted o => (o.source, true, o.followLinks)
  let c := configOf ⟨⟨[], place⟩, lookup, false, default⟩ source
  let mut t ← reveal false ⟨[], place⟩ [] (namesOf here)
  t ← reveal true t [] (absolute here c.configPath)
  t ← reveal false t [] (absolute here c.fontDir)
  if let .ok (walk, _) := Walk.start t c then
    for r in walk.records fun _ => true do
      t ← reveal false t [] (absolute here r.path)
  if unlisted then
    if let some real ← realPath? (pathOfNames (absolute here c.fontDir)) then
      t := (← revealAll follow (namesOf real) t []).1
  return t

-- The environment variables that matter, with their values.
def environment : IO (List (String × Argument)) := do
  let names := [Config.configPathVariable, Config.fontDirVariable, "RUST_LOG", traceVariable]
  let found ← names.mapM fun name => do
    return (← IO.getEnv name).map fun value => (name, Utf8.encodeString value)
  return found.filterMap id

-- The main thread has the number of its process.
def site : IO Site := do
  let names := namesOf ((← realPath? "/proc/self").getD "")
  let thread := (names.getLast?.bind String.toNat?).getD 0
  return ⟨thread, "FontCatalog.Document.parse", []⟩

end FontCatalog.Cli

open FontCatalog in
def main (args : List String) : IO UInt32 := do
  let args := args.map Utf8.encodeString
  let known ← Cli.environment
  let lookup (name : String) : Option Cli.Argument := known.lookup name
  let here := toString (← IO.currentDir)
  let files ←
    match Cli.Invocation.ofArguments 0 args with
    | .ok i => Cli.lookAround here lookup i
    | .error _ => pure ⟨[], []⟩
  let stdout ← IO.getStdout
  let ending := Cli.run ⟨files, lookup, ← stdout.isTty, ← Cli.site⟩ args
  let stderr ← IO.getStderr
  for line in ending.stderr do
    stderr.putStrLn line
  stdout.write ⟨ending.stdout.toArray⟩
  stdout.flush
  return UInt32.ofNat ending.exitCode
