import FontCatalog.Log.Entry
import FontCatalog.Pattern.Compile
import FontCatalog.Text.Cut
import FontCatalog.Text.Utf8

/-!
# Which log entries are shown

A filter is a list of directives, each with a level for the targets that begin with its name. The
longest name decides, and a directive without a name speaks for all other targets. Directives are
written as `name=level`, `name` or `level`, with commas between them. A pattern for the messages may
follow after a slash.
-/

namespace FontCatalog.Log

-- The least important level that is shown, or nothing if no entry is.
abbrev Threshold := Option Level

def Level.rank : Level → Nat
  | error => 1
  | warn => 2
  | info => 3
  | debug => 4
  | trace => 5

-- Whether entries of a level are shown.
def Threshold.admits (t : Threshold) (l : Level) : Bool := t.any fun m => l.rank ≤ m.rank

-- A threshold by its name in any case.
def Threshold.ofText? (s : List Char) : Option Threshold :=
  [("off", none), ("error", some Level.error), ("warn", some .warn), ("info", some .info),
   ("debug", some .debug), ("trace", some .trace)].lookup (String.ofList (s.map Char.toLower))

structure Directive where
  name : Option (List Char)
  threshold : Threshold
  deriving DecidableEq, Repr

structure Filter where
  directives : List Directive
  message : Option Pattern

namespace Filter

-- The filter that shows all entries up to a level.
def upTo (l : Level) : Filter := ⟨[⟨none, some l⟩], none⟩

-- A directive in place of the one with the same name, or after all others.
def insert (d : Directive) : List Directive → List Directive
  | [] => [d]
  | e :: rest => if e.name = d.name then d :: rest else e :: insert d rest

-- A directive, or the part of the text that is none.
def readDirective (s : List Char) : Except (List Char) Directive :=
  match Text.cut '=' s with
  | [name] =>
    match Threshold.ofText? name with
    | some t => .ok ⟨none, t⟩
    | none => .ok ⟨some name, some .trace⟩
  | [name, level] =>
    let level := Text.trim Text.isBlank level
    if level.isEmpty then .ok ⟨some name, some .trace⟩
    else
      match Threshold.ofText? level with
      | some t => .ok ⟨some name, t⟩
      | none => .error level
  | _ => .error s

-- The directives in a text, added to others, and the parts that are none.
def readDirectives (start : List Directive) (s : List Char) : List Directive × List (List Char) :=
  let parts := ((Text.cut ',' s).map (Text.trim Text.isBlank)).filter fun p => !p.isEmpty
  parts.foldl
    (fun (ds, bad) p =>
      match readDirective p with
      | .ok d => (insert d ds, bad)
      | .error e => (ds, bad ++ [e]))
    (start, [])

def warning (what : String) : String := "warning: " ++ what ++ ", ignoring it"

def invalidWarning (part : List Char) : String :=
  warning ("invalid logging spec '" ++ String.ofList part ++ "'")

-- A filter with what a text adds to it, and warnings about parts that mean nothing.
def extend (f : Filter) (text : String) : Filter × List String :=
  match Text.cut '/' text.toList with
  | mods :: rest =>
    if 1 < rest.length then
      ({ f with message := none },
        [warning ("invalid logging spec '" ++ text ++ "' (too many '/'s)")])
    else
      let (directives, bad) := readDirectives f.directives mods
      let warnings := bad.map invalidWarning
      match rest with
      | pattern :: _ =>
        match Pattern.compile? (String.ofList pattern) with
        | some p => (⟨directives, some p⟩, warnings)
        | none => (⟨directives, none⟩, warnings ++ [warning "invalid regex filter"])
      | [] => (⟨directives, none⟩, warnings)
  | [] => (f, [])

-- The length of a name in bytes.
def nameLength (d : Directive) : Nat := d.name.elim 0 fun n => (Utf8.encode n).length

/-- The directive that speaks for a target: the one with the longest name, and of several the last.
-/
def directiveFor (f : Filter) (target : String) : Option Directive :=
  let sorted := f.directives.mergeSort fun a b => nameLength a ≤ nameLength b
  sorted.reverse.find? fun d => d.name.all (·.isPrefixOf target.toList)

-- Whether an entry is shown.
def shows (f : Filter) (e : Entry) : Bool :=
  (f.directiveFor e.target).any (·.threshold.admits e.level) &&
    f.message.all (·.matchesIn e.message)

end Filter

/-! ## Log lines -/

-- A text with blanks after each line end.
def indentLines (s : List Char) : List Char :=
  s.flatMap fun c => if c = '\n' then ['\n', ' ', ' ', ' ', ' '] else [c]

-- An entry as it is shown.
def Entry.line (e : Entry) : String :=
  let level := e.level.name
  let padding := String.ofList (List.replicate (5 - level.length) ' ')
  "[" ++ level ++ padding ++ " " ++ e.target ++ "] " ++
    String.ofList (indentLines e.message.toList)

end FontCatalog.Log
