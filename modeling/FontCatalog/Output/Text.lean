import FontCatalog.Record

/-!
# Records written as text

A record is written as its path on a line of its own, or as a row of columns that stand under each
other. Both may be coloured.
-/

namespace FontCatalog.Output

inductive Ink where
  | cyan
  | yellow
  | green
  deriving DecidableEq, Repr

def Ink.code : Ink → String
  | cyan => "36"
  | yellow => "33"
  | green => "32"

-- A text in a colour, or as it is.
def paint (color : Bool) (ink : Ink) (text : String) : String :=
  if color then "\x1b[" ++ ink.code ++ "m" ++ text ++ "\x1b[0m" else text

/-! ## One path a line -/

def plainLine (color : Bool) (r : Record) : String :=
  paint color .cyan r.pathWithIndex ++ "\n"

/-! ## Columns -/

-- A text with blanks after it up to a width in characters.
def padRight (width : Nat) (s : String) : String :=
  s ++ String.ofList (List.replicate (width - s.length) ' ')

-- A text with blanks before it up to a width in characters.
def padLeft (width : Nat) (s : String) : String :=
  String.ofList (List.replicate (width - s.length) ' ') ++ s

/-- The cells of a record. -/
structure Row where
  path : String
  style : String
  extra : String
  deriving DecidableEq, Repr

def axisText (a : Axis) : String := a.tag.toText ++ "=" ++ a.value.plain

-- Path, weight and slant, and locale and axes.
def Row.ofRecord (r : Record) : Row where
  path := r.pathWithIndex
  style := padLeft 3 (String.ofList (Number.decimal r.weight.toNat)) ++ " " ++
    (if r.italic then "italic" else "normal")
  extra := padRight 10 (r.locale.getD "-") ++ " " ++ String.intercalate "," (r.axes.map axisText)

-- The widest column of paths that is padded.
def maxPathWidth : Nat := 120

-- The width of the column of paths: the bytes of the longest one, up to a bound.
def pathWidth (rows : List Row) : Nat :=
  Nat.min maxPathWidth (rows.foldl (fun n row => Nat.max n row.path.utf8ByteSize) 0)

def rowLine (color : Bool) (width : Nat) (row : Row) : String :=
  let extra := String.ofList (Text.trimEnd Text.isBlank row.extra.toList)
  paint color .cyan (padRight width row.path) ++ "  " ++ paint color .yellow row.style ++ "  " ++
    paint color .green extra ++ "\n"

-- The rows of some records.
def columns (color : Bool) (records : List Record) : List String :=
  let rows := records.map Row.ofRecord
  rows.map (rowLine color (pathWidth rows))

end FontCatalog.Output
