import FontCatalog.Pattern.Compile
import FontCatalog.Record
import FontCatalog.WeightRange

/-!
# Queries

Conditions on font records. A record has to meet all conditions that are set; of the locales and of
the patterns in a condition one is enough.
-/

namespace FontCatalog

structure Query where
  /-- Axes that must all be set. -/
  axes : List Tag
  /-- Locales of which the record must have one, unless there are none. -/
  locales : List String
  /-- Patterns of which the path must match one, unless there are none. -/
  patterns : List Pattern
  italic : Option Bool
  weights : Option WeightRange

namespace Query

-- The query that every record meets.
def any : Query := ⟨[], [], [], none, none⟩

def withAxes (q : Query) (axes : List Tag) : Query := { q with axes }

def withLocales (q : Query) (locales : List String) : Query := { q with locales }

def withPatterns (q : Query) (patterns : List Pattern) : Query := { q with patterns }

def withItalic (q : Query) (italic : Option Bool) : Query := { q with italic }

def withWeights (q : Query) (weights : WeightRange) : Query := { q with weights := some weights }

-- Whether a record meets all conditions.
def accepts (q : Query) (r : Record) : Bool :=
  q.italic.all (· == r.italic) &&
  q.weights.all (·.holds r.weight) &&
  q.axes.all (r.axes.map (·.tag)).contains &&
  (q.locales.isEmpty || r.locale.any q.locales.contains) &&
  (q.patterns.isEmpty || q.patterns.any (·.matchesIn r.path.display))

end Query

-- The patterns of some texts, or the first text that is none.
def Pattern.compileAll : List String → Except String (List Pattern)
  | [] => .ok []
  | text :: rest =>
    match Pattern.compile? text with
    | none => .error text
    | some p => (compileAll rest).map (p :: ·)

end FontCatalog
