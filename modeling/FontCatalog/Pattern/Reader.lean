import FontCatalog.Pattern.Lexical

/-!
# Reading patterns

A pattern is read from left to right with a stack of the groups that are open, and a class in
brackets with a stack of the brackets that are open. Patterns nested too deeply are refused.
-/

namespace FontCatalog.Pattern

namespace Reader

open Lexical (skip peek)

/-! ## Classes in brackets -/

-- The characters of the classes that have names of their own inside brackets.
def asciiClass? (name : List Char) : Option (List (Char × Char)) :=
  [("alnum", [('0', '9'), ('A', 'Z'), ('a', 'z')]),
   ("alpha", [('A', 'Z'), ('a', 'z')]),
   ("ascii", [('\x00', '\x7f')]),
   ("blank", [('\t', '\t'), (' ', ' ')]),
   ("cntrl", [('\x00', '\x1f'), ('\x7f', '\x7f')]),
   ("digit", [('0', '9')]),
   ("graph", [('!', '~')]),
   ("lower", [('a', 'z')]),
   ("print", [(' ', '~')]),
   ("punct", [('!', '/'), (':', '@'), ('[', '`'), ('\x7b', '~')]),
   ("space", [('\t', '\r'), (' ', ' ')]),
   ("upper", [('A', 'Z')]),
   ("word", [('0', '9'), ('A', 'Z'), ('_', '_'), ('a', 'z')]),
   ("xdigit", [('0', '9'), ('A', 'F'), ('a', 'f')])].lookup (String.ofList name)

/-- A class such as `[:alpha:]`, from its bracket. What looks like one but is none is something
else. -/
def namedInBrackets : Lexical ClassSet
  | '[' :: ':' :: s =>
    let (negated, s) := match s with
      | '^' :: t => (true, t)
      | t => (false, t)
    let name := s.takeWhile (· ≠ ':')
    match s.drop name.length with
    | ':' :: ']' :: rest => (asciiClass? name).map fun low => (.named (.ascii low) negated, rest)
    | _ => none
  | _ => none

/-- An open bracket: the items since the last operator, last first, and what stands before the
operator. -/
structure Bracket where
  negated : Bool
  items : List ClassSet
  pending : Option (SetOperator × ClassSet)

namespace Bracket

def add (b : Bracket) (s : ClassSet) : Bracket := { b with items := s :: b.items }

-- All that stands in the bracket so far. Operators go from left to right.
def set (b : Bracket) : ClassSet :=
  let last := ClassSet.ofItems b.items.reverse
  match b.pending with
  | some (o, left) => .operation o left last
  | none => last

def operator (b : Bracket) (o : SetOperator) : Bracket :=
  { b with items := [], pending := some (o, b.set) }

end Bracket

-- The hyphens at the start of a class.
def leadingHyphens (blanks : Bool) : (fuel : Nat) → Lexical (List ClassSet)
  | 0, _ => none
  | fuel + 1, s =>
    match s with
    | [] => none
    | '-' :: t => do
      let (items, rest) ← leadingHyphens blanks fuel (skip blanks t)
      return (.literal ⟨'-', false⟩ :: items, rest)
    | t => some ([], t)

/-- The start of a class, from after its bracket: whether it is negated, and the hyphens or the
closing bracket that stand for themselves there. -/
def openBracket (blanks : Bool) : Lexical Bracket := fun s => do
  let s := skip blanks s
  let (negated, s) := match s with
    | '^' :: t => (true, skip blanks t)
    | t => (false, t)
  let (hyphens, s) ← leadingHyphens blanks (s.length + 1) s
  match hyphens, s with
  | [], ']' :: t =>
    match skip blanks t with
    | [] => none
    | t => return (⟨negated, [.literal ⟨']', false⟩], none⟩, t)
  | hyphens, s => return (⟨negated, hyphens.reverse, none⟩, s)

-- One character or escape of a class.
def classItem (blanks : Bool) : Lexical Lexical.Primitive
  | [] => none
  | '\\' :: s => Lexical.escape blanks s
  | c :: s => some (.literal ⟨c, false⟩, s)

-- An item of a class by itself. Assertions are none.
def itemSet : Lexical.Primitive → Option ClassSet
  | .literal l => some (.literal l)
  | .named c negated => some (.named c negated)
  | .assertion _ => none

def itemLiteral : Lexical.Primitive → Option Literal
  | .literal l => some l
  | _ => none

/-- One item of a class or two that are the ends of a range. A hyphen before a closing bracket or
another hyphen makes no range. -/
def classRange (blanks : Bool) : Lexical ClassSet := fun s => do
  let (first, s) ← classItem blanks s
  let s := skip blanks s
  let next := peek blanks s
  match s with
  | [] => none
  | c :: t =>
    -- `--` is an operator, so two hyphens make no range.
    if c ≠ '-' ∨ next = some ']' ∨ next = some '-' then return (← itemSet first, s)
    else
      let (last, rest) ← classItem blanks (skip blanks t)
      let low ← itemLiteral first
      let high ← itemLiteral last
      if low.char ≤ high.char then return (.range low high, rest) else none

-- The rest of a class in brackets.
def classBody (blanks : Bool) : (fuel : Nat) → Bracket → (outer : List Bracket) → Lexical Bracket
  | 0, _, _, _ => none
  | fuel + 1, b, outer, s =>
    match skip blanks s with
    | [] => none
    | '&' :: '&' :: t => classBody blanks fuel (b.operator .intersection) outer t
    | '-' :: '-' :: t => classBody blanks fuel (b.operator .difference) outer t
    | '~' :: '~' :: t => classBody blanks fuel (b.operator .symmetricDifference) outer t
    | ']' :: t =>
      match outer with
      | [] => some (b, t)
      | p :: outer => classBody blanks fuel (p.add (.bracketed b.negated b.set)) outer t
    | '[' :: t =>
      match namedInBrackets ('[' :: t) with
      | some (c, rest) => classBody blanks fuel (b.add c) outer rest
      | none => do
        let (inner, rest) ← openBracket blanks t
        classBody blanks fuel inner (b :: outer) rest
    | t => do
      let (item, rest) ← classRange blanks t
      classBody blanks fuel (b.add item) outer rest

-- A class in brackets, from after its bracket.
def bracketed (blanks : Bool) : Lexical Expr := fun s => do
  let (b, s) ← openBracket blanks s
  let (b, s) ← classBody blanks (s.length + 1) b [] s
  return (.bracketed b.negated b.set, s)

/-! ## Repetitions -/

-- The number of times in braces, from after the opening one.
def bounds (blanks : Bool) : Lexical (Nat × Option Nat) := fun s => do
  let (low, s) ← Lexical.decimal blanks (skip blanks s)
  match s with
  | '\x7d' :: rest => return ((low, some low), rest)
  | ',' :: t =>
    match skip blanks t with
    | '\x7d' :: rest => return ((low, none), rest)
    | t =>
      let (high, s) ← Lexical.decimal blanks t
      match s with
      | '\x7d' :: rest => if low ≤ high then return ((low, some high), rest) else none
      | _ => none
  | _ => none

/-! ## Groups -/

/-- Groups have a number, or flags for their inside. -/
inductive GroupKind where
  | numbered (index : Nat)
  | flagged (settings : List FlagSetting)

/-- An open group. -/
structure Group where
  /-- The parts since the last `|`, last first, and the alternatives before it, last first. -/
  parts : List Expr
  alternatives : List Expr
  /-- What the group makes of its inside, and whether blanks are ignored after it. -/
  kind : GroupKind
  blanksAfter : Bool

namespace Group

def start (kind : GroupKind) (blanksAfter : Bool) : Group :=
  ⟨[], [], kind, blanksAfter⟩

def add (g : Group) (e : Expr) : Group := { g with parts := e :: g.parts }

-- All that stands in the group.
def inside (g : Group) : Expr :=
  let last := Expr.ofParts g.parts.reverse
  Expr.ofAlternatives (g.alternatives.reverse ++ [last])

-- The group with its inside.
def expr (g : Group) : Expr :=
  match g.kind with
  | .numbered index => .capture index g.inside
  | .flagged settings => .group settings g.inside

def alternative (g : Group) : Group :=
  { g with parts := [], alternatives := Expr.ofParts g.parts.reverse :: g.alternatives }

-- The last part repeated. Flags cannot be.
def repeatLast (g : Group) (min : Nat) (max : Option Nat) (isLazy : Bool) : Option Group :=
  match g.parts with
  | [] => none
  | .flags _ :: _ => none
  | e :: rest => some { g with parts := .repetition e min max isLazy :: rest }

end Group

-- The setting of one flag among others.
def setting? (f : Flag) (settings : List FlagSetting) : Option Bool := settings.lookup f

/-- What an opening parenthesis begins. -/
inductive Opening where
  | flags (settings : List FlagSetting)
  | group (settings : List FlagSetting)
  | capture (name : Option (List Char))

-- The start of a group, from after its parenthesis. Looking ahead and behind is not supported.
def opening (blanks : Bool) : Lexical Opening := fun s => do
  let s := skip blanks s
  match s with
  | '?' :: '=' :: _ => none
  | '?' :: '!' :: _ => none
  | '?' :: '<' :: '=' :: _ => none
  | '?' :: '<' :: '!' :: _ => none
  | '?' :: 'P' :: '<' :: t =>
    let (name, rest) ← Lexical.groupName t
    return (.capture (some name), rest)
  | '?' :: '<' :: t =>
    let (name, rest) ← Lexical.groupName t
    return (.capture (some name), rest)
  | '?' :: t =>
    let (settings, t) ← Lexical.flags false false [] t
    match settings, t with
    | [], ')' :: _ => none
    | settings, ')' :: rest => return (.flags settings, rest)
    | settings, _ :: rest => return (.group settings, rest)
    | _, [] => none
  | t => return (.capture none, t)

/-! ## Whole patterns -/

/-- Where the reader stands: the innermost group, those around it, whether blanks are ignored, how
many groups have numbers, and the names among them. -/
structure State where
  group : Group
  outer : List Group
  blanks : Bool
  captures : Nat
  names : List (List Char)

namespace State

-- The reader inside a group that begins.
def enter (st : State) (kind : GroupKind) : State :=
  { st with group := .start kind st.blanks, outer := st.group :: st.outer }

end State

-- The rest of a pattern. Every step takes a character.
def run : (fuel : Nat) → State → List Char → Option Expr
  | 0, _, _ => none
  | fuel + 1, st, s =>
    let add (e : Expr) (rest : List Char) : Option Expr :=
      run fuel { st with group := st.group.add e } rest
    let repeated (min : Nat) (max : Option Nat) (rest : List Char) : Option Expr := do
      let (isLazy, rest) := match rest with
        | '?' :: t => (true, t)
        | t => (false, t)
      run fuel { st with group := ← st.group.repeatLast min max isLazy } rest
    match skip st.blanks s with
    | [] => if st.outer.isEmpty then some st.group.inside else none
    | '(' :: t => do
      let (begun, rest) ← opening st.blanks t
      match begun with
      | .flags settings =>
        let blanks := (setting? .ignoreWhitespace settings).getD st.blanks
        run fuel { st with group := st.group.add (.flags settings), blanks } rest
      | .group settings =>
        let blanks := (setting? .ignoreWhitespace settings).getD st.blanks
        run fuel { st.enter (.flagged settings) with blanks } rest
      | .capture name =>
        if name.any st.names.contains then none
        else
          let captures := st.captures + 1
          let names := name.toList ++ st.names
          run fuel { st.enter (.numbered captures) with captures, names } rest
    | ')' :: rest =>
      match st.outer with
      | [] => none
      | g :: outer =>
        run fuel
          { st with
            group := g.add st.group.expr
            outer
            blanks := st.group.blanksAfter } rest
    | '|' :: rest => run fuel { st with group := st.group.alternative } rest
    | '[' :: t => do
      let (e, rest) ← bracketed st.blanks t
      add e rest
    | '?' :: rest => repeated 0 (some 1) rest
    | '*' :: rest => repeated 0 none rest
    | '+' :: rest => repeated 1 none rest
    | '\x7b' :: t => do
      let ((min, max), rest) ← bounds st.blanks t
      repeated min max (skip st.blanks rest)
    | '\\' :: t => do
      let (p, rest) ← Lexical.escape st.blanks t
      match p with
      | .literal l => add (.literal l) rest
      | .assertion a => add (.assertion a) rest
      | .named c negated => add (.named c negated) rest
    | '.' :: rest => add .dot rest
    | '^' :: rest => add (.assertion .lineStart) rest
    | '$' :: rest => add (.assertion .lineEnd) rest
    | c :: rest => add (.literal ⟨c, false⟩) rest

end Reader

-- How deeply the parts of a pattern may be nested.
def maxDepth : Nat := 250

-- The expression that a text denotes.
def Expr.read (s : List Char) : Option Expr := do
  let e ← Reader.run (s.length + 1) ⟨.start (.flagged []) false, [], false, 0, []⟩ s
  if e.depth ≤ maxDepth then return e else none

end FontCatalog.Pattern
