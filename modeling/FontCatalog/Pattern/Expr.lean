/-!
# Expressions of path patterns

A pattern as it is written: literals, classes, assertions, repetitions, groups and alternatives.
Flags stand where they were set, so what a part means depends on those before it.
-/

namespace FontCatalog.Pattern

/-- A character written in a pattern. -/
structure Literal where
  char : Char
  /-- Whether it was written as two hexadecimal digits, which may also name a byte. -/
  isByte : Bool
  deriving DecidableEq, Repr

/-- A property of characters as it is asked for. -/
inductive PropertyQuery where
  | name (s : List Char)
  | value (name value : List Char)
  deriving DecidableEq, Repr

/-- A class of characters with a name. -/
inductive NamedClass where
  | digit
  | space
  | word
  | ascii (low : List (Char × Char))
  | property (query : PropertyQuery)
  deriving DecidableEq, Repr

/-- How the sets on both sides of an operator are put together. -/
inductive SetOperator where
  | intersection
  | difference
  | symmetricDifference
  deriving DecidableEq, Repr

/-- What stands between the brackets of a class. -/
inductive ClassSet where
  | literal (l : Literal)
  | range (low high : Literal)
  | named (c : NamedClass) (negated : Bool)
  | bracketed (negated : Bool) (body : ClassSet)
  | union (items : List ClassSet)
  | operation (o : SetOperator) (left right : ClassSet)
  deriving Repr, Inhabited

/-- A condition on the place between two characters. -/
inductive Assertion where
  | lineStart
  | lineEnd
  | textStart
  | textEnd
  | wordBoundary
  | notWordBoundary
  | wordStart
  | wordEnd
  | wordStartHalf
  | wordEndHalf
  deriving DecidableEq, Repr

inductive Flag where
  | caseInsensitive
  | multiLine
  | dotMatchesNewLine
  | swapGreed
  | unicode
  | crlf
  | ignoreWhitespace
  deriving DecidableEq, Repr

-- A flag and whether it is set or cleared.
abbrev FlagSetting := Flag × Bool

inductive Expr where
  | empty
  /-- Flags for the rest of the group. -/
  | flags (settings : List FlagSetting)
  | literal (l : Literal)
  | dot
  | assertion (a : Assertion)
  | named (c : NamedClass) (negated : Bool)
  | bracketed (negated : Bool) (body : ClassSet)
  /-- At least `min` times, and no more than `max` times if that is given. A lazy repetition, which
  is written with another question mark, tries few times first. -/
  | repetition (e : Expr) (min : Nat) (max : Option Nat) (isLazy : Bool)
  /-- A group with flags for its inside. -/
  | group (settings : List FlagSetting) (e : Expr)
  /-- A group that is numbered, from one on. -/
  | capture (index : Nat) (e : Expr)
  | alternation (alternatives : List Expr)
  | concat (parts : List Expr)
  deriving Repr, Inhabited

/-! ## Depth of nesting -/

mutual

def ClassSet.depth : ClassSet → Nat
  | .bracketed _ body => body.depth + 1
  | .union [] => 0
  | .union items => depthAll items + 1
  | .operation _ left right => max left.depth right.depth + 1
  | _ => 0

-- The greatest depth among some sets.
def ClassSet.depthAll : List ClassSet → Nat
  | [] => 0
  | s :: rest => max s.depth (depthAll rest)

end

mutual

def Expr.depth : Expr → Nat
  | .bracketed _ body => body.depth + 1
  | .repetition e _ _ _ => e.depth + 1
  | .group _ e => e.depth + 1
  | .capture _ e => e.depth + 1
  | .alternation es => depthAll es + 1
  | .concat es => depthAll es + 1
  | _ => 0

-- The greatest depth among some expressions.
def Expr.depthAll : List Expr → Nat
  | [] => 0
  | e :: rest => max e.depth (depthAll rest)

end

-- Expressions one after another.
def Expr.ofParts : List Expr → Expr
  | [] => .empty
  | [e] => e
  | es => .concat es

-- Expressions to choose from.
def Expr.ofAlternatives : List Expr → Expr
  | [e] => e
  | es => .alternation es

-- Sets put together.
def ClassSet.ofItems : List ClassSet → ClassSet
  | [s] => s
  | ss => .union ss

end FontCatalog.Pattern
