import FontCatalog.Pattern.Named

/-!
# Matching

A program says which stretches of a text match. It is run on all places of the text at once: from a
set of places where a match may begin it leads to the set of places where one may end.
-/

namespace FontCatalog.Pattern

open Unicode (Ranges)

/-- What the edge of a word asks for: whether a word stands before it and after it. -/
inductive WordEdge where
  /-- A word on exactly one side. -/
  | boundary
  | notBoundary
  | start
  | finish
  /-- No word before. -/
  | startHalf
  /-- No word after. -/
  | finishHalf
  deriving DecidableEq, Repr

def WordEdge.holds (e : WordEdge) (before after : Bool) : Bool :=
  match e with
  | .boundary => before != after
  | .notBoundary => before == after
  | .start => !before && after
  | .finish => before && !after
  | .startHalf => !before
  | .finishHalf => !after

/-- A condition on the characters on both sides of a place. -/
inductive Look where
  | textStart
  | textEnd
  /-- The start and the end of a line. With `crlf` a carriage return ends lines too, and the two
  characters of a line end are not parted. -/
  | lineStart (crlf : Bool)
  | lineEnd (crlf : Bool)
  | word (unicode : Bool) (edge : WordEdge)
  deriving DecidableEq, Repr

inductive Program where
  | empty
  /-- Characters one after another. -/
  | literal (text : List Char)
  /-- One character of a set, which `unicode` allows to hold more than ASCII. -/
  | chars (unicode : Bool) (set : Ranges)
  | look (l : Look)
  | seq (parts : List Program)
  | either (alternatives : List Program)
  /-- At least `min` times, and no more than `max` times if that is given. A greedy one tries many
  times first, which does not change whether there is a match. -/
  | repeated (p : Program) (min : Nat) (max : Option Nat) (greedy : Bool)
  /-- A part with a number, by which it is told from all others. -/
  | capture (index : Nat) (p : Program)
  deriving Repr, Inhabited

namespace Look

-- Whether a character belongs to words.
def isWord (unicode : Bool) : Option Char → Bool
  | none => false
  | some c => (if unicode then Named.words else Named.asciiWords).holds c.toNat

-- Whether the condition holds between two characters, either of which may be missing.
def holds (l : Look) (before after : Option Char) : Bool :=
  match l with
  | textStart => before.isNone
  | textEnd => after.isNone
  | lineStart false => before.isNone || before == some '\n'
  | lineEnd false => after.isNone || after == some '\n'
  | lineStart true =>
    before.isNone || before == some '\n' || (before == some '\r' && after != some '\n')
  | lineEnd true =>
    after.isNone || after == some '\r' || (after == some '\n' && before != some '\r')
  | word unicode edge => edge.holds (isWord unicode before) (isWord unicode after)

end Look

/-- A set of places of a text: one truth value for each place, the one before the first character
included. -/
abbrev Places := List Bool

namespace Places

def union (a b : Places) : Places := a.zipWith (· || ·) b

def diff (a b : Places) : Places := a.zipWith (fun x y => x && !y) b

-- Steps taken `n` times, or until they change nothing.
def times (step : Places → Places) : (n : Nat) → Places → Places
  | 0, ps => ps
  | n + 1, ps =>
    let next := step ps
    if next == ps then ps else times step n next

-- The places that up to `n` steps lead to. `fresh` are those from which no step was taken.
def upTo (step : Places → Places) : (n : Nat) → (seen fresh : Places) → Places
  | 0, seen, _ => seen
  | n + 1, seen, fresh =>
    let new := diff (step fresh) seen
    if new.any id then upTo step n (union seen new) new else seen

end Places

namespace Program

-- The characters around each place of a text.
def contexts (text : List Char) : List (Option Char × Option Char) :=
  (none :: text.map some).zip (text.map some ++ [none])

-- The places after one character that passes a test.
def stepOver (test : Char → Bool) (text : List Char) (ps : Places) : Places :=
  false :: ps.zipWith (fun here c => here && test c) text

mutual

-- The places where matches end that begin at one of some places.
def reach (text : List Char) (around : List (Option Char × Option Char)) :
    Program → Places → Places
  | .empty, ps => ps
  | .literal cs, ps => cs.foldl (fun ps c => stepOver (· == c) text ps) ps
  | .chars _ set, ps => stepOver (set.holds ·.toNat) text ps
  | .look l, ps => ps.zipWith (fun here (before, after) => here && l.holds before after) around
  | .seq parts, ps => reachSeq text around parts ps
  | .either alternatives, ps => reachEither text around alternatives ps
  | .repeated p min max _, ps =>
    let start := Places.times (reach text around p) min ps
    let rounds := match max with
      | some m => Nat.min (m - min) (text.length + 1)
      | none => text.length + 1
    Places.upTo (reach text around p) rounds start start
  | .capture _ p, ps => reach text around p ps

def reachSeq (text : List Char) (around : List (Option Char × Option Char)) :
    List Program → Places → Places
  | [], ps => ps
  | p :: rest, ps => reachSeq text around rest (reach text around p ps)

def reachEither (text : List Char) (around : List (Option Char × Option Char)) :
    List Program → Places → Places
  | [], ps => ps.map fun _ => false
  | p :: rest, ps => Places.union (reach text around p ps) (reachEither text around rest ps)

end

-- Whether a stretch of a text matches.
def matchesIn (p : Program) (text : List Char) : Bool :=
  (p.reach text (contexts text) (true :: text.map fun _ => true)).any id

end Program

end FontCatalog.Pattern
