import FontCatalog.Pattern.ByteForms
import FontCatalog.Pattern.Simplify
import Std.Data.HashMap

/-!
# The size of a program's automaton

A program is run by two automata, one for either direction of the text, which read bytes. A state
takes 32 bytes, and more if it has several ways on: eight for each range of bytes that it reads, or
four for each state that it forks to. Nothing is built here but the count, and nothing is counted
beyond the largest size that is allowed.
-/

namespace FontCatalog.Pattern

open Unicode (Ranges)

namespace Size

/-- Which way an automaton reads. -/
inductive Direction where
  | forward
  | backward
  deriving DecidableEq, Repr

/-- How many states there are, which gives the next one its number, and how many bytes they take. -/
structure Meter where
  states : Nat
  bytes : Nat
  deriving Repr

-- The bytes that an automaton may take.
def maxBytes : Nat := 10485760

namespace Meter

def start : Meter := ⟨0, 0⟩

-- More bytes, if so many are allowed.
def take (m : Meter) (bytes : Nat) : Option Meter :=
  let total := m.bytes + bytes
  if total ≤ maxBytes then some { m with bytes := total } else none

-- Some more states with one way on each.
def plain (m : Meter) (count : Nat) : Option Meter :=
  { m with states := m.states + count }.take (32 * count)

-- A state that reads a byte of several ranges.
def reading (m : Meter) (ranges : Nat) : Option Meter :=
  { m with states := m.states + 1 }.take (32 + 8 * ranges)

-- Ways from forks to other states.
def ways (m : Meter) (count : Nat) : Option Meter := m.take (4 * count)

end Meter

/-- An automaton so far, and whether the part built last ends with a fork. What comes after that
part is one more way of the fork. -/
structure Built where
  meter : Meter
  endsInFork : Bool

namespace Built

-- The end of the part built last led on to another state.
def led (b : Built) : Option Meter := if b.endsInFork then b.meter.ways 1 else some b.meter

end Built

-- A part ends with a state that has one way on.
def plainly (m : Option Meter) : Option Built := m.map (⟨·, false⟩)

-- How a part is added to an automaton.
abbrev Part := Meter → Option Built

/-! ## Characters -/

-- A hash of numbers, continued by one more.
def mix (h : UInt64) (n : Nat) : UInt64 := (h ^^^ n.toUInt64) * 1099511628211

def mixStart : UInt64 := 14695981039346656037

/-- States that need not be built again, each under what it does. There is a place for each rest of
the hash of that, and a later state takes the place of an earlier one. -/
abbrev Kept (α : Type) := Std.HashMap UInt64 (α × Nat)

-- The kept state that does the same.
def kept? {α : Type} [BEq α] (kept : Kept α) (place : UInt64) (what : α) : Option Nat :=
  match kept[place]? with
  | some (other, state) => if other == what then some state else none
  | none => none

/-- A range of bytes with the state that it leads to. -/
structure Arrow where
  bytes : ByteForms.Bytes
  target : Nat
  deriving DecidableEq, Repr

/-- A state whose arrows are not all known: those with a target, last first, and the last one. -/
structure Open where
  arrows : List Arrow
  last : Option ByteForms.Bytes

-- All arrows, with a target for the last one.
def Open.closed (o : Open) (target : Nat) : List Arrow :=
  match o.last with
  | some bytes => ⟨bytes, target⟩ :: o.arrows
  | none => o.arrows

/-- Where the states of a set are built: the automaton so far and the states kept. -/
structure Forward where
  meter : Meter
  kept : Kept (List Arrow)

-- How many places there are for states by their arrows.
def arrowPlaces : UInt64 := 10000

-- A state with some arrows, last first, built unless it was kept.
def Forward.state (f : Forward) (arrows : List Arrow) : Option (Forward × Nat) := do
  let hash := arrows.foldr
    (fun a h => mix (mix (mix h a.bytes.low.toNat) a.bytes.high.toNat) a.target) mixStart
  let place := hash % arrowPlaces
  match kept? f.kept place arrows with
  | some state => return (f, state)
  | none =>
    let meter ← f.meter.reading arrows.length
    return (⟨meter, f.kept.insert place (arrows, f.meter.states)⟩, f.meter.states)

/-- The states of open ones, each of which leads to the next and the last of which to `target`, and
the first of them. -/
def Forward.close (f : Forward) (target : Nat) : List Open → Option (Forward × Nat)
  | [] => some (f, target)
  | o :: deeper => do
    let (f, next) ← f.close target deeper
    f.state (o.closed next)

/-- One more byte form after those before it, which are in order. What it shares with the one before
it stays open. -/
def Forward.add (f : Forward) (target : Nat) :
    List Open → List ByteForms.Bytes → Option (Forward × List Open)
  | o :: deeper, b :: rest =>
    if o.last = some b then do
      let (f, deeper) ← f.add target deeper rest
      return (f, o :: deeper)
    else do
      let (f, next) ← f.close target deeper
      return (f, ⟨o.closed next, some b⟩ :: rest.map fun b => ⟨[], some b⟩)
  | opened, _ => some (f, opened)

-- All byte forms of a set.
def Forward.addAll (f : Forward) (target : Nat) (opened : List Open) :
    List (List ByteForms.Bytes) → Option Forward
  | [] => do return (← f.close target opened).1
  | form :: rest => do
    let (f, opened) ← f.add target opened form
    f.addAll target opened rest

/-- What a state that reads backward does: where it leads, on which bytes. -/
structure Step where
  target : Nat
  bytes : ByteForms.Bytes
  deriving DecidableEq, Repr

-- How many places there are for states by their steps.
def stepPlaces : UInt64 := 1000

-- The states of one byte form, the first byte of which is read last, and the first of them.
def backwardForm (m : Meter) (kept : Kept Step) (target : Nat) :
    List ByteForms.Bytes → Option (Meter × Kept Step)
  | [] => some (m, kept)
  | b :: rest =>
    let place := mix (mix (mix mixStart target) b.low.toNat) b.high.toNat % stepPlaces
    match kept? kept place ⟨target, b⟩ with
    | some state => backwardForm m kept state rest
    | none => do
      let kept := kept.insert place (⟨target, b⟩, m.states)
      backwardForm (← m.plain 1) kept m.states rest

-- All byte forms of a set, each with a way from the fork before them.
def backwardForms (m : Meter) (kept : Kept Step) (target : Nat) :
    List (List ByteForms.Bytes) → Option Meter
  | [] => some m
  | form :: rest => do
    let (m, kept) ← backwardForm m kept target form
    backwardForms (← m.ways 1) kept target rest

-- One character of a set. If it is ASCII, two states suffice.
def ofSet (d : Direction) (set : Ranges) (m : Meter) : Option Meter :=
  if List.all set (·.high < 0x80) then do
    (← m.plain 1).reading set.length
  else
    match d with
    | .forward => do
      let f ← Forward.addAll ⟨← m.plain 1, ∅⟩ m.states [⟨[], none⟩] (ByteForms.ofSet set)
      return f.meter
    | .backward => do
      backwardForms (← m.plain 2) ∅ (m.states + 1) (ByteForms.ofSet set)

/-! ## Choices of literals -/

-- The different first bytes of some texts.
def heads (texts : List (List UInt8)) : List UInt8 := (texts.filterMap List.head?).eraseDups

-- What follows a first byte in some texts.
def tails (texts : List (List UInt8)) (b : UInt8) : List (List UInt8) :=
  texts.filterMap fun
    | c :: cs => if c = b then some cs else none
    | [] => none

-- The texts between those that end. That several end before any goes on counts once.
def stretches (texts : List (List UInt8)) : List (List (List UInt8)) :=
  Text.cut [] (match texts with
    | [] :: rest => [] :: rest.dropWhile (·.isEmpty)
    | texts => texts)

/-- The tree of some texts. Every place where a text goes on is a fork to the texts that end there
and, between them, to states that read the next byte. -/
def tree : (fuel : Nat) → List (List UInt8) → Meter → Option Meter
  | 0, _, m => some m
  | fuel + 1, texts, m =>
    if texts.all (·.isEmpty) then some m
    else do
      let parts := stretches texts
      let going := parts.filter (!·.isEmpty)
      let m ← going.foldlM
        (fun m texts =>
          let bytes := heads texts
          if bytes.length = 1 then m.plain 1 else m.reading bytes.length) m
      let m ← (← m.plain 1).ways (going.length + (parts.length - 1))
      going.foldlM
        (fun m texts => (heads texts).foldlM (fun m b => tree fuel (tails texts b) m) m) m

-- The bytes of a literal in the order in which they are read.
def literalBytes (d : Direction) (text : List Char) : List UInt8 :=
  match d with
  | .forward => Utf8.encode text
  | .backward => (Utf8.encode text).reverse

-- The texts of programs that all are literals.
def literals? : List Program → Option (List (List Char))
  | [] => some []
  | .literal text :: rest => (literals? rest).map (text :: ·)
  | _ :: _ => none

-- A choice of literals: the state after it and the tree before it.
def ofLiterals (d : Direction) (texts : List (List Char)) (m : Meter) : Option Meter := do
  let texts := texts.map (literalBytes d)
  let longest := texts.foldl (fun n t => Nat.max n t.length) 0
  tree (longest + 1) texts (← m.plain 1)

/-! ## Repetitions -/

-- A part some more times after it was built.
def again (part : Part) : Nat → Built → Option Built
  | 0, b => some b
  | n + 1, b => do again part n (← part (← b.led))

-- A part a number of times.
def exactly (part : Part) (n : Nat) (m : Meter) : Option Built :=
  match n with
  | 0 => plainly (m.plain 1)
  | n + 1 => do again part n (← part m)

-- A fork into a part and past it, some times.
def optionally (part : Part) : Nat → Built → Option Built
  | 0, b => some b
  | n + 1, b => do
    let m ← (← b.led).plain 1
    optionally part n (← part (← m.ways 2))

-- A part as often as one likes. If it may be empty, the way back is a fork of its own.
def anyTimes (part : Part) (takesSomething : Bool) (m : Meter) : Option Built :=
  if takesSomething then do
    let b ← part (← m.plain 1)
    return ⟨← (← b.led).ways 1, true⟩
  else do
    let b ← part m
    let m ← (← b.led).plain 3
    return ⟨← m.ways 4, false⟩

/-- A part at least a number of times, which is not zero. The fork after the last time leads
back. -/
def atLeast (part : Part) (n : Nat) (m : Meter) : Option Built := do
  let b ← exactly part n m
  return ⟨← (← (← b.led).plain 1).ways 1, true⟩

-- A part between two numbers of times.
def between (part : Part) (min max : Nat) (m : Meter) : Option Built := do
  let b ← exactly part min m
  if min = max then return b
  else do
    let b ← optionally part (max - min) { b with meter := ← b.meter.plain 1 }
    return ⟨← b.led, false⟩

-- A part once or not at all.
def perhaps (part : Part) (m : Meter) : Option Built := do
  let b ← part (← m.plain 1)
  return ⟨← (← (← b.led).plain 1).ways 2, false⟩

/-! ## Programs -/

mutual

-- A program added to an automaton.
def add (d : Direction) : Program → Part
  | .empty, m => plainly (m.plain 1)
  | .literal text, m => plainly (m.plain (literalBytes d text).length)
  | .chars _ set, m => plainly (ofSet d set m)
  | .look _, m => plainly (m.plain 1)
  | .seq parts, m => addSeq d parts m
  | .either ps, m =>
    match literals? ps with
    | some texts => plainly (ofLiterals d texts m)
    | none => addEither d ps m
  | .repeated p min max _, m =>
    match min, max with
    | 0, some 1 => perhaps (add d p) m
    | 0, none => anyTimes (add d p) p.takesSomething m
    | min, none => atLeast (add d p) min m
    | min, some max => between (add d p) min max m
  | .capture _ p, m =>
    match d with
    | .forward => do
      let b ← add d p (← m.plain 1)
      plainly ((← b.led).plain 1)
    | .backward => add d p m

-- Programs one after another, in the order in which they are read.
def addSeq (d : Direction) : List Program → Part
  | [], m => plainly (m.plain 1)
  | [p], m => add d p m
  | p :: rest, m =>
    match d with
    | .forward => do addSeq d rest (← (← add d p m).led)
    | .backward => do add d p (← (← addSeq d rest m).led)

-- A choice: the first two alternatives, the fork before and the state after all, the others.
def addEither (d : Direction) : List Program → Part
  | [], m => plainly (m.plain 1)
  | [p], m => add d p m
  | p :: q :: rest, m => do
    let m ← (← add d p m).led
    let m ← (← add d q m).led
    let m ← (← m.plain 2).ways 2
    plainly (addOthers d rest m)

def addOthers (d : Direction) : List Program → Meter → Option Meter
  | [], m => some m
  | p :: rest, m => do addOthers d rest (← (← (← add d p m).led).ways 1)

end

mutual

-- Whether every match begins where the text does or, read backward, where it ends.
def isAnchored (d : Direction) : Program → Bool
  | .look .textStart => d = .forward
  | .look .textEnd => d = .backward
  | .seq parts => (isAnchoredSeq d parts).1
  | .either ps => isAnchoredEither d ps
  | .repeated p min _ _ => 0 < min && isAnchored d p
  | .capture _ p => isAnchored d p
  | _ => false

/-- The same for a sequence, of which the parts up to the first that takes something count, and
whether none does. -/
def isAnchoredSeq (d : Direction) : List Program → Bool × Bool
  | [] => (false, true)
  | p :: rest =>
    let (found, allEmpty) := isAnchoredSeq d rest
    match d with
    | .forward => (isAnchored d p || (p.takesNothing && found), allEmpty && p.takesNothing)
    | .backward => (found || (allEmpty && isAnchored d p), allEmpty && p.takesNothing)

def isAnchoredEither (d : Direction) : List Program → Bool
  | [] => true
  | p :: rest => isAnchored d p && isAnchoredEither d rest

end

-- What stands before a program: a loop over any bytes, unless the program is anchored.
def addStart (d : Direction) (p : Program) (m : Meter) : Option Meter :=
  if isAnchored d p then m.plain 1
  else do (← (← m.plain 2).reading 1).ways 2

-- The whole automaton of a program. Forward it keeps the bounds of the match.
def whole (d : Direction) (p : Program) : Option Meter := do
  let m ← addStart d p .start
  match d with
  | .forward =>
    let b ← add d p (← m.plain 1)
    (← b.led).plain 2
  | .backward =>
    let b ← add d p m
    (← b.led).plain 1

/-- How many literals to choose from are too many for an automaton. They are searched for in another
way, of any size. -/
def manyLiterals : Nat := 3000

def isManyLiterals : Program → Bool
  | .either ps => manyLiterals ≤ ps.length && (literals? ps).isSome
  | _ => false

end Size

-- Whether a program is small enough to be run.
def Program.fits (p : Program) : Bool :=
  Size.isManyLiterals p || ((Size.whole .forward p).isSome && (Size.whole .backward p).isSome)

end FontCatalog.Pattern
