import FontCatalog.Pattern.Program

/-!
# Programs in simplest form

Programs are put together so that no part is idle: sequences and choices are not nested,
neighbouring literals are one, single characters to choose from are a set, and what all alternatives
begin with stands before the choice. None of this changes what matches, but it decides how large the
automaton of a program is.
-/

namespace FontCatalog.Pattern

open Unicode (Ranges)

namespace Program

-- Matches nothing.
def never : Program := .chars false []

/-! ## Lengths -/

-- The sum of two numbers, if both are there.
def plus (a b : Option Nat) : Option Nat := do return (← a) + (← b)

mutual

/-- How few characters a match may take. Nothing comes back for a program with a part that matches
nothing. -/
def minLength : Program → Option Nat
  | .empty => some 0
  | .literal text => some text.length
  | .chars _ set => if set.isEmpty then none else some 1
  | .look _ => some 0
  | .seq parts => minLengthSeq parts
  | .either [] => none
  | .either (p :: rest) => minLengthEither p.minLength rest
  | .repeated p min _ _ => p.minLength.map (min * ·)
  | .capture _ p => p.minLength

def minLengthSeq : List Program → Option Nat
  | [] => some 0
  | p :: rest => plus p.minLength (minLengthSeq rest)

def minLengthEither (least : Option Nat) : List Program → Option Nat
  | [] => least
  | p :: rest => minLengthEither (do return Nat.min (← least) (← p.minLength)) rest

end

mutual

-- How many characters a match may take, if there is a bound.
def maxLength : Program → Option Nat
  | .empty => some 0
  | .literal text => some text.length
  | .chars _ set => if set.isEmpty then none else some 1
  | .look _ => some 0
  | .seq parts => maxLengthSeq parts
  | .either [] => none
  | .either (p :: rest) => maxLengthEither p.maxLength rest
  | .repeated p _ max _ => do return (← max) * (← p.maxLength)
  | .capture _ p => p.maxLength

def maxLengthSeq : List Program → Option Nat
  | [] => some 0
  | p :: rest => plus p.maxLength (maxLengthSeq rest)

def maxLengthEither (most : Option Nat) : List Program → Option Nat
  | [] => most
  | p :: rest => maxLengthEither (do return Nat.max (← most) (← p.maxLength)) rest

end

-- Whether a match is always empty.
def takesNothing (p : Program) : Bool := p.maxLength == some 0

-- Whether a match is never empty.
def takesSomething (p : Program) : Bool := p.minLength.any (0 < ·)

/-! ## Comparing -/

mutual

-- Whether two programs are the same.
def same : Program → Program → Bool
  | .empty, .empty => true
  | .literal a, .literal b => a == b
  | .chars u a, .chars v b => u == v && a == b
  | .look a, .look b => a == b
  | .seq as, .seq bs => sameAll as bs
  | .either as, .either bs => sameAll as bs
  | .repeated p a b g, .repeated q c d h => same p q && a == c && b == d && g == h
  | .capture i p, .capture j q => i == j && same p q
  | _, _ => false

def sameAll : List Program → List Program → Bool
  | [], [] => true
  | p :: ps, q :: qs => same p q && sameAll ps qs
  | _, _ => false

end

-- What two sequences both begin with.
def sharedStart : List Program → List Program → List Program
  | p :: ps, q :: qs => if same p q then p :: sharedStart ps qs else []
  | _, _ => []

/-! ## Putting together -/

-- One character of a set.
def ofSet (unicode : Bool) (set : Ranges) : Program :=
  match set with
  | [] => never
  | [r] => if r.low = r.high then .literal [Char.ofNat r.low] else .chars unicode set
  | _ => .chars unicode set

-- The parts of a program that matches them one after another.
def parts : Program → List Program
  | .empty => []
  | .seq ps => ps
  | p => [p]

-- Parts with every run of literals made one.
def joinLiterals : List Program → List Program
  | [] => []
  | .literal a :: rest =>
    match joinLiterals rest with
    | .literal b :: rest => .literal (a ++ b) :: rest
    | rest => .literal a :: rest
  | p :: rest => p :: joinLiterals rest

-- Programs one after another.
def ofParts (ps : List Program) : Program :=
  match joinLiterals (ps.flatMap parts) with
  | [] => .empty
  | [p] => p
  | ps => .seq ps

-- The programs that a program chooses from.
def alternatives : Program → List Program
  | .either ps => ps
  | p => [p]

-- The set that a program is one character of, written as a single character or as a class.
def charSet? : Program → Option Ranges
  | .literal [c] => some [⟨c.toNat, c.toNat⟩]
  | _ => none

def classSet? : Program → Option Ranges
  | .chars _ set => some set
  | _ => none

-- The parts of programs that all are sequences.
def sequences? : List Program → Option (List (List Program))
  | [] => some []
  | .seq ps :: rest => (sequences? rest).map (ps :: ·)
  | _ :: _ => none

mutual

-- How many programs a program is made of.
def count : Program → Nat
  | .seq ps => countAll ps + 1
  | .either ps => countAll ps + 1
  | .repeated p _ _ _ => p.count + 1
  | .capture _ p => p.count + 1
  | _ => 1

def countAll : List Program → Nat
  | [] => 0
  | p :: rest => p.count + countAll rest

end

/-- Programs to choose from. What all of them begin with is taken out, and what is left over is
looked at again: it is made of fewer programs. -/
def choice : (fuel : Nat) → List Program → Program
  | fuel, ps =>
    match ps.flatMap alternatives with
    | [] => never
    | [p] => p
    | ps =>
      match (ps.mapM charSet?).or (ps.mapM classSet?) with
      | some sets => ofSet true (Ranges.unionAll sets)
      | none =>
        match fuel, sequences? ps with
        | fuel + 1, some (first :: rest) =>
          let start := rest.foldl sharedStart first
          if start.isEmpty then .either ps
          else
            let left := (first :: rest).map fun parts => ofParts (parts.drop start.length)
            ofParts (start ++ [choice fuel left])
        | _, _ => .either ps

-- Programs to choose from.
def ofAlternatives (ps : List Program) : Program := choice (countAll ps) ps

-- A program repeated. One that takes nothing need not be repeated.
def ofRepetition (p : Program) (min : Nat) (max : Option Nat) (greedy : Bool) : Program :=
  let (min, max) :=
    if p.takesNothing then (Nat.min min 1, some (Nat.min (max.getD 1) 1)) else (min, max)
  if min = 0 ∧ max = some 0 then .empty
  else if min = 1 ∧ max = some 1 then p
  else .repeated p min max greedy

end Program

end FontCatalog.Pattern
