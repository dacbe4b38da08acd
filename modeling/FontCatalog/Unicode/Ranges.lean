import FontCatalog.Text.Cut

/-!
# Sets of code points as ranges

A set of code points is a list of ranges, kept apart and in order by `normalize`. Tables write it
as hexadecimal text, `41-5A 5F`.
-/

namespace FontCatalog.Unicode

/-- The code points `low` to `high`, both included. -/
structure Range where
  low : Nat
  high : Nat
  deriving DecidableEq, Repr

def Range.holds (r : Range) (n : Nat) : Bool := r.low ≤ n && n ≤ r.high

-- A set of code points.
abbrev Ranges := List Range

namespace Ranges

def maxCode : Nat := 0x10FFFF

def all : Ranges := [⟨0, maxCode⟩]

-- Whether a code point is in a set.
def holds (rs : Ranges) (n : Nat) : Bool := rs.any (·.holds n)

/-- The code point of the character before that of another. Surrogates are no characters, so `D7FF`
and `E000` are next to each other. -/
def before (n : Nat) : Nat := if n = 0xE000 then 0xD7FF else n - 1

-- The code point of the character after that of another.
def after (n : Nat) : Nat := if n = 0xD7FF then 0xE000 else n + 1

-- Ranges ordered by their ends, with those that touch made one.
def merge : Ranges → Ranges
  | [] => []
  | [r] => [r]
  | r :: s :: rs =>
    if s.low ≤ r.high + 1 then merge (⟨r.low, max r.high s.high⟩ :: rs) else r :: merge (s :: rs)
  termination_by rs => rs.length

-- The same set in order, with a gap between any two ranges.
def normalize (rs : Ranges) : Ranges :=
  merge ((rs.filter fun r => r.low ≤ r.high).mergeSort fun a b => a.low ≤ b.low)

def union (a b : Ranges) : Ranges := normalize (a ++ b)

def unionAll (sets : List Ranges) : Ranges := normalize sets.flatten

-- The range with two ends, whichever is lower.
def between (a b : Nat) : Range := ⟨min a b, max a b⟩

/-- The gaps between ranges that are in order, and the one after the last, from the end of the range
before them. Nothing lies between `D7FF` and `E000`: the ends of a gap there change places, so that
it holds these two. -/
def gapsAfter : Nat → Ranges → Ranges
  | last, [] => if last < maxCode then [⟨after last, maxCode⟩] else []
  | last, r :: rs => between (after last) (before r.low) :: gapsAfter r.high rs

-- All that is in none of some ranges, which are in order.
def complement : Ranges → Ranges
  | [] => all
  | r :: rs =>
    (if 0 < r.low then [⟨0, before r.low⟩] else []) ++ gapsAfter r.high rs

-- What two sets have in common. The ranges of both are in order.
def inter : Ranges → Ranges → Ranges
  | [], _ => []
  | _ :: _, [] => []
  | a :: as, b :: bs =>
    let rest := if a.high < b.high then inter as (b :: bs) else inter (a :: as) bs
    let low := max a.low b.low
    let high := min a.high b.high
    if low ≤ high then ⟨low, high⟩ :: rest else rest
  termination_by as bs => as.length + bs.length

-- What is in the first set and not in the second. The ranges of both are in order.
def diff : Ranges → Ranges → Ranges
  | [], _ => []
  | a :: as, [] => a :: as
  | a :: as, b :: bs =>
    if b.high < a.low then diff (a :: as) bs
    else if a.high < b.low then a :: diff as (b :: bs)
    else
      let kept : Ranges := if a.low < b.low then [⟨a.low, before b.low⟩] else []
      if b.high < a.high then kept ++ diff (⟨after b.high, a.high⟩ :: as) bs
      else kept ++ diff as (b :: bs)
  termination_by as bs => as.length + bs.length

-- What is in one of two sets and not in both.
def symmDiff (a b : Ranges) : Ranges := diff (union a b) (inter a b)

-- The value of hexadecimal digits, upper case.
def hexValue (s : List Char) : Nat :=
  s.foldl (fun n c => 16 * n + (if c.isDigit then c.toNat - 48 else c.toNat - 55)) 0

-- One range of a table.
def rangeOfText (s : List Char) : Range :=
  let low := s.takeWhile (· ≠ '-')
  match s.drop low.length with
  | [] => ⟨hexValue low, hexValue low⟩
  | _ :: high => ⟨hexValue low, hexValue high⟩

-- The words of a table, with blanks or line ends between them.
def words (s : String) : List (List Char) :=
  ((Text.cut '\n' s.toList).flatMap (Text.cut ' ')).filter fun w => !w.isEmpty

-- A set as a table writes it.
def ofText (s : String) : Ranges := (words s).map rangeOfText

end Ranges

end FontCatalog.Unicode
