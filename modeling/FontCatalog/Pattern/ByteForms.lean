import FontCatalog.Text.Utf8
import FontCatalog.Unicode.Ranges

/-!
# Ranges of characters as ranges of bytes

Characters take one to four bytes. A range of characters is cut into pieces in which every byte can
be chosen by itself: a piece is a list of ranges of bytes, and the encodings of its characters are
the choices of one byte from each.
-/

namespace FontCatalog.Pattern

open Unicode (Range Ranges)

namespace ByteForms

/-- The bytes `low` to `high`, both included. -/
structure Bytes where
  low : UInt8
  high : UInt8
  deriving DecidableEq, Repr

-- The part of a range inside another, if there is one.
def within (outer r : Range) : Option Range :=
  let low := max outer.low r.low
  let high := min outer.high r.high
  if low ≤ high then some ⟨low, high⟩ else none

-- The characters of one length, from one byte to four. Surrogates are left out.
def lengths : Ranges :=
  [⟨0, 0x7F⟩, ⟨0x80, 0x7FF⟩, ⟨0x800, 0xD7FF⟩, ⟨0xE000, 0xFFFF⟩, ⟨0x10000, 0x10FFFF⟩]

/-- Ranges that begin and end where blocks of code points do, unless they lie in one block, cut for
each of some sizes of blocks in turn. -/
def cutAtBlocks : (sizes : List Nat) → Range → Ranges
  | [], r => [r]
  | size :: sizes, r =>
    if r.low / size = r.high / size then [r]
    else
      let low := if r.low % size = 0 then r.low else (r.low / size + 1) * size
      let start : Ranges := if low = r.low then [] else [⟨r.low, low - 1⟩]
      if low / size = r.high / size then start ++ [⟨low, r.high⟩]
      else
        let high := if r.high % size = size - 1 then r.high else r.high / size * size - 1
        let finish : Ranges := if high = r.high then [] else [⟨high + 1, r.high⟩]
        start ++ cutAtBlocks sizes ⟨low, high⟩ ++ finish

/-- How many characters share all bytes but the last one, two or three. A character of one byte
shares nothing. -/
def blockSizes (r : Range) : List Nat := if r.high < 0x80 then [] else [0x40, 0x1000, 0x40000]

-- The ranges of bytes between the encodings of the ends of a piece.
def ofPiece (r : Range) : List Bytes :=
  (Utf8.encode [Char.ofNat r.low]).zipWith (fun low high => ⟨low, high⟩)
    (Utf8.encode [Char.ofNat r.high])

-- The byte forms of a range of characters in order.
def ofRange (r : Range) : List (List Bytes) :=
  (lengths.filterMap (within · r)).flatMap fun r => (cutAtBlocks (blockSizes r) r).map ofPiece

def ofSet (set : Ranges) : List (List Bytes) := set.flatMap ofRange

end ByteForms

end FontCatalog.Pattern
