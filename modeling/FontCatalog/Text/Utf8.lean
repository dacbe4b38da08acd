/-!
# UTF-8

Reading bytes as characters. Every byte sequence reads as a list of pieces: characters, stretches
that no character begins with, and at most one character cut off by the end. Strict reading asks
for characters alone; lossy reading puts `U+FFFD` for every other piece.
-/

namespace FontCatalog.Utf8

/-- What a stretch of bytes stands for. -/
inductive Piece where
  /-- A character in its only encoding. -/
  | char (c : Char)
  /-- `width` bytes that begin no character: the longest part that could still have begun one. -/
  | invalid (width : Nat)
  /-- The bytes end inside a character. -/
  | incomplete
  deriving DecidableEq, Repr

/-- Where the reader stands between two bytes. -/
inductive State where
  | start
  /-- Inside a character: `acc` holds the bits so far, `got` bytes were read, `more` are owed, and
  the next one lies between `low` and `high`. -/
  | inside (acc got more : Nat) (low high : UInt8)
  deriving DecidableEq, Repr

-- The reader after a first byte.
def lead (b : UInt8) : List Piece × State :=
  if b < 0x80 then ([.char (Char.ofNat b.toNat)], .start)
  else if 0xC2 ≤ b ∧ b ≤ 0xDF then ([], .inside (b.toNat - 0xC0) 1 1 0x80 0xBF)
  else if b = 0xE0 then ([], .inside 0 1 2 0xA0 0xBF)
  else if b = 0xED then ([], .inside 0xD 1 2 0x80 0x9F)
  else if 0xE1 ≤ b ∧ b ≤ 0xEF then ([], .inside (b.toNat - 0xE0) 1 2 0x80 0xBF)
  else if b = 0xF0 then ([], .inside 0 1 3 0x90 0xBF)
  else if 0xF1 ≤ b ∧ b ≤ 0xF3 then ([], .inside (b.toNat - 0xF0) 1 3 0x80 0xBF)
  else if b = 0xF4 then ([], .inside 4 1 3 0x80 0x8F)
  else ([.invalid 1], .start)

/-- The reader after one more byte. A byte that cannot continue a character is read again as a
first byte. -/
def step (s : State) (b : UInt8) : List Piece × State :=
  match s with
  | .start => lead b
  | .inside acc got more low high =>
    if low ≤ b ∧ b ≤ high then
      let acc := acc * 64 + (b.toNat - 0x80)
      if more ≤ 1 then ([.char (Char.ofNat acc)], .start)
      else ([], .inside acc (got + 1) (more - 1) 0x80 0xBF)
    else
      let (pieces, s) := lead b
      (.invalid got :: pieces, s)

-- The pieces of a byte sequence, from a given state of the reader.
def piecesFrom : State → List UInt8 → List Piece
  | .start, [] => []
  | .inside .., [] => [.incomplete]
  | s, b :: bs => (step s b).1 ++ piecesFrom (step s b).2 bs

-- The pieces of a byte sequence.
def pieces (bytes : List UInt8) : List Piece :=
  piecesFrom .start bytes

/-- Why bytes are not UTF-8: the first piece that is no character, and where it begins. -/
inductive Error where
  | invalid (width index : Nat)
  | incomplete (index : Nat)
  deriving DecidableEq, Repr

def Error.message : Error → String
  | .invalid width index =>
    "invalid utf-8 sequence of " ++ toString width ++ " bytes from index " ++ toString index
  | .incomplete index => "incomplete utf-8 byte sequence from index " ++ toString index

-- The characters of pieces that begin at byte `index`.
def charsFrom : Nat → List Piece → Except Error (List Char)
  | _, [] => .ok []
  | index, .char c :: ps => (charsFrom (index + c.utf8Size) ps).map (c :: ·)
  | index, .invalid width :: _ => .error (.invalid width index)
  | index, .incomplete :: _ => .error (.incomplete index)

-- Strict reading.
def decode (bytes : List UInt8) : Except Error (List Char) :=
  charsFrom 0 (pieces bytes)

-- The character shown for a piece.
def Piece.shown : Piece → Char
  | .char c => c
  | .invalid _ => '\uFFFD'
  | .incomplete => '\uFFFD'

-- Lossy reading: one `U+FFFD` for every piece that is no character.
def decodeLossy (bytes : List UInt8) : List Char :=
  (pieces bytes).map Piece.shown

-- The bytes of a text.
def encode (text : List Char) : List UInt8 :=
  text.flatMap String.utf8EncodeChar

-- Strict reading of a whole text.
def decodeString (bytes : List UInt8) : Except Error String :=
  (decode bytes).map String.ofList

-- Lossy reading of a whole text.
def decodeStringLossy (bytes : List UInt8) : String :=
  String.ofList (decodeLossy bytes)

-- The bytes of a string.
def encodeString (text : String) : List UInt8 :=
  encode text.toList

end FontCatalog.Utf8
