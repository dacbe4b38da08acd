import FontCatalog.Number.Digits
import FontCatalog.Text.Blank

/-!
# Weight ranges

A range of font weights, written as one weight or as its two bounds with a hyphen between them.
-/

namespace FontCatalog

/-- The weights from `low` to `high`, both included. With `high` below `low` it is empty. -/
structure WeightRange where
  low : UInt16
  high : UInt16
  deriving DecidableEq, Repr

namespace WeightRange

def holds (r : WeightRange) (w : UInt16) : Bool := r.low ≤ w && w ≤ r.high

/-- Why a text is no weight range. -/
inductive ParseError where
  /-- One side is no weight. -/
  | invalidWeight (token : String) (cause : Number.DigitsError)
  | reversed (text : String)
  deriving DecidableEq, Repr

namespace ParseError

def message : ParseError → String
  | invalidWeight token _ => "invalid weight: " ++ token
  | reversed text => "weight range is reversed: " ++ text

-- What lies behind an error.
def cause? : ParseError → Option String
  | invalidWeight _ cause => some cause.message
  | reversed _ => none

end ParseError

-- A weight with blanks around it.
def parseWeight (token : List Char) : Except ParseError UInt16 :=
  match Number.readUInt16 (Text.trim Text.isBlank token) with
  | .ok w => .ok w
  | .error e => .error (.invalidWeight (String.ofList token) e)

-- The range that a text denotes.
def parse (text : String) : Except ParseError WeightRange := do
  let body := Text.trim Text.isBlank text.toList
  let (low, high) ←
    match body.dropWhile (· != '-') with
    | _ :: rest => do
      let low ← parseWeight (body.takeWhile (· != '-'))
      let high ← parseWeight rest
      pure (low, high)
    | [] => do
      let w ← parseWeight body
      pure (w, w)
  if high < low then throw (.reversed (String.ofList body)) else return ⟨low, high⟩

-- The written form of a range.
def toText (r : WeightRange) : String :=
  let low := Number.decimal r.low.toNat
  String.ofList (if r.low = r.high then low else low ++ '-' :: Number.decimal r.high.toNat)

end WeightRange

end FontCatalog
