import FontCatalog.Text.Blank

/-!
# Character classes of XML

The characters that an XML document may hold, and the ones that begin and continue a name.
-/

namespace FontCatalog.Xml

-- Whether a number lies in one of some ranges.
def inRanges (rs : List (Nat × Nat)) (n : Nat) : Bool :=
  rs.any fun (low, high) => low ≤ n && n ≤ high

-- The characters beyond ASCII that begin a name.
def nameStartRanges : List (Nat × Nat) :=
  [(0xC0, 0xD6), (0xD8, 0xF6), (0xF8, 0x2FF), (0x370, 0x37D), (0x37F, 0x1FFF), (0x200C, 0x200D),
   (0x2070, 0x218F), (0x2C00, 0x2FEF), (0x3001, 0xD7FF), (0xF900, 0xFDCF), (0xFDF0, 0xFFFD),
   (0x10000, 0xEFFFF)]

-- The further characters beyond ASCII that continue a name.
def nameMoreRanges : List (Nat × Nat) :=
  [(0xB7, 0xB7), (0x300, 0x36F), (0x203F, 0x2040)]

def isAsciiLetter (c : Char) : Bool :=
  ('A' ≤ c && c ≤ 'Z') || ('a' ≤ c && c ≤ 'z')

def isAsciiDigit (c : Char) : Bool :=
  '0' ≤ c && c ≤ '9'

-- The characters that begin a name.
def isNameStart (c : Char) : Bool :=
  isAsciiLetter c || c == ':' || c == '_' || inRanges nameStartRanges c.toNat

-- The characters that continue a name.
def isNameChar (c : Char) : Bool :=
  isNameStart c || isAsciiDigit c || c == '-' || c == '.' || inRanges nameMoreRanges c.toNat

/-- The characters of a document: no control characters but white space, and no `U+FFFE` or
`U+FFFF`. -/
def isXmlChar (c : Char) : Bool :=
  if c.toNat < 0x20 then Text.isXmlBlank c else c.toNat != 0xFFFE && c.toNat != 0xFFFF

-- No document holds the character NUL.
theorem isXmlChar_nul : isXmlChar '\x00' = false := by decide

end FontCatalog.Xml
