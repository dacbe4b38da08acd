import FontCatalog.Number.Digits
import FontCatalog.Unicode.Later

/-!
# Quoted texts

A text in double quotes that shows every character: quotes, backslashes and the usual control
characters by a letter, and characters that have no shape of their own by their number.
-/

namespace FontCatalog.Text

/-- The two marks of Japanese sounds that take a place of their own though they extend the character
before them. -/
def soundMarks : Unicode.Ranges := [⟨0xFF9E, 0xFF9F⟩]

/-- The characters that do not show themselves on their own: those without a shape, those that may
be ignored, and marks on the character before them. -/
def hidden : Unicode.Ranges :=
  Unicode.Ranges.unionAll [Unicode.Later.shapeless,
    Unicode.Property.ranges "defaultignorablecodepoint",
    Unicode.Later.graphemeExtend.diff soundMarks]

-- Whether a character shows itself on its own.
def isVisible (c : Char) : Bool :=
  if c.toNat < 0x7F then 0x20 ≤ c.toNat else !hidden.holds c.toNat

-- How one character stands in a quoted text.
def quotedChar (c : Char) : List Char :=
  if c = '\x00' then ['\\', '0']
  else if c = '\t' then ['\\', 't']
  else if c = '\r' then ['\\', 'r']
  else if c = '\n' then ['\\', 'n']
  else if c = '"' then ['\\', '"']
  else if c = '\\' then ['\\', '\\']
  else if isVisible c then [c]
  else ['\\', 'u', '\x7b'] ++ Number.hexadecimal c.toNat ++ ['\x7d']

-- A text in quotes.
def quoted (s : List Char) : List Char :=
  '"' :: (s.flatMap quotedChar ++ ['"'])

end FontCatalog.Text
