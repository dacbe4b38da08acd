import FontCatalog.Number.Digits
import FontCatalog.Pattern.Expr
import FontCatalog.Text.Blank
import FontCatalog.Unicode.Later

/-!
# Parts of a pattern without inner structure

Escapes, numbers, names and flags, read from the front of a pattern. With blanks ignored, white
space and comments may stand between the characters of most of them. Nothing comes back for what is
malformed.
-/

namespace FontCatalog.Pattern

-- What is read from the front of a pattern, with the rest.
abbrev Lexical (α : Type) := List Char → Option (α × List Char)

namespace Lexical

/-! ## Blanks and comments -/

-- The text after white space and comments, from inside a comment or not.
def skipFrom : (inComment : Bool) → List Char → List Char
  | _, [] => []
  | true, c :: cs => skipFrom (c ≠ '\n') cs
  | false, c :: cs =>
    if Text.isBlank c then skipFrom false cs
    else if c = '#' then skipFrom true cs
    else c :: cs

-- The text after what is ignored, if blanks are.
def skip (blanks : Bool) (s : List Char) : List Char :=
  if blanks then skipFrom false s else s

-- The character that a look ahead over blanks and the sign of a comment finds.
def lookOver : (inComment : Bool) → List Char → Option Char
  | _, [] => none
  | inComment, c :: cs =>
    if Text.isBlank c then lookOver inComment cs
    else if !inComment && c == '#' then lookOver true cs
    else some c

-- The character after the next one.
def peek (blanks : Bool) : List Char → Option Char
  | [] => none
  | _ :: cs => if blanks then (lookOver false cs).or cs.head? else cs.head?

/-! ## Numbers -/

-- Decimal digits with their value, blanks among them skipped.
def digits (blanks : Bool) : (fuel : Nat) → List Char → List Char × List Char
  | 0, s => ([], s)
  | _ + 1, [] => ([], [])
  | fuel + 1, c :: cs =>
    if '0' ≤ c ∧ c ≤ '9' then
      let (ds, rest) := digits blanks fuel (skip blanks cs)
      (c :: ds, rest)
    else ([], c :: cs)

-- A decimal number of 32 bits with white space around it.
def decimal (blanks : Bool) : Lexical Nat := fun s =>
  let s := s.dropWhile Text.isBlank
  let (ds, rest) := digits blanks (s.length + 1) s
  match ds with
  | [] => none
  | ds =>
    match Number.readDigits 10 0xFFFFFFFF 0 ds with
    | .ok n => some (n, skip blanks (rest.dropWhile Text.isBlank))
    | .error _ => none

-- The character with a number.
def charOf (n : Nat) : Option Char :=
  if n.isValidChar then some (Char.ofNat n) else none

-- As many hexadecimal digits as asked for, continuing a number.
def hexFixed (blanks : Bool) : (count : Nat) → (acc : Nat) → Lexical Nat
  | 0, acc, s => some (acc, s)
  | _ + 1, _, [] => none
  | count + 1, acc, c :: cs => do
    hexFixed blanks count (acc * 16 + (← Number.digitIn? 16 c)) (skip blanks cs)

-- Hexadecimal digits up to a closing brace, continuing a number.
def hexBraced (blanks : Bool) : (fuel : Nat) → (some_ : Bool) → (acc : Nat) → Lexical Nat
  | 0, _, _, _ => none
  | _ + 1, _, _, [] => none
  | fuel + 1, any, acc, c :: cs =>
    if c = '\x7d' then (if any then some (acc, skip blanks cs) else none)
    else do hexBraced blanks fuel true (acc * 16 + (← Number.digitIn? 16 c)) (skip blanks cs)

-- A character by its number, from after the letter that says how many digits there are.
def hex (blanks : Bool) (count : Nat) : Lexical Literal := fun s => do
  match skip blanks s with
  | [] => none
  | '\x7b' :: t =>
    let t := skip blanks t
    let (n, rest) ← hexBraced blanks (t.length + 1) false 0 t
    return (⟨← charOf n, false⟩, rest)
  | t =>
    let (n, rest) ← hexFixed blanks count 0 t
    return (⟨← charOf n, count == 2⟩, rest)

/-! ## Names -/

-- The text up to a closing brace, blanks dropped.
def braced (blanks : Bool) : (fuel : Nat) → Lexical (List Char)
  | 0, _ => none
  | _ + 1, [] => none
  | fuel + 1, c :: cs =>
    if c = '\x7d' then some ([], cs)
    else do
      let (name, rest) ← braced blanks fuel (skip blanks cs)
      return (c :: name, rest)

-- A text cut where a separator begins for the first time, without the separator.
def cutAt (separator : List Char) : List Char → Option (List Char × List Char)
  | [] => none
  | c :: cs =>
    if separator.isPrefixOf (c :: cs) then some ([], (c :: cs).drop separator.length)
    else (cutAt separator cs).map fun (before, rest) => (c :: before, rest)

/-- A property query, and whether it asks for all else. A name and its value stand on either side of
`:` or `=`, or of `!=` for the characters that have not that value. -/
def query (s : List Char) : PropertyQuery × Bool :=
  match cutAt ['!', '='] s with
  | some (name, value) => (.value name value, true)
  | none =>
    match (cutAt [':'] s).or (cutAt ['='] s) with
    | some (name, value) => (.value name value, false)
    | none => (.name s, false)

-- A property, from after the `p`: one letter, or a name in braces.
def property (blanks : Bool) : Lexical (PropertyQuery × Bool) := fun s => do
  match skip blanks s with
  | [] => none
  | '\x7b' :: t =>
    let t := skip blanks t
    let (name, rest) ← braced blanks (t.length + 1) t
    return (query name, rest)
  | c :: t => if c = '\\' then none else return ((.name [c], false), skip blanks t)

-- Whether a character may stand in the name of a group.
def isNameChar (first : Bool) (c : Char) : Bool :=
  let isAlphabetic := Unicode.Later.alphabetic.holds c.toNat
  if first then c == '_' || isAlphabetic
  else c == '_' || c == '.' || c == '[' || c == ']' || isAlphabetic ||
    Unicode.Later.numbers.holds c.toNat

-- The name of a group, from after its `<`.
def groupName : Lexical (List Char) := fun s =>
  let name := s.takeWhile (· ≠ '>')
  match name, s.drop name.length with
  | c :: cs, _ :: rest =>
    if isNameChar true c && cs.all (isNameChar false) then some (c :: cs, rest) else none
  | _, _ => none

/-! ## Flags -/

def flag : Char → Option Flag
  | 'i' => some .caseInsensitive
  | 'm' => some .multiLine
  | 's' => some .dotMatchesNewLine
  | 'U' => some .swapGreed
  | 'u' => some .unicode
  | 'R' => some .crlf
  | 'x' => some .ignoreWhitespace
  | _ => none

/-- Flags up to a colon or a closing parenthesis, which stays. Each flag stands at most once, and
the hyphen before those to clear stands before at least one. -/
def flags : (negated : Bool) → (dangling : Bool) → List FlagSetting → Lexical (List FlagSetting)
  | _, _, _, [] => none
  | negated, dangling, found, c :: cs =>
    if c = ':' ∨ c = ')' then (if dangling then none else some (found.reverse, c :: cs))
    else if c = '-' then (if negated then none else flags true true found cs)
    else do
      let f ← flag c
      if found.any (·.1 == f) then none else flags negated false ((f, !negated) :: found) cs

/-! ## Escapes -/

/-- What is not put together from parts of its own. -/
inductive Primitive where
  | literal (l : Literal)
  | assertion (a : Assertion)
  | named (c : NamedClass) (negated : Bool)
  deriving Repr

-- Characters that mean something in a pattern.
def isMeta (c : Char) : Bool :=
  "\\.+*?()|[]\x7b\x7d^$#&-~".toList.contains c

/-- Characters that may be escaped though they mean nothing: the ASCII ones but letters, digits and
angle brackets. -/
def isEscapable (c : Char) : Bool :=
  isMeta c || (c.toNat < 0x80 && !c.isAlphanum && c != '<' && c != '>')

-- What follows `\b` in braces, if that is not a repetition.
def wordAssertion (blanks : Bool) : Lexical Assertion := fun s =>
  let isLetter (c : Char) : Bool := c.isAlpha || c == '-'
  match s with
  | '\x7b' :: t =>
    match skip blanks t with
    | [] => none
    | c :: cs =>
      if isLetter c then do
        let (name, rest) ← braced blanks (cs.length + 2) (c :: cs)
        if name = "start".toList then return (.wordStart, rest)
        else if name = "end".toList then return (.wordEnd, rest)
        else if name = "start-half".toList then return (.wordStartHalf, rest)
        else if name = "end-half".toList then return (.wordEndHalf, rest)
        else none
      else some (.wordBoundary, s)
  | _ => some (.wordBoundary, s)

-- An escape, from after its backslash.
def escape (blanks : Bool) : Lexical Primitive
  | [] => none
  | c :: s =>
    let literal (c : Char) : Option (Primitive × List Char) := some (.literal ⟨c, false⟩, s)
    let named (k : NamedClass) (negated : Bool) : Option (Primitive × List Char) :=
      some (.named k negated, s)
    let assertion (a : Assertion) : Option (Primitive × List Char) := some (.assertion a, s)
    let number (count : Nat) : Option (Primitive × List Char) :=
      (hex blanks count s).map fun (l, rest) => (.literal l, rest)
    let property (negated : Bool) : Option (Primitive × List Char) :=
      (property blanks s).map fun ((q, differs), rest) =>
        (.named (.property q) (negated != differs), rest)
    match c with
    | 'x' => number 2
    | 'u' => number 4
    | 'U' => number 8
    | 'p' => property false
    | 'P' => property true
    | 'd' => named .digit false
    | 'D' => named .digit true
    | 's' => named .space false
    | 'S' => named .space true
    | 'w' => named .word false
    | 'W' => named .word true
    | 'a' => literal '\x07'
    | 'f' => literal '\x0c'
    | 't' => literal '\t'
    | 'n' => literal '\n'
    | 'r' => literal '\r'
    | 'v' => literal '\x0b'
    | 'A' => assertion .textStart
    | 'z' => assertion .textEnd
    | 'b' => (wordAssertion blanks s).map fun (a, rest) => (.assertion a, rest)
    | 'B' => assertion .notWordBoundary
    | '<' => assertion .wordStart
    | '>' => assertion .wordEnd
    | _ => if isEscapable c then literal c else none

end Lexical

end FontCatalog.Pattern
