import FontCatalog.Number.Digits
import FontCatalog.Xml.Doctype

/-!
# References, line ends and attribute values

What raw text stands for. A reference names a character or an entity; entities refer to others in
turn, down to ten levels, and below the first level an outermost reference leads to at most 255
others. Line ends become `\n` in text, and white space becomes blanks in attribute values. A
character reference outside any entity gives its character as it is.
-/

namespace FontCatalog.Xml

/-- What a reference stands for. -/
inductive Reference where
  | char (c : Char)
  | entity (name : List Char)
  deriving DecidableEq, Repr

-- The number that digits of a radix denote, if it fits into 32 bits.
def referenceNumber (radix : Nat) (digits : List Char) : Option Nat :=
  match digits with
  | [] => none
  | _ =>
    match Number.readDigits radix 0xFFFFFFFF 0 digits with
    | .ok n => some n
    | .error _ => none

-- The character with a number; numbers of no character give `U+FFFD`.
def referenceChar (n : Nat) : Char :=
  if n.isValidChar then Char.ofNat n else '\uFFFD'

-- The character or entity that a name refers to.
def namedReference (name : List Char) : Reference :=
  if name = "quot".toList then .char '"'
  else if name = "amp".toList then .char '&'
  else if name = "apos".toList then .char '\''
  else if name = "lt".toList then .char '<'
  else if name = "gt".toList then .char '>'
  else .entity name

-- A reference, from after its `&`.
def Scan.reference : Scan Reference := fun s => do
  let (r, rest) ←
    match s with
    | '#' :: s =>
      let (radix, s) := match s with
        | 'x' :: t => (16, t)
        | t => (10, t)
      let isDigit (c : Char) : Bool := (Number.digitIn? radix c).isSome
      match (referenceNumber radix (s.takeWhile isDigit)).map referenceChar with
      | some c => if isXmlChar c then some (Reference.char c, s.dropWhile isDigit) else none
      | none => none
    | s => (name s).map fun (n, rest) => (namedReference n, rest)
  match rest with
  | ';' :: rest => return (r, rest)
  | _ => none

/-- Raw text as characters and references. -/
inductive Run where
  | char (c : Char)
  | reference (r : Reference)
  /-- No reference begins here though one should. Nothing follows. -/
  | malformed
  deriving DecidableEq, Repr

-- The characters and references of raw text. A reference takes at least one character.
def runs : (fuel : Nat) → List Char → List Run
  | 0, _ => [.malformed]
  | _ + 1, [] => []
  | fuel + 1, '&' :: s =>
    match Scan.reference s with
    | some (r, rest) => .reference r :: runs fuel rest
    | none => [.malformed]
  | fuel + 1, c :: s => .char c :: runs fuel s

-- The characters and references of a whole text.
def runsOf (raw : List Char) : List Run :=
  runs (raw.length + 1) raw

/-! ## Counting references -/

/-- How far entities are nested: `room` is the number of levels left of ten, and `used` counts the
references followed since the outermost. -/
structure Nesting where
  room : Nat
  used : Nat
  deriving DecidableEq, Repr

namespace Nesting

def maxDepth : Nat := 10
def maxReferences : Nat := 255

def outermost : Nesting := ⟨maxDepth, 0⟩

-- Whether no entity is open.
def isOutermost (n : Nesting) : Bool := n.room == maxDepth

-- Inside one more entity.
def enter (n : Nesting) : Option Nesting :=
  match n.room with
  | 0 => none
  | room + 1 =>
    if n.isOutermost then some ⟨room, n.used⟩
    else if n.used = maxReferences then none
    else some ⟨room, n.used + 1⟩

-- Back at `outer` after an entity, with what was counted inside it.
def leave (outer inner : Nesting) : Nesting :=
  ⟨outer.room, if outer.isOutermost then 0 else inner.used⟩

end Nesting

-- The replacement text of an entity: that of the first declaration of its name.
def lookupEntity (entities : List Entity) (name : List Char) : Option (List Char) :=
  (entities.find? (·.name == name)).map (·.value)

/-! ## Attribute values -/

-- Blanks in place of white space.
def flatten (c : Char) : Char :=
  if c = '\n' ∨ c = '\r' ∨ c = '\t' then ' ' else c

/-- Attribute values, with the text of entities by `enter`. Of the two characters of a line end one
is dropped. Inside an entity, references to characters are normalised too, and none may stand for
`<`. -/
def normalizeRuns (enter : Nesting → List Char → Option (List Char × Nesting)) :
    Nesting → List Run → Option (List Char × Nesting)
  | n, [] => some ([], n)
  | n, .char c :: rs => do
    let (cs, n) ← normalizeRuns enter n rs
    if c = '\r' ∧ rs.head? = some (.char '\n') then return (cs, n)
    else return (flatten c :: cs, n)
  | n, .reference (.char c) :: rs => do
    if !n.isOutermost && c == '<' then none
    else
      let c := if n.isOutermost then c else flatten c
      let (cs, n) ← normalizeRuns enter n rs
      return (c :: cs, n)
  | n, .reference (.entity name) :: rs => do
    let (inner, n) ← enter n name
    let (cs, n) ← normalizeRuns enter n rs
    return (inner ++ cs, n)
  | _, .malformed :: _ => none

-- The normalised form of an attribute value, through at most `levels` further entities.
def normalizeValue (entities : List Entity) : (levels : Nat) → Nesting → List Char →
    Option (List Char × Nesting)
  | 0, n, raw => normalizeRuns (fun _ _ => none) n (runsOf raw)
  | levels + 1, n, raw =>
    let enter (n : Nesting) (name : List Char) : Option (List Char × Nesting) := do
      let value ← lookupEntity entities name
      let (cs, inner) ← normalizeValue entities levels (← n.enter) value
      return (cs, n.leave inner)
    normalizeRuns enter n (runsOf raw)

/-! ## Line ends in text -/

/-- Text under construction, last character first. `verbatim` says that the next character is
taken as it is, because a reference stands before it. -/
structure TextBuffer where
  reversed : List Char
  verbatim : Bool
  deriving DecidableEq, Repr

namespace TextBuffer

def empty : TextBuffer := ⟨[], false⟩

/-- One more character of text. A carriage return becomes a line feed once it is known what follows
it, and a line feed after it is dropped. `last` says that no character follows. -/
def push (b : TextBuffer) (c : Char) (last : Bool) : List Char :=
  match b.reversed with
  | '\r' :: cs =>
    if last ∧ c = '\r' then '\n' :: '\n' :: cs
    else if c = '\n' then '\n' :: cs
    else c :: '\n' :: cs
  | cs => if last ∧ c = '\r' then '\n' :: cs else c :: cs

-- One more character as written in the text.
def pushChar (b : TextBuffer) (c : Char) (last : Bool) : TextBuffer :=
  if b.verbatim then ⟨c :: b.reversed, false⟩ else ⟨b.push c last, false⟩

-- One more character by a reference.
def pushReference (b : TextBuffer) (outermost : Bool) (c : Char) (last : Bool) : TextBuffer :=
  if outermost then ⟨c :: b.reversed, true⟩ else ⟨b.push c last, b.verbatim⟩

def chars (b : TextBuffer) : List Char := b.reversed.reverse

end TextBuffer

-- Characters with line ends normalised.
def normalizeLines (s : List Char) : List Char :=
  go .empty s
where
  go (b : TextBuffer) : List Char → List Char
    | [] => b.chars
    | c :: cs => go (b.pushChar c cs.isEmpty) cs

end FontCatalog.Xml
