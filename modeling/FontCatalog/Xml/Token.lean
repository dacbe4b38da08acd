import FontCatalog.Xml.Chars

/-!
# XML tokens

Tags, text, comments and instructions, scanned from text. A scanner gives what it has read with
the rest of the text, or nothing if the text is not well-formed at that place. The place where
content is not well-formed is a token of its own and the last one, since what stands before it
counts. References in text and attribute values are left as they are.
-/

namespace FontCatalog.Xml

/-- A name with an optional scope before a colon. -/
structure QName where
  scope : List Char
  base : List Char
  deriving DecidableEq, Repr

/-- How a start tag ends. -/
inductive TagEnd where
  /-- With `>`: content follows. -/
  | content
  /-- With `/>`. -/
  | empty
  /-- Not at all: the text ends first. -/
  | missing
  deriving DecidableEq, Repr

inductive Token where
  /-- A start tag with its attributes, their values between the quotes as written. -/
  | startTag (name : QName) (attributes : List (QName × List Char)) (ending : TagEnd)
  | endTag (name : QName)
  /-- Text between tags as written. -/
  | text (raw : List Char)
  | cdata (raw : List Char)
  | comment (raw : List Char)
  | instruction (target data : List Char)
  /-- The text is not well-formed here. -/
  | malformed
  deriving DecidableEq, Repr

-- What a scanner reads from the front of a text, with the rest.
abbrev Scan (α : Type) := List Char → Option (α × List Char)

namespace Scan

def skipBlank (s : List Char) : List Char :=
  s.dropWhile Text.isXmlBlank

-- The text after a given one at the front.
def after (lead : String) (s : List Char) : Option (List Char) :=
  lead.toList.isPrefixOf? s

def startsWith (lead : String) (s : List Char) : Bool :=
  lead.toList.isPrefixOf s

-- The text after one or more blanks.
def blanks (s : List Char) : Option (List Char) :=
  match s with
  | c :: _ => if Text.isXmlBlank c then some (skipBlank s) else none
  | [] => none

-- Characters of a document up to the first place where `halt` holds of the rest, or to the end.
def chars (halt : List Char → Bool) : Scan (List Char)
  | [] => some ([], [])
  | c :: cs =>
    if !isXmlChar c then none
    else if halt (c :: cs) then some ([], c :: cs)
    else (chars halt cs).map fun (taken, rest) => (c :: taken, rest)

-- A name, colons included.
def name : Scan (List Char)
  | [] => none
  | c :: cs =>
    if isNameStart c then some (c :: cs.takeWhile isNameChar, cs.dropWhile isNameChar) else none

-- Whether a text is empty or begins like a name.
def beginsName (s : List Char) : Bool :=
  match s with
  | [] => true
  | c :: _ => isNameStart c

-- A name with at most one colon. The scope before the colon may be empty, the rest may not.
def qname : Scan QName := fun s =>
  let body := s.takeWhile isNameChar
  let rest := s.dropWhile isNameChar
  let scope := body.takeWhile (· != ':')
  let (scope, base) :=
    match body.dropWhile (· != ':') with
    | [] => ([], scope)
    | _ :: base => (scope, base)
  if base.contains ':' || base.isEmpty || !beginsName scope || !beginsName base then none
  else some (⟨scope, base⟩, rest)

-- The text after an equals sign with blanks around it.
def equals (s : List Char) : Option (List Char) :=
  match skipBlank s with
  | '=' :: t => some (skipBlank t)
  | _ => none

-- A quoted value without `<`.
def quotedValue : Scan (List Char) := fun s =>
  match s with
  | q :: t =>
    if q = '"' ∨ q = '\'' then
      match chars (fun u => u.head? == some q || u.head? == some '<') t with
      | some (value, d :: rest) => if d = q then some (value, rest) else none
      | _ => none
    else none
  | [] => none

-- A name, an equals sign and a quoted value.
def attributePair : Scan (QName × List Char) := fun s => do
  let (n, s) ← qname s
  let s ← equals s
  let (value, s) ← quotedValue s
  return ((n, value), s)

/-- The attributes of a start tag and its end. Every attribute takes a character, so `fuel` above
the length of the text is enough. -/
def attributes : (fuel : Nat) → Scan (List (QName × List Char) × TagEnd)
  | 0, _ => none
  | _ + 1, [] => some (([], .missing), [])
  | fuel + 1, c :: cs =>
    match skipBlank (c :: cs) with
    | [] => none
    | '/' :: t =>
      match t with
      | '>' :: rest => some (([], .empty), rest)
      | _ => none
    | '>' :: rest => some (([], .content), rest)
    | s => do
      if !Text.isXmlBlank c then none
      else
        let (a, s) ← attributePair s
        let ((as, ending), s) ← attributes fuel s
        return ((a :: as, ending), s)

-- A start tag, from after its `<`.
def startTag : Scan Token := fun s => do
  let (n, s) ← qname s
  let ((as, ending), s) ← attributes (s.length + 1) s
  return (.startTag n as ending, s)

-- An end tag, from after its `</`.
def endTag : Scan Token := fun s => do
  let (n, s) ← qname s
  match skipBlank s with
  | '>' :: rest => return (.endTag n, rest)
  | _ => none

-- Whether two hyphens stand side by side.
def hasDoubleHyphen : List Char → Bool
  | '-' :: '-' :: _ => true
  | _ :: cs => hasDoubleHyphen cs
  | [] => false

/-- A comment, from after its `<!--`. It has no two hyphens side by side and does not end in
one. -/
def comment : Scan Token := fun s => do
  let (body, s) ← chars (startsWith "-->") s
  let rest ← after "-->" s
  if hasDoubleHyphen body || body.getLast? == some '-' then none
  else return (.comment body, rest)

-- An instruction, from its `<?`. The XML declaration is none.
def instruction : Scan Token := fun s => do
  if startsWith "<?xml " s then none
  else
    let (target, s) ← name (s.drop 2)
    let (data, s) ← chars (startsWith "?>") (skipBlank s)
    let rest ← after "?>" s
    return (.instruction target data, rest)

-- A character data section, from after its `<![CDATA[`.
def cdata : Scan Token := fun s => do
  let (body, s) ← chars (startsWith "]]>") s
  let rest ← after "]]>" s
  return (.cdata body, rest)

-- Whether the text holds `]]>`, which ends character data sections and nothing else.
def hasSectionEnd : List Char → Bool
  | ']' :: ']' :: '>' :: _ => true
  | _ :: cs => hasSectionEnd cs
  | [] => false

-- Text up to the next `<`.
def text : Scan Token := fun s => do
  let (body, rest) ← chars (fun u => u.head? == some '<') s
  if hasSectionEnd body then none else return (.text body, rest)

-- One token inside an element.
def contentToken : Scan Token
  | '<' :: '!' :: s =>
    match after "--" s with
    | some t => comment t
    | none =>
      match after "[CDATA[" s with
      | some t => cdata t
      | none => none
  | '<' :: '?' :: s => instruction ('<' :: '?' :: s)
  | '<' :: '/' :: s => endTag s
  | ['<'] => none
  | '<' :: s => startTag s
  | s => text s

/-- The tokens of content in which `depth` elements are open, up to the end tag that closes the
outermost content, or to the end, and the rest. Every token takes a character. -/
def content : (fuel : Nat) → (depth : Nat) → List Char → List Token × List Char
  | 0, _, _ => ([.malformed], [])
  | _ + 1, _, [] => ([], [])
  | fuel + 1, depth, s =>
    match contentToken s with
    | none => ([.malformed], [])
    | some (t, rest) =>
      let (ts, rest) :=
        match t, depth with
        | .endTag _, 0 => ([], rest)
        | .endTag _, depth + 1 => content fuel depth rest
        | .startTag _ _ .content, depth => content fuel (depth + 1) rest
        | _, depth => content fuel depth rest
      (t :: ts, rest)

/-- The tokens of the content that stands in an entity. What follows an end tag without its start
tag is not looked at. -/
def entityContent (s : List Char) : List Token :=
  (content (s.length + 1) 0 s).1

-- The tokens of an element, from after its `<`, and the rest.
def element (s : List Char) : List Token × List Char :=
  match startTag s with
  | none => ([.malformed], [])
  | some (t, rest) =>
    match t with
    | .startTag _ _ .content =>
      let (ts, rest) := content (rest.length + 1) 0 rest
      (t :: ts, rest)
    | _ => ([t], rest)

-- The text after comments, instructions and blanks between the parts of a document.
def misc : (fuel : Nat) → List Char → Option (List Char)
  | 0, _ => none
  | fuel + 1, s =>
    let s := skipBlank s
    match after "<!--" s with
    | some t => do
      let (_, rest) ← comment t
      misc fuel rest
    | none =>
      if startsWith "<?" s then do
        let (_, rest) ← instruction s
        misc fuel rest
      else some s

end Scan

end FontCatalog.Xml
