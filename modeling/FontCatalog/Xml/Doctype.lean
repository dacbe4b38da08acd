import FontCatalog.Xml.Token

/-!
# The prologue of an XML document

The XML declaration and the document type declaration. Of the latter only the entities of the
internal subset matter later: the first declaration of a name counts. Declarations of elements,
attributes and notations are passed over.
-/

namespace FontCatalog.Xml

/-- An entity of the internal subset with its replacement text. -/
structure Entity where
  name : List Char
  value : List Char
  deriving DecidableEq, Repr

namespace Scan

-- The text after blanks, or the text itself at the end of the declaration.
def declarationGap (s : List Char) : Option (List Char) :=
  match blanks s with
  | some t => some t
  | none => if startsWith "?>" s || s.isEmpty then some s else none

/-- The text after an attribute whose name begins with `lead`, or the text itself if none such
follows. -/
def declarationPart (lead : String) (s : List Char) : Option (List Char) := do
  if startsWith lead s then
    let (_, s) ← attributePair s
    return s
  else return s

/-- The text after the XML declaration, from after its `<?xml`. Version, encoding and standalone
stand in this order, and only the first must be there. Their values are not looked at. -/
def declaration (s : List Char) : Option (List Char) := do
  let s ← declarationGap s
  if !startsWith "version" s then none
  else
    let s ← declarationPart "version" s
    let s ← declarationGap s
    let s ←
      if startsWith "encoding" s then do
        let s ← declarationPart "encoding" s
        declarationGap s
      else some s
    let s ← declarationPart "standalone" s
    after "?>" (skipBlank s)

-- The text after a quoted literal.
def literal : Scan (List Char) := fun s =>
  match s with
  | q :: t =>
    if q = '"' ∨ q = '\'' then
      match t.dropWhile (· != q) with
      | _ :: rest => some (t.takeWhile (· != q), rest)
      | [] => none
    else none
  | [] => none

/-- The text after an external identifier, or nothing in the outer option if it is malformed and in
the inner one if none begins here. -/
def externalId (s : List Char) : Option (Option (List Char)) := do
  match after "SYSTEM" s with
  | some s =>
    let s ← blanks s
    let (_, s) ← literal s
    return some s
  | none =>
    match after "PUBLIC" s with
    | some s =>
      let s ← blanks s
      let (_, s) ← literal s
      let s ← blanks s
      let (_, s) ← literal s
      return some s
    | none => return none

-- The text after a name, or the text itself at its end.
def optionalName (s : List Char) : Option (List Char) :=
  match s with
  | [] => some []
  | _ => (name s).map (·.2)

-- The value of an entity, or nothing for one that stands outside the document.
def entityValue (general : Bool) : Scan (Option (List Char)) := fun s => do
  match s with
  | [] => none
  | c :: _ =>
    if c = '"' ∨ c = '\'' then
      let (value, s) ← literal s
      return (some value, s)
    else
      let s ← (← externalId s)
      if !general then return (none, s)
      else
        match after "NDATA" (skipBlank s) with
        | none => return (none, skipBlank s)
        | some s =>
          let s ← blanks s
          return (none, ← optionalName s)

-- An entity declaration, from after its `<!ENTITY`.
def entityDeclaration : Scan (List Entity) := fun s => do
  let s ← blanks s
  let (general, s) ←
    match s with
    | '%' :: t => (blanks t).map (false, ·)
    | t => some (true, t)
  let (n, s) ← name s
  let s ← blanks s
  let (value, s) ← entityValue general s
  match skipBlank s with
  | '>' :: rest =>
    match value with
    | some v => return ([⟨n, v⟩], rest)
    | none => return ([], rest)
  | _ => none

-- The text after the next `>`.
def passDeclaration (s : List Char) : Option (List Char) :=
  match s.dropWhile (· != '>') with
  | _ :: rest => some rest
  | [] => none

/-- The internal subset, from after its `[` to after the `>` of the document type declaration. At
the end of the text it just ends. -/
def internalSubset : (fuel : Nat) → Scan (List Entity)
  | 0, _ => none
  | _ + 1, [] => some ([], [])
  | fuel + 1, s =>
    let s := skipBlank s
    match after "<!ENTITY" s with
    | some t => do
      let (e, rest) ← entityDeclaration t
      let (es, rest) ← internalSubset fuel rest
      return (e ++ es, rest)
    | none =>
      match after "<!--" s with
      | some t => do
        let (_, rest) ← comment t
        internalSubset fuel rest
      | none =>
        if startsWith "<?" s then do
          let (_, rest) ← instruction s
          internalSubset fuel rest
        else if startsWith "]" s then
          match skipBlank (s.drop 1) with
          | '>' :: rest => some ([], rest)
          | _ => none
        else if startsWith "<!ELEMENT" s || startsWith "<!ATTLIST" s || startsWith "<!NOTATION" s
        then do
          let rest ← passDeclaration s
          internalSubset fuel rest
        else none

-- A document type declaration, from after its `<!DOCTYPE`.
def doctype : Scan (List Entity) := fun s => do
  let s ← blanks s
  let s ← optionalName s
  let s := skipBlank s
  let s := (← externalId s).getD s
  match skipBlank s with
  | '>' :: rest => return ([], rest)
  | '[' :: rest => internalSubset (rest.length + 1) rest
  | _ => none

-- What stands before the root element: the entities, and the text from the element on.
def prologue : Scan (List Entity) := fun s => do
  let s := (after "\uFEFF" s).getD s
  let s ← if startsWith "<?xml " s then declaration (s.drop 5) else some s
  let s ← misc (s.length + 1) s
  match after "<!DOCTYPE" (skipBlank s) with
  | some t =>
    let (es, rest) ← doctype t
    return (es, ← misc (rest.length + 1) rest)
  | none => return ([], s)

-- The tokens of the root element. Nothing but comments and instructions may follow it.
def root (s : List Char) : List Token :=
  let (tokens, s) :=
    match skipBlank s with
    | '<' :: t => element t
    | t => ([], t)
  match misc (s.length + 1) s with
  | some [] => tokens
  | _ => tokens ++ [.malformed]

-- A whole document: its entities and the tokens of its root element.
def document (s : List Char) : List Entity × List Token :=
  match prologue s with
  | some (entities, s) => (entities, root s)
  | none => ([], [.malformed])

end Scan

end FontCatalog.Xml
