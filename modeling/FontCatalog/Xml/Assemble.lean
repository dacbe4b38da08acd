import FontCatalog.Xml.Expand
import FontCatalog.Xml.Tree

/-!
# Trees from tokens

Tokens become a tree by way of a stack of open elements. Text brings in the tokens of the entities
that it refers to, at the place of the reference. Names are resolved when a start tag ends, in the
namespaces declared on the tag and around it.
-/

namespace FontCatalog.Xml

/-- Why a text has no tree. The first fault decides: what stands after it is not looked at. -/
inductive Error where
  | malformed
  /-- An end tag stands where no element is open, which only entities can bring about. Whether the
  text is well-formed stays undecided: reading breaks down. -/
  | nothingOpen
  deriving DecidableEq, Repr

/-- Namespaces in force: scopes with their URIs, the nearest first. The empty scope is the default
namespace. -/
abbrev Namespaces := List (List Char × String)

namespace Namespaces

def xmlUri : String := "http://www.w3.org/XML/1998/namespace"
def xmlnsUri : String := "http://www.w3.org/2000/xmlns/"

-- The namespace of an element's name. A scope must have been declared.
def ofElement (ns : Namespaces) (n : QName) : Option (Option String) :=
  match ns.lookup n.scope with
  | some uri => some (some uri)
  | none => if n.scope.isEmpty then some none else none

-- The namespace of an attribute's name. Without a scope it has none.
def ofAttribute (ns : Namespaces) (n : QName) : Option (Option String) :=
  if n.scope = "xml".toList then some (some xmlUri)
  else if n.scope.isEmpty then some none
  else (ns.lookup n.scope).map some

-- Declarations of one tag before those around it.
def nest (own outer : Namespaces) : Namespaces :=
  own ++ outer.filter fun (scope, _) => (own.lookup scope).isNone

end Namespaces

/-- An element whose end tag is still to come. Its children so far are kept last first. -/
structure Frame where
  tag : QName
  space : Option String
  attributes : List Attribute
  namespaces : Namespaces
  children : List Node

/-- A tree under construction. -/
structure Assembly where
  /-- The open elements, innermost first. -/
  frames : List Frame
  /-- The nodes outside all elements, last first. -/
  top : List Node
  /-- Namespaces and attributes of a start tag that has not ended. -/
  declared : Namespaces
  waiting : List (QName × String)
  nesting : Nesting
  /-- Whether a start tag stands before this place in the same stretch of text. -/
  tagSeen : Bool

namespace Assembly

def start : Assembly := ⟨[], [], [], [], .outermost, true⟩

-- The namespaces around the next node.
def outer (b : Assembly) : Namespaces :=
  match b.frames with
  | f :: _ => f.namespaces
  | [] => []

-- A node as the last child of the innermost open element.
def add (b : Assembly) (node : Node) : Assembly :=
  match b.frames with
  | f :: fs => { b with frames := { f with children := node :: f.children } :: fs }
  | [] => { b with top := node :: b.top }

def addText (b : Assembly) (s : List Char) : Assembly :=
  if s.isEmpty then b else b.add (.text (String.ofList s))

/-- An attribute of a start tag with its normalised value: a namespace declaration, or an attribute
that waits for the end of the tag. The namespaces of XML itself are fixed. -/
def declare (b : Assembly) (n : QName) (value : String) : Option Assembly :=
  if n.scope = "xmlns".toList then
    if value = Namespaces.xmlnsUri then none
    else if (n.base = "xml".toList) ≠ (value = Namespaces.xmlUri) then none
    else if (b.declared.lookup n.base).isSome then none
    else if value = Namespaces.xmlUri then some b
    else some { b with declared := b.declared ++ [(n.base, value)] }
  else if n.base = "xmlns".toList then
    if value = Namespaces.xmlUri ∨ value = Namespaces.xmlnsUri then none
    else some { b with declared := b.declared ++ [([], value)] }
  else some { b with waiting := b.waiting ++ [(n, value)] }

-- The attributes of a start tag, normalised and declared in turn.
def takeAttributes (entities : List Entity) : Assembly → List (QName × List Char) → Option Assembly
  | b, [] => some b
  | b, (n, raw) :: as => do
    let (value, nesting) ← normalizeValue entities b.nesting.room b.nesting raw
    let b ← { b with nesting }.declare n (String.ofList value)
    takeAttributes entities b as

-- Attributes with their names resolved. No two may have the same name in the same namespace.
def resolve (ns : Namespaces) : List Attribute → List (QName × String) → Option (List Attribute)
  | done, [] => some done.reverse
  | done, (n, value) :: rest => do
    let a : Attribute := ⟨← ns.ofAttribute n, String.ofList n.base, value⟩
    if done.any fun d => d.space == a.space && d.name == a.name then none
    else resolve ns (a :: done) rest

/-- The end of a start tag, or of any tag after one that never ended: the namespaces in force and
the attributes that were waiting. -/
def settle (b : Assembly) : Option (Namespaces × List Attribute × Assembly) := do
  let ns := Namespaces.nest b.declared b.outer
  let as ← resolve ns [] b.waiting
  return (ns, as, { b with declared := [], waiting := [] })

-- A start tag.
def openTag (entities : List Entity) (b : Assembly) (n : QName)
    (attributes : List (QName × List Char)) (ending : TagEnd) : Option Assembly := do
  if n.scope = "xmlns".toList then none
  else
    let b ← takeAttributes entities { b with tagSeen := true } attributes
    match ending with
    -- What was declared waits for the next tag that ends.
    | .missing => return b
    | .content =>
      let (ns, as, b) ← b.settle
      let space ← ns.ofElement n
      return { b with frames := ⟨n, space, as, ns, []⟩ :: b.frames }
    | .empty =>
      let (ns, as, b) ← b.settle
      let space ← ns.ofElement n
      return b.add (.element space (String.ofList n.base) as [])

-- An end tag. It names the innermost open element as its start tag does.
def closeTag (b : Assembly) (n : QName) : Except Error Assembly :=
  -- An entity closes no element before a tag of its own.
  if !b.tagSeen then .error .malformed
  else
    match b.settle with
    | none => .error .malformed
    | some (_, _, b) =>
      match b.frames with
      | [] => .error .nothingOpen
      | f :: fs =>
        if n ≠ f.tag then .error .malformed
        else
          .ok ({ b with frames := fs }.add
            (.element f.space (String.ofList f.tag.base) f.attributes f.children.reverse))

-- Text between tags, with the content of entities by `enter`.
def takeText (enter : Assembly → List Char → Except Error Assembly) :
    Assembly → TextBuffer → List Run → Except Error Assembly
  | b, t, [] => .ok (b.addText t.chars)
  | b, t, .char c :: rs => takeText enter b (t.pushChar c rs.isEmpty) rs
  | b, t, .reference (.char c) :: rs =>
    takeText enter b (t.pushReference b.nesting.isOutermost c rs.isEmpty) rs
  | b, t, .reference (.entity name) :: rs => do
    let b ← enter (b.addText t.chars) name
    takeText enter b .empty rs
  | _, _, .malformed :: _ => .error .malformed

-- One token, with the content of entities by `enter`.
def take (entities : List Entity) (enter : Assembly → List Char → Except Error Assembly)
    (b : Assembly) : Token → Except Error Assembly
  | .startTag n as ending => (openTag entities b n as ending).elim (.error .malformed) .ok
  | .endTag n => b.closeTag n
  | .text raw => takeText enter b .empty (runsOf raw)
  | .cdata raw => .ok (b.addText (normalizeLines raw))
  | .comment raw => .ok (b.add (.comment (String.ofList raw)))
  | .instruction target data =>
    .ok (b.add (.instruction (String.ofList target) (String.ofList data)))
  | .malformed => .error .malformed

-- The text and the nesting inside an entity.
def entityInside (entities : List Entity) (b : Assembly) (name : List Char) :
    Option (List Char × Nesting) := do
  return (← lookupEntity entities name, ← b.nesting.enter)

-- Tokens in turn, through at most `levels` further entities.
def takeAll (entities : List Entity) :
    (levels : Nat) → Assembly → List Token → Except Error Assembly
  | 0, b, ts => ts.foldlM (take entities fun _ _ => .error .malformed) b
  | levels + 1, b, ts =>
    let enter (b : Assembly) (name : List Char) : Except Error Assembly := do
      match b.entityInside entities name with
      | none => throw .malformed
      | some (value, nesting) =>
        let inside := { b with nesting, tagSeen := false }
        let b' ← takeAll entities levels inside (Scan.entityContent value)
        return { b' with nesting := b.nesting.leave b'.nesting, tagSeen := b.tagSeen }
    ts.foldlM (take entities enter) b

end Assembly

-- The root element of a document, if the text is a well-formed document.
def read (s : List Char) : Except Error Node := do
  let (entities, tokens) := Scan.document s
  let b ← Assembly.takeAll entities Nesting.maxDepth .start tokens
  if b.frames.isEmpty then (b.top.reverse.find? Node.isElement).elim (.error .malformed) .ok
  else throw .malformed

end FontCatalog.Xml
