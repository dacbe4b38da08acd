import FontCatalog.Files.Tree
import FontCatalog.Log.Entry
import FontCatalog.Xml.Assemble

/-!
# The font configuration as a table of elements

The elements of an XML document in document order, each with its name, attributes and direct text,
its parent, its children and its place among its siblings. Elements are known by their position in
the table. Comments and instructions are left out. A configuration that cannot be read has no
elements, unless reading breaks down: then there is no document at all.
-/

namespace FontCatalog

-- The position of an element in document order.
abbrev ElementId := Nat

structure Element where
  name : String
  /-- Attributes by the part of their names after any scope. -/
  attributes : List (String × String)
  /-- The text directly inside the element. -/
  text : String
  parent : Option ElementId
  children : List ElementId
  /-- The position of this element among the children of its parent. -/
  slot : Nat
  deriving DecidableEq, Repr, Inhabited

namespace Element

mutual

-- The elements of a tree in document order, where the first one gets the number `base`.
def tableOf (parent : Option ElementId) (slot base : Nat) : Xml.Node → List Element
  | .element _ name attributes children =>
    let (ids, below) := tableOfAll base 0 (base + 1) children
    { name
      attributes := attributes.map fun a => (a.name, a.value)
      text := String.ofList (children.flatMap Xml.Node.directText)
      parent, children := ids, slot } :: below
  | _ => []

/-- The numbers of the elements among some siblings, and the elements in and below them. The next
one gets the number `base` and the place `slot`. -/
def tableOfAll (parent : ElementId) (slot base : Nat) :
    List Xml.Node → List ElementId × List Element
  | [] => ([], [])
  | node :: nodes =>
    if node.isElement then
      let own := tableOf (some parent) slot base node
      let (ids, rest) := tableOfAll parent (slot + 1) (base + own.length) nodes
      (base :: ids, own ++ rest)
    else tableOfAll parent slot base nodes

end

end Element

/-- A document: its elements in document order. They are those of a tree, whose root is a text where
there are none. -/
structure Document where
  elements : Array Element
  isTable : ∃ root, elements = (Element.tableOf none 0 0 root).toArray
  deriving DecidableEq, Repr

namespace Document

-- The document of a tree.
def ofTree (root : Xml.Node) : Document :=
  ⟨(Element.tableOf none 0 0 root).toArray, root, rfl⟩

-- A document without elements.
def empty : Document := ofTree (.text "")

instance : Inhabited Document := ⟨empty⟩

/-! ## Moving about -/

def size (d : Document) : Nat := d.elements.size

def element? (d : Document) (n : ElementId) : Option Element := d.elements[n]?

-- The root element, if there are elements.
def root? (d : Document) : Option ElementId :=
  if d.elements.isEmpty then none else some 0

def name (d : Document) (n : ElementId) : String := (d.element? n).elim "" (·.name)

-- The text directly inside an element.
def text (d : Document) (n : ElementId) : String := (d.element? n).elim "" (·.text)

def parent? (d : Document) (n : ElementId) : Option ElementId := (d.element? n).bind (·.parent)

def children (d : Document) (n : ElementId) : List ElementId := (d.element? n).elim [] (·.children)

-- The value of the first attribute with a key.
def attribute? (d : Document) (n : ElementId) (key : String) : Option String :=
  (d.element? n).bind fun e => e.attributes.lookup key

-- The first child with a name.
def firstChild? (d : Document) (n : ElementId) (tag : String) : Option ElementId :=
  (d.children n).find? (d.name · == tag)

-- The siblings after an element.
def following (d : Document) (n : ElementId) : List ElementId :=
  match d.element? n with
  | some e => (e.parent.elim [] d.children).drop (e.slot + 1)
  | none => []

-- The next sibling with a name.
def nextSibling? (d : Document) (n : ElementId) (tag : String) : Option ElementId :=
  (d.following n).find? (d.name · == tag)

/-- An element and the next siblings with a name, one after the other. There are at most as many as
elements in the document, which bounds the search. -/
def withNextSiblings (d : Document) (tag : String) : (fuel : Nat) → Option ElementId →
    List ElementId
  | 0, _ => []
  | _ + 1, none => []
  | fuel + 1, some n => n :: withNextSiblings d tag fuel (d.nextSibling? n tag)

-- The children with a name: the first one and its next siblings.
def childrenNamed (d : Document) (n : ElementId) (tag : String) : List ElementId :=
  d.withNextSiblings tag d.size (d.firstChild? n tag)

/-! ## Reading -/

/-- Reading came upon an end tag with no element open. Whoever asked for the document cannot go
on. -/
inductive Breakdown where
  | nothingOpen
  deriving DecidableEq, Repr

def Breakdown.message : Breakdown → String
  | nothingOpen =>
    "internal error: entered unreachable code: should be already checked by the tokenizer"

def logTarget : String := "sysfont_core::document"

/-- The document of an XML text. A text that is not well-formed gives none; why it is not stays
untold, and `*` stands for it in the warning. -/
def parse (xml : List Char) : Except Breakdown (Document × List Log.Entry) :=
  match Xml.read xml with
  | .ok root => .ok (ofTree root, [])
  | .error .malformed =>
    .ok (empty, [⟨.warn, logTarget, "font configuration is not well-formed XML: *"⟩])
  | .error .nothingOpen => .error .nothingOpen

-- The document in the file at a path.
def load (files : Files.Tree) (path : Path) : Except Breakdown (Document × List Log.Entry) :=
  match files.read path with
  | .error e =>
    .ok (empty, [⟨.warn, logTarget,
      "cannot read font configuration " ++ path.display ++ ": " ++ e.message⟩])
  | .ok bytes =>
    match Utf8.decode bytes with
    | .error e =>
      .ok (empty, [⟨.warn, logTarget,
        "font configuration " ++ path.display ++ " is not valid UTF-8: " ++ e.message⟩])
    | .ok text => do
      let (d, log) ← parse text
      return (d, log ++ [⟨.debug, logTarget,
        "loaded " ++ path.display ++ " with " ++ toString d.size ++ " elements"⟩])

end Document

end FontCatalog
