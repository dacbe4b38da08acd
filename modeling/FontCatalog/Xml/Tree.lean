/-!
# XML trees

An XML document as a tree of elements, texts, comments and instructions, with references replaced,
line ends and attribute values normalised, and names resolved to their namespaces.
-/

namespace FontCatalog.Xml

/-- An attribute with the namespace of its name, if it has one. -/
structure Attribute where
  space : Option String
  name : String
  value : String
  deriving DecidableEq, Repr

/-- A node of an XML tree. -/
inductive Node where
  | element (space : Option String) (name : String) (attributes : List Attribute)
      (children : List Node)
  | text (s : String)
  | comment (s : String)
  | instruction (target data : String)
  deriving Repr, Inhabited

namespace Node

def isElement : Node → Bool
  | .element .. => true
  | _ => false

-- The text of a text node, and nothing for any other.
def directText : Node → List Char
  | .text s => s.toList
  | _ => []

end Node

end FontCatalog.Xml
