import FontCatalog.Xml.Assemble
import Mathlib.Data.List.Chain

/-!
# Writing XML

The text of a tree, and the tokens in it. Markup characters in text and in attribute values are
written as references, and so are the characters that reading would normalise: carriage returns
everywhere, other white space but blanks in values. A plain tree is one that has such a text:
without namespaces, comments and instructions, and with texts that neither are empty nor touch each
other.
-/

namespace FontCatalog.Xml

/-! ## Escaped text -/

/-- The characters that may not stand in text as they are, with the references for them. -/
def textReferences : List (Char × String) :=
  [('&', "amp"), ('<', "lt"), ('>', "gt"), ('\r', "#13")]

/-- The characters that may not stand in an attribute value as they are. -/
def valueReferences : List (Char × String) :=
  textReferences ++ [('"', "quot"), ('\'', "apos"), ('\t', "#9"), ('\n', "#10")]

/-- A character by its reference, if it has one. -/
def escapeChar (references : List (Char × String)) (c : Char) : List Char :=
  match references.lookup c with
  | some name => '&' :: (name.toList ++ [';'])
  | none => [c]

def escapeText (s : String) : List Char := s.toList.flatMap (escapeChar textReferences)

def escapeValue (s : String) : List Char := s.toList.flatMap (escapeChar valueReferences)

/-! ## Trees -/

/-- A name without a scope. -/
def QName.plain (name : String) : QName := ⟨[], name.toList⟩

/-- An attribute with a blank before it. -/
def Attribute.print (a : Attribute) : List Char :=
  ' ' :: (a.name.toList ++ '=' :: '"' :: (escapeValue a.value ++ ['"']))

/-- An attribute as a start tag has it. -/
def Attribute.token (a : Attribute) : QName × List Char := (.plain a.name, escapeValue a.value)

/-- How a tag ends. -/
def TagEnd.print : TagEnd → List Char
  | .content => ['>']
  | .empty => ['/', '>']
  | .missing => []

def printStart (name : String) (as : List Attribute) (ending : TagEnd) : List Char :=
  '<' :: (name.toList ++ (as.flatMap Attribute.print ++ ending.print))

def printEnd (name : String) : List Char := '<' :: '/' :: (name.toList ++ ['>'])

namespace Node

mutual

/-- The text of a tree. -/
def print : Node → List Char
  | .element _ name as [] => printStart name as .empty
  | .element _ name as (c :: cs) =>
    printStart name as .content ++ (printAll (c :: cs) ++ printEnd name)
  | .text s => escapeText s
  | _ => []

def printAll : List Node → List Char
  | [] => []
  | c :: cs => c.print ++ printAll cs

end

mutual

/-- The tokens of a tree. -/
def tokens : Node → List Token
  | .element _ name as [] => [.startTag (.plain name) (as.map Attribute.token) .empty]
  | .element _ name as (c :: cs) =>
    .startTag (.plain name) (as.map Attribute.token) .content ::
      (tokensAll (c :: cs) ++ [.endTag (.plain name)])
  | .text s => [.text (escapeText s)]
  | _ => []

def tokensAll : List Node → List Token
  | [] => []
  | c :: cs => c.tokens ++ tokensAll cs

end

end Node

/-! ## Plain trees -/

/-- Text of characters that a document may hold. -/
def Legal (s : String) : Prop := ∀ c ∈ s.toList, isXmlChar c = true

/-- A name without a colon. -/
structure PlainName (s : String) : Prop where
  start : ∃ c cs, s.toList = c :: cs ∧ isNameStart c = true
  chars : ∀ c ∈ s.toList, isNameChar c = true
  no_colon : ':' ∉ s.toList

/-- An attribute that declares no namespace and is in none. -/
structure Attribute.Plain (a : Attribute) : Prop where
  space : a.space = none
  name : PlainName a.name
  not_xmlns : a.name ≠ "xmlns"
  value : Legal a.value

inductive Node.Plain : Node → Prop where
  | text {s : String} (hs : s ≠ "") (h : Legal s) : Plain (.text s)
  | element {name : String} {as : List Attribute} {cs : List Node} (hname : PlainName name)
      (has : ∀ a ∈ as, a.Plain) (hdistinct : (as.map (·.name)).Nodup)
      (hcs : ∀ c ∈ cs, Plain c)
      (hseparate : cs.IsChain fun c c' => c.isElement = true ∨ c'.isElement = true) :
      Plain (.element none name as cs)

end FontCatalog.Xml
