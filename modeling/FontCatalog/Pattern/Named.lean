import FontCatalog.Pattern.Expr
import FontCatalog.Unicode.Age
import FontCatalog.Unicode.Break
import FontCatalog.Unicode.CaseFold
import FontCatalog.Unicode.Script

/-!
# Classes of characters by name

The characters of the classes that patterns know by name. A property is found by its long or short
name in any case; blanks, hyphens, underscores and an `is` at the front do not count.
-/

namespace FontCatalog.Pattern

open Unicode (Ranges)

namespace Named

-- A name in lower case without what does not count. An `is` before a lone `c` counts.
def normalize (s : List Char) : List Char :=
  let isNoise (c : Char) : Bool := c == ' ' || c == '_' || c == '-' || c.toNat ≥ 0x80
  let body (s : List Char) : List Char := (s.filter (!isNoise ·)).map Char.toLower
  match s with
  | a :: b :: rest =>
    if a.toLower = 'i' ∧ b.toLower = 's' then
      if body rest = ['c'] then "isc".toList else body rest
    else body s
  | s => body s

-- The categories that a name stands for.
def categories? (name : String) : Option (List String) :=
  let table : List (List String × List String) := [
    (["lu", "uppercaseletter"], ["Lu"]),
    (["ll", "lowercaseletter"], ["Ll"]),
    (["lt", "titlecaseletter"], ["Lt"]),
    (["lc", "casedletter"], ["Lu", "Ll", "Lt"]),
    (["lm", "modifierletter"], ["Lm"]),
    (["lo", "otherletter"], ["Lo"]),
    (["l", "letter"], Unicode.Category.letters),
    (["mn", "nonspacingmark"], ["Mn"]),
    (["mc", "spacingmark"], ["Mc"]),
    (["me", "enclosingmark"], ["Me"]),
    (["m", "mark", "combiningmark"], ["Mn", "Mc", "Me"]),
    (["nd", "decimalnumber", "digit"], ["Nd"]),
    (["nl", "letternumber"], ["Nl"]),
    (["no", "othernumber"], ["No"]),
    (["n", "number"], ["Nd", "Nl", "No"]),
    (["pc", "connectorpunctuation"], ["Pc"]),
    (["pd", "dashpunctuation"], ["Pd"]),
    (["ps", "openpunctuation"], ["Ps"]),
    (["pe", "closepunctuation"], ["Pe"]),
    (["pi", "initialpunctuation"], ["Pi"]),
    (["pf", "finalpunctuation"], ["Pf"]),
    (["po", "otherpunctuation"], ["Po"]),
    (["p", "punctuation", "punct"], ["Pc", "Pd", "Ps", "Pe", "Pi", "Pf", "Po"]),
    (["sm", "mathsymbol"], ["Sm"]),
    (["sc", "currencysymbol"], ["Sc"]),
    (["sk", "modifiersymbol"], ["Sk"]),
    (["so", "othersymbol"], ["So"]),
    (["s", "symbol"], ["Sm", "Sc", "Sk", "So"]),
    (["zs", "spaceseparator"], ["Zs"]),
    (["zl", "lineseparator"], ["Zl"]),
    (["zp", "paragraphseparator"], ["Zp"]),
    (["z", "separator"], ["Zs", "Zl", "Zp"]),
    (["cc", "control", "cntrl"], ["Cc"]),
    (["cf", "format"], ["Cf"]),
    (["co", "privateuse"], ["Co"]),
    (["cn", "unassigned"], ["Cn"]),
    (["c", "other"], ["Cc", "Cf", "Cs", "Co", "Cn"])]
  (table.find? fun (names, _) => names.contains name).map (·.2)

-- The characters of a general category, or of one of three sets that count as such.
def category? (name : String) : Option Ranges :=
  if name = "any" then some Ranges.all
  else if name = "ascii" then some [⟨0, 0x7F⟩]
  else if name = "assigned" then some (Unicode.Category.ranges "Cn").complement
  else (categories? name).map Unicode.Category.rangesOf

-- The short names of properties.
def shortNames : List (String × String) := [
  ("ahex", "asciihexdigit"), ("alpha", "alphabetic"), ("bidic", "bidicontrol"),
  ("bidim", "bidimirrored"), ("ci", "caseignorable"), ("cwcf", "changeswhencasefolded"),
  ("cwcm", "changeswhencasemapped"), ("cwl", "changeswhenlowercased"),
  ("cwt", "changeswhentitlecased"), ("cwu", "changeswhenuppercased"), ("dep", "deprecated"),
  ("di", "defaultignorablecodepoint"), ("dia", "diacritic"), ("ebase", "emojimodifierbase"),
  ("ecomp", "emojicomponent"), ("emod", "emojimodifier"), ("epres", "emojipresentation"),
  ("ext", "extender"), ("extpict", "extendedpictographic"), ("grbase", "graphemebase"),
  ("grext", "graphemeextend"), ("grlink", "graphemelink"), ("hex", "hexdigit"),
  ("idc", "idcontinue"), ("ideo", "ideographic"), ("ids", "idstart"),
  ("idsb", "idsbinaryoperator"), ("idst", "idstrinaryoperator"), ("idsu", "idsunaryoperator"),
  ("joinc", "joincontrol"), ("loe", "logicalorderexception"), ("lower", "lowercase"),
  ("mcm", "modifiercombiningmark"), ("nchar", "noncharactercodepoint"),
  ("oalpha", "otheralphabetic"), ("odi", "otherdefaultignorablecodepoint"),
  ("ogrext", "othergraphemeextend"), ("oidc", "otheridcontinue"), ("oids", "otheridstart"),
  ("olower", "otherlowercase"), ("omath", "othermath"), ("oupper", "otheruppercase"),
  ("patsyn", "patternsyntax"), ("patws", "patternwhitespace"),
  ("pcm", "prependedconcatenationmark"), ("qmark", "quotationmark"), ("ri", "regionalindicator"),
  ("sd", "softdotted"), ("space", "whitespace"), ("sterm", "sentenceterminal"),
  ("term", "terminalpunctuation"), ("uideo", "unifiedideograph"), ("upper", "uppercase"),
  ("vs", "variationselector"), ("wspace", "whitespace"), ("xidc", "xidcontinue"),
  ("xids", "xidstart")]

-- The characters with a property of yes or no.
def property? (name : String) : Option Ranges :=
  Unicode.Property.ranges? ((shortNames.lookup name).getD name)

def script? (name : String) : Option Ranges :=
  (Unicode.Script.name? name).map Unicode.Script.ranges

-- The characters for which a property has a value.
def value? (name value : String) : Option Ranges :=
  match name with
  | "gc" | "generalcategory" => category? value
  | "sc" | "script" => script? value
  | "scx" | "scriptextensions" => (Unicode.Script.name? value).map Unicode.Script.extensions
  | "age" => Unicode.Age.ranges? value
  | "gcb" | "graphemeclusterbreak" => Unicode.Break.cluster? value
  | "wb" | "wordbreak" => Unicode.Break.word? value
  | "sb" | "sentencebreak" => Unicode.Break.sentence? value
  | _ => none

/-- The characters that a query asks for. A name alone is that of a property, a category or a
script, tried in this order. -/
def query? : PropertyQuery → Option Ranges
  | .name s =>
    let name := String.ofList (normalize s)
    let isCategory := name = "cf" ∨ name = "sc" ∨ name = "lc"
    (if isCategory then none else property? name).or ((category? name).or (script? name))
  | .value s v => value? (String.ofList (normalize s)) (String.ofList (normalize v))

-- The digits of all scripts.
def digits : Ranges := Unicode.Category.ranges "Nd"

def spaces : Ranges := Unicode.Property.ranges "whitespace"

-- The characters of words: letters, marks, digits, connectors and joiners.
def words : Ranges :=
  Ranges.unionAll [Unicode.Property.ranges "alphabetic", Unicode.Property.ranges "joincontrol",
    Unicode.Category.rangesOf ["Mn", "Mc", "Me", "Nd", "Pc"]]

-- The ASCII forms of the same three classes.
def asciiDigits : Ranges := [⟨0x30, 0x39⟩]
def asciiSpaces : Ranges := [⟨9, 13⟩, ⟨0x20, 0x20⟩]
def asciiWords : Ranges := [⟨0x30, 0x39⟩, ⟨0x41, 0x5A⟩, ⟨0x5F, 0x5F⟩, ⟨0x61, 0x7A⟩]

end Named

end FontCatalog.Pattern
