import FontCatalog.Text.Cut
import FontCatalog.Text.Utf8

/-!
# Paths

A path is a sequence of bytes. Two spellings of a path have the same components, which repeated
separators and `.` between them do not change. Paths are ordered by their components and not by
their bytes.
-/

namespace FontCatalog

/-- A path by its bytes. -/
structure Path where
  bytes : List UInt8
  deriving DecidableEq, Repr, Inhabited

namespace Path

-- The byte of `/`.
def separator : UInt8 := 0x2F

-- The byte of `.`.
def dot : UInt8 := 0x2E

def ofString (s : String) : Path := ⟨Utf8.encodeString s⟩

-- The path as text, if it is UTF-8.
def text? (p : Path) : Option String := (Utf8.decodeString p.bytes).toOption

-- The path as text, with `U+FFFD` for what is not UTF-8.
def display (p : Path) : String := Utf8.decodeStringLossy p.bytes

/-! ## Components -/

/-- A component of a path. -/
inductive Component where
  | root
  /-- A `.` at the start of a relative path. -/
  | current
  | parent
  | name (bytes : List UInt8)
  deriving DecidableEq, Repr

-- The stretches of bytes between separators, empty ones included.
def segments (bytes : List UInt8) : List (List UInt8) := Text.cut separator bytes

-- The component of a segment. Empty segments and `.` have none.
def component? (segment : List UInt8) : Option Component :=
  if segment = [] ∨ segment = [dot] then none
  else if segment = [dot, dot] then some .parent
  else some (.name segment)

-- What a path begins with: the root, or a `.` that counts.
def start (bytes : List UInt8) : List Component :=
  if bytes.head? = some separator then [.root]
  else if (segments bytes).head? = some [dot] then [.current]
  else []

-- The components of a path.
def components (p : Path) : List Component :=
  start p.bytes ++ (segments p.bytes).filterMap component?

-- Whether two paths have the same components.
def same (p q : Path) : Bool := p.components == q.components

/-! ## Order -/

-- Bytes in lexicographic order.
def compareBytes : List UInt8 → List UInt8 → Ordering
  | [], [] => .eq
  | [], _ :: _ => .lt
  | _ :: _, [] => .gt
  | a :: as, b :: bs => if a < b then .lt else if b < a then .gt else compareBytes as bs

-- The place of a kind of component before the others.
def Component.rank : Component → Nat
  | root => 0
  | current => 1
  | parent => 2
  | name _ => 3

-- The root before `.`, `..` and names, and names by their bytes.
def Component.compare : Component → Component → Ordering
  | name a, name b => compareBytes a b
  | c, d => Ord.compare c.rank d.rank

-- Component lists in lexicographic order.
def compareComponents : List Component → List Component → Ordering
  | [], [] => .eq
  | [], _ :: _ => .lt
  | _ :: _, [] => .gt
  | a :: as, b :: bs => (a.compare b).then (compareComponents as bs)

-- The order of paths by their components.
def le (p q : Path) : Bool := (compareComponents p.components q.components).isLE

/-! ## Names under a directory -/

/-- A name under a directory: the two are put together, with a separator between them unless the
directory is empty or ends in one. -/
def under (dir : Path) (name : List UInt8) : Path :=
  if dir.bytes = [] ∨ dir.bytes.getLast? = some separator then ⟨dir.bytes ++ name⟩
  else ⟨dir.bytes ++ separator :: name⟩

-- What stands after the last dot of a name, if anything stands before it.
def nameExtension (name : List UInt8) : Option (List UInt8) :=
  let tail := name.reverse.takeWhile (· != dot)
  match name.reverse.dropWhile (· != dot) with
  | _ :: _ :: _ => some tail.reverse
  | _ => none

-- The extension of the last component, if that is a name.
def extension? (p : Path) : Option (List UInt8) :=
  match p.components.getLast? with
  | some (.name bytes) => nameExtension bytes
  | _ => none

end Path

end FontCatalog
