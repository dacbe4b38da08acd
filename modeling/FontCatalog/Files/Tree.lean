import FontCatalog.Files.Path

/-!
# File trees

Files, directories, symbolic links and devices below a root, with a working directory among them,
and what a path leads to.
-/

namespace FontCatalog.Files

/-- What stands under a name. -/
inductive Entry where
  | file (content : List UInt8)
  | link (target : Path)
  | directory (entries : List (List UInt8 × Entry))
  /-- Something that can be read, holds nothing, and is no file. -/
  | device
  deriving Inhabited

namespace Entry

def isFile : Entry → Bool
  | file _ => true
  | _ => false

def isDirectory : Entry → Bool
  | directory _ => true
  | _ => false

-- The entry under a name of a directory.
def child? (e : Entry) (name : List UInt8) : Option Entry :=
  match e with
  | directory entries => entries.lookup name
  | _ => none

end Entry

-- A place of a file tree: the names that lead there from the root, the last one first.
abbrev Place := List (List UInt8)

structure Tree where
  /-- The entries of the root directory. -/
  entries : List (List UInt8 × Entry)
  /-- The working directory, where paths begin that do not begin at the root. -/
  here : Place
  deriving Inhabited

/-- Why a path leads nowhere, or to something that cannot be read. -/
inductive Error where
  | notFound
  | notDirectory
  | isDirectory
  | tooManyLinks
  | nameTooLong
  /-- The path holds a NUL byte. -/
  | nulByte
  deriving DecidableEq, Repr

def Error.message : Error → String
  | notFound => "No such file or directory (os error 2)"
  | notDirectory => "Not a directory (os error 20)"
  | isDirectory => "Is a directory (os error 21)"
  | nameTooLong => "File name too long (os error 36)"
  | tooManyLinks => "Too many levels of symbolic links (os error 40)"
  | nulByte => "file name contained an unexpected NUL byte"

namespace Tree

-- The entry at a place.
def entry? (t : Tree) (p : Place) : Option Entry :=
  p.reverse.foldlM Entry.child? (.directory t.entries)

/-! ## Following a path -/

-- The longest name and the longest path.
def maxName : Nat := 255
def maxPath : Nat := 4095

-- Links that may be followed on one way.
def maxLinks : Nat := 40

/-- The names that a path goes through. A path that ends in a separator asks for a directory, as
one that ends in `.` does. -/
def steps (p : Path) : List (List UInt8) :=
  let segments := Path.segments p.bytes
  segments.filter (· ≠ []) ++ (if segments.getLast? = some [] then [[Path.dot]] else [])

-- Where a path begins that is looked up at a place.
def origin (p : Path) (here : Place) : Place :=
  if p.bytes.head? = some Path.separator then [] else here

-- The entry under a name of a directory.
def below (t : Tree) (here : Place) (name : List UInt8) : Except Error Entry :=
  match t.entry? here with
  | some (.directory entries) =>
    if maxName < name.length then .error .nameTooLong
    else (entries.lookup name).elim (.error .notFound) .ok
  | _ => .error .notDirectory

/-- Names in turn from a place, with `jump` for the way on from a link. A link under the last name
is followed only if `follow` holds. -/
def walkSteps (t : Tree) (follow : Bool)
    (jump : Place → List (List UInt8) → Except Error Place) :
    Place → List (List UInt8) → Except Error Place
  | here, [] => .ok here
  | here, name :: rest =>
    if !(t.entry? here).any Entry.isDirectory then .error .notDirectory
    else if name = [Path.dot] then walkSteps t follow jump here rest
    else if name = [Path.dot, Path.dot] then walkSteps t follow jump here.tail rest
    else
      match t.below here name with
      | .error e => .error e
      | .ok (.link target) =>
        -- A relative target begins where the link stands.
        if rest = [] ∧ !follow then .ok (name :: here)
        else jump (origin target here) (steps target ++ rest)
      | .ok _ => walkSteps t follow jump (name :: here) rest

-- Names in turn through at most `links` links.
def walk (t : Tree) (follow : Bool) : (links : Nat) → Place → List (List UInt8) →
    Except Error Place
  | 0 => walkSteps t follow fun _ _ => .error .tooManyLinks
  | links + 1 => walkSteps t follow (walk t follow links)

-- The place that a path leads to from the working directory.
def resolve (t : Tree) (follow : Bool) (p : Path) : Except Error Place :=
  if p.bytes.contains 0 then .error .nulByte
  else if p.bytes = [] then .error .notFound
  else if maxPath < p.bytes.length then .error .nameTooLong
  else walk t follow maxLinks (origin p t.here) (steps p)

-- What a path leads to, through all links.
def lookup (t : Tree) (p : Path) : Except Error Entry :=
  match t.resolve true p with
  | .ok place => (t.entry? place).elim (.error .notFound) .ok
  | .error e => .error e

-- Whether a path leads to a file.
def isFile (t : Tree) (p : Path) : Bool :=
  match t.lookup p with
  | .ok e => e.isFile
  | .error _ => false

-- Whether a path leads anywhere.
def hasPath (t : Tree) (p : Path) : Bool := (t.lookup p).isOk

-- The content of the file at a path.
def read (t : Tree) (p : Path) : Except Error (List UInt8) :=
  match t.lookup p with
  | .ok (.file content) => .ok content
  | .ok .device => .ok []
  | .ok _ => .error .isDirectory
  | .error e => .error e

/-! ## Building a tree -/

-- A list of entries with the one under `name` replaced, or a new one at its end.
def putEntry (name : List UInt8) (change : Option Entry → Entry) :
    List (List UInt8 × Entry) → List (List UInt8 × Entry)
  | [] => [(name, change none)]
  | (n, e) :: rest =>
    if n = name then (n, change (some e)) :: rest else (n, e) :: putEntry name change rest

-- Entries with one put at a trail of names, and directories on the way to it.
def putAt (entry : Entry) :
    List (List UInt8) → List (List UInt8 × Entry) → List (List UInt8 × Entry)
  | [], entries => entries
  | [name], entries =>
    putEntry name (fun old =>
      match old, entry with
      | some (.directory es), .directory [] => .directory es
      | _, _ => entry) entries
  | name :: next :: rest, entries =>
    putEntry name (fun old =>
      match old with
      | some (.directory es) => .directory (putAt entry (next :: rest) es)
      | _ => .directory (putAt entry (next :: rest) [])) entries

-- A tree with an entry at a path without links, and directories on the way to it.
def put (t : Tree) (p : Path) (entry : Entry) : Tree :=
  let names := (Path.segments p.bytes).filter fun s => s ≠ [] ∧ s ≠ [Path.dot]
  { t with entries := putAt entry ((origin p t.here).reverse ++ names) t.entries }

end Tree

end FontCatalog.Files
