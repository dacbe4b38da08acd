import FontCatalog.Files.Tree

/-!
# Font files on disk

The font files under some directories, whatever the configuration says about them. Directories are
gone through without passing through symbolic links, or, on request, through links as well. Then
every link must lead somewhere, and none may lead back to a directory that is being gone through.
Either way a directory that cannot be read ends the search.
-/

namespace FontCatalog.Discovery

open Files (Entry Place Tree)

/-- Why font files cannot be collected. -/
inductive Error where
  | rootMissing (root : Path)
  | unreadable (path : Path) (cause : Files.Error)
  /-- A link leads back to a directory that is being gone through. -/
  | loop (child ancestor : Path)
  deriving DecidableEq, Repr

namespace Error

def message : Error → String
  | rootMissing root => "root path does not exist: " ++ root.display
  | unreadable path cause => "IO error for operation on " ++ path.display ++ ": " ++ cause.message
  | loop child ancestor =>
    "File system loop found: " ++ child.display ++ " points to an ancestor " ++ ancestor.display

-- What lies behind an error.
def cause? : Error → Option String
  | unreadable _ cause => some cause.message
  | _ => none

end Error

/-! ## Font files by name -/

-- A letter in lower case, and any other byte as it is.
def lowerByte (b : UInt8) : UInt8 := if 0x41 ≤ b ∧ b ≤ 0x5A then b + 0x20 else b

-- The extensions of font files.
def extensions : List (List UInt8) := ["ttf", "otf", "ttc", "otc"].map Utf8.encodeString

-- Whether a path has the extension of a font file, in either case.
def isFontPath (p : Path) : Bool :=
  match p.extension? with
  | some e => extensions.contains (e.map lowerByte)
  | none => false

/-! ## Opening directories -/

/-- A directory that a search comes to is opened by its path. This grows from directory to directory
and can become too long. -/
def openDirectory (path : Path) : Except Error Unit :=
  if Tree.maxPath < path.bytes.length then .error (.unreadable path .nameTooLong) else .ok ()

/-! ## Without following links -/

mutual

-- The font files in and below an entry. Links are not files.
def fontsUnder (path : Path) : Entry → Except Error (List Path)
  | .file _ => .ok (if isFontPath path then [path] else [])
  | .link _ => .ok []
  | .directory entries => do
    openDirectory path
    fontsUnderAll path entries
  | .device => .ok []

-- The font files in and below the entries of a directory.
def fontsUnderAll (dir : Path) : List (List UInt8 × Entry) → Except Error (List Path)
  | [] => .ok []
  | (name, e) :: rest => do
    let here ← fontsUnder (dir.under name) e
    return here ++ (← fontsUnderAll dir rest)

end

/-- The font files below a root. A root that is a link to a directory is gone through; a root that
is a link to a file is a link and no file. -/
def fontsOfRoot (t : Tree) (root : Path) : Except Error (List Path) :=
  match (t.resolve false root).toOption.bind t.entry? with
  | some (.link _) =>
    match t.lookup root with
    | .ok (.directory entries) => fontsUnder root (.directory entries)
    | _ => .ok []
  | some e => fontsUnder root e
  | none => .ok []

/-! ## Following links -/

-- The directory that an earlier path led to, if one of them is at this place.
def ancestorAt (ancestors : List (Path × Place)) (place : Place) : Option Path :=
  (ancestors.find? (·.2 == place)).map (·.1)

/-- The font files in and below an entry at a place, through links. `ancestors` holds the
directories that are being gone through, the innermost first. Between two links a way goes down the
tree, and no two links of a way lead to the same place, which bounds the depth. -/
def fontsThrough (t : Tree) : (fuel : Nat) → List (Path × Place) → Path → Place → Entry →
    Except Error (List Path)
  -- Not reached from the bound in `fontsOfRootThrough`.
  | 0, _, _, _, _ => .ok []
  | _ + 1, _, path, _, .file _ => .ok (if isFontPath path then [path] else [])
  | fuel + 1, ancestors, path, _, .link _ =>
    match t.resolve true path with
    | .error e => .error (.unreadable path e)
    | .ok place =>
      match t.entry? place with
      | none => .error (.unreadable path .notFound)
      | some (.directory entries) =>
        match ancestorAt ancestors place with
        | some ancestor => .error (.loop path ancestor)
        | none => fontsThrough t fuel ancestors path place (.directory entries)
      | some e => fontsThrough t fuel ancestors path place e
  | _ + 1, _, _, _, .device => .ok []
  | fuel + 1, ancestors, path, place, .directory entries => do
    openDirectory path
    let below (entry : List UInt8 × Entry) : Except Error (List Path) :=
      fontsThrough t fuel ((path, place) :: ancestors) (path.under entry.1) (entry.1 :: place)
        entry.2
    -- Only a link can lead back to an ancestor, so a directory is not looked for among them.
    return (← entries.mapM below).flatten

mutual

-- The number of entries in and below an entry.
def entryCount : Entry → Nat
  | .file _ => 1
  | .link _ => 1
  | .directory entries => entryCountAll entries + 1
  | .device => 1

def entryCountAll : List (List UInt8 × Entry) → Nat
  | [] => 0
  | (_, e) :: rest => entryCount e + entryCountAll rest

end

-- The font files below a root, through links.
def fontsOfRootThrough (t : Tree) (root : Path) : Except Error (List Path) :=
  match t.resolve true root with
  | .error e => .error (.unreadable root e)
  | .ok place =>
    match t.entry? place with
    | none => .error (.unreadable root .notFound)
    | some e =>
      let size := entryCountAll t.entries + 2
      fontsThrough t (2 * size * size) [] root place e

/-! ## All roots -/

-- The font files below some roots, root by root.
def collect (t : Tree) (follow : Bool) : List Path → Except Error (List Path)
  | [] => .ok []
  | root :: rest =>
    if !t.hasPath root then .error (.rootMissing root)
    else do
      let here ← if follow then fontsOfRootThrough t root else fontsOfRoot t root
      return here ++ (← collect t follow rest)

-- The font files below some roots in the order of paths.
def discover (t : Tree) (follow : Bool) (roots : List Path) : Except Error (List Path) :=
  (collect t follow roots).map fun found => found.mergeSort Path.le

end FontCatalog.Discovery
