import FontCatalog.Files.Path
import FontCatalog.Json.Decode

/-!
# Paths in JSON

A path that is UTF-8 is a JSON string. Other paths have no JSON form.
-/

namespace FontCatalog.Json

-- Why a path cannot be written.
def unwritablePathMessage : String := "path contains invalid UTF-8 characters"

def ofPath (p : Path) : Json := p.text?.elim .unwritable .string

def readPath : Reader Path := fun s => do
  let (text, rest) ← readString "path string" s
  return (.ofString text, rest)

end FontCatalog.Json
