import FontCatalog.Proofs.Files.Components
import FontCatalog.Proofs.Files.Links
import Mathlib.Data.List.Nodup

/-!
# Ways through directories

The entries below an entry are reached by names, one for each directory on the way. In a file system
the names in a directory are different, and each is a single component of a path. So different ways
from a directory spell paths with different components.
-/

namespace FontCatalog

/-- The names that entries of directories have: one component of a path, and neither `.` nor `..`. -/
structure Path.IsName (name : List UInt8) : Prop where
  ne_nil : name ≠ []
  ne_dot : name ≠ [dot]
  ne_parent : name ≠ [dot, dot]
  separator_notMem : separator ∉ name

namespace Path.IsName

variable {name : List UInt8}

theorem names_eq (h : IsName name) : names name = [name] := by
  rw [names, segments, Text.cut_of_notMem h.separator_notMem]
  exact List.filter_cons_of_pos (by simpa using ⟨h.ne_nil, h.ne_dot⟩)

theorem component?_eq (h : IsName name) : component? name = some (.name name) := by
  rw [component?, if_neg (not_or.mpr ⟨h.ne_nil, h.ne_dot⟩), if_neg h.ne_parent]

end Path.IsName

namespace Path

variable {dir : Path} {names : List (List UInt8)}

-- Every name on a way adds itself to the components.
theorem components_foldl_isName (h : dir.bytes ≠ []) (hnames : ∀ name ∈ names, IsName name) :
    (names.foldl under dir).components = dir.components ++ names.map .name := by
  rw [components_foldl_under h fun name hname => (hnames name hname).names_eq]
  congr 1
  rw [← List.filterMap_eq_map]
  exact List.filterMap_congr fun name hname => (hnames name hname).component?_eq

end Path

namespace Files.Entry

/-- What lies below an entry, and the names that lead there through directories. -/
inductive Way : Entry → List (List UInt8) → Entry → Prop where
  | here (e : Entry) : Way e [] e
  | into {entries : List (List UInt8 × Entry)} {name : List UInt8} {e f : Entry}
      {names : List (List UInt8)} (h : (name, e) ∈ entries) (rest : Way e names f) :
      Way (.directory entries) (name :: names) f

/-- An entry of a file system: the names in every directory are names, and different. -/
inductive Proper : Entry → Prop where
  | file (content : List UInt8) : Proper (.file content)
  | link (target : Path) : Proper (.link target)
  | device : Proper .device
  | directory {entries : List (List UInt8 × Entry)} (nodup : (entries.map (·.1)).Nodup)
      (names : ∀ name e, (name, e) ∈ entries → Path.IsName name)
      (below : ∀ name e, (name, e) ∈ entries → Proper e) : Proper (.directory entries)

variable {e f : Entry} {names : List (List UInt8)}

theorem Way.eq_of_file {content : List UInt8} (h : Way (.file content) names f) :
    names = [] ∧ f = .file content := by
  cases h with
  | here => exact ⟨rfl, rfl⟩

-- A file is not where a way begins at a directory.
theorem way_directory_file_iff {entries : List (List UInt8 × Entry)} {content : List UInt8} :
    Way (.directory entries) names (.file content) ↔
      ∃ name e rest, (name, e) ∈ entries ∧ names = name :: rest ∧ e.Way rest (.file content) := by
  constructor
  · intro h
    cases h with
    | into hmem hrest => exact ⟨_, _, _, hmem, rfl, hrest⟩
  · rintro ⟨name, e, rest, hmem, rfl, hrest⟩
    exact .into hmem hrest

theorem Proper.names_of_way (h : e.Proper) (hway : e.Way names f) :
    ∀ name ∈ names, Path.IsName name := by
  induction hway with
  | here e => simp
  | into hmem _ ih =>
    cases h with
    | directory _ hnames hbelow =>
      exact List.forall_mem_cons.mpr ⟨hnames _ _ hmem, ih (hbelow _ _ hmem)⟩

theorem Proper.child? (h : e.Proper) {name : List UInt8} (hchild : e.child? name = some f) :
    f.Proper := by
  cases h with
  | directory _ _ hbelow =>
    obtain ⟨before, after, rfl, -⟩ := List.lookup_eq_some_iff.mp hchild
    exact hbelow name f (by simp)
  | file content => cases hchild
  | link target => cases hchild
  | device => cases hchild

end Files.Entry

namespace Files.Tree

/-- A tree of a file system. -/
def Proper (t : Tree) : Prop := (Entry.directory t.entries).Proper

variable {t : Tree} {place : Place} {e : Entry}

theorem Proper.entry? (h : t.Proper) (he : t.entry? place = some e) : e.Proper := by
  induction place generalizing e with
  | nil =>
    obtain rfl : Entry.directory t.entries = e := Option.some.inj he
    exact h
  | cons name here ih =>
    rw [entry?_cons] at he
    obtain ⟨dir, hdir, hchild⟩ := Option.bind_eq_some_iff.mp he
    exact (ih hdir).child? hchild

end Files.Tree

end FontCatalog
