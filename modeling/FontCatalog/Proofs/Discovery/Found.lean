import FontCatalog.Discovery
import FontCatalog.Proofs.Files.Components
import FontCatalog.Proofs.Files.Order
import FontCatalog.Proofs.Results

/-!
# Paths of font files that are found

A font file that is found under a root has the path that the names on the way to it spell after that
root, whether links are followed or not. All of them come in the order of paths.
-/

namespace FontCatalog.Discovery

open Files (Entry Place Tree)

variable {t : Tree} {p : Path} {found : List Path}

/-! ## Without following links -/

-- A path that is kept for its extension.
theorem below_of_mem_kept {path : Path} (h : p ∈ if isFontPath path then [path] else []) :
    path.Below p := by
  split at h
  · obtain rfl := List.mem_singleton.mp h
    exact .refl p
  · cases h

mutual

theorem below_of_mem_fontsUnder {path : Path} {e : Entry} {found : List Path}
    (h : fontsUnder path e = .ok found) (hp : p ∈ found) : path.Below p := by
  cases e with
  | file content =>
    cases h
    exact below_of_mem_kept hp
  | link target | device =>
    cases h
    cases hp
  | directory entries =>
    rw [fontsUnder] at h
    obtain ⟨-, -, h⟩ := exists_of_bind_ok h
    exact below_of_mem_fontsUnderAll h hp

theorem below_of_mem_fontsUnderAll {dir : Path} {entries : List (List UInt8 × Entry)}
    {found : List Path} (h : fontsUnderAll dir entries = .ok found) (hp : p ∈ found) :
    dir.Below p := by
  cases entries with
  | nil =>
    cases h
    cases hp
  | cons first rest =>
    obtain ⟨name, e⟩ := first
    rw [fontsUnderAll] at h
    obtain ⟨here, hhere, h⟩ := exists_of_bind_ok h
    obtain ⟨others, hothers, h⟩ := exists_of_bind_ok h
    cases h
    rcases List.mem_append.mp hp with hp | hp
    · exact (below_of_mem_fontsUnder hhere hp).of_under
    · exact below_of_mem_fontsUnderAll hothers hp

end

theorem below_of_mem_fontsOfRoot {root : Path} (h : fontsOfRoot t root = .ok found)
    (hp : p ∈ found) : root.Below p := by
  rw [fontsOfRoot] at h
  split at h
  · split at h
    · exact below_of_mem_fontsUnder h hp
    · cases h
      cases hp
  · exact below_of_mem_fontsUnder h hp
  · cases h
    cases hp

/-! ## Following links -/

-- A link that is followed does not change the path.
theorem below_of_mem_fontsThrough {fuel : Nat} {ancestors : List (Path × Place)} {path : Path}
    {place : Place} {e : Entry} (h : fontsThrough t fuel ancestors path place e = .ok found)
    (hp : p ∈ found) : path.Below p := by
  induction fuel generalizing ancestors path place e found with
  | zero =>
    cases h
    cases hp
  | succ fuel ih =>
    cases e with
    | file content =>
      cases h
      exact below_of_mem_kept hp
    | device =>
      cases h
      cases hp
    | link target =>
      rw [fontsThrough] at h
      split at h
      · cases h
      · split at h
        · cases h
        · split at h
          · cases h
          · exact ih h hp
        · exact ih h hp
    | directory entries =>
      rw [fontsThrough] at h
      obtain ⟨-, -, h⟩ := exists_of_bind_ok h
      obtain ⟨lists, hlists, h⟩ := exists_of_bind_ok h
      cases h
      obtain ⟨list, hlist, hp⟩ := List.mem_flatten.mp hp
      obtain ⟨entry, -, hentry⟩ := (mem_mapM_ok_iff hlists).mp hlist
      exact (ih hentry hp).of_under

theorem below_of_mem_fontsOfRootThrough {root : Path} (h : fontsOfRootThrough t root = .ok found)
    (hp : p ∈ found) : root.Below p := by
  rw [fontsOfRootThrough] at h
  split at h
  · cases h
  · split at h
    · cases h
    · exact below_of_mem_fontsThrough h hp

/-! ## All roots -/

-- The empty path leads nowhere.
theorem bytes_ne_nil_of_hasPath (h : t.hasPath p) : p.bytes ≠ [] := by
  intro hnil
  simp [Tree.hasPath, Tree.lookup, Tree.resolve, hnil, Except.isOk, Except.toBool] at h

-- What is found under several roots is found under the first one or under the others.
theorem exists_of_collect_cons {follow : Bool} {root : Path} {roots : List Path}
    (h : collect t follow (root :: roots) = .ok found) :
    t.hasPath root ∧ ∃ here others, (∀ p ∈ here, root.Below p) ∧
      collect t follow roots = .ok others ∧ found = here ++ others := by
  rw [collect] at h
  split at h
  · cases h
  · rename_i hpath
    refine ⟨by simpa using hpath, ?_⟩
    cases follow with
    | true =>
      obtain ⟨here, hhere, h⟩ := exists_of_bind_ok h
      obtain ⟨others, hothers, h⟩ := exists_of_bind_ok h
      cases h
      exact ⟨here, others, fun p => below_of_mem_fontsOfRootThrough hhere, hothers, rfl⟩
    | false =>
      obtain ⟨here, hhere, h⟩ := exists_of_bind_ok h
      obtain ⟨others, hothers, h⟩ := exists_of_bind_ok h
      cases h
      exact ⟨here, others, fun p => below_of_mem_fontsOfRoot hhere, hothers, rfl⟩

theorem exists_root_of_mem_collect {follow : Bool} {roots : List Path}
    (h : collect t follow roots = .ok found) (hp : p ∈ found) :
    ∃ root ∈ roots, root.bytes ≠ [] ∧ root.Below p := by
  induction roots generalizing found with
  | nil =>
    cases h
    cases hp
  | cons root roots ih =>
    obtain ⟨hpath, here, others, hhere, hothers, rfl⟩ := exists_of_collect_cons h
    rcases List.mem_append.mp hp with hp | hp
    · exact ⟨root, List.mem_cons_self, bytes_ne_nil_of_hasPath hpath, hhere p hp⟩
    · obtain ⟨root', hroot', hbelow⟩ := ih hothers hp
      exact ⟨root', List.mem_cons_of_mem root hroot', hbelow⟩

theorem exists_of_discover {follow : Bool} {roots : List Path}
    (h : discover t follow roots = .ok found) :
    ∃ collected, collect t follow roots = .ok collected ∧ found = collected.mergeSort Path.le := by
  rw [discover] at h
  cases hcollect : collect t follow roots with
  | error e =>
    rw [hcollect] at h
    cases h
  | ok collected =>
    rw [hcollect] at h
    cases h
    exact ⟨collected, rfl, rfl⟩

/-- A font file that is found lies below a root, under the spelling of the root. -/
theorem exists_root_of_mem_discover {follow : Bool} {roots : List Path}
    (h : discover t follow roots = .ok found) (hp : p ∈ found) :
    ∃ root ∈ roots, root.bytes ≠ [] ∧ root.Below p := by
  obtain ⟨collected, hcollect, rfl⟩ := exists_of_discover h
  exact exists_root_of_mem_collect hcollect (List.mem_mergeSort.mp hp)

/-- Font files are found in the order of paths. -/
theorem pairwise_le_discover {follow : Bool} {roots : List Path}
    (h : discover t follow roots = .ok found) : found.Pairwise fun p q => p.le q := by
  obtain ⟨collected, -, rfl⟩ := exists_of_discover h
  exact Path.pairwise_le_mergeSort collected

end FontCatalog.Discovery
