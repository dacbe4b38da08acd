import FontCatalog.Proofs.Discovery.FontNames
import FontCatalog.Proofs.Discovery.Found
import FontCatalog.Proofs.Files.Building
import FontCatalog.Proofs.Files.Links
import FontCatalog.Proofs.Files.Ways

/-!
# All font files are found

A font file of a root is a file with the name of a font file that some names lead to from the root,
through directories and no links. The root itself can be such a file, and a root that is a link to a
directory is entered. Without following links, the font files of each root are found, each of them
once, and nothing else. Only a root that is missing can prevent this, or a directory whose path has
become too long.
-/

namespace FontCatalog.Discovery

open Files (Entry Tree)

variable {t : Tree} {e : Entry} {entries : List (List UInt8 × Entry)} {dir root p : Path}
  {path : Path} {roots found list : List Path}

/-- A font file of a root, under the path that begins with the root as it is spelled. -/
inductive FontFile (t : Tree) (root : Path) : Path → Prop where
  | root {content name : List UInt8} (h : t.own? root = some (.file content))
      (hlast : root.fileName? = some name) (hname : IsFontName name) : FontFile t root root
  | below {entries : List (List UInt8 × Entry)} {dirs : List (List UInt8)}
      {name content : List UInt8} (h : t.lookup root = .ok (.directory entries))
      (hway : Entry.Way (.directory entries) (dirs ++ [name]) (.file content))
      (hname : IsFontName name) : FontFile t root ((dirs ++ [name]).foldl Path.under root)

/-- A directory that is entered for a root: the root, or what names lead to from it through
directories, under the path that begins with the root as it is spelled. -/
inductive Entered (t : Tree) (root : Path) : Path → Prop where
  | mk {entries inner : List (List UInt8 × Entry)} {names : List (List UInt8)}
      (h : t.lookup root = .ok (.directory entries))
      (hway : Entry.Way (.directory entries) names (.directory inner)) :
      Entered t root (names.foldl Path.under root)

/-- All directories of a root can be opened. -/
def Readable (t : Tree) (root : Path) : Prop :=
  ∀ dir, Entered t root dir → dir.bytes.length ≤ Tree.maxPath

/-- Why the font files of a root cannot be found. -/
inductive Fails (t : Tree) (root : Path) : Error → Prop where
  | missing (h : ¬ t.hasPath root) : Fails t root (.rootMissing root)
  | unreadable {dir : Path} (hpath : t.hasPath root) (hdir : Entered t root dir)
      (hlong : Tree.maxPath < dir.bytes.length) : Fails t root (.unreadable dir .nameTooLong)

/-- The font files of a root, each one once. -/
structure Lists (t : Tree) (root : Path) (list : List Path) : Prop where
  mem_iff : ∀ p, p ∈ list ↔ FontFile t root p
  different : list.Pairwise fun p q => p.components ≠ q.components

/-! ## Below an entry -/

theorem openDirectory_of_le (h : dir.bytes.length ≤ Tree.maxPath) : openDirectory dir = .ok () := by
  rw [openDirectory, if_neg (Nat.not_lt.mpr h)]

theorem openDirectory_of_lt (h : Tree.maxPath < dir.bytes.length) :
    openDirectory dir = .error (.unreadable dir .nameTooLong) := by
  rw [openDirectory, if_pos h]

theorem fontsUnderAll_eq (dir : Path) (entries : List (List UInt8 × Entry)) :
    fontsUnderAll dir entries = do
      return (← entries.mapM fun entry => fontsUnder (dir.under entry.1) entry.2).flatten := by
  induction entries with
  | nil => rfl
  | cons first rest ih =>
    rw [fontsUnderAll, List.mapM_cons, ih]
    simp

-- In a directory that can be opened, the entries are searched one after the other.
theorem fontsUnder_directory (h : path.bytes.length ≤ Tree.maxPath) :
    fontsUnder path (.directory entries) = do
      return (← entries.mapM fun entry => fontsUnder (path.under entry.1) entry.2).flatten := by
  rw [fontsUnder, openDirectory_of_le h, ← fontsUnderAll_eq]
  rfl

theorem exists_of_fontsUnder_directory (h : fontsUnder path (.directory entries) = .ok found) :
    ∃ lists, entries.mapM (fun entry => fontsUnder (path.under entry.1) entry.2) = .ok lists ∧
      found = lists.flatten := by
  rw [fontsUnder] at h
  obtain ⟨-, -, h⟩ := exists_of_bind_ok h
  rw [fontsUnderAll_eq] at h
  obtain ⟨lists, hlists, h⟩ := exists_of_bind_ok h
  exact ⟨lists, hlists, (Except.ok.inj h).symm⟩

theorem mem_fontsUnder_iff (h : e.Proper) (hfound : fontsUnder path e = .ok found) :
    p ∈ found ↔ ∃ names content, e.Way names (.file content) ∧
      p = names.foldl Path.under path ∧ isFontPath p := by
  induction h generalizing path found with
  | file content =>
    cases hfound
    constructor
    · intro hp
      split at hp
      · rename_i hfont
        obtain rfl := List.mem_singleton.mp hp
        exact ⟨[], content, .here _, rfl, hfont⟩
      · cases hp
    · rintro ⟨names, content', hway, rfl, hfont⟩
      obtain ⟨rfl, -⟩ := hway.eq_of_file
      rw [List.foldl_nil] at hfont ⊢
      rw [if_pos hfont]
      exact List.mem_singleton_self path
  | link target | device =>
    cases hfound
    constructor
    · nofun
    · rintro ⟨names, content, hway, -⟩
      cases hway
  | directory _ _ _ ih =>
    obtain ⟨lists, hlists, rfl⟩ := exists_of_fontsUnder_directory hfound
    rw [List.mem_flatten]
    constructor
    · rintro ⟨list, hlist, hp⟩
      obtain ⟨⟨name, e⟩, hmem, he⟩ := (mem_mapM_ok_iff hlists).mp hlist
      obtain ⟨names, content, hway, rfl, hfont⟩ := (ih name e hmem he).mp hp
      exact ⟨name :: names, content, .into hmem hway, rfl, hfont⟩
    · rintro ⟨names, content, hway, rfl, hfont⟩
      obtain ⟨name, e, rest, hmem, rfl, hrest⟩ := Entry.way_directory_file_iff.mp hway
      obtain ⟨list, hlist⟩ := exists_mapM_iff.mp ⟨lists, hlists⟩ (name, e) hmem
      refine ⟨list, (mem_mapM_ok_iff hlists).mpr ⟨(name, e), hmem, hlist⟩, ?_⟩
      exact (ih name e hmem hlist).mpr ⟨rest, content, hrest, rfl, hfont⟩

-- What is found below a name of a directory has that name after the components of the directory.
theorem components_of_mem_fontsUnder (h : e.Proper) (hdir : dir.bytes ≠ []) {name : List UInt8}
    (hname : Path.IsName name) (hfound : fontsUnder (dir.under name) e = .ok found)
    (hp : p ∈ found) : ∃ rest, p.components = dir.components ++ .name name :: rest := by
  obtain ⟨names, content, hway, rfl, -⟩ := (mem_fontsUnder_iff h hfound).mp hp
  have hnames : ∀ n ∈ name :: names, Path.IsName n :=
    List.forall_mem_cons.mpr ⟨hname, h.names_of_way hway⟩
  exact ⟨names.map .name, Path.components_foldl_isName hdir hnames⟩

theorem pairwise_fontsUnder (h : e.Proper) (hpath : path.bytes ≠ [])
    (hfound : fontsUnder path e = .ok found) :
    found.Pairwise fun p q => p.components ≠ q.components := by
  induction h generalizing path found with
  | file content =>
    cases hfound
    split
    · exact List.pairwise_singleton _ _
    · exact .nil
  | link target | device =>
    cases hfound
    exact .nil
  | directory hnodup hnames hbelow ih =>
    obtain ⟨lists, hlists, rfl⟩ := exists_of_fontsUnder_directory hfound
    rw [List.pairwise_flatten]
    constructor
    · intro list hlist
      obtain ⟨⟨name, e⟩, hmem, he⟩ := (mem_mapM_ok_iff hlists).mp hlist
      exact ih name e hmem (Path.under_bytes_ne_nil hpath name) he
    · -- Under different names the paths part at the names.
      apply pairwise_mapM_ok hlists
      apply (List.pairwise_map.mp hnodup).imp_of_mem
      rintro ⟨name, e⟩ ⟨name', e'⟩ hmem hmem' hne list list' he he' p hp q hq heq
      obtain ⟨rest, hrest⟩ :=
        components_of_mem_fontsUnder (hbelow name e hmem) hpath (hnames name e hmem) he hp
      obtain ⟨rest', hrest'⟩ :=
        components_of_mem_fontsUnder (hbelow name' e' hmem') hpath (hnames name' e' hmem') he' hq
      rw [hrest, hrest'] at heq
      have hcons := List.append_cancel_left heq
      injection hcons with hhead
      injection hhead with hname
      exact hne hname

/-- The directories in and below an entry can all be opened, or the path of one of them is too long,
which is the error. -/
theorem fontsUnder_cases (h : e.Proper) (path : Path) :
    ((∃ found, fontsUnder path e = .ok found) ∧
      ∀ names inner, e.Way names (.directory inner) →
        (names.foldl Path.under path).bytes.length ≤ Tree.maxPath) ∨
    ∃ names inner, e.Way names (.directory inner) ∧
      Tree.maxPath < (names.foldl Path.under path).bytes.length ∧
      fontsUnder path e = .error (.unreadable (names.foldl Path.under path) .nameTooLong) := by
  induction h generalizing path with
  | file content | link target | device =>
    refine .inl ⟨⟨_, by rw [fontsUnder]⟩, ?_⟩
    intro names inner hway
    cases hway
  | @directory entries _ _ _ ih =>
    by_cases hlong : Tree.maxPath < path.bytes.length
    case pos =>
      refine .inr ⟨[], entries, .here _, hlong, ?_⟩
      rw [fontsUnder, openDirectory_of_lt hlong]
      rfl
    case neg =>
      have hle := Nat.le_of_not_lt hlong
      rw [fontsUnder_directory hle]
      cases hlists : entries.mapM fun entry => fontsUnder (path.under entry.1) entry.2 with
      | ok lists =>
        refine .inl ⟨⟨lists.flatten, rfl⟩, ?_⟩
        intro names inner hway
        cases hway with
        | here => exact hle
        | @into _ name e _ names hmem hrest =>
          obtain ⟨list, hlist⟩ := exists_mapM_iff.mp ⟨lists, hlists⟩ (name, e) hmem
          rcases ih name e hmem (path.under name) with ⟨-, hfits⟩ | ⟨_, _, -, -, herror⟩
          · exact hfits names inner hrest
          · cases hlist.symm.trans herror
      | error err =>
        obtain ⟨before, ⟨name, e⟩, after, rfl, -, he⟩ := mapM_eq_error_iff.mp hlists
        have hmem : (name, e) ∈ before ++ (name, e) :: after := by simp
        rcases ih name e hmem (path.under name) with ⟨⟨list, hlist⟩, -⟩ |
          ⟨names, inner, hway, hlong, herror⟩
        · cases he.symm.trans hlist
        · obtain rfl := Except.error.inj (he.symm.trans herror)
          exact .inr ⟨name :: names, inner, .into hmem hway, hlong, rfl⟩

/-! ## Below a root -/

/-- What is searched for a root: the file that it is, the directory that it is or leads to, or
nothing. -/
theorem fontsOfRoot_cases (t : Tree) (root : Path) :
    (∃ content, t.own? root = some (.file content) ∧
      (∀ entries, t.lookup root ≠ .ok (.directory entries)) ∧
      fontsOfRoot t root = fontsUnder root (.file content)) ∨
    (∃ entries, t.lookup root = .ok (.directory entries) ∧
      (∀ content, t.own? root ≠ some (.file content)) ∧
      fontsOfRoot t root = fontsUnder root (.directory entries)) ∨
    ((∀ content, t.own? root ≠ some (.file content)) ∧
      (∀ entries, t.lookup root ≠ .ok (.directory entries)) ∧ fontsOfRoot t root = .ok []) := by
  have hown : (t.resolve false root).toOption.bind t.entry? = t.own? root := rfl
  rw [fontsOfRoot, hown]
  by_cases hlink : ∃ target, t.own? root = some (.link target)
  · obtain ⟨target, htarget⟩ := hlink
    simp only [htarget]
    split
    · rename_i entries hentries
      exact .inr (.inl ⟨entries, hentries, by simp, rfl⟩)
    · rename_i hother
      exact .inr (.inr ⟨by simp, hother, rfl⟩)
  · have hlookup : ∀ e, t.lookup root = .ok e ↔ t.own? root = some e :=
      fun e => Tree.lookup_eq_ok_iff_own? (not_exists.mp hlink)
    simp only [hlookup, ne_eq]
    cases h : t.own? root with
    | none => simp
    | some e =>
      cases e with
      | file content => simp
      | link target => exact absurd ⟨target, h⟩ hlink
      | directory entries => simp
      | device => simp [fontsUnder]

theorem isFontPath_of_isName {names : List (List UInt8)} {name : List UInt8} (hroot : root.bytes ≠ [])
    (hnames : ∀ n ∈ names ++ [name], Path.IsName n) :
    isFontPath ((names ++ [name]).foldl Path.under root) ↔ IsFontName name := by
  have hlast : ((names ++ [name]).foldl Path.under root).fileName? = some name := by
    rw [Path.fileName?, Path.components_foldl_isName hroot hnames, List.map_append, List.map_singleton,
      ← List.append_assoc, List.getLast?_concat]
  simp only [isFontPath_iff, hlast, Option.some.injEq, exists_eq_left']

theorem lists_of_file {content : List UInt8} (hroot : root.bytes ≠ [])
    (hfile : t.own? root = some (.file content))
    (hdirectory : ∀ entries, t.lookup root ≠ .ok (.directory entries))
    (hfound : fontsUnder root (.file content) = .ok list) : Lists t root list := by
  refine ⟨fun p => ?_, pairwise_fontsUnder (.file content) hroot hfound⟩
  rw [mem_fontsUnder_iff (.file content) hfound]
  constructor
  · rintro ⟨names, content', hway, rfl, hfont⟩
    obtain ⟨rfl, -⟩ := hway.eq_of_file
    obtain ⟨name, hlast, hname⟩ := isFontPath_iff.mp hfont
    exact .root hfile hlast hname
  · intro hp
    cases hp with
    | root _ hlast hname => exact ⟨[], content, .here _, rfl, isFontPath_iff.mpr ⟨_, hlast, hname⟩⟩
    | below h => exact absurd h (hdirectory _)

theorem lists_of_directory (hroot : root.bytes ≠ []) (hproper : (Entry.directory entries).Proper)
    (hdirectory : t.lookup root = .ok (.directory entries))
    (hfile : ∀ content, t.own? root ≠ some (.file content))
    (hfound : fontsUnder root (.directory entries) = .ok list) : Lists t root list := by
  refine ⟨fun p => ?_, pairwise_fontsUnder hproper hroot hfound⟩
  rw [mem_fontsUnder_iff hproper hfound]
  constructor
  · rintro ⟨names, content, hway, rfl, hfont⟩
    have hnames := hproper.names_of_way hway
    rcases List.eq_nil_or_concat' names with rfl | ⟨dirs, name, rfl⟩
    · cases hway
    · exact .below hdirectory hway ((isFontPath_of_isName hroot hnames).mp hfont)
  · intro hp
    cases hp with
    | root h => exact absurd h (hfile _)
    | below h hway hname =>
      rw [hdirectory] at h
      cases h
      have hnames := hproper.names_of_way hway
      exact ⟨_, _, hway, rfl, (isFontPath_of_isName hroot hnames).mpr hname⟩

theorem lists_nil (hfile : ∀ content, t.own? root ≠ some (.file content))
    (hdirectory : ∀ entries, t.lookup root ≠ .ok (.directory entries)) : Lists t root [] := by
  refine ⟨fun p => ⟨nofun, fun hp => ?_⟩, .nil⟩
  cases hp with
  | root h => exact absurd h (hfile _)
  | below h => exact absurd h (hdirectory _)

theorem proper_of_lookup (ht : t.Proper) (h : t.lookup root = .ok e) : e.Proper := by
  obtain ⟨place, -, hplace⟩ := Option.bind_eq_some_iff.mp (Tree.lookup_eq_ok_iff.mp h)
  exact ht.entry? hplace

/-- Without following links, exactly the font files of a root are found for it. -/
theorem lists_of_fontsOfRoot (ht : t.Proper) (hroot : root.bytes ≠ [])
    (hfound : fontsOfRoot t root = .ok list) : Lists t root list := by
  rcases fontsOfRoot_cases t root with ⟨content, hfile, hdirectory, heq⟩ |
    ⟨entries, hdirectory, hfile, heq⟩ | ⟨hfile, hdirectory, heq⟩
  · exact lists_of_file hroot hfile hdirectory (heq.symm.trans hfound)
  · exact lists_of_directory hroot (proper_of_lookup ht hdirectory) hdirectory hfile
      (heq.symm.trans hfound)
  · obtain rfl := Except.ok.inj (heq.symm.trans hfound)
    exact lists_nil hfile hdirectory

/-- A search from a root comes to an end unless the path of a directory is too long. -/
theorem readable_or_unreadable (ht : t.Proper) (root : Path) :
    ((∃ list, fontsOfRoot t root = .ok list) ∧ Readable t root) ∨
    ∃ dir, Entered t root dir ∧ Tree.maxPath < dir.bytes.length ∧
      fontsOfRoot t root = .error (.unreadable dir .nameTooLong) := by
  have hreadable (hdirectory : ∀ entries, t.lookup root ≠ .ok (.directory entries)) :
      Readable t root := by
    rintro _ ⟨h, -⟩
    exact absurd h (hdirectory _)
  rcases fontsOfRoot_cases t root with ⟨content, -, hdirectory, heq⟩ |
    ⟨entries, hdirectory, -, heq⟩ | ⟨-, hdirectory, heq⟩
  · exact .inl ⟨⟨_, by rw [heq, fontsUnder]⟩, hreadable hdirectory⟩
  · rw [heq]
    rcases fontsUnder_cases (proper_of_lookup ht hdirectory) root with ⟨hok, hfits⟩ |
      ⟨names, inner, hway, hlong, herror⟩
    · refine .inl ⟨hok, ?_⟩
      rintro _ ⟨h, hway⟩
      rw [hdirectory] at h
      cases h
      exact hfits _ _ hway
    · exact .inr ⟨_, .mk hdirectory hway, hlong, herror⟩
  · exact .inl ⟨⟨[], heq⟩, hreadable hdirectory⟩

/-! ## All roots -/

/-- The font files of a root that has to be there. -/
def search (t : Tree) (root : Path) : Except Error (List Path) :=
  if !t.hasPath root then .error (.rootMissing root) else fontsOfRoot t root

theorem search_of_missing (h : ¬ t.hasPath root) : search t root = .error (.rootMissing root) := by
  rw [search, if_pos (by simpa using h)]

theorem search_of_hasPath (h : t.hasPath root) : search t root = fontsOfRoot t root := by
  rw [search, if_neg (by simpa using h)]

/-- What a search from a root comes to. -/
theorem search_cases (ht : t.Proper) (root : Path) :
    (∃ list, search t root = .ok list ∧ t.hasPath root ∧ Readable t root ∧ Lists t root list) ∨
      ∃ e, search t root = .error e ∧ Fails t root e := by
  by_cases hpath : t.hasPath root
  case neg => exact .inr ⟨_, search_of_missing hpath, .missing hpath⟩
  case pos =>
    rw [search_of_hasPath hpath]
    rcases readable_or_unreadable ht root with ⟨⟨list, hlist⟩, hreadable⟩ |
      ⟨dir, hdir, hlong, herror⟩
    · have hlists := lists_of_fontsOfRoot ht (bytes_ne_nil_of_hasPath hpath) hlist
      exact .inl ⟨list, hlist, hpath, hreadable, hlists⟩
    · exact .inr ⟨_, herror, .unreadable hpath hdir hlong⟩

-- What prevents a search is not there otherwise.
theorem Fails.not_readable {e : Error} (h : Fails t root e) :
    ¬ (t.hasPath root ∧ Readable t root) := by
  rintro ⟨hpath, hreadable⟩
  cases h with
  | missing h => exact h hpath
  | unreadable _ hdir hlong => exact absurd (hreadable _ hdir) (Nat.not_le.mpr hlong)

theorem search_ok_iff (ht : t.Proper) :
    (∃ list, search t root = .ok list) ↔ t.hasPath root ∧ Readable t root := by
  rcases search_cases ht root with ⟨list, hlist, hpath, hreadable, -⟩ | ⟨e, he, hfails⟩
  · exact ⟨fun _ => ⟨hpath, hreadable⟩, fun _ => ⟨list, hlist⟩⟩
  · refine ⟨?_, fun h => absurd h hfails.not_readable⟩
    rintro ⟨list, hlist⟩
    cases he.symm.trans hlist

theorem lists_of_search (ht : t.Proper) (h : search t root = .ok list) : Lists t root list := by
  rcases search_cases ht root with ⟨list', hlist, -, -, hlists⟩ | ⟨e, he, -⟩
  · obtain rfl := Except.ok.inj (hlist.symm.trans h)
    exact hlists
  · cases he.symm.trans h

theorem fails_of_search (ht : t.Proper) {e : Error} (h : search t root = .error e) :
    Fails t root e := by
  rcases search_cases ht root with ⟨list, hlist, -⟩ | ⟨e', he, hfails⟩
  · cases hlist.symm.trans h
  · obtain rfl := Except.error.inj (he.symm.trans h)
    exact hfails

theorem collect_eq (t : Tree) (roots : List Path) :
    collect t false roots = do return (← roots.mapM (search t)).flatten := by
  induction roots with
  | nil => rfl
  | cons root roots ih =>
    rw [collect, List.mapM_cons, ih]
    by_cases hpath : t.hasPath root
    · rw [search_of_hasPath hpath, if_neg (by simpa using hpath)]
      simp
    · rw [search_of_missing hpath, if_pos (by simpa using hpath)]
      rfl

theorem discover_eq_ok_iff :
    discover t false roots = .ok found ↔
      ∃ lists, roots.mapM (search t) = .ok lists ∧ found = lists.flatten.mergeSort Path.le := by
  rw [discover, collect_eq]
  cases roots.mapM (search t) with
  | ok lists =>
    constructor
    · rintro ⟨⟩
      exact ⟨lists, rfl, rfl⟩
    · rintro ⟨_, ⟨⟩, rfl⟩
      rfl
  | error e =>
    constructor
    · rintro ⟨⟩
    · rintro ⟨_, ⟨⟩, -⟩

theorem discover_eq_error_iff {e : Error} :
    discover t false roots = .error e ↔ roots.mapM (search t) = .error e := by
  rw [discover, collect_eq]
  cases roots.mapM (search t) with
  | ok lists => constructor <;> rintro ⟨⟩
  | error e' =>
    constructor <;>
    · rintro ⟨⟩
      rfl

theorem Lists.nodup {list : List Path} (h : Lists t root list) : list.Nodup :=
  h.different.imp fun hne heq => hne (congrArg _ heq)

-- A path stands as often in lists without repetition as there are lists that hold it.
theorem count_flatten_of_nodup {lists : List (List Path)} (h : ∀ list ∈ lists, list.Nodup)
    (p : Path) : lists.flatten.count p = lists.countP (p ∈ ·) := by
  induction lists with
  | nil => rfl
  | cons list lists ih =>
    obtain ⟨hlist, hlists⟩ := List.forall_mem_cons.mp h
    rw [List.flatten_cons, List.count_append, List.countP_cons, ih hlists, hlist.count, Nat.add_comm]
    simp only [decide_eq_true_eq]

theorem exists_discover_iff (ht : t.Proper) :
    (∃ found, discover t false roots = .ok found) ↔
      ∀ root ∈ roots, t.hasPath root ∧ Readable t root := by
  simp only [← search_ok_iff ht, ← exists_mapM_iff, discover_eq_ok_iff]
  constructor
  · rintro ⟨_, lists, hlists, -⟩
    exact ⟨lists, hlists⟩
  · rintro ⟨lists, hlists⟩
    exact ⟨_, lists, hlists, rfl⟩

-- The error is about the first root whose search fails.
theorem exists_fails_of_discover (ht : t.Proper) {e : Error}
    (h : discover t false roots = .error e) : ∃ present root rest, roots = present ++ root :: rest ∧
      (∀ r ∈ present, t.hasPath r ∧ Readable t r) ∧ Fails t root e := by
  obtain ⟨present, root, rest, hroots, hpresent, he⟩ :=
    mapM_eq_error_iff.mp (discover_eq_error_iff.mp h)
  exact ⟨present, root, rest, hroots, fun r hr => (search_ok_iff ht).mp (hpresent r hr),
    fails_of_search ht he⟩

theorem discover_eq_error_iff_of_readable (ht : t.Proper) (h : ∀ root ∈ roots, Readable t root)
    {e : Error} :
    discover t false roots = .error e ↔ ∃ present root rest, roots = present ++ root :: rest ∧
      (∀ r ∈ present, t.hasPath r) ∧ ¬ t.hasPath root ∧ e = .rootMissing root := by
  constructor
  · intro herror
    obtain ⟨present, root, rest, rfl, hpresent, hfails⟩ := exists_fails_of_discover ht herror
    refine ⟨present, root, rest, rfl, fun r hr => (hpresent r hr).1, ?_⟩
    cases hfails with
    | missing hmissing => exact ⟨hmissing, rfl⟩
    | unreadable _ hdir hlong => exact absurd (h root (by simp) _ hdir) (Nat.not_le.mpr hlong)
  · rintro ⟨present, root, rest, rfl, hpresent, hmissing, rfl⟩
    have hok : ∀ r ∈ present, ∃ list, search t r = .ok list := fun r hr =>
      (search_ok_iff ht).mpr ⟨hpresent r hr, h r (List.mem_append_left _ hr)⟩
    exact discover_eq_error_iff.mpr
      (mapM_eq_error_iff.mpr ⟨present, root, rest, rfl, hok, search_of_missing hmissing⟩)

/-- Without following links, font files are found exactly if all roots exist and their directories
can be opened, and otherwise the error is about the first root of which this is not so. Where all
directories can be opened, only a missing root matters, and the first one is the error. What is
found stands in the order of paths, and it is all font files of each root, put together: a path is
found as often as it is one of a root. For a single root no two paths that are found are the same,
however they are spelled. -/
theorem discover_exact (ht : t.Proper) (roots : List Path) :
    ((∃ found, discover t false roots = .ok found) ↔
      ∀ root ∈ roots, t.hasPath root ∧ Readable t root) ∧
    (∀ e, discover t false roots = .error e → ∃ present root rest,
      roots = present ++ root :: rest ∧ (∀ r ∈ present, t.hasPath r ∧ Readable t r) ∧
        Fails t root e) ∧
    ((∀ root ∈ roots, Readable t root) →
      ((∃ found, discover t false roots = .ok found) ↔ ∀ root ∈ roots, t.hasPath root) ∧
      ∀ e, discover t false roots = .error e ↔ ∃ present root rest,
        roots = present ++ root :: rest ∧ (∀ r ∈ present, t.hasPath r) ∧ ¬ t.hasPath root ∧
          e = .rootMissing root) ∧
    ∀ found, discover t false roots = .ok found →
      found.Pairwise (fun p q => p.le q) ∧
      (∃ lists, List.Forall₂ (Lists t) roots lists ∧ found.Perm lists.flatten ∧
        ∀ p, found.count p = lists.countP (p ∈ ·)) ∧
      ∀ root, roots = [root] → Lists t root found := by
  refine ⟨exists_discover_iff ht, fun e => exists_fails_of_discover ht,
    fun hreadable => ⟨?found, fun e => discover_eq_error_iff_of_readable ht hreadable⟩, ?exact⟩
  case found =>
    rw [exists_discover_iff ht]
    exact forall₂_congr fun root hroot => and_iff_left (hreadable root hroot)
  case exact =>
    intro found h
    obtain ⟨lists, hlists, hfound⟩ := discover_eq_ok_iff.mp h
    have hperm : found.Perm lists.flatten := by
      rw [hfound]
      exact List.mergeSort_perm _ _
    have hroots : List.Forall₂ (Lists t) roots lists :=
      (forall₂_of_mapM_ok hlists).imp fun _ _ => lists_of_search ht
    refine ⟨pairwise_le_discover h, ⟨lists, hroots, hperm, fun p => ?_⟩, ?_⟩
    · rw [hperm.count_eq]
      apply count_flatten_of_nodup
      intro list hlist
      obtain ⟨root, -, hroot⟩ := (mem_mapM_ok_iff hlists).mp hlist
      exact (lists_of_search ht hroot).nodup
    · rintro root rfl
      obtain ⟨list, _, hlist, hnil, rfl⟩ := List.forall₂_cons_left_iff.mp hroots
      obtain rfl := List.forall₂_nil_left_iff.mp hnil
      rw [List.flatten_singleton] at hperm
      refine ⟨fun p => hperm.mem_iff.trans (hlist.mem_iff p), ?_⟩
      exact (hperm.pairwise_iff Ne.symm).mpr hlist.different

-- A directory, a link to it, a link in it, and names that are close to those of font files.
def linkedFonts : Tree :=
  Tree.built [
    (Path.ofString "fonts/..ttf", .file []),
    (Path.ofString "fonts/.ttf", .file []),
    (Path.ofString "fonts/a.ttf.", .file []),
    (Path.ofString "fonts/d.otf", .link (Path.ofString "..ttf")),
    (Path.ofString "fonts/b/c.TtC", .file []),
    (Path.ofString "linked", .link (Path.ofString "fonts"))]

theorem linkedFonts_proper : linkedFonts.Proper := by
  apply Tree.proper_built
  simp only [List.forall_mem_cons]
  exact ⟨⟨by decide +kernel, .file _⟩, ⟨by decide +kernel, .file _⟩, ⟨by decide +kernel, .file _⟩,
    ⟨by decide +kernel, .link _⟩, ⟨by decide +kernel, .file _⟩, ⟨by decide +kernel, .link _⟩, nofun⟩

def linkedRoots : List Path := ["linked", "fonts/b", "fonts"].map Path.ofString

-- The font files of each of them.
def linkedLists : List (List Path) :=
  [["linked/..ttf", "linked/b/c.TtC"], ["fonts/b/c.TtC"], ["fonts/..ttf", "fonts/b/c.TtC"]].map
    (·.map Path.ofString)

-- What two of the roots share is found twice.
def linkedFound : List Path :=
  ["fonts/..ttf", "fonts/b/c.TtC", "fonts/b/c.TtC", "linked/..ttf", "linked/b/c.TtC"].map
    Path.ofString

theorem discover_exact_linkedFonts :
    linkedFonts.Proper ∧ (∀ root ∈ linkedRoots, Readable linkedFonts root) ∧
    discover linkedFonts false linkedRoots = .ok linkedFound ∧
    ∃ lists, List.Forall₂ (Lists linkedFonts) linkedRoots lists ∧ linkedFound.Perm lists.flatten ∧
      ∀ p, linkedFound.count p = lists.countP (p ∈ ·) := by
  obtain ⟨hok, -, -, hexact⟩ := discover_exact linkedFonts_proper linkedRoots
  have hsearch : linkedRoots.mapM (search linkedFonts) = .ok linkedLists := by decide +kernel
  have hfound := discover_eq_ok_iff.mpr ⟨linkedLists, hsearch, rfl⟩
  obtain ⟨hsorted, hlists, -⟩ := hexact _ hfound
  have hperm : (linkedLists.flatten.mergeSort Path.le).Perm linkedFound := by
    apply (List.mergeSort_perm _ _).trans
    decide +kernel
  -- These paths can be sorted in one way only.
  have hantisymm : ∀ p ∈ linkedFound, ∀ q ∈ linkedFound, p.le q → q.le p → p = q := by
    decide +kernel
  have heq : linkedLists.flatten.mergeSort Path.le = linkedFound := by
    refine hperm.eq_of_pairwise (fun p q hp hq => ?_) hsorted (by decide +kernel)
    exact hantisymm p (hperm.mem_iff.mp hp) q hq
  rw [heq] at hfound hlists
  exact ⟨linkedFonts_proper, fun root hroot => (hok.mp ⟨_, hfound⟩ root hroot).2, hfound, hlists⟩

end FontCatalog.Discovery
