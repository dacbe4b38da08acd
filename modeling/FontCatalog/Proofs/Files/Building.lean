import FontCatalog.Proofs.Files.Ways

/-!
# Trees that are built

A tree that is built by putting entries at paths is one of a file system, as long as no path goes up
by `..`. In each directory an entry takes the place of one that has its name, so the names stay
different.
-/

namespace FontCatalog.Files

variable {entries : List (List UInt8 × Entry)} {name : List UInt8} {e : Entry}

namespace Entry

theorem proper_directory_nil : (directory []).Proper :=
  .directory .nil nofun nofun

theorem proper_directory_cons_iff :
    (directory ((name, e) :: entries)).Proper ↔
      name ∉ entries.map (·.1) ∧ Path.IsName name ∧ e.Proper ∧ (directory entries).Proper := by
  constructor
  · intro h
    cases h with
    | directory hnodup hnames hbelow =>
      obtain ⟨hfirst, hnodup⟩ := List.nodup_cons.mp hnodup
      refine ⟨hfirst, hnames name e List.mem_cons_self, hbelow name e List.mem_cons_self,
        .directory hnodup ?_ ?_⟩
      · exact fun n f hmem => hnames n f (List.mem_cons_of_mem _ hmem)
      · exact fun n f hmem => hbelow n f (List.mem_cons_of_mem _ hmem)
  · rintro ⟨hfirst, hname, he, hrest⟩
    cases hrest with
    | directory hnodup hnames hbelow =>
      refine .directory (List.nodup_cons.mpr ⟨hfirst, hnodup⟩) ?_ ?_
      · intro n f hmem
        rcases List.mem_cons.mp hmem with heq | hmem
        · cases heq
          exact hname
        · exact hnames n f hmem
      · intro n f hmem
        rcases List.mem_cons.mp hmem with heq | hmem
        · cases heq
          exact he
        · exact hbelow n f hmem

end Entry

namespace Tree

variable {change : Option Entry → Entry}

theorem mem_names_putEntry {n : List UInt8} (h : n ∈ (putEntry name change entries).map (·.1)) :
    n = name ∨ n ∈ entries.map (·.1) := by
  induction entries with
  | nil => exact .inl (List.mem_singleton.mp h)
  | cons first rest ih =>
    rw [putEntry] at h
    split at h
    · exact .inr h
    · rcases List.mem_cons.mp h with rfl | h
      · exact .inr List.mem_cons_self
      · exact (ih h).imp id (List.mem_cons_of_mem _)

theorem proper_putEntry (h : (Entry.directory entries).Proper) (hname : Path.IsName name)
    (hnew : (change none).Proper) (hold : ∀ e : Entry, e.Proper → (change (some e)).Proper) :
    (Entry.directory (putEntry name change entries)).Proper := by
  induction entries with
  | nil => exact Entry.proper_directory_cons_iff.mpr ⟨by simp, hname, hnew, h⟩
  | cons first rest ih =>
    obtain ⟨n, e⟩ := first
    obtain ⟨hn, hisName, he, hrest⟩ := Entry.proper_directory_cons_iff.mp h
    rw [putEntry]
    split
    · exact Entry.proper_directory_cons_iff.mpr ⟨hn, hisName, hold e he, hrest⟩
    · rename_i hne
      refine Entry.proper_directory_cons_iff.mpr ⟨?_, hisName, he, ih hrest⟩
      intro hmem
      exact (mem_names_putEntry hmem).elim hne hn

theorem proper_putAt (he : e.Proper) {names : List (List UInt8)}
    (hnames : ∀ n ∈ names, Path.IsName n) (h : (Entry.directory entries).Proper) :
    (Entry.directory (putAt e names entries)).Proper := by
  induction names generalizing entries with
  | nil =>
    rw [putAt]
    exact h
  | cons name rest ih =>
    obtain ⟨hname, hrest⟩ := List.forall_mem_cons.mp hnames
    cases rest with
    | nil =>
      rw [putAt]
      apply proper_putEntry h hname he
      intro old hold
      split
      · cases ‹some old = _›
        exact hold
      · exact he
    | cons next rest =>
      rw [putAt]
      apply proper_putEntry h hname
      · exact ih hrest Entry.proper_directory_nil
      · intro old hold
        split
        · cases ‹some old = _›
          exact ih hrest hold
        · exact ih hrest Entry.proper_directory_nil

/-- A tree of a file system stays one when an entry is put at a path without `..`. -/
theorem Proper.put {t : Tree} (h : t.Proper) (hhere : ∀ n ∈ t.here, Path.IsName n) {p : Path}
    (hp : .parent ∉ p.components) (he : e.Proper) : (t.put p e).Proper := by
  have hnames : ∀ n ∈ Path.names p.bytes, Path.IsName n := by
    intro n hn
    obtain ⟨hsegment, hkept⟩ := List.mem_filter.mp hn
    obtain ⟨hnil, hdot⟩ : n ≠ [] ∧ n ≠ [Path.dot] := by simpa using hkept
    refine ⟨hnil, hdot, ?_, Text.not_mem_of_mem_cut hsegment⟩
    rintro rfl
    exact hp (List.mem_append_right _ (List.mem_filterMap.mpr ⟨_, hsegment, rfl⟩))
  have horigin : ∀ n ∈ (origin p t.here).reverse, Path.IsName n := by
    intro n hn
    rw [List.mem_reverse, origin] at hn
    split at hn
    · cases hn
    · exact hhere n hn
  exact proper_putAt he (List.forall_mem_append.mpr ⟨horigin, hnames⟩) h

/-- The tree that entries make which are put at paths one after the other. -/
def built (puts : List (Path × Entry)) : Tree :=
  puts.foldl (fun t put => t.put put.1 put.2) ⟨[], []⟩

theorem proper_built {puts : List (Path × Entry)}
    (h : ∀ put ∈ puts, .parent ∉ put.1.components ∧ put.2.Proper) : (built puts).Proper := by
  have hfold : ∀ t : Tree, t.Proper → t.here = [] →
      (puts.foldl (fun t put => t.put put.1 put.2) t).Proper := by
    induction puts with
    | nil => exact fun t ht _ => ht
    | cons put puts ih =>
      obtain ⟨⟨hpath, hentry⟩, hputs⟩ := List.forall_mem_cons.mp h
      intro t ht hhere
      exact ih hputs _ (ht.put (by simp [hhere]) hpath hentry) hhere
  exact hfold ⟨[], []⟩ Entry.proper_directory_nil rfl

end Tree

end FontCatalog.Files
