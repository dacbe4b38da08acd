import FontCatalog.Proofs.Document.Breakdown

/-!
# What loading a document tells

A document is loaded from a file that may be missing, that may hold no UTF-8, or no well-formed XML.
Each of these gives the document without elements and one warning. A document with elements has all
elements of its file, and no warning. So a configuration without fonts is told apart from one that
could not be read, and a walk through the latter ends at once.
-/

namespace FontCatalog

theorem Xml.isElement_of_read {s : List Char} {root : Node} (h : Xml.read s = .ok root) :
    root.isElement = true := by
  obtain ⟨b, -, hb⟩ := exists_of_bind_ok h
  split at hb
  · cases hfound : b.top.reverse.find? Node.isElement with
    | none =>
      rw [hfound] at hb
      cases hb
    | some found =>
      rw [hfound] at hb
      obtain rfl : found = root := Except.ok.inj hb
      exact List.find?_some hfound
  · cases hb

namespace Document

/-- There is no file to read, or what it holds is no UTF-8 or no well-formed XML. -/
inductive Unreadable (files : Files.Tree) (path : Path) : Prop where
  | missing {e : Files.Error} (h : files.read path = .error e)
  | notText {bytes : List UInt8} {e : Utf8.Error} (hread : files.read path = .ok bytes)
      (h : Utf8.decode bytes = .error e)
  | notXml {bytes : List UInt8} {text : List Char} (hread : files.read path = .ok bytes)
      (hdecode : Utf8.decode bytes = .ok text) (h : Xml.read text = .error .malformed)

theorem load_of_unreadable {files : Files.Tree} {path : Path} (h : Unreadable files path) :
    ∃ log, load files path = .ok (.empty, log) := by
  cases h with
  | missing h =>
    simp only [load, h]
    exact ⟨_, rfl⟩
  | notText hread h =>
    simp only [load, hread, h]
    exact ⟨_, rfl⟩
  | notXml hread hdecode h =>
    simp only [load, hread, hdecode, parse, h]
    exact ⟨_, rfl⟩

/-- There is a file to read, and it holds UTF-8. -/
def HasText (files : Files.Tree) (path : Path) : Prop :=
  ∃ bytes text, files.read path = .ok bytes ∧ Utf8.decode bytes = .ok text

/-- There is a file to read, and it holds the XML text of a tree. -/
def HasTree (files : Files.Tree) (path : Path) (root : Xml.Node) : Prop :=
  ∃ bytes text, files.read path = .ok bytes ∧ Utf8.decode bytes = .ok text ∧
    Xml.read text = .ok root

/-- A document has all elements of a tree, and no others. -/
structure Keeps (d : Document) (root : Xml.Node) : Prop where
  every : ∀ a t, root.at? a = some t → ∃ n e, root.addresses[n]? = some a ∧
    d.element? n = some e ∧ e.name = t.name ∧ e.attributes = t.attributes ∧ e.text = t.ownText
  size : d.size = root.addresses.length

theorem keeps_ofTree {root : Xml.Node} (h : root.isElement = true) : (ofTree root).Keeps root where
  every := by
    intro a t hat
    have hmem : a ∈ root.addresses :=
      (Xml.Node.mem_addresses h).mpr (Option.isSome_of_eq_some hat)
    obtain ⟨n, hn⟩ := List.getElem?_of_mem hmem
    obtain ⟨e, t', he, hat', hname, hattributes, htext, -⟩ := exists_element_ofTree hn
    obtain rfl : t = t' := Option.some.inj (hat.symm.trans hat')
    exact ⟨n, e, hn, he, hname, hattributes, htext⟩
  size := size_ofTree root

/-! ## The log -/

def warnings (log : List Log.Entry) : Nat := log.countP (·.level == .warn)

def debugEntries (log : List Log.Entry) : List Log.Entry := log.filter (·.level == .debug)

def loadedEntry (path : Path) (count : Nat) : Log.Entry :=
  ⟨.debug, logTarget, "loaded " ++ path.display ++ " with " ++ toString count ++ " elements"⟩

/-- What the log of loading says of the document that comes of it. -/
structure Told (files : Files.Tree) (path : Path) (d : Document) (log : List Log.Entry) : Prop where
  /-- There is one warning if there is no root, and no other. -/
  warned : warnings log = if d.root? = none then 1 else 0
  rootless_iff : d.root? = none ↔ Unreadable files path
  silent_iff : warnings log = 0 ↔
    d.root? ≠ none ∧ ∃ root, HasTree files path root ∧ d.Keeps root
  /-- The number of elements is told of a file that is a text. -/
  loaded : HasText files path → debugEntries log = [loadedEntry path d.size]
  notLoaded : ¬ HasText files path → debugEntries log = []
  rootless_size : d.root? = none → d.size = 0

variable {files : Files.Tree} {path : Path} {d : Document} {log : List Log.Entry}

theorem Unreadable.not_hasTree (h : Unreadable files path) (root : Xml.Node) :
    ¬ HasTree files path root := by
  rintro ⟨bytes, text, hread, hdecode, hxml⟩
  cases h with
  | missing h => simp [hread] at h
  | notText hread' h =>
    obtain rfl := Except.ok.inj (hread'.symm.trans hread)
    simp [hdecode] at h
  | notXml hread' hdecode' h =>
    obtain rfl := Except.ok.inj (hread'.symm.trans hread)
    obtain rfl := Except.ok.inj (hdecode'.symm.trans hdecode)
    simp [hxml] at h

/-- A document without elements comes of a file that cannot be read, and a warning with it. -/
theorem Unreadable.told (h : Unreadable files path) (hwarned : warnings log = 1)
    (hloaded : HasText files path → debugEntries log = [loadedEntry path 0])
    (hnotLoaded : ¬ HasText files path → debugEntries log = []) :
    Told files path .empty log where
  warned := hwarned
  rootless_iff := ⟨fun _ => h, fun _ => rfl⟩
  silent_iff := by
    rw [hwarned]
    exact ⟨fun hsilent => absurd hsilent Nat.one_ne_zero, fun hroot => absurd rfl hroot.1⟩
  loaded := hloaded
  notLoaded := hnotLoaded
  rootless_size _ := rfl

/-- A tree is kept as it is, and no warning is needed. -/
theorem HasTree.told {root : Xml.Node} (h : HasTree files path root) :
    Told files path (.ofTree root) [loadedEntry path (ofTree root).size] := by
  obtain ⟨bytes, text, hread, hdecode, hxml⟩ := h
  have helement := Xml.isElement_of_read hxml
  have hroot : (ofTree root).root? ≠ none := by
    rw [root?_ofTree helement]
    exact Option.some_ne_none 0
  refine ⟨?warned, ?rootless, ?silent, fun _ => rfl, fun hnone => ?notLoaded,
    fun hnone => absurd hnone hroot⟩
  case warned =>
    rw [if_neg hroot]
    rfl
  case rootless =>
    exact ⟨fun hnone => absurd hnone hroot,
      fun hunreadable => absurd ⟨bytes, text, hread, hdecode, hxml⟩ (hunreadable.not_hasTree root)⟩
  case silent =>
    exact ⟨fun _ => ⟨hroot, root, ⟨bytes, text, hread, hdecode, hxml⟩, keeps_ofTree helement⟩,
      fun _ => rfl⟩
  case notLoaded => exact absurd ⟨bytes, text, hread, hdecode⟩ hnone

/-- Loading a document tells what became of its file. -/
theorem told_of_load (h : load files path = .ok (d, log)) : Told files path d log := by
  unfold load at h
  split at h
  · rename_i e hread
    cases h
    refine Unreadable.told (.missing hread) rfl ?_ fun _ => rfl
    rintro ⟨bytes, text, hread', -⟩
    simp [hread'] at hread
  · rename_i bytes hread
    split at h
    · rename_i e hdecode
      cases h
      refine Unreadable.told (.notText hread hdecode) rfl ?_ fun _ => rfl
      rintro ⟨bytes', text, hread', hdecode'⟩
      obtain rfl := Except.ok.inj (hread.symm.trans hread')
      simp [hdecode'] at hdecode
    · rename_i text hdecode
      rw [parse] at h
      split at h
      · rename_i root hxml
        cases h
        exact HasTree.told ⟨bytes, text, hread, hdecode, hxml⟩
      · rename_i hxml
        cases h
        exact Unreadable.told (.notXml hread hdecode hxml) rfl (fun _ => rfl)
          fun hnone => absurd ⟨bytes, text, hread, hdecode⟩ hnone
      · cases h

theorem hasText_of_load_error {b : Breakdown} (h : load files path = .error b) :
    HasText files path := by
  unfold load at h
  split at h
  · cases h
  · rename_i bytes hread
    split at h
    · cases h
    · rename_i text hdecode
      exact ⟨bytes, text, hread, hdecode⟩

/-! ## Walking through a document without elements -/

theorem firstFont?_of_rootless (h : d.root? = none) : d.firstFont? = none := by
  rw [firstFont?, h]
  rfl

-- A walk has nothing to hand out and nothing to ask for.
theorem next_of_rootless (h : d.root? = none) (c : Config) (available : Path → Bool) :
    (Walk.ofDocument d c).next available =
      ⟨none, (Walk.ofDocument d c).exhaust, [], [Walk.exhaustedEntry]⟩ := by
  simp only [Walk.next, Walk.ofDocument, firstFont?_of_rootless h]

/-- A document that is loaded has a root and all elements of its file, or there was one warning. How
many elements there are is told whenever there is a text to read. A walk through a document without
a root ends with its first step. Only a configuration on which reading breaks down gives no document,
and that takes an entity that closes an element around it. -/
theorem load_told (files : Files.Tree) (path : Path) :
    (match load files path with
      | .ok (d, log) => Told files path d log
      | .error .nothingOpen =>
        HasText files path ∧ ∃ e ∈ entitiesOf files path, e.Overcloses) ∧
      ∀ (d : Document) (c : Config) (available : Path → Bool), d.root? = none →
        let step := (Walk.ofDocument d c).next available
        step.record = none ∧ step.checked = [] ∧ step.walk.isExhausted = true := by
  refine ⟨?loaded, fun d c available hroot => ?walked⟩
  case loaded =>
    cases hload : load files path with
    | ok loaded => exact told_of_load hload
    | error b => exact ⟨hasText_of_load_error hload, exists_overcloses_of_load hload⟩
  case walked =>
    rw [next_of_rootless hroot]
    exact ⟨rfl, rfl, rfl⟩

/-- The file can be read and is not well-formed, but there is neither a document nor a warning. -/
theorem overclosed_not_told :
    let files : Files.Tree :=
      ⟨[(Utf8.encodeString "fonts.xml", .file (Utf8.encodeString overclosedConfiguration))], []⟩
    let path := Path.ofString "fonts.xml"
    HasText files path ∧ (∀ root, ¬ HasTree files path root) ∧
      load files path = .error .nothingOpen ∧
      ∀ d log, load files path = .ok (d, log) → warnings log ≠ 1 := by
  intro files path
  have hload : load files path = .error .nothingOpen := by decide +kernel
  refine ⟨hasText_of_load_error hload, ?tree, hload, ?warned⟩
  case tree =>
    rintro root ⟨bytes, text, hread, hdecode, hxml⟩
    rw [load, hread] at hload
    simp only [hdecode, parse, hxml] at hload
    cases hload
  case warned =>
    intro d log h
    rw [hload] at h
    cases h

end Document

end FontCatalog
