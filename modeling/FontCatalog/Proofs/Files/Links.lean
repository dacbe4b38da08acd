import FontCatalog.Files.Tree

/-!
# Links at the end of a path

A path can be followed through all its links, or up to a link at its end. The two ways go through the
same links before the end. So both lead to the same place or to the same error, unless the second one
stops at a link.
-/

namespace FontCatalog.Files.Tree

variable {t : Tree} {here place : Place} {name : List UInt8} {p : Path}

/-! ## Entries at places -/

theorem entry?_cons (t : Tree) (name : List UInt8) (here : Place) :
    t.entry? (name :: here) = (t.entry? here).bind fun e => e.child? name := by
  unfold entry?
  rw [List.reverse_cons, List.foldlM_append]
  show (List.foldlM Entry.child? (.directory t.entries) here.reverse).bind _ = _
  congr 1
  funext e
  show (e.child? name).bind some = e.child? name
  cases e.child? name <;> rfl

-- What is below a directory stands at the place below it.
theorem entry?_of_below {e : Entry} (h : t.below here name = .ok e) :
    t.entry? (name :: here) = some e := by
  unfold below at h
  rw [entry?_cons]
  split at h
  · rename_i entries hentries
    rw [hentries]
    show entries.lookup name = some e
    split at h
    · cases h
    · cases hlookup : entries.lookup name with
      | none =>
        rw [hlookup] at h
        cases h
      | some e' =>
        rw [hlookup] at h
        cases h
        rfl
  · cases h

/-! ## Two ways -/

/-- A link stands at a place. -/
def IsLinkAt (t : Tree) (place : Place) : Prop := ∃ target, t.entry? place = some (.link target)

/-- A way that does not follow a link at its end, beside one that does: they are the same, or the
first one ends at a link. -/
def SameOrLink (t : Tree) (own through : Except Error Place) : Prop :=
  own = through ∨ ∃ place, own = .ok place ∧ t.IsLinkAt place

theorem walkSteps_sameOrLink {jump jump' : Place → List (List UInt8) → Except Error Place}
    (hjump : ∀ here names, t.SameOrLink (jump here names) (jump' here names))
    (names : List (List UInt8)) (here : Place) :
    t.SameOrLink (t.walkSteps false jump here names) (t.walkSteps true jump' here names) := by
  induction names generalizing here with
  | nil => exact .inl rfl
  | cons name rest ih =>
    rw [walkSteps, walkSteps]
    by_cases hdirectory : (t.entry? here).any Entry.isDirectory
    · simp only [hdirectory, Bool.not_true, Bool.false_eq_true, if_false]
      by_cases hdot : name = [Path.dot]
      · simp only [if_pos hdot]
        exact ih here
      by_cases hparent : name = [Path.dot, Path.dot]
      · simp only [if_neg hdot, if_pos hparent]
        exact ih here.tail
      simp only [if_neg hdot, if_neg hparent]
      cases hbelow : t.below here name with
      | error e => exact .inl rfl
      | ok e =>
        cases e with
        | link target =>
          by_cases hrest : rest = []
          · -- The last name is a link.
            refine .inr ⟨name :: here, ?_, target, entry?_of_below hbelow⟩
            simp [hrest]
          · simpa [hrest] using hjump (origin target here) (steps target ++ rest)
        | file content => exact ih (name :: here)
        | directory entries => exact ih (name :: here)
        | device => exact ih (name :: here)
    · simp only [hdirectory, Bool.not_false, if_true]
      exact .inl rfl

theorem walk_sameOrLink (links : Nat) (here : Place) (names : List (List UInt8)) :
    t.SameOrLink (t.walk false links here names) (t.walk true links here names) := by
  induction links generalizing here names with
  | zero => exact walkSteps_sameOrLink (fun _ _ => .inl rfl) names here
  | succ links ih => exact walkSteps_sameOrLink ih names here

theorem resolve_sameOrLink (t : Tree) (p : Path) :
    t.SameOrLink (t.resolve false p) (t.resolve true p) := by
  unfold resolve
  split
  · exact .inl rfl
  split
  · exact .inl rfl
  split
  · exact .inl rfl
  · exact walk_sameOrLink maxLinks _ _

/-! ## What a path is -/

/-- What stands at a path. A link at its end is not followed. -/
def own? (t : Tree) (p : Path) : Option Entry := (t.resolve false p).toOption.bind t.entry?

theorem lookup_eq_ok_iff {e : Entry} :
    t.lookup p = .ok e ↔ (t.resolve true p).toOption.bind t.entry? = some e := by
  rw [lookup]
  cases t.resolve true p with
  | error e => simp [Except.toOption]
  | ok place => cases h : t.entry? place <;> simp [Except.toOption, h]

/-- What a path leads to stands at it, or a link stands there. -/
theorem own?_cases (t : Tree) (p : Path) :
    (∃ target, t.own? p = some (.link target)) ∨ ∀ e, t.own? p = some e ↔ t.lookup p = .ok e := by
  rcases t.resolve_sameOrLink p with heq | ⟨place, hplace, target, htarget⟩
  · right
    intro e
    rw [own?, heq, lookup_eq_ok_iff]
  · left
    rw [own?, hplace]
    exact ⟨target, htarget⟩

theorem lookup_eq_ok_iff_own? (h : ∀ target, t.own? p ≠ some (.link target)) {e : Entry} :
    t.lookup p = .ok e ↔ t.own? p = some e := by
  rcases t.own?_cases p with ⟨target, htarget⟩ | hsame
  · exact absurd htarget (h target)
  · exact (hsame e).symm

end FontCatalog.Files.Tree
