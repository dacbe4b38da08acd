import Mathlib.Data.List.Forall2

/-!
# Results of steps in turn

What is known about the steps that led to a result, and what two computations have in common whose
steps go together.
-/

namespace FontCatalog

/-! ## The steps to a result -/

-- What comes out of two parts comes out of the second one after the first.
theorem exists_of_bind_ok {ε α β : Type} {x : Except ε α} {f : α → Except ε β} {b : β}
    (h : x >>= f = .ok b) : ∃ a, x = .ok a ∧ f a = .ok b := by
  cases x with
  | error e => cases h
  | ok a => exact ⟨a, rfl, h⟩

theorem ok_of_mapError_eq_ok {ε ε' α : Type} {x : Except ε α} {f : ε → ε'} {a : α}
    (h : x.mapError f = .ok a) : x = .ok a := by
  cases x with
  | error e => cases h
  | ok a' => exact congrArg Except.ok (Except.ok.inj h)

-- The results for a list are those for its elements, one by one.
theorem mapM_eq_ok_iff {ε α β : Type} {f : α → Except ε β} {as : List α} {bs : List β} :
    as.mapM f = .ok bs ↔ as.map f = bs.map .ok := by
  induction as generalizing bs with
  | nil =>
    rw [List.mapM_nil, List.map_nil, @eq_comm _ [], List.map_eq_nil_iff]
    exact ⟨fun h => (Except.ok.inj h).symm, fun h => congrArg Except.ok h.symm⟩
  | cons a as ih =>
    rw [List.mapM_cons, List.map_cons]
    constructor
    · intro h
      obtain ⟨b, hb, h⟩ := exists_of_bind_ok h
      obtain ⟨rest, hrest, h⟩ := exists_of_bind_ok h
      cases h
      rw [List.map_cons, hb, ih.mp hrest]
    · intro h
      cases bs with
      | nil => cases h
      | cons b rest =>
        obtain ⟨hb, hrest⟩ := List.cons.inj h
        rw [hb, ih.mpr hrest]
        rfl

-- Each of the results comes from an element.
theorem mem_mapM_ok_iff {ε α β : Type} {f : α → Except ε β} {as : List α} {bs : List β} {b : β}
    (h : as.mapM f = .ok bs) : b ∈ bs ↔ ∃ a ∈ as, f a = .ok b := by
  rw [← List.mem_map, mapM_eq_ok_iff.mp h, List.mem_map]
  simp

theorem forall₂_of_mapM_ok {ε α β : Type} {f : α → Except ε β} {as : List α} {bs : List β}
    (h : as.mapM f = .ok bs) : List.Forall₂ (fun a b => f a = .ok b) as bs := by
  have heq := mapM_eq_ok_iff.mp h
  rwa [← List.forall₂_eq_eq_eq, List.forall₂_map_left_iff, List.forall₂_map_right_iff] at heq

-- What holds between the results for any two elements holds between any two of all results.
theorem pairwise_mapM_ok {ε α β : Type} {f : α → Except ε β} {as : List α} {bs : List β}
    {R : β → β → Prop} (h : as.mapM f = .ok bs)
    (hpairwise : as.Pairwise fun a a' => ∀ b b', f a = .ok b → f a' = .ok b' → R b b') :
    bs.Pairwise R := by
  have hresults : (as.map f).Pairwise fun x x' => ∀ b b', x = .ok b → x' = .ok b' → R b b' :=
    List.pairwise_map.mpr hpairwise
  rw [mapM_eq_ok_iff.mp h, List.pairwise_map] at hresults
  exact hresults.imp fun hpair => hpair _ _ rfl rfl

theorem exists_mapM_iff {ε α β : Type} {f : α → Except ε β} {as : List α} :
    (∃ bs, as.mapM f = .ok bs) ↔ ∀ a ∈ as, ∃ b, f a = .ok b := by
  induction as with
  | nil => exact ⟨fun _ => List.forall_mem_nil _, fun _ => ⟨[], rfl⟩⟩
  | cons a as ih =>
    rw [List.mapM_cons, List.forall_mem_cons, ← ih]
    constructor
    · rintro ⟨bs, h⟩
      obtain ⟨b, hb, h⟩ := exists_of_bind_ok h
      obtain ⟨rest, hrest, -⟩ := exists_of_bind_ok h
      exact ⟨⟨b, hb⟩, rest, hrest⟩
    · rintro ⟨⟨b, hb⟩, rest, hrest⟩
      rw [hb, hrest]
      exact ⟨b :: rest, rfl⟩

theorem bind_pure_eq_error_iff {ε α β : Type} {x : Except ε α} {f : α → β} {e : ε} :
    (do let a ← x; return f a) = .error e ↔ x = .error e := by
  cases x with
  | error e' =>
    constructor <;>
    · rintro ⟨⟩
      rfl
  | ok a => exact ⟨nofun, nofun⟩

-- The results for the elements of a list fail with the error of the first one that has none.
theorem mapM_eq_error_iff {ε α β : Type} {f : α → Except ε β} {as : List α} {e : ε} :
    as.mapM f = .error e ↔ ∃ before a after, as = before ++ a :: after ∧
      (∀ b ∈ before, ∃ x, f b = .ok x) ∧ f a = .error e := by
  induction as with
  | nil =>
    refine ⟨nofun, ?_⟩
    rintro ⟨_ | _, a, after, hsplit, -⟩ <;> cases hsplit
  | cons first as ih =>
    rw [List.mapM_cons]
    cases hfirst : f first with
    | error e' =>
      constructor
      · rintro ⟨⟩
        exact ⟨[], first, as, rfl, List.forall_mem_nil _, hfirst⟩
      · rintro ⟨_ | ⟨b, before⟩, a, after, hsplit, hbefore, ha⟩
        · cases hsplit
          exact congrArg Except.error (Except.error.inj (hfirst.symm.trans ha))
        · cases hsplit
          obtain ⟨x, hx⟩ := hbefore first List.mem_cons_self
          cases hfirst.symm.trans hx
    | ok x =>
      refine (bind_pure_eq_error_iff (x := as.mapM f)).trans (ih.trans ⟨?_, ?_⟩)
      · rintro ⟨before, a, after, rfl, hbefore, ha⟩
        have hbefore' : ∀ b ∈ first :: before, ∃ x, f b = .ok x :=
          List.forall_mem_cons.mpr ⟨⟨x, hfirst⟩, hbefore⟩
        exact ⟨first :: before, a, after, rfl, hbefore', ha⟩
      · rintro ⟨_ | ⟨b, before⟩, a, after, hsplit, hbefore, ha⟩
        · cases hsplit
          cases hfirst.symm.trans ha
        · cases hsplit
          exact ⟨before, a, after, rfl, (List.forall_mem_cons.mp hbefore).2, ha⟩

/-! ## Two results side by side -/

variable {ε α α' β β' : Type} {R : α → α' → Prop} {S : β → β' → Prop}

theorem rel_bind {x : Option α} {x' : Option α'} {f : α → Option β} {f' : α' → Option β'}
    (hx : Option.Rel R x x') (hf : ∀ a a', R a a' → Option.Rel S (f a) (f' a')) :
    Option.Rel S (x.bind f) (x'.bind f') := by
  cases hx with
  | none => exact .none
  | some h => exact hf _ _ h

theorem rel_trans {R : α → α → Prop} {x x' x'' : Option α} (h : Option.Rel R x x')
    (h' : Option.Rel R x' x'') (hR : ∀ a a' a'', R a a' → R a' a'' → R a a'') :
    Option.Rel R x x'' := by
  cases h with
  | none => exact h'
  | some h =>
    cases h' with
    | some h' => exact .some (hR _ _ _ h h')

/-- Two computations end alike: both with the same error, or with values that go together. -/
inductive EndAlike (R : α → α' → Prop) : Except ε α → Except ε α' → Prop
  | error (e : ε) : EndAlike R (.error e) (.error e)
  | ok {a : α} {a' : α'} (h : R a a') : EndAlike R (.ok a) (.ok a')

namespace EndAlike

theorem bind {x : Except ε α} {x' : Except ε α'} {f : α → Except ε β} {f' : α' → Except ε β'}
    (hx : EndAlike R x x') (hf : ∀ a a', R a a' → EndAlike S (f a) (f' a')) :
    EndAlike S (x >>= f) (x' >>= f') := by
  cases hx with
  | error e => exact .error e
  | ok h => exact hf _ _ h

theorem of_rel {x : Option α} {x' : Option α'} (e : ε) (h : Option.Rel R x x') :
    EndAlike R (x.elim (.error e) .ok) (x'.elim (.error e) .ok) := by
  cases h with
  | none => exact .error e
  | some h => exact .ok h

theorem foldlM {f : α → β → Except ε α} {f' : α' → β' → Except ε α'} {bs : List β} {bs' : List β'}
    (hbs : List.Forall₂ S bs bs')
    (hf : ∀ a a' b b', R a a' → S b b' → EndAlike R (f a b) (f' a' b')) {a : α} {a' : α'}
    (ha : R a a') : EndAlike R (bs.foldlM f a) (bs'.foldlM f' a') := by
  induction hbs generalizing a a' with
  | nil => exact .ok ha
  | cons hb _ ih =>
    rw [List.foldlM_cons, List.foldlM_cons]
    exact (hf _ _ _ _ ha hb).bind fun a a' ha => ih ha

end EndAlike

end FontCatalog
