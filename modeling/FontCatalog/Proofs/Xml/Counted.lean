import FontCatalog.Xml.Assemble

/-!
# Counted references

How the number of references that were followed bears on attribute values. At a given depth an
attribute value always stands for the same text and adds the same number to the count, or it is
refused whatever the count is. Beyond that it is refused only where the count becomes too large.
-/

namespace FontCatalog.Xml

namespace Nesting

/-- `k` more references are counted, if they are not too many. -/
def charge (n : Nesting) (k : Nat) : Option Nesting :=
  if n.used + k ≤ maxReferences then some ⟨n.room, n.used + k⟩ else none

/-- The depth and the count are within their bounds, and outside of all entities nothing is
counted. -/
structure Counted (n : Nesting) : Prop where
  room_le : n.room ≤ maxDepth
  used_le : n.used ≤ maxReferences
  used_eq : n.room = maxDepth → n.used = 0

variable {n n' : Nesting} {j k : Nat}

theorem counted_outermost : outermost.Counted :=
  ⟨Nat.le_refl _, Nat.zero_le _, fun _ => rfl⟩

theorem isOutermost_iff : n.isOutermost = true ↔ n.room = maxDepth := beq_iff_eq

theorem charge_of_le (h : n.used + k ≤ maxReferences) :
    n.charge k = some ⟨n.room, n.used + k⟩ := if_pos h

theorem charge_of_lt (h : maxReferences < n.used + k) : n.charge k = none :=
  if_neg (Nat.not_le_of_lt h)

theorem charge_eq_some_iff :
    n.charge k = some n' ↔ n.used + k ≤ maxReferences ∧ n' = ⟨n.room, n.used + k⟩ := by
  by_cases h : n.used + k ≤ maxReferences
  · rw [charge_of_le h, Option.some_inj, eq_comm, and_iff_right h]
  · rw [charge_of_lt (Nat.lt_of_not_le h)]
    exact ⟨fun h => (nomatch h), fun h' => absurd h'.1 h⟩

theorem charge_charge (n : Nesting) (j k : Nat) :
    (n.charge j).bind (·.charge k) = n.charge (j + k) := by
  by_cases hj : n.used + j ≤ maxReferences
  · rw [charge_of_le hj, Option.bind_some, charge, charge, Nat.add_assoc]
  · have hj : maxReferences < n.used + j := Nat.lt_of_not_le hj
    rw [charge_of_lt hj, charge_of_lt (by omega)]
    rfl

namespace Counted

theorem charge_zero (h : n.Counted) : n.charge 0 = some n := if_pos h.used_le

theorem charge (h : n.Counted) (hk : n.room = maxDepth → k = 0) (hcharge : n.charge k = some n') :
    n'.room = n.room ∧ n'.Counted := by
  obtain ⟨hle, rfl⟩ := charge_eq_some_iff.mp hcharge
  refine ⟨rfl, h.room_le, hle, fun hroom => ?_⟩
  rw [h.used_eq hroom, hk hroom]

/-- Entering an entity takes one level away, and counts the reference unless it is an outermost
one. -/
theorem enter_eq {room : Nat} (h : n.Counted) (hroom : n.room = room + 1) :
    n.enter = (n.charge (if room + 1 = maxDepth then 0 else 1)).map fun n' => ⟨room, n'.used⟩ := by
  obtain ⟨_, used⟩ := n
  obtain rfl : _ = room + 1 := hroom
  by_cases houtermost : room + 1 = maxDepth
  · rw [if_pos houtermost, h.charge_zero]
    exact if_pos (isOutermost_iff.mpr houtermost)
  · have hinner : ¬ (⟨room + 1, used⟩ : Nesting).isOutermost := mt isOutermost_iff.mp houtermost
    have hused : used ≤ maxReferences := h.used_le
    rw [if_neg houtermost, Nesting.enter]
    simp only [if_neg hinner]
    by_cases hfull : used = maxReferences
    · rw [if_pos hfull, charge_of_lt (Nat.lt_succ_of_le (Nat.le_of_eq hfull.symm))]
      rfl
    · rw [if_neg hfull, charge_of_le (Nat.lt_of_le_of_ne hused hfull)]
      rfl

theorem enter (h : n.Counted) (henter : n.enter = some n') :
    n.room = n'.room + 1 ∧ n'.Counted := by
  cases hroom : n.room with
  | zero =>
    rw [Nesting.enter, hroom] at henter
    cases henter
  | succ room =>
    rw [h.enter_eq hroom] at henter
    obtain ⟨m, hcharge, rfl⟩ := Option.map_eq_some_iff.mp henter
    obtain ⟨hle, rfl⟩ := charge_eq_some_iff.mp hcharge
    have hlevel : room + 1 ≤ maxDepth := hroom ▸ h.room_le
    exact ⟨rfl, Nat.le_of_succ_le hlevel, hle, fun h => absurd h (Nat.ne_of_lt hlevel)⟩

-- Back from an entity, the count is within its bounds if it was so inside.
theorem leave (h : n.Counted) (h' : n'.Counted) : (n.leave n').Counted := by
  refine ⟨h.room_le, ?_, fun hroom => if_pos (isOutermost_iff.mpr hroom)⟩
  unfold Nesting.leave
  split
  · exact Nat.zero_le _
  · exact h'.used_le

end Counted

end Nesting

/-! ## Values -/

/-- A text that counts as a number of references, with the nesting after it. -/
def Nesting.counting (n : Nesting) (r : Option (List Char × Nat)) : Option (List Char × Nesting) :=
  r.bind fun x => (n.charge x.2).map (x.1, ·)

/-- At a depth, a function of the nesting has the same value and counts the same number of
references whatever was counted before, or fails always. It also fails where they are too many. -/
def Steady (room : Nat) (f : Nesting → Option (List Char × Nesting)) : Prop :=
  ∃ r : Option (List Char × Nat), (∀ x ∈ r, room = Nesting.maxDepth → x.2 = 0) ∧
    ∀ n, n.room = room → n.Counted → f n = n.counting r

namespace Steady

variable {room : Nat} {f g : Nesting → Option (List Char × Nesting)}

theorem fails (room : Nat) : Steady room fun _ => none :=
  ⟨none, by simp, fun _ _ _ => rfl⟩

-- It matters only what the function does at that depth.
theorem congr (h : Steady room f) (hfg : ∀ n, n.room = room → n.Counted → g n = f n) :
    Steady room g := by
  obtain ⟨r, hr, hf⟩ := h
  exact ⟨r, hr, fun n hroom hn => (hfg n hroom hn).trans (hf n hroom hn)⟩

theorem value (room : Nat) (s : List Char) : Steady room fun n => some (s, n) := by
  refine ⟨some (s, 0), by simp, fun n _ hn => ?_⟩
  rw [Nesting.counting, Option.bind_some, hn.charge_zero]
  rfl

theorem map (h : Steady room f) (φ : List Char → List Char) :
    Steady room fun n => (f n).map fun x => (φ x.1, x.2) := by
  obtain ⟨r, hr, hf⟩ := h
  refine ⟨r.map fun x => (φ x.1, x.2), ?_, fun n hroom hn => ?_⟩
  · intro x hx hroom
    obtain ⟨y, hy, rfl⟩ := Option.map_eq_some_iff.mp hx
    exact hr y hy hroom
  · simp only [hf n hroom hn]
    cases r with
    | none => rfl
    | some x => simp [Nesting.counting, Function.comp_def]

/-- One value after the other, with what both count. -/
theorem append (hf : Steady room f) (hg : Steady room g) :
    Steady room fun n => (f n).bind fun x => (g x.2).map fun y => (x.1 ++ y.1, y.2) := by
  obtain ⟨r, hr, hf⟩ := hf
  obtain ⟨q, hq, hg⟩ := hg
  refine ⟨r.bind fun x => q.map fun y => (x.1 ++ y.1, x.2 + y.2), ?_, fun n hroom hn => ?_⟩
  · intro z hz hroom
    obtain ⟨x, hx, hz⟩ := Option.bind_eq_some_iff.mp hz
    obtain ⟨y, hy, rfl⟩ := Option.map_eq_some_iff.mp hz
    rw [hr x hx hroom, hq y hy hroom]
  · simp only [hf n hroom hn]
    cases r with
    | none => rfl
    | some x =>
      have hboth (k : Nat) : n.charge (x.2 + k) = (n.charge x.2).bind (·.charge k) :=
        (Nesting.charge_charge n x.2 k).symm
      cases hcharge : n.charge x.2 with
      | none => cases q <;> simp [Nesting.counting, hcharge, hboth]
      | some n' =>
        obtain ⟨hroom', hn'⟩ := hn.charge (fun h => hr x rfl (hroom ▸ h)) hcharge
        have hrest := hg n' (hroom'.trans hroom) hn'
        cases q <;> simp [Nesting.counting, hcharge, hboth, hrest, Function.comp_def]

/-- Inside an entity one level is left less. Its reference is counted, unless it is an outermost
one, for which nothing inside counts. -/
theorem inside (hf : Steady room f) :
    Steady (room + 1) fun n => n.enter.bind fun n' => (f n').map fun x => (x.1, n.leave x.2) := by
  obtain ⟨r, -, hf⟩ := hf
  have hinner {n n' : Nesting} (hroom : n.room = room + 1) (hn : n.Counted)
      (henter : n.enter = some n') : f n' = n'.counting r := by
    obtain ⟨hlevel, hn'⟩ := hn.enter henter
    exact hf n' (by omega) hn'
  by_cases houtermost : room + 1 = Nesting.maxDepth
  · refine ⟨r.bind fun x => if x.2 ≤ Nesting.maxReferences then some (x.1, 0) else none, ?_, ?_⟩
    · intro x hx _
      obtain ⟨y, -, hx⟩ := Option.bind_eq_some_iff.mp hx
      split at hx
      · cases hx
        rfl
      · cases hx
    · intro n hroom hn
      have hzero : n.used = 0 := hn.used_eq (hroom.trans houtermost)
      have henter : n.enter = some ⟨room, 0⟩ := by
        rw [hn.enter_eq hroom, if_pos houtermost, hn.charge_zero, Option.map_some, hzero]
      have hleave (n' : Nesting) : n.leave n' = n := by
        rw [Nesting.leave, if_pos (Nesting.isOutermost_iff.mpr (hroom.trans houtermost)), ← hzero]
      simp only [henter, Option.bind_some, hinner hroom hn henter, hleave]
      cases r with
      | none => rfl
      | some x =>
        by_cases hx : x.2 ≤ Nesting.maxReferences <;>
          simp [Nesting.counting, Nesting.charge, hx, hn.used_le]
  · refine ⟨r.map fun x => (x.1, x.2 + 1), fun x hx h => absurd h houtermost, fun n hroom hn => ?_⟩
    have hleave (n' : Nesting) : n.leave n' = ⟨n.room, n'.used⟩ := by
      rw [Nesting.leave, if_neg (mt Nesting.isOutermost_iff.mp (hroom ▸ houtermost))]
    have henter := hn.enter_eq hroom
    rw [if_neg houtermost] at henter
    by_cases hmore : n.used + 1 ≤ Nesting.maxReferences
    · rw [Nesting.charge_of_le hmore, Option.map_some] at henter
      simp only [henter, Option.bind_some, hinner hroom hn henter, hleave]
      cases r with
      | none => rfl
      | some x =>
        have hsum : n.used + (x.2 + 1) = n.used + 1 + x.2 := by omega
        by_cases hx : n.used + 1 + x.2 ≤ Nesting.maxReferences <;>
          simp [Nesting.counting, Nesting.charge, hx, hsum]
    · have hmore : Nesting.maxReferences < n.used + 1 := Nat.lt_of_not_le hmore
      rw [Nesting.charge_of_lt hmore, Option.map_none] at henter
      simp only [henter]
      cases r with
      | none => rfl
      | some x => simp [Nesting.counting, Nesting.charge_of_lt (show _ < n.used + (x.2 + 1) by omega)]

end Steady

/-! ## Attribute values -/

theorem steady_normalizeRuns {room : Nat}
    {enter : Nesting → List Char → Option (List Char × Nesting)}
    (henter : ∀ name, Steady room (enter · name)) (rs : List Run) :
    Steady room (normalizeRuns enter · rs) := by
  induction rs with
  | nil => exact .value room []
  | cons r rs ih =>
    cases r with
    | char c =>
      let push (cs : List Char) : List Char :=
        if c = '\r' ∧ rs.head? = some (.char '\n') then cs else flatten c :: cs
      refine (ih.map push).congr fun n _ _ => ?_
      rw [normalizeRuns]
      cases normalizeRuns enter n rs with
      | none => rfl
      | some x => by_cases hend : c = '\r' ∧ rs.head? = some (.char '\n') <;> simp [push, hend]
    | reference r =>
      cases r with
      | char c =>
        -- At a depth, it is settled whether a reference to a character is normalised.
        by_cases houtermost : room = Nesting.maxDepth
        · refine (ih.map (c :: ·)).congr fun n hroom _ => ?_
          have hn : n.isOutermost = true := Nesting.isOutermost_iff.mpr (hroom.trans houtermost)
          rw [normalizeRuns, hn]
          cases normalizeRuns enter n rs <;> rfl
        · have hn {n : Nesting} (hroom : n.room = room) : n.isOutermost = false :=
            eq_false_of_ne_true (mt Nesting.isOutermost_iff.mp (hroom ▸ houtermost))
          by_cases hc : c = '<'
          · refine (Steady.fails room).congr fun n hroom _ => ?_
            simp [normalizeRuns, hn hroom, hc]
          · refine (ih.map (flatten c :: ·)).congr fun n hroom _ => ?_
            simp only [normalizeRuns, hn hroom]
            cases normalizeRuns enter n rs <;> simp [hc]
      | entity name =>
        refine ((henter name).append ih).congr fun n _ _ => ?_
        rw [normalizeRuns]
        cases enter n name with
        | none => rfl
        | some x => exact (Option.map_eq_bind ..).symm
    | malformed => exact .fails room

/-- What an attribute value stands for does not depend on what was counted before, other than by
the bound of the count. -/
theorem steady_normalizeValue (entities : List Entity) (levels : Nat) (raw : List Char) :
    Steady levels (normalizeValue entities levels · raw) := by
  induction levels generalizing raw with
  | zero => exact steady_normalizeRuns (fun _ => .fails 0) _
  | succ levels ih =>
    refine steady_normalizeRuns (fun name => ?_) _
    cases hlookup : lookupEntity entities name with
    | none => exact (Steady.fails _).congr fun _ _ _ => by simp
    | some value =>
      refine (ih value).inside.congr fun n _ _ => ?_
      rw [Option.bind_eq_bind, Option.bind_some]
      cases n.enter with
      | none => rfl
      | some n' => exact (Option.map_eq_bind ..).symm

end FontCatalog.Xml
