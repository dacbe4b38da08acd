import FontCatalog.Proofs.Results
import FontCatalog.Proofs.Xml.Counted
import FontCatalog.Proofs.Xml.Namespaces

/-!
# Attributes in another order

The attributes of a start tag are taken in turn: each is normalised, and declares a namespace or
waits for the end of the tag. Taken in another order they are accepted alike, count as many
references and declare the same namespaces, apart from the default one, which may be declared more
than once. So what they leave behind differs in the order of what waits only.
-/

namespace FontCatalog.Xml

/-! ## Trees and assemblies in another order -/

/-- Siblings with the same elements, up to their namespaces and the order of their attributes, and
with the same other nodes. -/
inductive Node.Reordered : List Node → List Node → Prop
  | nil : Reordered [] []
  | element {space space' : Option String} {name : String} {as as' : List Attribute}
      {children children' siblings siblings' : List Node} (has : as.Perm as')
      (hchildren : Reordered children children') (hsiblings : Reordered siblings siblings') :
      Reordered (.element space name as children :: siblings)
        (.element space' name as' children' :: siblings')
  | other {node : Node} {siblings siblings' : List Node} (hnode : node.isElement = false)
      (hsiblings : Reordered siblings siblings') : Reordered (node :: siblings) (node :: siblings')

namespace Node.Reordered

variable {nodes nodes' nodes'' siblings siblings' : List Node}

theorem refl : (nodes : List Node) → Reordered nodes nodes
  | [] => .nil
  | .element _ _ _ children :: siblings => .element (.refl _) (refl children) (refl siblings)
  | .text _ :: siblings => .other rfl (refl siblings)
  | .comment _ :: siblings => .other rfl (refl siblings)
  | .instruction _ _ :: siblings => .other rfl (refl siblings)

theorem trans (h : Reordered nodes nodes') (h' : Reordered nodes' nodes'') :
    Reordered nodes nodes'' := by
  induction h generalizing nodes'' with
  | nil => exact h'
  | element has _ _ ihchildren ihsiblings =>
    cases h' with
    | element has' hchildren' hsiblings' =>
      exact .element (has.trans has') (ihchildren hchildren') (ihsiblings hsiblings')
    | other hnode _ => cases hnode
  | other hnode _ ih =>
    cases h' with
    | element => cases hnode
    | other _ hsiblings' => exact .other hnode (ih hsiblings')

theorem append (h : Reordered nodes nodes') (hsiblings : Reordered siblings siblings') :
    Reordered (nodes ++ siblings) (nodes' ++ siblings') := by
  induction h with
  | nil => exact hsiblings
  | element has hchildren _ _ ih => exact .element has hchildren ih
  | other hnode _ ih => exact .other hnode ih

theorem reverse (h : Reordered nodes nodes') : Reordered nodes.reverse nodes'.reverse := by
  induction h with
  | nil => exact .nil
  | element has hchildren _ _ ih =>
    rw [List.reverse_cons, List.reverse_cons]
    exact ih.append (.element has hchildren .nil)
  | other hnode _ ih =>
    rw [List.reverse_cons, List.reverse_cons]
    exact ih.append (.other hnode .nil)

-- One node more on both sides.
theorem cons (node : Node) (h : Reordered siblings siblings') :
    Reordered (node :: siblings) (node :: siblings') :=
  (refl [node]).append h

end Node.Reordered

/-- Open elements that are the same up to the order of attributes. -/
structure Frame.Reordered (f f' : Frame) : Prop where
  tag : f.tag = f'.tag
  attributes : f.attributes.Perm f'.attributes
  namespaces : f.namespaces.Alike f'.namespaces
  children : Node.Reordered f.children f'.children

theorem Frame.Reordered.trans {f f' f'' : Frame} (h : f.Reordered f') (h' : f'.Reordered f'') :
    f.Reordered f'' :=
  ⟨h.tag.trans h'.tag, h.attributes.trans h'.attributes, h.namespaces.trans h'.namespaces,
    h.children.trans h'.children⟩

theorem Frame.forall₂_reordered_trans {fs fs' fs'' : List Frame}
    (h : List.Forall₂ Frame.Reordered fs fs') (h' : List.Forall₂ Frame.Reordered fs' fs'') :
    List.Forall₂ Frame.Reordered fs fs'' := by
  induction h generalizing fs'' with
  | nil => exact h'
  | cons hf _ ih =>
    cases h' with
    | cons hf' hfs' => exact .cons (hf.trans hf') (ih hfs')

/-- Assemblies that are the same up to the order of attributes. -/
structure Assembly.Reordered (b b' : Assembly) : Prop where
  frames : List.Forall₂ Frame.Reordered b.frames b'.frames
  top : Node.Reordered b.top b'.top
  declared : b.declared.Alike b'.declared
  waiting : b.waiting.Perm b'.waiting
  nesting : b.nesting = b'.nesting
  counted : b.nesting.Counted
  tagSeen : b.tagSeen = b'.tagSeen

namespace Assembly

variable {b b' b'' : Assembly}

namespace Reordered

theorem refl (hb : b.nesting.Counted) : b.Reordered b where
  frames := List.forall₂_same.mpr fun _ _ => ⟨rfl, .refl _, .refl _, .refl _⟩
  top := .refl _
  declared := .refl _
  waiting := .refl _
  nesting := rfl
  counted := hb
  tagSeen := rfl

theorem trans (h : b.Reordered b') (h' : b'.Reordered b'') : b.Reordered b'' where
  frames := Frame.forall₂_reordered_trans h.frames h'.frames
  top := h.top.trans h'.top
  declared := h.declared.trans h'.declared
  waiting := h.waiting.trans h'.waiting
  nesting := h.nesting.trans h'.nesting
  counted := h.counted
  tagSeen := h.tagSeen.trans h'.tagSeen

end Reordered

/-! ## One attribute -/

/-- An attribute with the number of references that were followed for its value. -/
structure Valued extends Setting where
  references : Nat

/-- An attribute is accepted. -/
structure Accepts (b : Assembly) (x : Valued) : Prop where
  allowed : x.Allowed
  /-- No namespace is declared twice by the same scope. -/
  new : x.name.scope = "xmlns".toList → b.declared.lookup x.name.base = none
  counted : b.nesting.used + x.references ≤ Nesting.maxReferences

/-- An assembly after an attribute. -/
def accepted (b : Assembly) (x : Valued) : Assembly :=
  { b with
    declared := b.declared ++ x.declared
    waiting := b.waiting ++ x.waiting
    nesting := ⟨b.nesting.room, b.nesting.used + x.references⟩ }

/-- One more attribute, with its references. -/
def accept (b : Assembly) (x : Valued) : Option Assembly :=
  (b.nesting.charge x.references).bind fun nesting => { b with nesting }.declare x.name x.value

theorem accept_eq_some_iff {x : Valued} :
    b.accept x = some b' ↔ b.Accepts x ∧ b' = b.accepted x := by
  simp only [accept, Option.bind_eq_some_iff, Nesting.charge_eq_some_iff]
  constructor
  · rintro ⟨_, ⟨hcounted, rfl⟩, h⟩
    obtain ⟨hallowed, hnew, rfl⟩ := (declare_eq_some_iff _ x.toSetting).mp h
    exact ⟨⟨hallowed, hnew, hcounted⟩, rfl⟩
  · rintro ⟨⟨hallowed, hnew, hcounted⟩, rfl⟩
    exact ⟨_, ⟨hcounted, rfl⟩, (declare_eq_some_iff _ x.toSetting).mpr ⟨hallowed, hnew, rfl⟩⟩

theorem accept_of_accepts {x : Valued} (h : b.Accepts x) : b.accept x = some (b.accepted x) :=
  accept_eq_some_iff.mpr ⟨h, rfl⟩

theorem accept_of_not {x : Valued} (h : ¬ b.Accepts x) : b.accept x = none :=
  Option.eq_none_iff_forall_ne_some.mpr fun _ hb' => h (accept_eq_some_iff.mp hb').1

/-- An attribute that has a name, and counts nothing outside of all entities. -/
structure Valued.Regular (x : Valued) (room : Nat) : Prop where
  base : x.name.base ≠ []
  references : room = Nesting.maxDepth → x.references = 0

variable {x y : Valued}

theorem counted_accepted (hb : b.nesting.Counted) (hx : x.Regular b.nesting.room)
    (h : b.Accepts x) : (b.accepted x).nesting.Counted :=
  (hb.charge hx.references (Nesting.charge_of_le h.counted)).2

-- An assembly in another order accepts the same.
theorem Reordered.accept (h : b.Reordered b') (hx : x.Regular b.nesting.room) :
    Option.Rel Reordered (b.accept x) (b'.accept x) := by
  have hiff : b.Accepts x ↔ b'.Accepts x := by
    have hlookup := h.declared x.name.base hx.base
    constructor
    · rintro ⟨hallowed, hnew, hcounted⟩
      exact ⟨hallowed, hlookup ▸ hnew, h.nesting ▸ hcounted⟩
    · rintro ⟨hallowed, hnew, hcounted⟩
      exact ⟨hallowed, hlookup ▸ hnew, h.nesting ▸ hcounted⟩
  by_cases hb : b.Accepts x
  · rw [accept_of_accepts hb, accept_of_accepts (hiff.mp hb)]
    refine .some ⟨h.frames, h.top, h.declared.append (.refl _), h.waiting.append_right _, ?_,
      counted_accepted h.counted hx hb, h.tagSeen⟩
    rw [accepted, accepted, h.nesting]
  · rw [accept_of_not hb, accept_of_not (mt hiff.mpr hb)]
    exact .none

/-! ## Two attributes -/

/-- Two attributes that are accepted in turn are also accepted the other way around. -/
theorem Accepts.swap (hx : x.name.base ≠ []) (hb : b.Accepts x) (hbx : (b.accepted x).Accepts y) :
    b.Accepts y ∧ (b.accepted y).Accepts x := by
  obtain ⟨hxallowed, hxnew, -⟩ := hb
  obtain ⟨hyallowed, hynew, hcounted⟩ := hbx
  have hcounted : b.nesting.used + x.references + y.references ≤ Nesting.maxReferences := hcounted
  have hynew (h : y.name.scope = "xmlns".toList) :
      b.declared.lookup y.name.base = none ∧ x.declared.lookup y.name.base = none := by
    have hnone := hynew h
    rwa [accepted, List.lookup_append, Option.or_eq_none_iff] at hnone
  refine ⟨⟨hyallowed, fun h => (hynew h).1, by omega⟩, hxallowed, fun h => ?_, ?_⟩
  · rw [accepted, List.lookup_append, Option.or_eq_none_iff]
    exact ⟨hxnew h, hxallowed.lookup_symm hyallowed hx h fun h => (hynew h).2⟩
  · show b.nesting.used + y.references + x.references ≤ Nesting.maxReferences
    omega

theorem accepted_swap (hb : b.nesting.Counted) (hx : x.Regular b.nesting.room)
    (hy : y.Regular b.nesting.room) (h : b.Accepts x) (h' : (b.accepted x).Accepts y) :
    ((b.accepted x).accepted y).Reordered ((b.accepted y).accepted x) where
  frames := (Reordered.refl hb).frames
  top := .refl _
  declared := by
    intro scope hscope
    -- No scope is declared by both.
    have hor : (x.declared.lookup scope).or (y.declared.lookup scope) =
        (y.declared.lookup scope).or (x.declared.lookup scope) := by
      cases hdeclared : x.declared.lookup scope with
      | none => cases y.declared.lookup scope <;> rfl
      | some uri =>
        obtain ⟨hxmlns, rfl, -⟩ := Setting.lookup_declared_eq_some hscope hdeclared
        have hnone := ((h.swap hx.base h').2).new hxmlns
        rw [accepted, List.lookup_append, Option.or_eq_none_iff] at hnone
        rw [hnone.2]
        rfl
    simp only [accepted, List.lookup_append, Option.or_assoc, hor]
  waiting := by
    simp only [accepted, List.append_assoc]
    exact List.perm_append_comm.append_left b.waiting
  nesting := by simp only [accepted, Nat.add_right_comm]
  counted := by
    have hroom : (b.accepted x).nesting.room = b.nesting.room := rfl
    exact counted_accepted (counted_accepted hb hx h) (hroom ▸ hy) h'
  tagSeen := rfl

/-- Two attributes may be taken in either order. -/
theorem accept_swap (hb : b.nesting.Counted) (hx : x.Regular b.nesting.room)
    (hy : y.Regular b.nesting.room) :
    Option.Rel Reordered ((b.accept x).bind (·.accept y)) ((b.accept y).bind (·.accept x)) := by
  have hboth {x y : Valued} (h : b.Accepts x) (h' : (b.accepted x).Accepts y) :
      (b.accept x).bind (·.accept y) = some ((b.accepted x).accepted y) := by
    rw [accept_of_accepts h, Option.bind_some, accept_of_accepts h']
  have hnone {x y : Valued} (h : ¬ (b.Accepts x ∧ (b.accepted x).Accepts y)) :
      (b.accept x).bind (·.accept y) = none := by
    by_cases hb : b.Accepts x
    · rw [accept_of_accepts hb, Option.bind_some, accept_of_not fun h' => h ⟨hb, h'⟩]
    · rw [accept_of_not hb, Option.bind_none]
  by_cases h : b.Accepts x ∧ (b.accepted x).Accepts y
  · obtain ⟨hswap, hswap'⟩ := h.1.swap hx.base h.2
    rw [hboth h.1 h.2, hboth hswap hswap']
    exact .some (accepted_swap hb hx hy h.1 h.2)
  · rw [hnone h, hnone fun h' => h (h'.1.swap hy.base h'.2)]
    exact .none

/-! ## All attributes of a tag -/

variable {entities entities' : List Entity}

/-- One attribute of a start tag, normalised and declared. -/
def takeAttribute (entities : List Entity) (b : Assembly) (a : QName × List Char) :
    Option Assembly := do
  let (value, nesting) ← normalizeValue entities b.nesting.room b.nesting a.2
  { b with nesting }.declare a.1 (String.ofList value)

theorem takeAttributes_cons (a : QName × List Char) (as : List (QName × List Char)) :
    takeAttributes entities b (a :: as) =
      (takeAttribute entities b a).bind (takeAttributes entities · as) := by
  obtain ⟨n, raw⟩ := a
  rw [takeAttributes, takeAttribute, Option.bind_eq_bind, Option.bind_eq_bind, Option.bind_assoc]

/-- At a depth, an attribute has one value with a number of references, or none. -/
theorem exists_valued (entities : List Entity) (room : Nat) {a : QName × List Char}
    (ha : a.1.base ≠ []) :
    ∃ r : Option Valued, (∀ x ∈ r, x.Regular room) ∧
      ∀ b : Assembly, b.nesting.room = room → b.nesting.Counted →
        takeAttribute entities b a = r.bind b.accept := by
  obtain ⟨r, hr, hvalue⟩ := steady_normalizeValue entities room a.2
  refine ⟨r.map fun x => ⟨⟨a.1, String.ofList x.1⟩, x.2⟩, ?_, fun b hroom hb => ?_⟩
  · intro x hx
    obtain ⟨y, hy, rfl⟩ := Option.map_eq_some_iff.mp hx
    exact ⟨ha, hr y hy⟩
  · have hvalue : normalizeValue entities room b.nesting a.2 = b.nesting.counting r :=
      hvalue b.nesting hroom hb
    rw [takeAttribute, hroom, hvalue]
    cases r with
    | none => rfl
    | some x =>
      rw [Nesting.counting, Option.bind_some, Option.bind_eq_bind, Option.bind_map]
      rfl

theorem Reordered.takeAttribute (h : b.Reordered b') (entities : List Entity)
    {a : QName × List Char} (ha : a.1.base ≠ []) :
    Option.Rel Reordered (takeAttribute entities b a) (takeAttribute entities b' a) := by
  obtain ⟨r, hr, htake⟩ := exists_valued entities b.nesting.room ha
  rw [htake b rfl h.counted, htake b' (by rw [h.nesting]) (h.nesting ▸ h.counted)]
  cases r with
  | none => exact .none
  | some x => exact h.accept (hr x rfl)

theorem takeAttribute_swap (hb : b.nesting.Counted) {a a' : QName × List Char}
    (ha : a.1.base ≠ []) (ha' : a'.1.base ≠ []) :
    Option.Rel Reordered ((takeAttribute entities b a).bind (takeAttribute entities · a'))
      ((takeAttribute entities b a').bind (takeAttribute entities · a)) := by
  obtain ⟨r, hr, htake⟩ := exists_valued entities b.nesting.room ha
  obtain ⟨r', hr', htake'⟩ := exists_valued entities b.nesting.room ha'
  rw [htake b rfl hb, htake' b rfl hb]
  have hnext {r r' : Option Valued} {a : QName × List Char}
      (hr : ∀ x ∈ r, x.Regular b.nesting.room)
      (htake : ∀ b₁ : Assembly, b₁.nesting.room = b.nesting.room → b₁.nesting.Counted →
        takeAttribute entities b₁ a = r'.bind b₁.accept) :
      (r.bind b.accept).bind (takeAttribute entities · a) =
        r.bind fun x => (b.accept x).bind fun b₁ => r'.bind b₁.accept := by
    rw [Option.bind_assoc]
    refine Option.bind_congr fun x hx => Option.bind_congr fun b₁ hb₁ => ?_
    obtain ⟨haccepts, rfl⟩ := accept_eq_some_iff.mp hb₁
    exact htake _ rfl (counted_accepted hb (hr x hx) haccepts)
  rw [hnext hr htake', hnext hr' htake]
  cases r with
  | none => simp
  | some x =>
    cases r' with
    | none => simp
    | some y => exact accept_swap hb (hr x rfl) (hr' y rfl)

theorem Reordered.takeAttributes (h : b.Reordered b') {as : List (QName × List Char)}
    (has : ∀ a ∈ as, a.1.base ≠ []) :
    Option.Rel Reordered (takeAttributes entities b as) (takeAttributes entities b' as) := by
  induction as generalizing b b' with
  | nil => exact .some h
  | cons a as ih =>
    rw [List.forall_mem_cons] at has
    rw [takeAttributes_cons, takeAttributes_cons]
    exact rel_bind (h.takeAttribute entities has.1) fun _ _ h => ih h has.2

/-- The attributes of a tag may be taken in any order. -/
theorem Reordered.takeAttributes_perm (h : b.Reordered b') (entities : List Entity)
    {as as' : List (QName × List Char)} (has : as.Perm as') (hbase : ∀ a ∈ as, a.1.base ≠ []) :
    Option.Rel Reordered (Assembly.takeAttributes entities b as)
      (Assembly.takeAttributes entities b' as') := by
  induction has generalizing b b' with
  | nil => exact .some h
  | cons a _ ih =>
    rw [List.forall_mem_cons] at hbase
    rw [takeAttributes_cons, takeAttributes_cons]
    exact rel_bind (h.takeAttribute entities hbase.1) fun _ _ h => ih h hbase.2
  | swap a a' as =>
    simp only [List.forall_mem_cons] at hbase
    obtain ⟨ha', ha, has⟩ := hbase
    have hsame := rel_bind (h.takeAttribute entities ha) fun _ _ h => h.takeAttribute entities ha'
    have hboth := rel_trans (takeAttribute_swap h.counted ha' ha) hsame fun _ _ _ => Reordered.trans
    simp only [takeAttributes_cons, ← Option.bind_assoc]
    exact rel_bind hboth fun _ _ h => h.takeAttributes has
  | trans has _ ih ih' =>
    have hb' : b'.nesting.Counted := h.nesting ▸ h.counted
    have hlater := ih' (.refl hb') fun a ha => hbase a (has.mem_iff.mpr ha)
    exact rel_trans (ih h hbase) hlater fun _ _ _ => Reordered.trans

end Assembly

end FontCatalog.Xml
