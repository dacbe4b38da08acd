import FontCatalog.Proofs.Results
import FontCatalog.Proofs.Xml.Namespaces

/-!
# End tags without start tags

The scanner of elements counts what is open, so no end tag of the document itself comes when nothing
is open. The content of an entity is scanned on its own and may close what stands around it. Unless
the content of some entity does so, reading does not break down.
-/

namespace FontCatalog.Xml

/-! ## Tokens -/

/-- Tokens hold an end tag that closes none of `depth` open elements and none that they open. -/
def overcloses : (depth : Nat) → List Token → Bool
  | _, [] => false
  | depth, t :: ts =>
    match t with
    | .startTag _ _ .content => overcloses (depth + 1) ts
    | .endTag _ =>
      match depth with
      | 0 => true
      | depth + 1 => overcloses depth ts
    | _ => overcloses depth ts

/-- The content of an entity holds an end tag without its start tag. -/
def Entity.Overcloses (e : Entity) : Prop := overcloses 0 (Scan.entityContent e.value) = true

namespace Scan

-- The content of an element ends with its end tag.
theorem overcloses_content (fuel depth : Nat) (s : List Char) :
    overcloses (depth + 1) (content fuel depth s).1 = false := by
  induction fuel generalizing depth s with
  | zero => rfl
  | succ fuel ih =>
    cases s with
    | nil => rfl
    | cons c cs =>
      rw [content]
      split
      · rfl
      · rename_i t rest _
        cases t with
        | startTag n as ending => cases ending <;> exact ih _ rest
        | endTag n =>
          cases depth with
          | zero => rfl
          | succ depth => exact ih depth rest
        | _ => exact ih depth rest
      · rintro ⟨⟩

theorem overcloses_element (s : List Char) : overcloses 0 (element s).1 = false := by
  rw [element]
  split
  · rfl
  · rename_i t rest hstart
    obtain ⟨n, as, ending, rfl⟩ : ∃ n as ending, t = .startTag n as ending := by
      simp only [startTag, Option.bind_eq_bind, Option.bind_eq_some_iff] at hstart
      obtain ⟨⟨n, _⟩, -, ⟨⟨as, ending⟩, _⟩, -, hstart⟩ := hstart
      cases hstart
      exact ⟨n, as, ending, rfl⟩
    cases ending with
    | content => exact overcloses_content _ 0 rest
    | empty | missing => rfl

theorem overcloses_append_malformed (depth : Nat) (ts : List Token) :
    overcloses depth (ts ++ [.malformed]) = overcloses depth ts := by
  induction ts generalizing depth with
  | nil => rfl
  | cons t ts ih =>
    cases t with
    | startTag n as ending => cases ending <;> exact ih _
    | endTag n =>
      cases depth with
      | zero => rfl
      | succ depth => exact ih depth
    | _ => exact ih depth

theorem overcloses_root (s : List Char) : overcloses 0 (root s) = false := by
  rw [root]
  split
  rename_i tokens rest hread
  have htokens : overcloses 0 tokens = false := by
    split at hread
    · rename_i t _
      have helement := overcloses_element t
      rwa [hread] at helement
    · cases hread
      rfl
  split
  · exact htokens
  · rw [overcloses_append_malformed]
    exact htokens

theorem overcloses_document (s : List Char) : overcloses 0 (document s).2 = false := by
  rw [document]
  split
  · exact overcloses_root _
  · rfl

end Scan

/-! ## Open elements -/

/-- A result that leaves at least some elements open, or comes to an end because the text is not
well-formed. -/
def Leaves (count : Nat) : Except Error Assembly → Prop
  | .ok b => count ≤ b.frames.length
  | .error e => e = .malformed

theorem Leaves.bind {count count' : Nat} {x : Except Error Assembly}
    {f : Assembly → Except Error Assembly} (hx : Leaves count x)
    (hf : ∀ b : Assembly, count ≤ b.frames.length → Leaves count' (f b)) :
    Leaves count' (x >>= f) := by
  cases x with
  | error e => exact hx
  | ok b => exact hf b hx

namespace Assembly

variable {b b' : Assembly} {count : Nat} {entities : List Entity}
  {enter : Assembly → List Char → Except Error Assembly}

@[simp]
theorem length_frames_add (b : Assembly) (node : Node) :
    (b.add node).frames.length = b.frames.length := by
  unfold add
  split
  · rename_i f fs hframes
    rw [hframes, List.length_cons, List.length_cons]
  · rfl

@[simp]
theorem length_frames_addText (b : Assembly) (s : List Char) :
    (b.addText s).frames.length = b.frames.length := by
  unfold addText
  split
  · rfl
  · exact length_frames_add b _

theorem frames_declare {n : QName} {value : String} (h : b.declare n value = some b') :
    b'.frames = b.frames := by
  obtain ⟨-, -, rfl⟩ := (declare_eq_some_iff b ⟨n, value⟩).mp h
  rfl

theorem frames_takeAttributes {as : List (QName × List Char)}
    (h : takeAttributes entities b as = some b') : b'.frames = b.frames := by
  induction as generalizing b with
  | nil =>
    cases h
    rfl
  | cons a as ih =>
    simp only [takeAttributes, Option.bind_eq_bind, Option.bind_eq_some_iff] at h
    obtain ⟨⟨value, nesting⟩, -, b₁, hdeclare, h⟩ := h
    rw [ih h, frames_declare hdeclare]

theorem frames_settle {ns : Namespaces} {as : List Attribute}
    (h : b.settle = some (ns, as, b')) : b'.frames = b.frames := by
  simp only [settle, Option.bind_eq_bind, Option.bind_eq_some_iff, Option.pure_def] at h
  obtain ⟨as', -, h⟩ := h
  cases h
  rfl

-- A start tag that content follows opens an element, and no other one does.
theorem length_frames_openTag {n : QName} {as : List (QName × List Char)} {ending : TagEnd}
    (h : b.openTag entities n as ending = some b') :
    b'.frames.length = b.frames.length + if ending = .content then 1 else 0 := by
  unfold openTag at h
  split at h
  · cases h
  simp only [Option.bind_eq_bind, Option.bind_eq_some_iff, Option.pure_def] at h
  obtain ⟨b₁, htake, h⟩ := h
  have hb₁ : b₁.frames = b.frames := by rw [frames_takeAttributes htake]
  cases ending with
  | missing =>
    cases h
    rw [hb₁]
    rfl
  | content =>
    simp only [Option.bind_eq_some_iff] at h
    obtain ⟨⟨ns, as', b₂⟩, hsettle, space, -, h⟩ := h
    cases h
    rw [List.length_cons, frames_settle hsettle, hb₁]
    rfl
  | empty =>
    simp only [Option.bind_eq_some_iff] at h
    obtain ⟨⟨ns, as', b₂⟩, hsettle, space, -, h⟩ := h
    cases h
    rw [length_frames_add, frames_settle hsettle, hb₁]
    rfl

-- An end tag closes one of the open elements.
theorem leaves_closeTag (hb : count + 1 ≤ b.frames.length) (n : QName) :
    Leaves count (b.closeTag n) := by
  unfold closeTag
  split
  · rfl
  split
  · rfl
  · rename_i ns as b₁ hsettle
    rw [← frames_settle hsettle] at hb
    split
    · rename_i hframes
      rw [hframes] at hb
      cases hb
    · rename_i f fs hframes
      rw [hframes] at hb
      split
      · rfl
      · rw [Leaves, length_frames_add]
        exact Nat.le_of_succ_le_succ hb

theorem leaves_takeText (henter : ∀ b name, count ≤ b.frames.length → Leaves count (enter b name))
    (hb : count ≤ b.frames.length) (t : TextBuffer) (rs : List Run) :
    Leaves count (takeText enter b t rs) := by
  induction rs generalizing b t with
  | nil =>
    rw [takeText, Leaves, length_frames_addText]
    exact hb
  | cons r rs ih =>
    cases r with
    | char c => exact ih hb _
    | reference r =>
      cases r with
      | char c => exact ih hb _
      | entity name =>
        rw [← length_frames_addText b t.chars] at hb
        exact (henter _ name hb).bind fun b hb => ih hb _
    | malformed => rfl

/-- Tokens that do not close more than is open leave open what was open around them. -/
theorem leaves_foldlM_take
    (henter : ∀ count b name, count ≤ b.frames.length → Leaves count (enter b name))
    {depth : Nat} {ts : List Token} (hts : overcloses depth ts = false)
    (hb : count + depth ≤ b.frames.length) :
    Leaves count (ts.foldlM (take entities enter) b) := by
  induction ts generalizing b depth with
  | nil => exact Nat.le_of_add_right_le hb
  | cons t ts ih =>
    rw [List.foldlM_cons]
    cases t with
    | startTag n as ending =>
      rw [take]
      cases hopen : openTag entities b n as ending with
      | none => rfl
      | some b' =>
        have hlength := length_frames_openTag hopen
        cases ending with
        | content =>
          have hts : overcloses (depth + 1) ts = false := hts
          rw [if_pos rfl] at hlength
          exact ih hts (by omega)
        | empty | missing => exact ih hts (by omega)
    | endTag n =>
      cases depth with
      | zero => cases hts
      | succ depth => exact (leaves_closeTag hb n).bind fun b hb => ih hts hb
    | text raw => exact (leaves_takeText (henter _) hb .empty (runsOf raw)).bind fun b hb => ih hts hb
    | cdata raw =>
      rw [← length_frames_addText b (normalizeLines raw)] at hb
      exact ih hts hb
    | comment raw =>
      rw [← length_frames_add b (.comment (String.ofList raw))] at hb
      exact ih hts hb
    | instruction target data =>
      rw [← length_frames_add b
        (.instruction (String.ofList target) (String.ofList data))] at hb
      exact ih hts hb
    | malformed => rfl

/-- Entities that close nothing but what they open leave open what was open around them. -/
theorem leaves_takeAll (hentities : ∀ e ∈ entities, ¬ e.Overcloses) {levels depth : Nat}
    {ts : List Token} (hts : overcloses depth ts = false) (hb : count + depth ≤ b.frames.length) :
    Leaves count (takeAll entities levels b ts) := by
  induction levels generalizing b count depth ts with
  | zero =>
    refine leaves_foldlM_take ?_ hts hb
    intro count b name _
    rfl
  | succ levels ih =>
    refine leaves_foldlM_take ?_ hts hb
    intro count b name hb
    split
    · rfl
    · rename_i value nesting hinside
      have hvalue : overcloses 0 (Scan.entityContent value) = false := by
        simp only [entityInside, Option.bind_eq_bind, Option.bind_eq_some_iff] at hinside
        obtain ⟨_, hlookup, _, -, hinside⟩ := hinside
        cases hinside
        obtain ⟨e, he, rfl⟩ := Option.map_eq_some_iff.mp hlookup
        exact Bool.eq_false_iff.mpr (hentities e (List.mem_of_find?_eq_some he))
      have hinner : Leaves count
          (takeAll entities levels { b with nesting, tagSeen := false } (Scan.entityContent value)) :=
        ih hvalue hb
      refine hinner.bind ?_
      intro b' hb'
      exact hb'

end Assembly

/-- Reading breaks down only if the content of an entity holds an end tag without its start tag. -/
theorem exists_overcloses_of_read {s : List Char} (h : read s = .error .nothingOpen) :
    ∃ e ∈ (Scan.document s).1, e.Overcloses := by
  apply Classical.byContradiction
  intro hnone
  have hentities : ∀ e ∈ (Scan.document s).1, ¬ e.Overcloses := fun e he ho => hnone ⟨e, he, ho⟩
  have hleaves : Leaves 0 (Assembly.takeAll (Scan.document s).1 Nesting.maxDepth .start
      (Scan.document s).2) :=
    Assembly.leaves_takeAll hentities (Scan.overcloses_document s) (Nat.zero_le _)
  unfold read at h
  dsimp only at h
  cases htake : Assembly.takeAll (Scan.document s).1 Nesting.maxDepth .start (Scan.document s).2 with
  | error e =>
    rw [htake] at h hleaves
    obtain rfl : e = .malformed := hleaves
    cases h
  | ok b =>
    rw [htake] at h
    simp only [bind, Except.bind] at h
    split at h
    · cases hroot : b.top.reverse.find? Node.isElement <;> simp [hroot] at h
    · cases h

end FontCatalog.Xml
