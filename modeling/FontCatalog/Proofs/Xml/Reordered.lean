import FontCatalog.Proofs.Xml.Attributes
import FontCatalog.Proofs.Xml.Legal

/-!
# Texts with attributes in another order

Two texts whose tokens are the same up to the order of the attributes in start tags, also in their
entities. Both are trees or neither is, and where neither is reading comes to the same end. The
trees are the same up to the order of attributes, and to the namespaces of elements that declare a
default one more than once.
-/

namespace FontCatalog.Xml

/-- Among the entities of two texts, a raw value stands for the same. -/
def SameValue (entities entities' : List Entity) (raw : List Char) : Prop :=
  ∀ levels nesting,
    normalizeValue entities levels nesting raw = normalizeValue entities' levels nesting raw

/-- The same token, up to the order of attributes. -/
inductive Token.Reordered (entities entities' : List Entity) : Token → Token → Prop
  | startTag {n : QName} {as as' : List (QName × List Char)} {ending : TagEnd} (has : as.Perm as')
      (hvalues : ∀ a ∈ as, SameValue entities entities' a.2) :
      Reordered entities entities' (.startTag n as ending) (.startTag n as' ending)
  | other {t : Token} (ht : ∀ n as ending, t ≠ .startTag n as ending) :
      Reordered entities entities' t t

/-- The same entity, up to the order of attributes in its content. -/
structure Entity.Reordered (entities entities' : List Entity) (e e' : Entity) : Prop where
  name : e.name = e'.name
  content : List.Forall₂ (Token.Reordered entities entities') (Scan.entityContent e.value)
    (Scan.entityContent e'.value)

/-- The same text, up to the order of attributes. -/
structure Reordered (s s' : List Char) : Prop where
  entities : List.Forall₂
    (Entity.Reordered (Scan.document s).1 (Scan.document s').1) (Scan.document s).1
      (Scan.document s').1
  tokens : List.Forall₂
    (Token.Reordered (Scan.document s).1 (Scan.document s').1) (Scan.document s).2
      (Scan.document s').2

variable {entities entities' : List Entity}

theorem lookupEntity_reordered {es es' : List Entity}
    (h : List.Forall₂ (Entity.Reordered entities entities') es es') (name : List Char) :
    Option.Rel (fun value value' => List.Forall₂ (Token.Reordered entities entities')
        (Scan.entityContent value) (Scan.entityContent value'))
      (lookupEntity es name) (lookupEntity es' name) := by
  unfold lookupEntity
  induction h with
  | nil => exact .none
  | cons he _ ih =>
    rw [List.find?_cons, List.find?_cons, he.name]
    split
    · exact .some he.content
    · exact ih

/-! ## Checking -/

/-- A check that two tokens are the same up to the order of attributes. -/
def Token.sameButOrder : Token → Token → Bool
  | .startTag n as ending, .startTag n' as' ending' =>
    n == n' && as.isPerm as' && ending == ending'
  | t, t' => t == t'

theorem Token.sameButOrder_iff {t t' : Token} :
    t.sameButOrder t' = true ↔ t.Reordered entities entities t' := by
  constructor
  · intro h
    unfold sameButOrder at h
    split at h
    · simp only [Bool.and_eq_true, beq_iff_eq, List.isPerm_iff] at h
      obtain ⟨⟨rfl, has⟩, rfl⟩ := h
      exact .startTag has fun _ _ _ _ => rfl
    · rename_i hother
      obtain rfl : t = t' := by simpa using h
      exact .other fun n as ending ht => hother n as ending n as ending ht ht
  · rintro (⟨has, -⟩ | ht)
    · simpa [sameButOrder] using List.isPerm_iff.mpr has
    · unfold sameButOrder
      split
      · exact absurd rfl (ht _ _ _)
      · simp

instance (t t' : Token) : Decidable (t.Reordered entities entities t') :=
  decidable_of_iff _ Token.sameButOrder_iff

-- Texts without entities differ in the order of attributes if their tokens do.
theorem Reordered.of_tokens {s s' : List Char} (hs : (Scan.document s).1 = [])
    (hs' : (Scan.document s').1 = [])
    (h : List.Forall₂ (Token.Reordered [] []) (Scan.document s).2 (Scan.document s').2) :
    Reordered s s' := by
  constructor <;> rw [hs, hs']
  · exact .nil
  · exact h

namespace Assembly

variable {b b' : Assembly}

theorem takeAttributes_eq {as : List (QName × List Char)}
    (h : ∀ a ∈ as, SameValue entities entities' a.2) (b : Assembly) :
    takeAttributes entities b as = takeAttributes entities' b as := by
  induction as generalizing b with
  | nil => rfl
  | cons a as ih =>
    rw [List.forall_mem_cons] at h
    rw [takeAttributes_cons, takeAttributes_cons, takeAttribute, takeAttribute, h.1]
    exact Option.bind_congr fun b₁ _ => ih h.2 b₁

namespace Reordered

/-! ## Nodes and tags -/

theorem add (h : b.Reordered b') {node node' : Node} (hnode : Node.Reordered [node] [node']) :
    (b.add node).Reordered (b'.add node') := by
  obtain ⟨frames, top, declared, waiting, nesting, tagSeen⟩ := b
  obtain ⟨frames', top', declared', waiting', nesting', tagSeen'⟩ := b'
  obtain ⟨hframes, htop, hdeclared, hwaiting, hnesting, hcounted, htagSeen⟩ := h
  cases hframes with
  | nil => exact ⟨.nil, hnode.append htop, hdeclared, hwaiting, hnesting, hcounted, htagSeen⟩
  | cons hf hfs =>
    refine ⟨.cons ?_ hfs, htop, hdeclared, hwaiting, hnesting, hcounted, htagSeen⟩
    exact ⟨hf.tag, hf.attributes, hf.namespaces, hnode.append hf.children⟩

theorem addText (h : b.Reordered b') (s : List Char) :
    (b.addText s).Reordered (b'.addText s) := by
  unfold Assembly.addText
  split
  · exact h
  · exact h.add (.refl _)

theorem outer (h : b.Reordered b') : b.outer.Alike b'.outer := by
  have hframes := h.frames
  unfold Assembly.outer
  generalize b.frames = fs, b'.frames = fs' at hframes
  cases hframes with
  | nil => exact .refl []
  | cons hf _ => exact hf.namespaces

theorem settle (h : b.Reordered b') :
    Option.Rel (fun x x' => x.1.Alike x'.1 ∧ x.2.1.Perm x'.2.1 ∧ x.2.2.Reordered x'.2.2)
      b.settle b'.settle := by
  have hns := h.declared.nest h.outer
  refine rel_bind (resolve_reorder hns h.waiting) fun as as' has => ?_
  exact .some ⟨hns, has, h.frames, h.top, .refl [], .nil, h.nesting, h.counted, h.tagSeen⟩

theorem openTag (h : b.Reordered b') {n : QName} {as as' : List (QName × List Char)}
    {ending : TagEnd} (has : as.Perm as') (hbase : ∀ a ∈ as, a.1.base ≠ [])
    (hvalues : ∀ a ∈ as, SameValue entities entities' a.2) :
    Option.Rel Reordered (b.openTag entities n as ending) (b'.openTag entities' n as' ending) := by
  have hseen : Reordered { b with tagSeen := true } { b' with tagSeen := true } :=
    ⟨h.frames, h.top, h.declared, h.waiting, h.nesting, h.counted, rfl⟩
  have htake := hseen.takeAttributes_perm entities has hbase
  rw [takeAttributes_eq fun a ha => hvalues a (has.mem_iff.mpr ha)] at htake
  unfold Assembly.openTag
  split
  · exact .none
  refine rel_bind htake fun b₁ b₁' h₁ => ?_
  cases ending with
  | missing => exact .some h₁
  | content =>
    refine rel_bind h₁.settle fun ⟨ns, as, b₂⟩ ⟨ns', as', b₂'⟩ ⟨hns, has, h₂⟩ => ?_
    refine rel_bind (hns.ofElement n) fun space space' _ => ?_
    exact .some ⟨.cons ⟨rfl, has, hns, .nil⟩ h₂.frames, h₂.top, h₂.declared, h₂.waiting, h₂.nesting,
      h₂.counted, h₂.tagSeen⟩
  | empty =>
    refine rel_bind h₁.settle fun ⟨ns, as, b₂⟩ ⟨ns', as', b₂'⟩ ⟨hns, has, h₂⟩ => ?_
    refine rel_bind (hns.ofElement n) fun space space' _ => ?_
    exact .some (h₂.add (.element has .nil .nil))

theorem closeTag (h : b.Reordered b') (n : QName) :
    EndAlike Reordered (b.closeTag n) (b'.closeTag n) := by
  have hsettle := h.settle
  unfold Assembly.closeTag
  rw [h.tagSeen]
  split
  · exact .error _
  generalize b.settle = x, b'.settle = x' at hsettle
  cases hsettle with
  | none => exact .error _
  | @some x x' hsettled =>
    obtain ⟨ns, as, frames, top, declared, waiting, nesting, tagSeen⟩ := x
    obtain ⟨ns', as', frames', top', declared', waiting', nesting', tagSeen'⟩ := x'
    obtain ⟨-, -, hframes, htop, hdeclared, hwaiting, hnesting, hcounted, htagSeen⟩ := hsettled
    cases hframes with
    | nil => exact .error _
    | @cons f f' fs fs' hf hfs =>
      simp only [hf.tag]
      split
      · exact .error _
      · have hclosed : Assembly.Reordered ⟨fs, top, declared, waiting, nesting, tagSeen⟩
            ⟨fs', top', declared', waiting', nesting', tagSeen'⟩ :=
          ⟨hfs, htop, hdeclared, hwaiting, hnesting, hcounted, htagSeen⟩
        exact .ok (hclosed.add (.element hf.attributes hf.children.reverse .nil))

/-! ## Text and entities -/

theorem takeText {enter enter' : Assembly → List Char → Except Error Assembly}
    (henter : ∀ b b' name, b.Reordered b' → EndAlike Reordered (enter b name) (enter' b' name))
    (h : b.Reordered b') (t : TextBuffer) (rs : List Run) :
    EndAlike Reordered (b.takeText enter t rs) (b'.takeText enter' t rs) := by
  induction rs generalizing b b' t with
  | nil => exact .ok (h.addText t.chars)
  | cons r rs ih =>
    cases r with
    | char c => exact ih h _
    | reference r =>
      cases r with
      | char c =>
        rw [Assembly.takeText, Assembly.takeText, h.nesting]
        exact ih h _
      | entity name => exact (henter _ _ name (h.addText t.chars)).bind fun _ _ h => ih h .empty
    | malformed => exact .error _

/-- Tokens in another order keep assemblies in another order. -/
theorem take {enter enter' : Assembly → List Char → Except Error Assembly}
    (henter : ∀ b b' name, b.Reordered b' → EndAlike Reordered (enter b name) (enter' b' name))
    (h : b.Reordered b') {t t' : Token} (ht : t.Reordered entities entities' t')
    (hnamed : t.Named) :
    EndAlike Reordered (b.take entities enter t) (b'.take entities' enter' t') := by
  cases ht with
  | startTag has hvalues => exact .of_rel _ (h.openTag has hnamed hvalues)
  | other ht =>
    cases t with
    | startTag n as ending => exact absurd rfl (ht n as ending)
    | endTag n => exact h.closeTag n
    | text raw => exact h.takeText henter .empty (runsOf raw)
    | cdata raw => exact .ok (h.addText _)
    | comment raw => exact .ok (h.add (.refl _))
    | instruction target data => exact .ok (h.add (.refl _))
    | malformed => exact .error _


theorem foldlM_take {enter enter' : Assembly → List Char → Except Error Assembly}
    (henter : ∀ b b' name, b.Reordered b' → EndAlike Reordered (enter b name) (enter' b' name))
    (h : b.Reordered b') {ts ts' : List Token} (hnamed : ∀ t ∈ ts, t.Named)
    (hts : List.Forall₂ (Token.Reordered entities entities') ts ts') :
    EndAlike Reordered (ts.foldlM (Assembly.take entities enter) b)
      (ts'.foldlM (Assembly.take entities' enter') b') :=
  EndAlike.foldlM ((List.forall₂_and_left ts ts').mpr ⟨hnamed, hts⟩)
    (fun _ _ _ _ h ht => h.take henter ht.2 ht.1) h

theorem entityInside (hentities : List.Forall₂ (Entity.Reordered entities entities') entities entities')
    (h : b.Reordered b') (name : List Char) :
    Option.Rel (fun x x' => List.Forall₂ (Token.Reordered entities entities')
        (Scan.entityContent x.1) (Scan.entityContent x'.1) ∧ x.2 = x'.2 ∧ x.2.Counted)
      (b.entityInside entities name) (b'.entityInside entities' name) := by
  refine rel_bind (lookupEntity_reordered hentities name) fun value value' hvalue => ?_
  rw [h.nesting]
  cases henter : b'.nesting.enter with
  | none => exact .none
  | some nesting => exact .some ⟨hvalue, rfl, ((h.nesting ▸ h.counted).enter henter).2⟩

/-- All tokens of a text, with the content of entities. -/
theorem takeAll (hentities : List.Forall₂ (Entity.Reordered entities entities') entities entities')
    (levels : Nat) (h : b.Reordered b') {ts ts' : List Token} (hnamed : ∀ t ∈ ts, t.Named)
    (hts : List.Forall₂ (Token.Reordered entities entities') ts ts') :
    EndAlike Reordered (Assembly.takeAll entities levels b ts)
      (Assembly.takeAll entities' levels b' ts') := by
  induction levels generalizing b b' ts ts' with
  | zero => exact foldlM_take (fun _ _ _ _ => .error _) h hnamed hts
  | succ levels ih =>
    refine foldlM_take (fun b b' name h => ?_) h hnamed hts
    have hinside := h.entityInside hentities name
    generalize b.entityInside entities name = x, b'.entityInside entities' name = x' at hinside
    cases hinside with
    | none => exact .error _
    | @some x x' hx =>
      obtain ⟨value, nesting⟩ := x
      obtain ⟨value', nesting'⟩ := x'
      obtain ⟨hcontent, rfl, hcounted⟩ := hx
      have hstart : Assembly.Reordered { b with nesting, tagSeen := false }
          { b' with nesting, tagSeen := false } :=
        ⟨h.frames, h.top, h.declared, h.waiting, rfl, hcounted, rfl⟩
      refine (ih hstart (Scan.scanned_named.content _ _ _) hcontent).bind fun b₁ b₁' h₁ => ?_
      refine .ok ⟨h₁.frames, h₁.top, h₁.declared, h₁.waiting, ?_, h.counted.leave h₁.counted,
        h.tagSeen⟩
      rw [h.nesting, h₁.nesting]

end Reordered

end Assembly

/-! ## Whole texts -/

theorem Node.Reordered.find?_isElement {nodes nodes' : List Node}
    (h : Node.Reordered nodes nodes') :
    Option.Rel (fun node node' => Node.Reordered [node] [node']) (nodes.find? Node.isElement)
      (nodes'.find? Node.isElement) := by
  induction h with
  | nil => exact .none
  | element has hchildren _ _ _ => exact .some (.element has hchildren .nil)
  | other hnode _ ih =>
    rw [List.find?_cons, List.find?_cons, hnode]
    exact ih

/-- Two texts that differ in the order of attributes have trees that differ in it, or reading comes
to the same end. -/
theorem Reordered.read {s s' : List Char} (h : Reordered s s') :
    EndAlike (fun root root' => Node.Reordered [root] [root']) (read s) (read s') := by
  obtain ⟨hentities, htokens⟩ := h
  have hstart : Assembly.start.Reordered .start := .refl Nesting.counted_outermost
  have htake := hstart.takeAll hentities Nesting.maxDepth (Scan.scanned_named.document s) htokens
  refine htake.bind fun b b' hb => ?_
  have hempty : b.frames.isEmpty = b'.frames.isEmpty := by
    have hframes := hb.frames
    generalize b.frames = fs, b'.frames = fs' at hframes
    cases hframes <;> rfl
  rw [hempty]
  split
  · exact .of_rel _ hb.top.reverse.find?_isElement
  · exact .error _

end FontCatalog.Xml
