import FontCatalog.Proofs.Document.Navigation
import FontCatalog.Walk

/-!
# The fonts of a document

All fonts of a document, family by family and in document order, and how a walk finds them: its
first font is the first of this list, and the font after another one is the one that follows it in
the list, whatever lies between their families. On the way it looks into each of these families once.
-/

namespace FontCatalog.Document

/-- The `family` elements right below the root. -/
def families (d : Document) : List ElementId :=
  d.root?.toList.flatMap fun root => (d.children root).filter (d.name · == familyTag)

/-- The `font` elements right below an element. -/
def fontsBelow (d : Document) (family : ElementId) : List ElementId :=
  (d.children family).filter (d.name · == fontTag)

/-- The fonts of all families. -/
def fonts (d : Document) : List ElementId :=
  d.families.flatMap d.fontsBelow

/-- The families after the one that holds a font. -/
def familiesAfter (d : Document) (font : ElementId) : List ElementId :=
  (d.families.dropWhile fun family => d.parent? font != some family).tail

/-- The families after the one that holds the first font. There are none if there is no font. -/
def laterFamilies (d : Document) : List ElementId :=
  d.fonts.head?.elim [] d.familiesAfter

variable {d : Document} {root family font : ElementId}

theorem mem_fontsBelow :
    font ∈ d.fontsBelow family ↔ font ∈ d.children family ∧ d.name font = fontTag := by
  simp [fontsBelow]

theorem mem_families :
    family ∈ d.families ↔
      ∃ root, d.root? = some root ∧ family ∈ d.children root ∧ d.name family = familyTag := by
  simp [families]

theorem mem_fonts :
    font ∈ d.fonts ↔
      ∃ root family, d.root? = some root ∧
        (family ∈ d.children root ∧ d.name family = familyTag) ∧
        (font ∈ d.children family ∧ d.name font = fontTag) := by
  simp only [fonts, List.mem_flatMap, mem_families, mem_fontsBelow]
  constructor
  · rintro ⟨family, ⟨root, hroot, hfamily⟩, hfont⟩
    exact ⟨root, family, hroot, hfamily, hfont⟩
  · rintro ⟨root, family, hroot, hfamily, hfont⟩
    exact ⟨family, ⟨root, hroot, hfamily⟩, hfont⟩

theorem nodup_families (d : Document) : d.families.Nodup := by
  unfold families
  cases d.root? with
  | none => simp
  | some root => simpa using (d.nodup_children root).filter _

theorem nodup_fonts (d : Document) : d.fonts.Nodup := by
  rw [fonts, List.nodup_flatMap]
  refine ⟨fun family _ => (d.nodup_children family).filter _, ?_⟩
  -- A font below two families would have two parents.
  apply d.nodup_families.imp
  intro family family' hne font hfont hfont'
  have h := parent?_of_mem_children (mem_fontsBelow.mp hfont).1
  have h' := parent?_of_mem_children (mem_fontsBelow.mp hfont').1
  rw [h] at h'
  exact hne (Option.some.inj h')

theorem length_fonts_le_size (d : Document) : d.fonts.length ≤ d.size := by
  apply length_le_size_of_nodup d.nodup_fonts
  intro font hfont
  obtain ⟨root, family, -, -, hchild, -⟩ := mem_fonts.mp hfont
  exact isSome_element?_of_mem_children hchild

-- Fewer fonts follow a font than there are elements.
theorem length_ahead_lt_size {passed ahead : List ElementId}
    (h : d.fonts = passed ++ font :: ahead) : ahead.length < d.size := by
  have hle := d.length_fonts_le_size
  rw [h, List.length_append, List.length_cons] at hle
  omega

/-! ## The first font -/

theorem firstChild?_font (d : Document) (family : ElementId) :
    d.firstChild? family fontTag = (d.fontsBelow family).head? := by
  rw [fontsBelow, List.head?_filter, firstChild?]

theorem firstFont?_eq_head? (d : Document) : d.firstFont? = d.fonts.head? := by
  rw [fonts, List.head?_flatMap, firstFont?, families]
  cases d.root? with
  | none => rfl
  | some root =>
    simp only [Option.bind_eq_bind, Option.bind_some, Option.toList_some, List.flatMap_singleton,
      childrenNamed_eq_filter, firstChild?_font]

/-! ## The families that follow -/

theorem familiesAfter_eq {before after : List ElementId}
    (h : d.families = before ++ family :: after) (hparent : d.parent? font = some family) :
    d.familiesAfter font = after := by
  have hnodup := d.nodup_families
  rw [h] at hnodup
  have hbefore : ∀ other ∈ before, (d.parent? font != some other) = true := by
    intro other hother
    rw [hparent]
    refine bne_iff_ne.mpr fun heq => ?_
    exact (List.nodup_append.mp hnodup).2.2 other hother family List.mem_cons_self
      (Option.some.inj heq).symm
  rw [familiesAfter, h, List.dropWhile_append_of_pos hbefore,
    List.dropWhile_cons_of_neg (by simp [hparent]), List.tail_cons]

theorem familiesAfter_of_mem {before after : List ElementId}
    (h : d.families = before ++ family :: after) (hfont : font ∈ d.fontsBelow family) :
    d.familiesAfter font = after :=
  familiesAfter_eq h (parent?_of_mem_children (mem_fontsBelow.mp hfont).1)

-- The first font of some families stands in the first of them that has any.
theorem familiesAfter_head {before after : List ElementId} (h : d.families = before ++ after) :
    (after.flatMap d.fontsBelow).head?.elim [] d.familiesAfter =
      (after.dropWhile fun family => (d.fontsBelow family).isEmpty).tail := by
  induction after generalizing before with
  | nil => rfl
  | cons family after ih =>
    cases hfonts : d.fontsBelow family with
    | nil =>
      rw [List.flatMap_cons, hfonts, List.nil_append, List.dropWhile_cons_of_pos (by simp [hfonts])]
      have hrest : d.families = (before ++ [family]) ++ after := by simp [h]
      exact ih hrest
    | cons font fonts =>
      rw [List.flatMap_cons, hfonts, List.dropWhile_cons_of_neg (by simp [hfonts])]
      exact familiesAfter_of_mem h (by simp [hfonts])

/-! ## The next font -/

/-- The search through the families that follow finds the first font in them. It looks into them up
to the one that holds it. -/
theorem fontAfterFamily_spec {before after : List ElementId}
    (h : d.children root = before ++ after)
    (hnext : d.nextSibling? family familyTag = after.find? (d.name · == familyTag))
    {fuel : Nat} (hfuel : after.length < fuel) :
    let families := after.filter (d.name · == familyTag)
    (d.fontAfterFamily fuel family).1 = (families.flatMap d.fontsBelow).head? ∧
      (d.fontAfterFamily fuel family).2 +
          (families.dropWhile fun family => (d.fontsBelow family).isEmpty).tail.length =
        families.length := by
  induction after generalizing before family fuel with
  | nil =>
    obtain ⟨fuel, rfl⟩ := Nat.exists_eq_add_of_lt hfuel
    simp [fontAfterFamily, hnext]
  | cons c after ih =>
    have hrest : d.children root = (before ++ [c]) ++ after := by simp [h]
    rw [List.length_cons] at hfuel
    cases hc : d.name c == familyTag with
    | false =>
      simp only [List.find?_cons, hc] at hnext
      simp only [List.filter_cons, hc, Bool.false_eq_true, ↓reduceIte]
      exact ih hrest hnext (by omega)
    | true =>
      simp only [List.find?_cons, hc] at hnext
      obtain ⟨fuel, rfl⟩ : ∃ k, fuel = k + 1 := ⟨fuel - 1, by omega⟩
      simp only [fontAfterFamily, hnext, List.filter_cons, hc, ↓reduceIte, List.flatMap_cons,
        firstChild?_font]
      cases hfonts : d.fontsBelow c with
      | cons font fonts =>
        rw [List.dropWhile_cons_of_neg (by simp [hfonts])]
        exact ⟨rfl, Nat.add_comm 1 _⟩
      | nil =>
        -- A family without fonts is passed over, and its next sibling is known as before.
        have hfuel' : after.length < fuel := by omega
        obtain ⟨hfirst, hcount⟩ := ih hrest (nextSibling?_of_children h familyTag) hfuel'
        rw [List.dropWhile_cons_of_pos (by simp [hfonts]), List.length_cons, ← hcount]
        exact ⟨hfirst, Nat.add_right_comm _ _ _⟩

-- A member of a joined list is a member of one of the parts, and what follows it is the rest of
-- that part with the parts after it.
private theorem exists_of_flatMap_eq_append {α β : Type} {g : α → List β} {l : List α}
    {xs ys : List β} {y : β} (h : l.flatMap g = xs ++ y :: ys) :
    ∃ before a after, l = before ++ a :: after ∧
      ∃ us vs, g a = us ++ y :: vs ∧ ys = vs ++ after.flatMap g := by
  induction l generalizing xs with
  | nil => simp at h
  | cons a l ih =>
    have hlater : ∀ {us : List β}, l.flatMap g = us ++ y :: ys →
        ∃ before b after, a :: l = before ++ b :: after ∧
          ∃ us vs, g b = us ++ y :: vs ∧ ys = vs ++ after.flatMap g := by
      intro us hus
      obtain ⟨before, b, after, rfl, hb⟩ := ih hus
      exact ⟨a :: before, b, after, rfl, hb⟩
    rw [List.flatMap_cons, List.append_eq_append_iff] at h
    rcases h with ⟨us, -, hus⟩ | ⟨us, hga, hus⟩
    · exact hlater hus
    · cases us with
      | nil => exact @hlater [] (by simpa using hus.symm)
      | cons u us =>
        obtain ⟨rfl, rfl⟩ := List.cons.inj hus
        exact ⟨[], a, l, rfl, xs, us, hga, rfl⟩

-- What follows a member of a filtered list is what the filter leaves of what follows it.
private theorem exists_of_filter_eq_append {α : Type} {p : α → Bool} {l us vs : List α} {y : α}
    (h : l.filter p = us ++ y :: vs) :
    ∃ before after, l = before ++ y :: after ∧ after.filter p = vs := by
  obtain ⟨before, rest, rfl, -, hrest⟩ := List.filter_eq_append_iff.mp h
  obtain ⟨gap, after, rfl, -, -, hafter⟩ := List.filter_eq_cons_iff.mp hrest
  exact ⟨before ++ gap, after, by rw [List.append_assoc], hafter⟩

/-- The font after another one follows it in the list of all fonts. The families that are looked into
are those after its own, up to the one that holds the next font. -/
theorem nextFont_spec {passed ahead : List ElementId} (h : d.fonts = passed ++ font :: ahead) :
    (d.nextFont font).1 = ahead.head? ∧
      (d.nextFont font).2 + (ahead.head?.elim [] d.familiesAfter).length =
        (d.familiesAfter font).length := by
  obtain ⟨earlier, family, later, hfamilies, _, fontsAfter, hfonts, rfl⟩ :=
    exists_of_flatMap_eq_append h
  obtain ⟨_, after, hchildren, rfl⟩ := exists_of_filter_eq_append hfonts
  have hown : d.familiesAfter font = later :=
    familiesAfter_of_mem hfamilies (by simp [hfonts])
  rw [nextFont, nextSibling?_of_children hchildren fontTag, ← List.head?_filter, hown]
  cases hlater : after.filter (d.name · == fontTag) with
  | cons next fonts =>
    have hnext : d.familiesAfter next = later :=
      familiesAfter_of_mem hfamilies (by simp [hfonts, hlater])
    simp [hnext]
  | nil =>
    -- The font is the last one of its family: the search goes on among the families after it.
    have hmem : family ∈ d.families := by simp [hfamilies]
    obtain ⟨root, hroot, -⟩ := mem_families.mp hmem
    have hroots : d.families = (d.children root).filter (d.name · == familyTag) := by
      rw [families, hroot, Option.toList_some, List.flatMap_singleton]
    obtain ⟨before, after, hchildren', rfl⟩ :=
      exists_of_filter_eq_append (hroots.symm.trans hfamilies)
    have hrest : d.children root = (before ++ [family]) ++ after := by simp [hchildren']
    have hlist : d.families = (earlier ++ [family]) ++ after.filter (d.name · == familyTag) := by
      rw [hfamilies, List.append_assoc, List.singleton_append]
    have hparent : d.parent? font = some family :=
      parent?_of_mem_children (by rw [hchildren]; simp)
    have hfuel : after.length < d.size := by
      have hle := d.length_children_le_size root
      rw [hchildren', List.length_append, List.length_cons] at hle
      omega
    simp only [List.head?_nil, hparent, List.nil_append]
    rw [familiesAfter_head hlist]
    exact fontAfterFamily_spec hrest (nextSibling?_of_children hchildren' familyTag) hfuel

theorem fst_nextFont {passed ahead : List ElementId} (h : d.fonts = passed ++ font :: ahead) :
    (d.nextFont font).1 = ahead.head? :=
  (nextFont_spec h).1

end FontCatalog.Document
