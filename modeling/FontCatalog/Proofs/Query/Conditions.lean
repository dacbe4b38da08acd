import FontCatalog.Query

/-!
# The conditions of a query

A query accepts a record if five conditions hold, each of which can be left out. All its axes have to
be set, while one of its locales and one of its patterns is enough. So it does not matter in which
order and how often anything is listed. Further axes accept no more records, and further locales or
patterns accept no fewer, unless there were none.
-/

namespace FontCatalog.Query

variable {q q' : Query} {r r' : Record}

/-! ## What is asked of a record -/

/-- A record meets a query, condition by condition. -/
structure Meets (q : Query) (r : Record) : Prop where
  italic : ∀ italic, q.italic = some italic → r.italic = italic
  weight : ∀ range, q.weights = some range → range.low ≤ r.weight ∧ r.weight ≤ range.high
  axes : ∀ tag ∈ q.axes, ∃ a ∈ r.axes, a.tag = tag
  locale : q.locales = [] ∨ ∃ locale ∈ q.locales, r.locale = some locale
  path : q.patterns = [] ∨ ∃ p ∈ q.patterns, p.matchesIn r.path.display = true

theorem all_italic_iff :
    q.italic.all (· == r.italic) = true ↔ ∀ italic, q.italic = some italic → r.italic = italic := by
  cases q.italic with
  | none => simp
  | some italic =>
    simp only [Option.all_some, beq_iff_eq, Option.some.injEq, forall_eq']
    exact eq_comm

theorem all_weights_iff :
    q.weights.all (·.holds r.weight) = true ↔
      ∀ range, q.weights = some range → range.low ≤ r.weight ∧ r.weight ≤ range.high := by
  cases q.weights with
  | none => simp
  | some range => simp [WeightRange.holds]

theorem all_axes_iff :
    q.axes.all (r.axes.map (·.tag)).contains = true ↔
      ∀ tag ∈ q.axes, ∃ a ∈ r.axes, a.tag = tag := by
  simp only [List.all_eq_true, List.contains_iff_mem, List.mem_map]

theorem any_locale_iff :
    r.locale.any q.locales.contains = true ↔ ∃ locale ∈ q.locales, r.locale = some locale := by
  cases r.locale with
  | none => simp
  | some locale => simp

/-- A query accepts the records that meet it. -/
theorem accepts_iff : q.accepts r = true ↔ q.Meets r := by
  simp only [accepts, Bool.and_eq_true, Bool.or_eq_true, List.isEmpty_iff, all_italic_iff,
    all_weights_iff, all_axes_iff, any_locale_iff, List.any_eq_true]
  constructor
  · rintro ⟨⟨⟨⟨hitalic, hweight⟩, haxes⟩, hlocale⟩, hpath⟩
    exact ⟨hitalic, hweight, haxes, hlocale, hpath⟩
  · intro h
    exact ⟨⟨⟨⟨h.italic, h.weight⟩, h.axes⟩, h.locale⟩, h.path⟩

/-! ## Order and repetition -/

/-- Two lists hold the same, in whatever order and however often. -/
def SameMembers {α : Type} (as bs : List α) : Prop := ∀ a, a ∈ as ↔ a ∈ bs

theorem SameMembers.symm {α : Type} {as bs : List α} (h : SameMembers as bs) : SameMembers bs as :=
  fun a => (h a).symm

theorem SameMembers.nil_iff {α : Type} {as bs : List α} (h : SameMembers as bs) :
    as = [] ↔ bs = [] := by
  rw [List.eq_nil_iff_forall_not_mem, List.eq_nil_iff_forall_not_mem]
  exact forall_congr' fun a => not_congr (h a)

/-- Two queries with the same conditions, up to the order and the repetition of what is listed. -/
structure Alike (q q' : Query) : Prop where
  italic : q.italic = q'.italic
  weights : q.weights = q'.weights
  axes : SameMembers q.axes q'.axes
  locales : SameMembers q.locales q'.locales
  patterns : SameMembers q.patterns q'.patterns

-- The conditions speak of members only.
theorem Meets.of_alike (h : q.Meets r) (halike : q.Alike q') {axes : List Axis}
    (haxes : SameMembers r.axes axes) : q'.Meets { r with axes } where
  italic italic hitalic := h.italic italic (halike.italic.trans hitalic)
  weight range hrange := h.weight range (halike.weights.trans hrange)
  axes tag htag := by
    obtain ⟨a, ha, rfl⟩ := h.axes tag ((halike.axes tag).mpr htag)
    exact ⟨a, (haxes a).mp ha, rfl⟩
  locale := by
    apply h.locale.imp halike.locales.nil_iff.mp
    rintro ⟨locale, hlocale, heq⟩
    exact ⟨locale, (halike.locales locale).mp hlocale, heq⟩
  path := by
    apply h.path.imp halike.patterns.nil_iff.mp
    rintro ⟨p, hp, hmatches⟩
    exact ⟨p, (halike.patterns p).mp hp, hmatches⟩

theorem Alike.symm (h : q.Alike q') : q'.Alike q :=
  ⟨h.italic.symm, h.weights.symm, h.axes.symm, h.locales.symm, h.patterns.symm⟩

theorem accepts_eq_of_alike (h : q.Alike q') {axes : List Axis} (haxes : SameMembers r.axes axes) :
    q'.accepts { r with axes } = q.accepts r := by
  rw [Bool.eq_iff_iff, accepts_iff, accepts_iff]
  constructor
  · intro hmeets
    exact hmeets.of_alike h.symm haxes.symm
  · intro hmeets
    exact hmeets.of_alike h haxes

/-! ## More and fewer -/

theorem Meets.withAxes (h : q.Meets r) {axes : List Tag} (hsub : axes ⊆ q.axes) :
    (q.withAxes axes).Meets r :=
  { h with axes := fun tag htag => h.axes tag (hsub htag) }

theorem Meets.withLocales (h : q.Meets r) {locales : List String} (hne : q.locales ≠ [])
    (hsub : q.locales ⊆ locales) : (q.withLocales locales).Meets r := by
  obtain ⟨locale, hlocale, heq⟩ := h.locale.resolve_left hne
  exact { h with locale := .inr ⟨locale, hsub hlocale, heq⟩ }

theorem Meets.withPatterns (h : q.Meets r) {patterns : List Pattern} (hne : q.patterns ≠ [])
    (hsub : q.patterns ⊆ patterns) : (q.withPatterns patterns).Meets r := by
  obtain ⟨p, hp, hmatches⟩ := h.path.resolve_left hne
  exact { h with path := .inr ⟨p, hsub hp, hmatches⟩ }

/-- What a query accepts: exactly the records that meet its conditions, so none if its weight range
is reversed. Neither the order of what it or the record lists matters nor any repetition. Axes that
are left out accept no fewer records, and neither do locales and patterns that are added to some. -/
theorem accepts_conditions (q : Query) (r : Record) :
    (q.accepts r = true ↔ q.Meets r) ∧
    (∀ range, q.weights = some range → range.high < range.low → q.accepts r = false) ∧
    (∀ q' axes, q.Alike q' → SameMembers r.axes axes →
      q'.accepts { r with axes } = q.accepts r) ∧
    (∀ axes, axes ⊆ q.axes → q.accepts r = true → (q.withAxes axes).accepts r = true) ∧
    (∀ locales, q.locales ≠ [] → q.locales ⊆ locales → q.accepts r = true →
      (q.withLocales locales).accepts r = true) ∧
    ∀ patterns, q.patterns ≠ [] → q.patterns ⊆ patterns → q.accepts r = true →
      (q.withPatterns patterns).accepts r = true := by
  refine ⟨accepts_iff, ?reversed, ?alike, ?axes, ?locales, ?patterns⟩
  case reversed =>
    intro range hrange hreversed
    rw [Bool.eq_false_iff, ne_eq, accepts_iff]
    intro h
    obtain ⟨hlow, hhigh⟩ := h.weight range hrange
    exact absurd (UInt16.le_trans hlow hhigh) (UInt16.not_le.mpr hreversed)
  case alike => exact fun q' axes halike haxes => accepts_eq_of_alike halike haxes
  case axes =>
    intro axes hsub h
    exact accepts_iff.mpr ((accepts_iff.mp h).withAxes hsub)
  case locales =>
    intro locales hne hsub h
    exact accepts_iff.mpr ((accepts_iff.mp h).withLocales hne hsub)
  case patterns =>
    intro patterns hne hsub h
    exact accepts_iff.mpr ((accepts_iff.mp h).withPatterns hne hsub)

def cjkFont : Record :=
  ⟨.ofString "/system/fonts/NotoSansCJK-Regular.ttc", 400, false, 0, some "ja",
    [⟨⟨0x77676874⟩, ⟨0x43C80000⟩⟩, ⟨⟨0x77647468⟩, ⟨0x42C80000⟩⟩]⟩

def notoQuery : Query where
  axes := [⟨0x77676874⟩, ⟨0x77647468⟩]
  locales := ["ja"]
  patterns := [⟨"Noto", .literal "Noto".toList⟩]
  italic := some false
  weights := some ⟨300, 500⟩

/-- A font that is still accepted if one axis is asked for less, and one locale and one pattern
more. -/
theorem accepts_conditions_cjkFont :
    notoQuery.accepts cjkFont = true ∧
      (notoQuery.withAxes [⟨0x77676874⟩]).accepts cjkFont = true ∧
      (notoQuery.withLocales ["ko", "ja"]).accepts cjkFont = true ∧
      (notoQuery.withPatterns (⟨"Sans", .literal "Sans".toList⟩ :: notoQuery.patterns)).accepts
        cjkFont = true := by
  have haccepts : notoQuery.accepts cjkFont = true := by decide +kernel
  obtain ⟨-, -, -, haxes, hlocales, hpatterns⟩ := accepts_conditions notoQuery cjkFont
  refine ⟨haccepts, ?axes, ?locales, ?patterns⟩
  case axes => exact haxes _ (by simp [notoQuery]) haccepts
  case locales => exact hlocales _ (by simp [notoQuery]) (by simp [notoQuery]) haccepts
  case patterns =>
    exact hpatterns _ (by simp [notoQuery]) (List.subset_cons_self _ _) haccepts

end FontCatalog.Query
