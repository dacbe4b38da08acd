import FontCatalog.Proofs.Cli.Listing
import FontCatalog.Proofs.Output.Failing
import FontCatalog.Proofs.Tag.Grammar
import FontCatalog.Proofs.WeightRange

/-!
# Queries that are refused

The texts of a query are read before anything else happens: the axes, then the patterns, then the
weights. The first one that is no axis, no pattern or no weight range ends the command, whatever the
files are. All other listings come to their end, unless reading breaks down on the configuration or
a record has no JSON form.
-/

namespace FontCatalog

namespace Pattern

variable {text : String} {texts : List String}

/-- The pattern of a text, or the text if it is none. -/
def orText (text : String) : Except String Pattern := (compile? text).elim (.error text) .ok

theorem exists_orText_iff : (∃ p, orText text = .ok p) ↔ (compile? text).isSome = true := by
  rw [orText]
  cases compile? text <;> simp

theorem orText_eq_error_iff {bad : String} :
    orText text = .error bad ↔ text = bad ∧ compile? text = none := by
  rw [orText]
  cases compile? text <;> simp

theorem compileAll_eq_mapM (texts : List String) : compileAll texts = texts.mapM orText := by
  induction texts with
  | nil => rfl
  | cons text texts ih =>
    rw [compileAll, List.mapM_cons, ← ih, orText]
    cases compile? text with
    | none => rfl
    | some p => cases compileAll texts <;> rfl

theorem exists_compileAll_iff :
    (∃ patterns, compileAll texts = .ok patterns) ↔
      ∀ text ∈ texts, (compile? text).isSome = true := by
  simp only [compileAll_eq_mapM, exists_mapM_iff, exists_orText_iff]

/-- Of several texts the first one that is no pattern is reported. -/
theorem compileAll_eq_error_iff {bad : String} :
    compileAll texts = .error bad ↔ ∃ before after, texts = before ++ bad :: after ∧
      (∀ text ∈ before, (compile? text).isSome = true) ∧ compile? bad = none := by
  simp only [compileAll_eq_mapM, mapM_eq_error_iff, exists_orText_iff, orText_eq_error_iff]
  constructor
  · rintro ⟨before, text, after, hsplit, hbefore, rfl, hbad⟩
    exact ⟨before, after, hsplit, hbefore, hbad⟩
  · rintro ⟨before, after, hsplit, hbefore, hbad⟩
    exact ⟨before, bad, after, hsplit, hbefore, rfl, hbad⟩

end Pattern

namespace Cli

open Output

/-! ## Bad texts -/

/-- Some text of a query is no axis, no pattern or no weight range. -/
inductive Invalid (o : ListOptions) : Prop where
  | axis {raw : String} (hmem : raw ∈ o.axes) (h : ¬ Tag.HasForm raw)
  | pattern {raw : String} (hmem : raw ∈ o.patterns) (h : Pattern.compile? raw = none)
  | weight {raw : String} (hweight : o.weight = some raw)
      (h : ∀ range, ¬ WeightRange.Denotes raw range)

/-- What is reported of a query: its first bad axis, or else its first bad pattern, or else its
weights. -/
inductive Refusal (o : ListOptions) : List String → Prop where
  | axis {before after : List String} {raw : String} {e : Tag.ParseError}
      (haxes : o.axes = before ++ raw :: after) (hbefore : ∀ raw ∈ before, Tag.HasForm raw)
      (h : Tag.parse raw = .error e) : Refusal o [e.message]
  | pattern {before after : List String} {raw : String} (haxes : ∀ raw ∈ o.axes, Tag.HasForm raw)
      (hpatterns : o.patterns = before ++ raw :: after)
      (hbefore : ∀ raw ∈ before, (Pattern.compile? raw).isSome = true)
      (h : Pattern.compile? raw = none) : Refusal o ["invalid regex: " ++ raw]
  | weight {raw : String} {e : WeightRange.ParseError} (haxes : ∀ raw ∈ o.axes, Tag.HasForm raw)
      (hpatterns : ∀ raw ∈ o.patterns, (Pattern.compile? raw).isSome = true)
      (hweight : o.weight = some raw) (h : WeightRange.parse raw = .error e) :
      Refusal o (weightCauses e)

variable {w : World} {o : ListOptions} {q : Query} {messages : List String}

theorem queryOf_of_refusal (h : Refusal o messages) : queryOf o = .error messages := by
  cases h with
  | axis haxes hbefore h =>
    have hbad := Tag.parseAll_eq_error_iff.mpr ⟨_, _, _, haxes, hbefore, h⟩
    rw [queryOf, hbad]
    rfl
  | pattern haxes hpatterns hbefore h =>
    obtain ⟨tags, htags⟩ := Tag.exists_parseAll_iff.mpr haxes
    have hbad := Pattern.compileAll_eq_error_iff.mpr ⟨_, _, hpatterns, hbefore, h⟩
    rw [queryOf, htags, hbad]
    rfl
  | weight haxes hpatterns hweight h =>
    obtain ⟨tags, htags⟩ := Tag.exists_parseAll_iff.mpr haxes
    obtain ⟨patterns, hcompiled⟩ := Pattern.exists_compileAll_iff.mpr hpatterns
    simp only [queryOf, htags, hcompiled, hweight, h]
    rfl

theorem Refusal.invalid (h : Refusal o messages) : Invalid o := by
  cases h with
  | axis haxes hbefore h =>
    refine .axis (haxes ▸ List.mem_append_right _ List.mem_cons_self) fun hform => ?_
    obtain ⟨t, ht⟩ := Tag.exists_parse_iff.mpr hform
    cases h.symm.trans ht
  | pattern haxes hpatterns hbefore h =>
    exact .pattern (hpatterns ▸ List.mem_append_right _ List.mem_cons_self) h
  | weight haxes hpatterns hweight h =>
    exact .weight hweight (WeightRange.exists_error_iff.mp ⟨_, h⟩)

theorem refusal_of_queryOf (h : queryOf o = .error messages) : Refusal o messages := by
  cases htags : Tag.parseAll o.axes with
  | error e =>
    rw [queryOf, htags] at h
    cases h
    obtain ⟨before, raw, after, haxes, hbefore, hbad⟩ := Tag.parseAll_eq_error_iff.mp htags
    exact .axis haxes hbefore hbad
  | ok tags =>
    have haxes := Tag.exists_parseAll_iff.mp ⟨tags, htags⟩
    cases hcompiled : Pattern.compileAll o.patterns with
    | error raw =>
      rw [queryOf, htags, hcompiled] at h
      cases h
      obtain ⟨before, after, hsplit, hbefore, hbad⟩ := Pattern.compileAll_eq_error_iff.mp hcompiled
      exact .pattern haxes hsplit hbefore hbad
    | ok patterns =>
      have hpatterns := Pattern.exists_compileAll_iff.mp ⟨patterns, hcompiled⟩
      cases hweight : o.weight with
      | none =>
        simp only [queryOf, htags, hcompiled, hweight] at h
        cases h
      | some raw =>
        cases hrange : WeightRange.parse raw with
        | error e =>
          simp only [queryOf, htags, hcompiled, hweight, hrange] at h
          cases h
          exact .weight haxes hpatterns hweight hrange
        | ok range =>
          simp only [queryOf, htags, hcompiled, hweight, hrange] at h
          cases h

theorem queryOf_eq_error_iff : queryOf o = .error messages ↔ Refusal o messages :=
  ⟨refusal_of_queryOf, queryOf_of_refusal⟩

-- All texts of a query that is not refused are read.
theorem read_of_queryOf (h : queryOf o = .ok q) :
    (∃ tags, Tag.parseAll o.axes = .ok tags) ∧
      (∃ patterns, Pattern.compileAll o.patterns = .ok patterns) ∧
      ∀ raw, o.weight = some raw → ∃ range, WeightRange.parse raw = .ok range := by
  unfold queryOf at h
  obtain ⟨tags, htags, h⟩ := exists_of_bind_ok h
  obtain ⟨patterns, hpatterns, h⟩ := exists_of_bind_ok h
  refine ⟨⟨tags, ok_of_mapError_eq_ok htags⟩, ⟨patterns, ok_of_mapError_eq_ok hpatterns⟩, ?_⟩
  intro raw hraw
  cases hrange : WeightRange.parse raw with
  | error e =>
    simp only [hraw, hrange] at h
    cases h
  | ok range => exact ⟨range, rfl⟩

theorem invalid_iff : Invalid o ↔ ∃ messages, Refusal o messages := by
  constructor
  · intro hinvalid
    cases hquery : queryOf o with
    | error messages => exact ⟨messages, refusal_of_queryOf hquery⟩
    | ok q =>
      obtain ⟨htags, hpatterns, hweights⟩ := read_of_queryOf hquery
      cases hinvalid with
      | axis hmem hbad => exact absurd (Tag.exists_parseAll_iff.mp htags _ hmem) hbad
      | pattern hmem hbad =>
        have hsome := Pattern.exists_compileAll_iff.mp hpatterns _ hmem
        rw [hbad] at hsome
        cases hsome
      | weight hweight hbad =>
        obtain ⟨range, hrange⟩ := hweights _ hweight
        exact absurd (WeightRange.parse_eq_ok_iff.mp hrange) (hbad range)
  · rintro ⟨messages, h⟩
    exact h.invalid

/-! ## How a listing fails -/

/-- A record that is to be written as JSON has a path that is not UTF-8. -/
def Stray (w : World) (o : ListOptions) (q : Query) (d : Document) : Prop :=
  (o.ndjson = true ∨ o.json = true) ∧ ∃ r ∈ matched w o q d, ¬ Utf8.WellFormed r.path.bytes

/-- Why a listing fails: its query is refused, reading breaks down on the configuration, or a record
has no JSON form. -/
inductive Fails (w : World) (o : ListOptions) : Failure → Prop where
  | refused {messages : List String} (h : Refusal o messages) : Fails w o (.causes messages)
  | broken {q : Query} {b : Document.Breakdown} (hquery : queryOf o = .ok q)
      (h : Document.load w.files (configOf w o.source).configPath = .error b) :
      Fails w o (.broken b)
  | unwritable {q : Query} {d : Document} {log : List Log.Entry} (hquery : queryOf o = .ok q)
      (hload : Document.load w.files (configOf w o.source).configPath = .ok (d, log))
      (h : Stray w o q d) : Fails w o (.causes [Json.unwritablePathMessage])

/-- A refused listing does nothing after its start, whatever the files are. -/
theorem runList_of_refusal (h : Refusal o messages) (files : Files.Tree) :
    runList { w with files } o = .failed [readingEntry (configOf w o.source)] messages := by
  simp only [runList, queryOf_of_refusal h]
  rfl

theorem failure_of_refusal (h : Refusal o messages) :
    (runList w o).failure = some (.causes messages) := by
  rw [show runList w o = _ from runList_of_refusal h w.files]
  rfl

theorem json_modeOf_iff :
    modeOf o = .ndjson ∨ modeOf o = .json ↔ o.ndjson = true ∨ o.json = true := by
  unfold modeOf
  cases o.ndjson <;> cases o.json <;> cases o.columns <;> decide

-- A listing that was neither refused nor broken off fails only while it writes.
theorem failure_of_load {d : Document} {log : List Log.Entry} (hquery : queryOf o = .ok q)
    (hload : Document.load w.files (configOf w o.source).configPath = .ok (d, log)) :
    (runList w o).failure =
      match if o.ndjson = true ∨ o.json = true then written (matched w o q d)
        else .ok (matched w o q d).length with
      | .ok _ => none
      | .error e => some (.causes [e.message]) := by
  have hresult := result_output (modeOf o) (useColor w o.color) q.accepts
    ((Walk.ofDocument d (configOf w o.source)).records w.files.isFile)
  simp only [json_modeOf_iff] at hresult
  rw [matched, ← hresult, Walk.records]
  simp only [runList, hquery, Walk.start_of_load hload]
  generalize output _ _ _ _ = out
  obtain ⟨_ | count, pulled, bytes⟩ := out <;> rfl

theorem failure_of_stray {d : Document} {log : List Log.Entry} (hquery : queryOf o = .ok q)
    (hload : Document.load w.files (configOf w o.source).configPath = .ok (d, log))
    (h : Stray w o q d) :
    (runList w o).failure = some (.causes [Json.unwritablePathMessage]) := by
  obtain ⟨hjson, r, hr, hstray⟩ := h
  rw [failure_of_load hquery hload, if_pos hjson, written_of_not_wellFormed hr hstray]
  rfl

theorem failure_of_not_stray {d : Document} {log : List Log.Entry} (hquery : queryOf o = .ok q)
    (hload : Document.load w.files (configOf w o.source).configPath = .ok (d, log))
    (h : ¬ Stray w o q d) : (runList w o).failure = none := by
  rw [failure_of_load hquery hload]
  by_cases hjson : o.ndjson = true ∨ o.json = true
  case pos =>
    have hwritten : ∀ r ∈ matched w o q d, Utf8.WellFormed r.path.bytes := by
      intro r hr
      by_contra hstray
      exact h ⟨hjson, r, hr, hstray⟩
    rw [if_pos hjson, written_of_wellFormed hwritten]
  case neg => rw [if_neg hjson]

theorem failure_eq_some_iff {f : Failure} : (runList w o).failure = some f ↔ Fails w o f := by
  constructor
  · intro h
    cases hquery : queryOf o with
    | error messages =>
      have hrefusal := refusal_of_queryOf hquery
      cases (failure_of_refusal hrefusal).symm.trans h
      exact .refused hrefusal
    | ok q =>
      cases hload : Document.load w.files (configOf w o.source).configPath with
      | error b =>
        rw [runList_of_load_error hquery hload] at h
        cases h
        exact .broken hquery hload
      | ok loaded =>
        by_cases hstray : Stray w o q loaded.1
        case pos =>
          cases (failure_of_stray hquery hload hstray).symm.trans h
          exact .unwritable hquery hload hstray
        case neg => cases (failure_of_not_stray hquery hload hstray).symm.trans h
  · intro h
    cases h with
    | refused h => exact failure_of_refusal h
    | broken hquery h => rw [runList_of_load_error hquery h]
    | unwritable hquery hload h => exact failure_of_stray hquery hload h

/-- Asks for fonts that have some axes, and whose path matches some patterns. -/
def axesOptions (axes patterns : List String) : ListOptions where
  source := overclosedOptions.source
  axes
  locales := []
  italic := false
  upright := false
  weight := none
  patterns
  json := false
  ndjson := false
  columns := false
  color := .auto

end Cli

end FontCatalog
