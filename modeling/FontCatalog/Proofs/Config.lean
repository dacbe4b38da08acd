import FontCatalog.Config
import FontCatalog.Proofs.Json.Structures

/-!
# Settings read back from their JSON form

Settings have a JSON form if both their paths are UTF-8, and only then. It is read back as the same
settings. Settings that were read have such paths, whether the text was an object or a list, had
fields that nobody reads or left out the locale source. So they can be written again.
-/

namespace FontCatalog

open Json

theorem LocaleSource.reads (source : LocaleSource) :
    Reads LocaleSource.read (.string source.toText) (.ok source) := by
  refine .of_text (fun _ => rfl) (Form.draft_string · source.toText) fun rest _ => ?_
  have hread : LocaleSource.read (quote source.toText ++ rest) =
      (stringBody (source.toText.toList.flatMap escapeChar ++ ['"'] ++ rest)).bind fun r =>
        (parse (String.ofList r.1)).bind fun a => .ok (a, r.2) := rfl
  rw [hread, stringBody_quote]
  change ((parse (String.ofList source.toText.toList)).bind fun a => .ok (a, rest)) = _
  rw [String.ofList_toList]
  cases source <;> rfl

namespace Config

variable {c : Config} {s t : String}

theorem readMember_configPath (fields : Fields) : readMember fields "config_path" =
    once "config_path" fields.configPath readPath fun v => { fields with configPath := some v } :=
  rfl

theorem readMember_fontDir (fields : Fields) : readMember fields "font_dir" =
    once "font_dir" fields.fontDir readPath fun v => { fields with fontDir := some v } :=
  rfl

theorem readMember_localeSource (fields : Fields) : readMember fields "locale_source" =
    once "locale_source" fields.localeSource LocaleSource.read
      fun v => { fields with localeSource := some v } :=
  rfl

theorem membersRead (hpath : c.configPath.text? = some s) (hdir : c.fontDir.text? = some t) :
    MembersRead readMember Fields.none
      [("config_path", Json.ofPath c.configPath),
        ("font_dir", Json.ofPath c.fontDir),
        ("locale_source", .string c.localeSource.toText)]
      (.ok ⟨some c.configPath, some c.fontDir, some c.localeSource⟩) := by
  obtain ⟨path, dir, source⟩ := c
  refine .cons_once (readMember_configPath .none) (reads_path hpath) ?_
  refine .cons_once (readMember_fontDir ⟨some path, .none, .none⟩) (reads_path hdir) ?_
  exact .last_once (readMember_localeSource ⟨some path, some dir, .none⟩) source.reads

theorem reads (hpath : c.configPath.text? = some s) (hdir : c.fontDir.text? = some t) :
    Reads read c.toJson (.ok c) :=
  reads_struct "SystemFontsConfig" (membersRead hpath hdir)

theorem finished_compact (c : Config) :
    c.toJson.compact.finished = (c.configPath.text?.isSome && c.fontDir.text?.isSome) := by
  simp [toJson, compact, compactMembers, finished_compact_ofPath]

/-! ## Settings that were read -/

-- A path that was read is a text.
theorem isSome_text?_of_readPath {s : List Char} {r : Path × List Char} (h : readPath s = .ok r) :
    r.1.text?.isSome = true := by
  obtain ⟨⟨text, rest⟩, -, h⟩ := exists_of_bind_ok h
  cases h
  exact (Path.ofString text).isSome_text?_iff.mpr (Utf8.wellFormed_iff.mpr ⟨text, rfl⟩)

/-- The paths that were read so far are texts. -/
structure Fields.Textual (fields : Fields) : Prop where
  configPath : ∀ p, fields.configPath = some p → p.text?.isSome = true
  fontDir : ∀ p, fields.fontDir = some p → p.text?.isSome = true

-- A member is read into a field of its own, and all other fields stay as they are.
theorem Fields.Textual.readMember {fields : Fields} {key : String} {s : List Char}
    {r : Fields × List Char} (h : fields.Textual) (hread : readMember fields key s = .ok r) :
    r.1.Textual := by
  unfold Config.readMember at hread
  split at hread
  · obtain ⟨p, t, hp, hr⟩ := ok_of_once hread
    rw [hr]
    refine ⟨?_, h.fontDir⟩
    rintro _ ⟨⟩
    exact isSome_text?_of_readPath hp
  split at hread
  · obtain ⟨p, t, hp, hr⟩ := ok_of_once hread
    rw [hr]
    refine ⟨h.configPath, ?_⟩
    rintro _ ⟨⟩
    exact isSome_text?_of_readPath hp
  split at hread
  · obtain ⟨source, t, -, hr⟩ := ok_of_once hread
    rw [hr]
    exact ⟨h.configPath, h.fontDir⟩
  · rw [eq_of_ignored hread]
    exact h

theorem finish_eq_ok {fields : Fields} (h : fields.finish = .ok c) :
    fields.configPath = some c.configPath ∧ fields.fontDir = some c.fontDir := by
  obtain ⟨path, dir, source⟩ := fields
  obtain ⟨p, hp, h⟩ := exists_of_bind_ok h
  obtain ⟨q, hq, h⟩ := exists_of_bind_ok h
  cases h
  cases path with
  | none => cases hp
  | some path =>
    cases dir with
    | none => cases hq
    | some dir =>
      cases hp
      cases hq
      exact ⟨rfl, rfl⟩

theorem isSome_text?_of_readItem {count : Nat} {s : List Char} {r : Path × List Char}
    (h : readItem "SystemFontsConfig" 3 count readPath s = .ok r) : r.1.text?.isSome = true := by
  obtain ⟨next, -, h⟩ := exists_of_bind_ok h
  cases next with
  | none => cases h
  | some t => exact isSome_text?_of_readPath h

/-- Settings that were read have texts as their paths, in whatever form they were written. -/
theorem isSome_text?_of_read {s : List Char} {r : Config × List Char} (h : read s = .ok r) :
    r.1.configPath.text?.isSome = true ∧ r.1.fontDir.text?.isSome = true := by
  refine readStruct_keeps (P := Fields.Textual)
    (Q := fun c => c.configPath.text?.isSome = true ∧ c.fontDir.text?.isSome = true)
    h ⟨nofun, nofun⟩ Fields.Textual.readMember ?finish ?items
  case finish =>
    intro fields c hfields hfinish
    obtain ⟨hpath, hdir⟩ := finish_eq_ok hfinish
    exact ⟨hfields.configPath _ hpath, hfields.fontDir _ hdir⟩
  case items =>
    intro t r hitems
    obtain ⟨⟨path, t⟩, hpath, hitems⟩ := exists_of_bind_ok hitems
    obtain ⟨⟨dir, t⟩, hdir, hitems⟩ := exists_of_bind_ok hitems
    have htexts := And.intro (isSome_text?_of_readItem hpath) (isSome_text?_of_readItem hdir)
    obtain ⟨next, -, hitems⟩ := exists_of_bind_ok hitems
    cases next with
    | none =>
      cases hitems
      exact htexts
    | some t =>
      obtain ⟨⟨source, t⟩, -, hitems⟩ := exists_of_bind_ok hitems
      cases hitems
      exact htexts

/-- Settings have a JSON form exactly if both their paths are UTF-8, whatever characters these
have. What is written is read as the same settings. Settings that were read from a text can be
written, and reading what is written gives the same settings as reading the text did. -/
theorem json_roundTrip (c : Config) :
    ((∃ text, c.toJson.compact = .done text) ↔
      Utf8.WellFormed c.configPath.bytes ∧ Utf8.WellFormed c.fontDir.bytes) ∧
    (∀ text, c.toJson.compact = .done text → readAll read (String.ofList text) = .ok c) ∧
    ∀ given, readAll read given = .ok c →
      ∃ text, c.toJson.compact = .done text ∧ readAll read (String.ofList text) = .ok c := by
  have hback : c.configPath.text?.isSome = true ∧ c.fontDir.text?.isSome = true →
      ∃ text, c.toJson.compact = .done text ∧ readAll read (String.ofList text) = .ok c := by
    rintro ⟨hpath, hdir⟩
    obtain ⟨s, hs⟩ := Option.isSome_iff_exists.mp hpath
    obtain ⟨t, ht⟩ := Option.isSome_iff_exists.mp hdir
    exact (reads hs ht).readAll
  have hfinished {text : List Char} (htext : c.toJson.compact = .done text) :
      c.configPath.text?.isSome = true ∧ c.fontDir.text?.isSome = true := by
    have h := c.finished_compact
    rw [htext, Draft.finished_done] at h
    exact (Bool.and_eq_true_iff.mp h.symm)
  refine ⟨?written, ?same, ?again⟩
  case written =>
    rw [← Path.isSome_text?_iff, ← Path.isSome_text?_iff]
    constructor
    · rintro ⟨text, htext⟩
      exact hfinished htext
    · intro htexts
      obtain ⟨text, htext, -⟩ := hback htexts
      exact ⟨text, htext⟩
  case same =>
    intro text htext
    obtain ⟨text', htext', hread⟩ := hback (hfinished htext)
    obtain rfl : text' = text := congrArg Draft.text (htext'.symm.trans htext)
    exact hread
  case again =>
    intro given hgiven
    obtain ⟨⟨c', rest⟩, hread, hrest⟩ := exists_of_bind_ok hgiven
    have hc : c' = c := by
      simp only at hrest
      split at hrest
      · exact Except.ok.inj hrest
      · cases hrest
    rw [← hc] at hback ⊢
    exact hback (isSome_text?_of_read hread)

/-- The same settings in three forms: as a list without the locale source, as an object with a field
that nobody reads, and as they are written. The directory has a line end and a quote. -/
theorem json_roundTrip_otherForms :
    let c : Config := ⟨.ofString "/a.xml", .ofString "f\n\"", .family⟩
    readAll read "[\"/a.xml\", \"f\\n\\\"\"]" = .ok c ∧
      readAll read ("\x7b\"font_dir\":\"f\\u000a\\\"\",\"more\":[1,null]," ++
        "\"config_path\":\"/a.xml\"\x7d") = .ok c ∧
      ∃ text, c.toJson.compact = .done text ∧ readAll read (String.ofList text) = .ok c := by
  intro c
  obtain ⟨-, -, hagain⟩ := json_roundTrip c
  have hlist : readAll read "[\"/a.xml\", \"f\\n\\\"\"]" = .ok c := by decide +kernel
  exact ⟨hlist, by decide +kernel, hagain _ hlist⟩

end Config

end FontCatalog
