import FontCatalog.Proofs.Json.Grammar
import FontCatalog.Proofs.Output.RoundTrip

/-!
# Lines up to a record that has no JSON form

A record is written while its JSON form is made, and its path comes first. So of a record whose path
is not UTF-8 the start of a line is written, up to the place of the path, and nothing after it. All
lines before it are whole.
-/

namespace FontCatalog

namespace Output

variable {accepts : Record → Bool} {before rest records : List Record} {r : Record}

/-- What is written of a record whose path has no JSON form. -/
def stub : List UInt8 := Utf8.encodeString "\x7b\"file_path\":"

theorem line_of_not_text (hpath : r.path.text? = none) :
    line r = ⟨"\x7b\"file_path\":".toList, false⟩ := by
  rw [line, Record.toJson, Json.ofPath, hpath]
  rfl

-- A record that has no JSON form ends the writing.
theorem lines_stub (haccepts : accepts r = true) (hpath : r.path.text? = none) :
    lines accepts none (r :: rest) = ⟨.error .unwritablePath, 1, stub⟩ := by
  rw [lines, if_pos haccepts, line_of_not_text hpath]
  rfl

-- Records that have a JSON form are written before all others.
theorem lines_append (hwritable : Writable accepts before) (rest : List Record) :
    lines accepts none (before ++ rest) =
      let o := lines accepts none rest
      ⟨o.result.map (· + (before.filter accepts).length), o.pulled + before.length,
        linesBytes accepts before ++ o.bytes⟩ := by
  induction before with
  | nil =>
    rw [List.nil_append]
    obtain ⟨_ | written, pulled, bytes⟩ := lines accepts none rest <;> rfl
  | cons r before ih =>
    rw [List.cons_append, linesBytes_cons]
    cases haccepts : accepts r with
    | false =>
      rw [lines_skip haccepts, ih hwritable.tail, List.filter_cons_of_neg (by simp [haccepts])]
      simp [Nat.add_assoc]
    | true =>
      rw [lines_put haccepts (hwritable r List.mem_cons_self haccepts) (by simp),
        Option.map_none, ih hwritable.tail, List.filter_cons_of_pos haccepts]
      obtain ⟨_ | written, pulled, bytes⟩ := lines accepts none rest <;>
        simp [Except.map, Nat.add_assoc]

-- The records up to the first accepted one that has no JSON form.
theorem exists_writable_append (accepts : Record → Bool) (records : List Record) :
    ∃ before rest, records = before ++ rest ∧ Writable accepts before ∧
      (rest = [] ∨ ∃ r after, rest = r :: after ∧ accepts r = true ∧ r.path.text? = none) := by
  induction records with
  | nil => exact ⟨[], [], rfl, by simp [Writable], .inl rfl⟩
  | cons r records ih =>
    by_cases hr : accepts r = true → r.path.text?.isSome = true
    · obtain ⟨before, rest, rfl, hwritable, hrest⟩ := ih
      exact ⟨r :: before, rest, rfl, List.forall_mem_cons.mpr ⟨hr, hwritable⟩, hrest⟩
    · rw [Classical.not_imp, Option.not_isSome_iff_eq_none] at hr
      exact ⟨[], r :: records, rfl, by simp [Writable], .inr ⟨r, records, rfl, hr⟩⟩

/-- What comes of lines written into room without end. Every accepted record is a line of its own,
which is a JSON text and a line end, up to the first one whose path is not UTF-8. If there is none,
these lines are all that is written. If there is one, the writing fails there, no record after it is
taken, and after the lines stands the start of an object, which is no line. -/
theorem lines_unlimited (accepts : Record → Bool) (records : List Record) :
    ∃ before rest, records = before ++ rest ∧
      (∀ r ∈ before, accepts r = true → Utf8.WellFormed r.path.bytes) ∧
      let texts := (before.filter accepts).map fun r => r.toJson.compact.text
      let o := lines accepts none records
      (∀ text ∈ texts, Json.IsText text ∧ '\n' ∉ text) ∧
        (rest = [] ∧ o.result = .ok texts.length ∧ o.pulled = records.length ∧
            o.bytes = texts.flatMap (fun text => Utf8.encode text ++ [Utf8.newline]) ∨
          ∃ r after, rest = r :: after ∧ accepts r = true ∧ ¬ Utf8.WellFormed r.path.bytes ∧
            o.result = .error .unwritablePath ∧ o.pulled = before.length + 1 ∧
            o.bytes =
              texts.flatMap (fun text => Utf8.encode text ++ [Utf8.newline]) ++ stub) := by
  obtain ⟨before, rest, rfl, hwritable, hrest⟩ := exists_writable_append accepts records
  have hbytes : linesBytes accepts before =
      ((before.filter accepts).map fun r => r.toJson.compact.text).flatMap
        fun text => Utf8.encode text ++ [Utf8.newline] := by
    rw [linesBytes, List.flatMap_map]
    exact List.flatMap_congr fun r _ => lineBytes_eq r
  refine ⟨before, rest, rfl, fun r hr haccepts => ?_, fun text htext => ?_, ?_⟩
  · exact r.path.isSome_text?_iff.mp (hwritable r hr haccepts)
  · obtain ⟨r, hr, rfl⟩ := List.mem_map.mp htext
    obtain ⟨hmem, haccepts⟩ := List.mem_filter.mp hr
    obtain ⟨text, hdone, htext⟩ := Record.isText_toJson (hwritable r hmem haccepts)
    refine ⟨?_, r.oneLine_toJson⟩
    rw [hdone]
    exact htext
  · rw [lines_append hwritable, ← hbytes, List.length_map]
    rcases hrest with rfl | ⟨r, after, rfl, haccepts, hpath⟩
    · refine .inl ⟨rfl, ?_, ?_, ?_⟩ <;> simp [lines, Except.map]
    · have hnot : ¬ Utf8.WellFormed r.path.bytes := by
        rw [← Path.isSome_text?_iff, hpath]
        exact Bool.false_ne_true
      rw [lines_stub haccepts hpath]
      exact .inr ⟨r, after, rfl, haccepts, hnot, rfl, Nat.add_comm 1 _, rfl⟩

/-- A font under a directory whose name is not UTF-8, after another one. -/
def strayFonts : List Record :=
  [⟨.ofString "/a", 400, false, 0, none, []⟩, ⟨⟨[0xFF, 0x2F, 0x62]⟩, 400, false, 0, none, []⟩]

/-- A failed record leaves its start behind, and what is written does not end in a line end. -/
theorem stub_written :
    let o := lines (fun _ => true) none strayFonts
    o.result = .error .unwritablePath ∧
      o.bytes = lineBytes ⟨.ofString "/a", 400, false, 0, none, []⟩ ++ stub ∧
      o.bytes.getLast? ≠ some Utf8.newline := by
  decide +kernel

end Output

end FontCatalog
