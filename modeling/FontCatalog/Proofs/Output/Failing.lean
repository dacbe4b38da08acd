import FontCatalog.Cli.Run
import FontCatalog.Proofs.Output.Stub

/-!
# Output that fails

Where everything that is written is taken, the text forms never fail. The JSON forms fail if the
path of a record that is to be written is not UTF-8, and only then.
-/

namespace FontCatalog

namespace Json

theorem finished_indentedItems (level : Nat) (first : Bool) (vs : List Json) :
    (indentedItems level first vs).finished = vs.all fun v => (v.indented level).finished := by
  induction vs generalizing first with
  | nil => simp [indentedItems]
  | cons v vs ih => simp [indentedItems, ih]

theorem finished_array (level : Nat) (vs : List Json) :
    ((array vs).indented level).finished = vs.all fun v => (v.indented (level + 1)).finished := by
  cases vs with
  | nil => simp [indented]
  | cons v vs => simp only [indented, Draft.finished_append, finished_indentedItems,
      Draft.finished_done, Bool.and_true, Bool.true_and]

end Json

theorem Record.finished_indented (level : Nat) (r : Record) :
    (r.toJson.indented level).finished = r.path.text?.isSome := by
  cases hpath : r.path.text? with
  | none =>
    rw [toJson, Json.ofPath, hpath]
    rfl
  | some s =>
    obtain ⟨text, htext, -⟩ := (reads hpath).readAll_draft (.indented level)
    rw [show r.toJson.indented level = _ from htext]
    rfl

namespace Output

variable {accepts : Record → Bool} {records : List Record}

theorem finished_arrayDraft (records : List Record) :
    (arrayDraft records).finished = records.all (·.path.text?.isSome) := by
  simp [arrayDraft, Json.finished_array, Record.finished_indented, Function.comp_def]

/-- What comes of writing some records in a JSON form: their number, or the failure on one that has
no such form. -/
def written (records : List Record) : Except Failure Nat :=
  if records.all (·.path.text?.isSome) then .ok records.length else .error .unwritablePath

theorem written_of_wellFormed (h : ∀ r ∈ records, Utf8.WellFormed r.path.bytes) :
    written records = .ok records.length := by
  have hall : records.all (·.path.text?.isSome) = true :=
    List.all_eq_true.mpr fun r hr => r.path.isSome_text?_iff.mpr (h r hr)
  rw [written, if_pos hall]

theorem written_of_not_wellFormed {r : Record} (hr : r ∈ records)
    (h : ¬ Utf8.WellFormed r.path.bytes) : written records = .error .unwritablePath := by
  have hall : ¬ records.all (·.path.text?.isSome) = true := fun hall =>
    h (r.path.isSome_text?_iff.mp (List.all_eq_true.mp hall r hr))
  rw [written, if_neg hall]

theorem result_array (accepts : Record → Bool) (records : List Record) :
    (array accepts none records).result = written (records.filter accepts) := by
  rw [written, ← finished_arrayDraft]
  cases h : (arrayDraft (records.filter accepts)).finished <;> simp [array, putDraft, h, Except.map]

theorem result_lines (accepts : Record → Bool) (records : List Record) :
    (lines accepts none records).result = written (records.filter accepts) := by
  induction records with
  | nil => rfl
  | cons r records ih =>
    cases haccepts : accepts r with
    | false =>
      rw [lines_skip haccepts, List.filter_cons_of_neg (by simp [haccepts])]
      exact ih
    | true =>
      rw [List.filter_cons_of_pos haccepts, written, List.all_cons]
      cases hpath : r.path.text? with
      | none =>
        rw [lines_stub haccepts hpath]
        rfl
      | some s =>
        rw [lines_put haccepts (Option.isSome_of_eq_some hpath) (by simp)]
        simp only [Option.map_none, ih, written, Option.isSome_some, Bool.true_and]
        split <;> rfl

end Output

namespace Cli

open Output

theorem result_output (mode : Mode) (color : Bool) (accepts : Record → Bool)
    (records : List Record) :
    (output mode color accepts records).result =
      if mode = .ndjson ∨ mode = .json then written (records.filter accepts)
      else .ok (records.filter accepts).length := by
  cases mode with
  | ndjson => exact result_lines accepts records
  | json => exact result_array accepts records
  | columns => rfl
  | plain => rfl

end Cli

end FontCatalog
