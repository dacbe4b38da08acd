import FontCatalog.Proofs.Document.Characters
import FontCatalog.Proofs.Xml.Balance
import FontCatalog.Walk

/-!
# Configurations on which reading breaks down

Reading a configuration breaks down only if an entity that it declares closes an element that it
does not open. There are such configurations.
-/

namespace FontCatalog

open Xml (Entity)

theorem Document.exists_overcloses_of_load {files : Files.Tree} {path : Path} {b : Breakdown}
    (h : load files path = .error b) : ∃ e ∈ entitiesOf files path, e.Overcloses := by
  unfold load at h
  split at h
  · cases h
  · rename_i bytes hread
    split at h
    · cases h
    · rename_i text hdecode
      rw [entitiesOf_eq hread hdecode]
      cases hxml : Xml.read text with
      | ok root =>
        rw [parse, hxml] at h
        cases h
      | error e =>
        cases e with
        | malformed =>
          rw [parse, hxml] at h
          cases h
        | nothingOpen => exact Xml.exists_overcloses_of_read hxml

namespace Walk

variable {files : Files.Tree} {c : Config}

theorem start_of_load {d : Document} {log : List Log.Entry}
    (h : Document.load files c.configPath = .ok (d, log)) :
    start files c = .ok (ofDocument d c, log) := by
  rw [start, h]
  rfl

theorem start_of_load_error {b : Document.Breakdown}
    (h : Document.load files c.configPath = .error b) : start files c = .error b := by
  rw [start, h]
  rfl

theorem load_of_start_error {b : Document.Breakdown} (h : start files c = .error b) :
    Document.load files c.configPath = .error b := by
  cases hload : Document.load files c.configPath with
  | ok loaded =>
    rw [start_of_load hload] at h
    cases h
  | error b' =>
    have hstart := start_of_load_error hload
    exact congrArg Except.error (Except.error.inj (hstart.symm.trans h))

end Walk

/-- A configuration in which an entity closes the element that it stands in. -/
def overclosedConfiguration : String :=
  "<!DOCTYPE familyset [<!ENTITY e \"<family><font>a.ttf</font></family></familyset>\">]>" ++
    "<familyset>&e;</familyset>"

end FontCatalog
