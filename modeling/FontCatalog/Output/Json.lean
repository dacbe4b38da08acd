import FontCatalog.Record

/-!
# Records written as JSON

Records are written one to a line as soon as they are found, or all together as one indented array.
What they are written to may take only so many bytes. A record that has no JSON form stops the
writing, and so does a byte too many.
-/

namespace FontCatalog.Output

/-- Why writing stopped. -/
inductive Failure where
  /-- No more bytes are taken. -/
  | closed
  /-- A path is not UTF-8. -/
  | unwritablePath
  deriving DecidableEq, Repr

def Failure.message : Failure → String
  | closed => "closed"
  | unwritablePath => Json.unwritablePathMessage

/-- What came of writing records. -/
structure Outcome where
  /-- The number of records written, or why not all were. -/
  result : Except Failure Nat
  /-- The number of records taken from the source, whether they were to be written or not. -/
  pulled : Nat
  bytes : List UInt8

-- What is left of the room for bytes. Nothing stands for room without end.
abbrev Room := Option Nat

/-- A draft written into some room: the bytes that were taken, and the room that is left if nothing
stopped the writing. -/
def putDraft (room : Room) (d : Json.Draft) : List UInt8 × Except Failure Room :=
  let bytes := Utf8.encode d.text
  match room with
  | some n =>
    if n < bytes.length then (bytes.take n, .error .closed)
    else (bytes, if d.finished then .ok (some (n - bytes.length)) else .error .unwritablePath)
  | none => (bytes, if d.finished then .ok none else .error .unwritablePath)

-- A record on a line of its own.
def line (r : Record) : Json.Draft := r.toJson.compact ++ .done ['\n']

-- The accepted ones of some records, each on its line.
def lines (accepts : Record → Bool) : Room → List Record → Outcome
  | _, [] => ⟨.ok 0, 0, []⟩
  | room, r :: rest =>
    if accepts r then
      match putDraft room (line r) with
      | (bytes, .error e) => ⟨.error e, 1, bytes⟩
      | (bytes, .ok room) =>
        let o := lines accepts room rest
        ⟨o.result.map (· + 1), o.pulled + 1, bytes ++ o.bytes⟩
    else
      let o := lines accepts room rest
      { o with pulled := o.pulled + 1 }

-- Records as one array and a line end.
def arrayDraft (records : List Record) : Json.Draft :=
  (Json.array (records.map Record.toJson)).indented 0 ++ .done ['\n']

-- The accepted ones of some records as one array.
def array (accepts : Record → Bool) (room : Room) (records : List Record) : Outcome :=
  let accepted := records.filter accepts
  let (bytes, left) := putDraft room (arrayDraft accepted)
  ⟨left.map fun _ => accepted.length, records.length, bytes⟩

end FontCatalog.Output
