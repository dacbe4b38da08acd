import FontCatalog.Proofs.Json.OneLine
import FontCatalog.Proofs.Output.Lines
import FontCatalog.Text.Cut

/-!
# Written records read back

What is written one record to a line comes apart at the line ends into one text for each record, and
what is written as an array is one text. Both are read as the records that were written.
-/

namespace FontCatalog

open Json

/-- What a record with finite axis values is written as is read as this record, in every form. -/
theorem Record.reads_self {r : Record} (hpath : r.path.text?.isSome = true)
    (hfinite : ∀ a ∈ r.axes, a.value.isFinite = true) : Reads read r.toJson (.ok r) := by
  obtain ⟨s, hs⟩ := Option.isSome_iff_exists.mp hpath
  have hread := reads hs
  rwa [reread, if_pos (List.all_eq_true.mpr hfinite)] at hread

namespace Output

/-! ## How written records are read -/

/-- Bytes that are records one to a line: there is a text between any two line ends, and it is read
as its record. -/
def IsLines (bytes : List UInt8) (records : List Record) : Prop :=
  ∃ texts : List String,
    Text.cut Utf8.newline bytes = texts.map Utf8.encodeString ++ [[]] ∧
      texts.map (readAll Record.read) = records.map .ok

/-- Bytes that are an array of records. -/
def IsArray (bytes : List UInt8) (records : List Record) : Prop :=
  ∃ text : String, bytes = Utf8.encodeString text ∧
    readAll (readList Record.read) text = .ok records

variable {accepts : Record → Bool} {records : List Record}

/-! ## Lines -/

theorem lineBytes_eq (r : Record) :
    lineBytes r = Utf8.encode r.toJson.compact.text ++ [Utf8.newline] := by
  rw [lineBytes, Utf8.encode, List.flatMap_append]
  rfl

theorem newline_notMem_text (r : Record) : Utf8.newline ∉ Utf8.encode r.toJson.compact.text :=
  Utf8.newline_notMem_encode r.oneLine_toJson

-- The line ends cut the lines apart. Nothing follows the last one.
theorem cut_flatMap_lineBytes (records : List Record) :
    Text.cut Utf8.newline (records.flatMap lineBytes) =
      records.map (fun r => Utf8.encode r.toJson.compact.text) ++ [[]] := by
  induction records with
  | nil => rfl
  | cons r records ih =>
    rw [List.flatMap_cons, lineBytes_eq, List.append_assoc, List.singleton_append,
      Text.cut_append_cons, ih, Text.cut_of_notMem (newline_notMem_text r)]
    rfl

theorem count_flatMap_lineBytes (records : List Record) :
    (records.flatMap lineBytes).count Utf8.newline = records.length :=
  Utf8.count_flatMap_lines fun r _ => ⟨_, lineBytes_eq r, newline_notMem_text r⟩

theorem map_readAll_lines (hreads : ∀ r ∈ records, Reads Record.read r.toJson (.ok r)) :
    (records.map fun r => String.ofList r.toJson.compact.text).map (readAll Record.read) =
      records.map .ok := by
  rw [List.map_map]
  refine List.map_congr_left fun r hr => ?_
  obtain ⟨text, htext, hread⟩ := (hreads r hr).readAll
  rw [Function.comp_apply, htext]
  exact hread

theorem isLines_linesBytes
    (hreads : ∀ r ∈ records.filter accepts, Reads Record.read r.toJson (.ok r)) :
    IsLines (linesBytes accepts records) (records.filter accepts) := by
  refine ⟨_, ?_, map_readAll_lines hreads⟩
  rw [List.map_map]
  exact (cut_flatMap_lineBytes _).trans (by simp [Utf8.encodeString, Function.comp_def])

/-! ## Arrays -/

theorem exists_arrayDraft (hreads : ∀ r ∈ records, Reads Record.read r.toJson (.ok r)) :
    ∃ text, arrayDraft records = .done text ∧
      readAll (readList Record.read) (String.ofList text) = .ok records := by
  have hall : records.mapM (fun r => (.ok r : Except ReadError Record)) = .ok records := by
    have hpure := List.mapM_pure (m := Except ReadError) (l := records) (f := id)
    rwa [List.map_id] at hpure
  have hlist := reads_list records hreads fun r _ => opens_object _
  rw [hall] at hlist
  obtain ⟨text, htext, hread⟩ := hlist.readAll_draft (.indented 0)
  refine ⟨text ++ ['\n'], ?_, hread ['\n'] (by simp [Blank, isBlank])⟩
  rw [arrayDraft, show (Json.array (records.map Record.toJson)).indented 0 = _ from htext]
  rfl

-- Records whose array is put in full are counted and were all taken.
theorem array_of_put {room left : Room} {bytes : List UInt8}
    (h : putDraft room (arrayDraft (records.filter accepts)) = (bytes, .ok left)) :
    array accepts room records = ⟨.ok (records.filter accepts).length, records.length, bytes⟩ := by
  simp only [array, h]
  rfl

theorem array_of_reads
    (hreads : ∀ r ∈ records.filter accepts, Reads Record.read r.toJson (.ok r)) :
    ∃ bytes, IsArray bytes (records.filter accepts) ∧
      array accepts none records = ⟨.ok (records.filter accepts).length, records.length, bytes⟩ := by
  obtain ⟨text, htext, hread⟩ := exists_arrayDraft hreads
  have hput : putDraft none (arrayDraft (records.filter accepts)) =
      (Utf8.encode text, .ok none) := by
    rw [htext]
    rfl
  exact ⟨Utf8.encode text, ⟨String.ofList text, by rw [Utf8.encodeString, String.toList_ofList],
    hread⟩, array_of_put hput⟩

/-! ## Both -/

/-- With room for everything, the accepted records are written whole. As lines, they are counted and
stand between the line ends, one text for each, and there are no other line ends. As an array, they
are counted and make one text. If their axis values are finite, the texts are read as these records,
which are equal to themselves. -/
theorem written_roundTrip (accepts : Record → Bool) (records : List Record)
    (hwritable : Writable accepts records)
    (hfinite : ∀ r ∈ records, accepts r = true → ∀ a ∈ r.axes, a.value.isFinite = true) :
    let written := records.filter accepts
    let asLines := lines accepts none records
    let asArray := array accepts none records
    (asLines.result = .ok written.length ∧
      asLines.bytes.count Utf8.newline = written.length ∧
      ∃ texts : List String,
        Text.cut Utf8.newline asLines.bytes = texts.map Utf8.encodeString ++ [[]] ∧
          texts.map (readAll Record.read) = written.map .ok) ∧
      (asArray.result = .ok written.length ∧
        ∃ text : String, asArray.bytes = Utf8.encodeString text ∧
          readAll (readList Record.read) text = .ok written) ∧
      ∀ r ∈ written, r.sameValue r = true := by
  intro written asLines asArray
  have hreads : ∀ r ∈ written, Reads Record.read r.toJson (.ok r) := by
    intro r hr
    obtain ⟨hmem, haccepts⟩ := List.mem_filter.mp hr
    exact Record.reads_self (hwritable r hmem haccepts) (hfinite r hmem haccepts)
  refine ⟨?lines, ?array, ?equal⟩
  case lines =>
    have hroom : ∀ n ∈ (none : Option Nat), (linesBytes accepts records).length ≤ n := by simp
    have hlines : asLines = _ := lines_of_fits hwritable hroom
    rw [hlines]
    exact ⟨rfl, count_flatMap_lineBytes written, isLines_linesBytes hreads⟩
  case array =>
    obtain ⟨bytes, hbytes, hput⟩ := array_of_reads hreads
    have harray : asArray = _ := hput
    rw [harray]
    exact ⟨rfl, hbytes⟩
  case equal =>
    intro r hr
    obtain ⟨hmem, haccepts⟩ := List.mem_filter.mp hr
    exact Record.sameValue_self (hfinite r hmem haccepts)

/-- Two records. One has a line end, a quote and a backslash in its path, a locale beyond ASCII and
an axis whose tag is no text. -/
def awkwardFonts : List Record :=
  [⟨.ofString "/a\n\"b\\.ttf", 400, false, 0, some "\u00e9", [⟨⟨0xFF000000⟩, ⟨0x3FC00000⟩⟩]⟩,
    ⟨.ofString "/b.ttf", 700, true, 2, none, []⟩]

theorem written_roundTrip_awkwardFonts :
    Writable (fun _ => true) awkwardFonts ∧
      (∀ r ∈ awkwardFonts, ∀ a ∈ r.axes, a.value.isFinite = true) ∧
      (lines (fun _ => true) none awkwardFonts).result = .ok 2 ∧
      (lines (fun _ => true) none awkwardFonts).bytes.count Utf8.newline = 2 ∧
      ∃ text : String, (array (fun _ => true) none awkwardFonts).bytes = Utf8.encodeString text ∧
        readAll (readList Record.read) text = .ok awkwardFonts := by
  have hwritable : Writable (fun _ => true) awkwardFonts := by
    unfold Writable
    decide
  have hfinite : ∀ r ∈ awkwardFonts, ∀ a ∈ r.axes, a.value.isFinite = true := by decide
  obtain ⟨⟨hresult, hcount, -⟩, ⟨-, harray⟩, -⟩ :=
    written_roundTrip (fun _ => true) awkwardFonts hwritable fun r hr _ => hfinite r hr
  exact ⟨hwritable, hfinite, hresult, hcount, harray⟩

end Output

end FontCatalog
