import FontCatalog.Output.Json
import FontCatalog.Proofs.Record.RoundTrip

/-!
# Lines written into some room

Accepted records are written one line after another until the room is used up. The bytes that were
taken are always the first ones of all lines together. The writing stops at the first line that does
not end within the room, and no record after it is taken from the source.
-/

namespace FontCatalog

/-- A record whose path is text has a compact form. -/
theorem Record.exists_compact {r : Record} (hpath : r.path.text?.isSome = true) :
    ∃ text, r.toJson.compact = .done text := by
  obtain ⟨s, hs⟩ := Option.isSome_iff_exists.mp hpath
  obtain ⟨text, htext, -⟩ := (Record.reads hs).readAll
  exact ⟨text, htext⟩

namespace Output

variable {accepts : Record → Bool} {records : List Record} {r : Record} {room : Room} {limit : Nat}

/-- The line of a record: its compact JSON form and a line end. -/
def lineBytes (r : Record) : List UInt8 := Utf8.encode (r.toJson.compact.text ++ ['\n'])

/-- The lines of the accepted ones of some records. -/
def linesBytes (accepts : Record → Bool) (records : List Record) : List UInt8 :=
  (records.filter accepts).flatMap lineBytes

/-- The records that are to be written have a JSON form. -/
def Writable (accepts : Record → Bool) (records : List Record) : Prop :=
  ∀ r ∈ records, accepts r = true → r.path.text?.isSome = true

theorem Writable.tail (h : Writable accepts (r :: records)) : Writable accepts records :=
  fun r' hr' => h r' (List.mem_cons_of_mem _ hr')

/-! ## One line -/

theorem line_eq (hpath : r.path.text?.isSome = true) :
    line r = .done (r.toJson.compact.text ++ ['\n']) := by
  obtain ⟨text, htext⟩ := Record.exists_compact hpath
  rw [line, htext]
  rfl

theorem encode_line (hpath : r.path.text?.isSome = true) :
    Utf8.encode (line r).text = lineBytes r := by
  rw [line_eq hpath]
  rfl

-- A draft that fits is taken whole, and its bytes are taken away from the room.
theorem putDraft_of_fits {d : Json.Draft} (hdone : d.finished = true)
    (hfits : ∀ n ∈ room, (Utf8.encode d.text).length ≤ n) :
    putDraft room d =
      (Utf8.encode d.text, .ok (room.map (· - (Utf8.encode d.text).length))) := by
  cases room with
  | none => simp [putDraft, hdone]
  | some n =>
    have hle : ¬ n < (Utf8.encode d.text).length := Nat.not_lt.mpr (hfits n rfl)
    simp [putDraft, hdone, hle]

theorem putDraft_of_lt {d : Json.Draft} (h : limit < (Utf8.encode d.text).length) :
    putDraft (some limit) d = ((Utf8.encode d.text).take limit, .error .closed) := by
  simp [putDraft, h]

/-! ## Step by step -/

theorem linesBytes_cons (r : Record) (records : List Record) :
    linesBytes accepts (r :: records) =
      (if accepts r then lineBytes r else []) ++ linesBytes accepts records := by
  cases h : accepts r with
  | true => simp [linesBytes, h]
  | false => simp [linesBytes, h]

-- A record that is not accepted is only taken from the source.
theorem lines_skip (h : accepts r = false) :
    lines accepts room (r :: records) =
      { lines accepts room records with pulled := (lines accepts room records).pulled + 1 } := by
  simp [lines, h]

-- An accepted record whose line fits leaves the rest of the room to the others.
theorem lines_put (h : accepts r = true) (hpath : r.path.text?.isSome = true)
    (hfits : ∀ n ∈ room, (lineBytes r).length ≤ n) :
    lines accepts room (r :: records) =
      let o := lines accepts (room.map (· - (lineBytes r).length)) records
      ⟨o.result.map (· + 1), o.pulled + 1, lineBytes r ++ o.bytes⟩ := by
  have hdone : (line r).finished = true := by rw [line_eq hpath]; rfl
  have hbytes : ∀ n ∈ room, (Utf8.encode (line r).text).length ≤ n := by rwa [encode_line hpath]
  have hput := putDraft_of_fits hdone hbytes
  rw [encode_line hpath] at hput
  simp [lines, h, hput]

-- An accepted record whose line does not fit ends the writing.
theorem lines_stop (h : accepts r = true) (hpath : r.path.text?.isSome = true)
    (hlimit : limit < (lineBytes r).length) :
    lines accepts (some limit) (r :: records) =
      ⟨.error .closed, 1, (lineBytes r).take limit⟩ := by
  have hbytes : limit < (Utf8.encode (line r).text).length := by rwa [encode_line hpath]
  have hput := putDraft_of_lt hbytes
  rw [encode_line hpath] at hput
  simp [lines, h, hput]

/-! ## All lines -/

/-- With room for all lines, all of them are written. -/
theorem lines_of_fits (hwritable : Writable accepts records)
    (hfits : ∀ n ∈ room, (linesBytes accepts records).length ≤ n) :
    lines accepts room records =
      ⟨.ok (records.filter accepts).length, records.length, linesBytes accepts records⟩ := by
  induction records generalizing room with
  | nil => rfl
  | cons r records ih =>
    rw [linesBytes_cons] at hfits ⊢
    cases haccepts : accepts r with
    | false =>
      simp only [haccepts, Bool.false_eq_true, if_false, List.nil_append] at hfits ⊢
      rw [lines_skip haccepts, ih hwritable.tail hfits,
        List.filter_cons_of_neg (by simp [haccepts]), List.length_cons]
    | true =>
      simp only [haccepts, if_true, List.length_append] at hfits ⊢
      have hline : ∀ n ∈ room, (lineBytes r).length ≤ n := by
        intro n hn
        have hle := hfits n hn
        omega
      have hrest : ∀ n ∈ room.map (· - (lineBytes r).length),
          (linesBytes accepts records).length ≤ n := by
        intro n hn
        obtain ⟨m, hm, rfl⟩ := Option.map_eq_some_iff.mp hn
        have hle := hfits m hm
        omega
      rw [lines_put haccepts (hwritable r List.mem_cons_self haccepts) hline,
        ih hwritable.tail hrest, List.filter_cons_of_pos haccepts, List.length_cons,
        List.length_cons]
      rfl

/-- Without room for all lines, the writing stops at the first line that does not end within the
room: the lines before it do. -/
theorem lines_of_lt (hwritable : Writable accepts records)
    (hlimit : limit < (linesBytes accepts records).length) :
    ∃ i r, records[i]? = some r ∧ accepts r = true ∧
      (linesBytes accepts (records.take i)).length ≤ limit ∧
      limit < (linesBytes accepts (records.take (i + 1))).length ∧
      lines accepts (some limit) records =
        ⟨.error .closed, i + 1, (linesBytes accepts records).take limit⟩ := by
  induction records generalizing limit with
  | nil => exact absurd hlimit (Nat.not_lt_zero _)
  | cons r records ih =>
    rw [linesBytes_cons] at hlimit ⊢
    cases haccepts : accepts r with
    | false =>
      simp only [haccepts, Bool.false_eq_true, if_false, List.nil_append] at hlimit ⊢
      obtain ⟨i, r', hr', haccepts', hbefore, hafter, hlines⟩ := ih hwritable.tail hlimit
      refine ⟨i + 1, r', hr', haccepts', ?_, ?_, ?_⟩
      · rwa [List.take_succ_cons, linesBytes_cons, haccepts]
      · rwa [List.take_succ_cons, linesBytes_cons, haccepts]
      · rw [lines_skip haccepts, hlines]
    | true =>
      have hpath := hwritable r List.mem_cons_self haccepts
      simp only [haccepts, if_true, List.length_append] at hlimit ⊢
      by_cases hline : limit < (lineBytes r).length
      · -- The line itself does not fit.
        refine ⟨0, r, rfl, haccepts, Nat.zero_le _, ?_, ?_⟩
        · rw [List.take_succ_cons, linesBytes_cons, haccepts, if_pos rfl, List.length_append]
          omega
        · rw [lines_stop haccepts hpath hline, List.take_append_of_le_length (Nat.le_of_lt hline)]
      · have hrest : limit - (lineBytes r).length < (linesBytes accepts records).length := by omega
        obtain ⟨i, r', hr', haccepts', hbefore, hafter, hlines⟩ := ih hwritable.tail hrest
        refine ⟨i + 1, r', hr', haccepts', ?_, ?_, ?_⟩
        · rw [List.take_succ_cons, linesBytes_cons, haccepts, if_pos rfl, List.length_append]
          omega
        · rw [List.take_succ_cons, linesBytes_cons, haccepts, if_pos rfl, List.length_append]
          omega
        · have hfits : ∀ n ∈ some limit, (lineBytes r).length ≤ n := by
            rintro _ ⟨⟩
            exact Nat.not_lt.mp hline
          rw [lines_put haccepts hpath hfits, Option.map_some, hlines,
            List.take_append, List.take_of_length_le (Nat.not_lt.mp hline)]
          rfl

/-! ## What the room decides -/

-- Fewer records have no longer lines.
theorem length_linesBytes_take_le {i j : Nat} (h : i ≤ j) :
    (linesBytes accepts (records.take i)).length ≤ (linesBytes accepts (records.take j)).length := by
  obtain ⟨k, rfl⟩ := Nat.exists_eq_add_of_le h
  rw [List.take_add, linesBytes, linesBytes, List.filter_append, List.flatMap_append,
    List.length_append]
  omega

/-- What comes of lines written into room for some bytes. If all lines fit, they are written and all
records were taken. If not, the writing is closed after as many bytes as there is room for, and the
last record taken is the first accepted one whose line does not end within the room. -/
theorem lines_within (accepts : Record → Bool) (limit : Nat) (records : List Record)
    (hwritable : Writable accepts records) :
    let o := lines accepts (some limit) records
    let lineEnd (i : Nat) := (linesBytes accepts (records.take (i + 1))).length
    ((linesBytes accepts records).length ≤ limit →
      o.result = .ok (records.filter accepts).length ∧ o.bytes = linesBytes accepts records ∧
        o.pulled = records.length) ∧
      (limit < (linesBytes accepts records).length →
        o.result = .error .closed ∧ o.bytes = (linesBytes accepts records).take limit ∧
          ∃ i r, o.pulled = i + 1 ∧ records[i]? = some r ∧ accepts r = true ∧
            limit < lineEnd i ∧ ∀ j < i, lineEnd j ≤ limit) := by
  intro o lineEnd
  constructor
  · intro hfits
    have hroom : ∀ n ∈ some limit, (linesBytes accepts records).length ≤ n := by
      rintro _ ⟨⟩
      exact hfits
    have ho : o = _ := lines_of_fits hwritable hroom
    rw [ho]
    exact ⟨rfl, rfl, rfl⟩
  · intro hlimit
    obtain ⟨i, r, hr, haccepts, hbefore, hafter, hlines⟩ := lines_of_lt hwritable hlimit
    have ho : o = _ := hlines
    rw [ho]
    refine ⟨rfl, rfl, i, r, rfl, hr, haccepts, hafter, fun j hj => ?_⟩
    exact Nat.le_trans (length_linesBytes_take_le hj) hbefore

/-- An upright font and two slanted ones. -/
def threeFonts : List Record :=
  [⟨.ofString "/a", 400, false, 0, none, []⟩, ⟨.ofString "/b", 400, true, 0, none, []⟩,
    ⟨.ofString "/c", 400, true, 0, none, []⟩]

-- The first line ends where the room ends, so only the next slanted font finds it closed.
theorem lines_within_threeFonts :
    Writable (·.italic) threeFonts ∧ 91 < (linesBytes (·.italic) threeFonts).length ∧
      (lines (·.italic) (some 91) threeFonts).result = .error .closed ∧
      (lines (·.italic) (some 91) threeFonts).bytes =
        (linesBytes (·.italic) threeFonts).take 91 ∧
      ∃ i r, (lines (·.italic) (some 91) threeFonts).pulled = i + 1 ∧
        threeFonts[i]? = some r ∧ r.italic = true ∧
        91 < (linesBytes (·.italic) (threeFonts.take (i + 1))).length ∧
        ∀ j < i, (linesBytes (·.italic) (threeFonts.take (j + 1))).length ≤ 91 := by
  have hwritable : Writable (·.italic) threeFonts := by
    unfold Writable
    decide
  have hlimit : 91 < (linesBytes (·.italic) threeFonts).length := by decide +kernel
  exact ⟨hwritable, hlimit, (lines_within (·.italic) 91 threeFonts hwritable).2 hlimit⟩

end Output

end FontCatalog
