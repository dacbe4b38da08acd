import FontCatalog.Proofs.Json.Structures
import FontCatalog.Proofs.Tag
import FontCatalog.Record

/-!
# Records read back from their JSON form

A record whose path is text is always written, and what is written is read as the record again
exactly when all its axis values are finite. An infinite value and a NaN are written as `null`, and
the reader refuses that where it expects a number.
-/

namespace FontCatalog

open Json

/-! ## Axes -/

namespace Axis

theorem reads_tag (t : Tag) : Reads readTag (.string t.toText) (.ok t) := by
  refine .of_text (fun _ => rfl) (Form.draft_string · t.toText) fun rest _ => ?_
  rw [readTag, readString_quote]
  simp only [bind, Except.bind, Tag.parse_toText]
  rfl

theorem readMember_tag (fields : Fields) :
    readMember fields "tag" =
      once "tag" fields.tag readTag fun v => { fields with tag := some v } :=
  rfl

theorem readMember_value (fields : Fields) :
    readMember fields "value" =
      once "value" fields.value readSingle fun v => { fields with value := some v } :=
  rfl

theorem membersRead (a : Axis) :
    MembersRead readMember ⟨none, none⟩
      [("tag", .string a.tag.toText), ("value", Json.ofSingle a.value)]
      ((Json.reread a.value).map fun v => ⟨some a.tag, some v⟩) := by
  refine .cons_once (readMember_tag _) (reads_tag a.tag) ?_
  exact .last_once (readMember_value _) (reads_single a.value)

/-- What comes back of an axis: the axis itself, if its value is finite. -/
def reread (a : Axis) : Except ReadError Axis :=
  if a.value.isFinite then .ok a else .error notNumber

theorem reads (a : Axis) : Reads read a.toJson a.reread := by
  have hread : Reads read a.toJson
      (((Json.reread a.value).map fun v => ⟨some a.tag, some v⟩).bind Fields.finish) :=
    reads_struct "FontAxis" a.membersRead
  unfold Json.reread at hread
  unfold reread
  cases hvalue : a.value.isFinite with
  | true =>
    rw [hvalue] at hread
    exact hread
  | false =>
    rw [hvalue] at hread
    exact hread

end Axis

/-! ## Records -/

namespace Record

variable {r : Record} {s : String}

theorem mapM_reread (axes : List Axis) :
    axes.mapM Axis.reread =
      if axes.all (·.value.isFinite) then .ok axes else .error notNumber := by
  induction axes with
  | nil => rfl
  | cons a axes ih =>
    rw [List.mapM_cons, ih, List.all_cons, Axis.reread]
    cases ha : a.value.isFinite with
    | false => rfl
    | true => cases haxes : axes.all (·.value.isFinite) <;> rfl

theorem reads_axes (axes : List Axis) :
    Reads readAxes (.array (axes.map Axis.toJson))
      (if axes.all (·.value.isFinite) then .ok axes else .error notNumber) := by
  rw [← mapM_reread]
  exact reads_list axes (fun a _ => a.reads) fun a _ => opens_object _

theorem reads_weight (w : UInt16) : Reads readWeight (Json.ofNat w.toNat) (.ok w) := by
  have hmax : w.toNat ≤ 65535 := Nat.le_of_lt_succ w.toNat_lt
  have hread := (reads_nat "u16" hmax (by decide)).map UInt16.ofNat
  rw [Except.map, UInt16.ofNat_toNat] at hread
  exact hread

theorem reads_index (i : UInt32) : Reads readIndex (Json.ofNat i.toNat) (.ok i) := by
  have hmax : i.toNat ≤ 4294967295 := Nat.le_of_lt_succ i.toNat_lt
  have hread := (reads_nat "u32" hmax (by decide)).map UInt32.ofNat
  rw [Except.map, UInt32.ofNat_toNat] at hread
  exact hread

theorem readMember_path (fields : Fields) : readMember fields "file_path" =
    once "file_path" fields.path readPath fun v => { fields with path := some v } :=
  rfl

theorem readMember_weight (fields : Fields) : readMember fields "weight" =
    once "weight" fields.weight readWeight fun v => { fields with weight := some v } :=
  rfl

theorem readMember_italic (fields : Fields) : readMember fields "italic" =
    once "italic" fields.italic readBool fun v => { fields with italic := some v } :=
  rfl

theorem readMember_index (fields : Fields) : readMember fields "collection_index" =
    once "collection_index" fields.index readIndex fun v => { fields with index := some v } :=
  rfl

theorem readMember_locale (fields : Fields) : readMember fields "locale" =
    once "locale" fields.locale readLocale fun v => { fields with locale := some v } :=
  rfl

theorem readMember_axes (fields : Fields) : readMember fields "axes" =
    once "axes" fields.axes readAxes fun v => { fields with axes := some v } :=
  rfl

theorem membersRead (hpath : r.path.text? = some s) :
    MembersRead readMember Fields.none
      [("file_path", Json.ofPath r.path),
        ("weight", Json.ofNat r.weight.toNat),
        ("italic", .bool r.italic),
        ("collection_index", Json.ofNat r.index.toNat),
        ("locale", r.locale.elim .null .string),
        ("axes", .array (r.axes.map Axis.toJson))]
      ((if r.axes.all (·.value.isFinite) then .ok r.axes else .error notNumber :
        Except ReadError (List Axis)).map fun axes =>
          ⟨some r.path, some r.weight, some r.italic, some r.index, some r.locale, some axes⟩) := by
  obtain ⟨path, weight, italic, index, locale, axes⟩ := r
  -- Each key is met for the first time, so its field is still empty.
  refine .cons_once (readMember_path .none) (reads_path hpath) ?_
  refine .cons_once (readMember_weight ⟨some path, .none, .none, .none, .none, .none⟩)
    (reads_weight weight) ?_
  refine .cons_once (readMember_italic ⟨some path, some weight, .none, .none, .none, .none⟩)
    (reads_bool italic) ?_
  refine .cons_once (readMember_index ⟨some path, some weight, some italic, .none, .none, .none⟩)
    (reads_index index) ?_
  refine .cons_once
    (readMember_locale ⟨some path, some weight, some italic, some index, .none, .none⟩)
    (reads_optional locale "a string") ?_
  exact .last_once
    (readMember_axes ⟨some path, some weight, some italic, some index, some locale, .none⟩)
    (reads_axes axes)

/-- What comes back of a record: the record itself, if its axis values are finite. -/
def reread (r : Record) : Except ReadError Record :=
  if r.axes.all (·.value.isFinite) then .ok r else .error notNumber

theorem reads (hpath : r.path.text? = some s) : Reads read r.toJson r.reread := by
  have hread : Reads read r.toJson (Except.bind _ Fields.finish) :=
    reads_struct "FontRecord" (membersRead hpath)
  unfold reread
  cases hfinite : r.axes.all (·.value.isFinite) with
  | true =>
    rw [hfinite] at hread
    exact hread
  | false =>
    rw [hfinite] at hread
    exact hread

/-! ## Equality of values -/

theorem sameValue_self_of_isFinite {x : Number.Single} (hx : x.isFinite = true) :
    x.sameValue x = true := by
  unfold Number.Single.isFinite at hx
  unfold Number.Single.sameValue
  cases hbinary : x.toBinary with
  | finite s m q => cases m <;> simp
  | infinite s => simp
  | nan s =>
    rw [hbinary] at hx
    cases hx

theorem all_sameValue_self {axes : List Axis} (h : ∀ a ∈ axes, a.value.isFinite = true) :
    ((axes.zip axes).all fun (x, y) => x.sameValue y) = true := by
  induction axes with
  | nil => rfl
  | cons a axes ih =>
    have ha : a.sameValue a = true := by
      rw [Axis.sameValue, beq_self_eq_true, Bool.true_and,
        sameValue_self_of_isFinite (h a List.mem_cons_self)]
    rw [List.zip_cons_cons, List.all_cons, ih fun b hb => h b (List.mem_cons_of_mem _ hb)]
    simp only [ha, Bool.true_and]

-- A record is equal to itself if its axis values are finite.
theorem sameValue_self (hfinite : ∀ a ∈ r.axes, a.value.isFinite = true) :
    r.sameValue r = true := by
  rw [sameValue, all_sameValue_self hfinite, Path.same]
  simp only [beq_self_eq_true, Bool.and_self]

/-! ## The round trip -/

/-- A record whose path is text is written, and what is written is read as an equal record exactly
when all axis values are finite. It is then the same record to the bit. -/
theorem json_roundTrip_iff (r : Record) (hpath : r.path.text?.isSome = true) :
    ∃ text, r.toJson.compact = .done text ∧
      ((∃ r', readAll read (String.ofList text) = .ok r' ∧ r'.sameValue r = true) ↔
        ∀ a ∈ r.axes, a.value.isFinite = true) ∧
      ((∀ a ∈ r.axes, a.value.isFinite = true) → readAll read (String.ofList text) = .ok r) := by
  obtain ⟨s, hs⟩ := Option.isSome_iff_exists.mp hpath
  obtain ⟨text, htext, hread⟩ := (reads hs).readAll
  have hback : (∀ a ∈ r.axes, a.value.isFinite = true) →
      readAll read (String.ofList text) = .ok r := by
    intro hfinite
    rw [hread, reread, if_pos (List.all_eq_true.mpr hfinite)]
  refine ⟨text, htext, ⟨?_, fun hfinite => ⟨r, hback hfinite, sameValue_self hfinite⟩⟩, hback⟩
  rintro ⟨r', hr', -⟩
  by_contra hinfinite
  rw [hread, reread, if_neg fun hall => hinfinite (List.all_eq_true.mp hall)] at hr'
  cases hr'

theorem json_roundTrip_iff_slanted :
    (Path.text? ⟨[47, 97]⟩).isSome = true ∧
      ∃ text, (Record.mk ⟨[47, 97]⟩ 400 true 0 none [⟨⟨0x736C6E74⟩, ⟨0xC1200000⟩⟩]).toJson.compact =
          .done text ∧
        readAll read (String.ofList text) =
          .ok ⟨⟨[47, 97]⟩, 400, true, 0, none, [⟨⟨0x736C6E74⟩, ⟨0xC1200000⟩⟩]⟩ := by
  have hpath : (Path.text? ⟨[47, 97]⟩).isSome = true := by decide
  obtain ⟨text, htext, -, hread⟩ := json_roundTrip_iff
    ⟨⟨[47, 97]⟩, 400, true, 0, none, [⟨⟨0x736C6E74⟩, ⟨0xC1200000⟩⟩]⟩ hpath
  exact ⟨hpath, text, htext, hread (by decide)⟩

/-- A number too large for an axis value is accepted as an infinite one, which does not come
back. -/
theorem json_infinite_refused :
    ∃ r text, readAll read ("\x7b\"file_path\":\"/a.ttf\",\"weight\":400,\"italic\":false," ++
          "\"collection_index\":0,\"locale\":null," ++
          "\"axes\":[\x7b\"tag\":\"wght\",\"value\":1e39\x7d]\x7d") = .ok r ∧
      r.path.text? = some "/a.ttf" ∧ r.toJson.compact = .done text ∧
      readAll read (String.ofList text) =
        .error (.wrongShape "invalid type: null, expected f32") := by
  refine ⟨⟨.ofString "/a.ttf", 400, false, 0, none, [⟨⟨0x77676874⟩, ⟨0x7F800000⟩⟩]⟩, _,
    by decide +kernel, by decide +kernel, rfl, by decide +kernel⟩

end Record

end FontCatalog
