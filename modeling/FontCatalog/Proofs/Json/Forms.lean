import FontCatalog.Json.Scan
import FontCatalog.Json.Value

/-!
# The two written forms

The compact and the indented form of a value differ only in blanks: before an item or a member,
after the colon of a member, and before a closing bracket. What is said of both at once is said of a
form, which is the compact one or the indented one at some level.
-/

namespace FontCatalog.Json

variable {blanks : List Char} {v : Json}

/-! ## Blanks -/

/-- Text without any character that counts. -/
def Blank (s : List Char) : Prop := ∀ c ∈ s, isBlank c = true

theorem blank_nil : Blank [] := by simp [Blank]

theorem Blank.skipBlank_append (h : Blank blanks) (t : List Char) :
    skipBlank (blanks ++ t) = skipBlank t := by
  induction blanks with
  | nil => rfl
  | cons c blanks ih =>
    obtain ⟨hc, hblanks⟩ := List.forall_mem_cons.mp h
    rw [List.cons_append, skipBlank, List.dropWhile_cons_of_pos hc]
    exact ih hblanks

theorem Blank.skipBlank_eq_nil (h : Blank blanks) : skipBlank blanks = [] := by
  rw [← List.append_nil blanks, h.skipBlank_append]
  rfl

theorem blank_newLine (level : Nat) : Blank (newLine level) := by
  intro c hc
  rcases List.mem_cons.mp hc with rfl | hc
  · rfl
  · rw [List.eq_of_mem_replicate hc]
    rfl

/-! ## Drafts -/

@[simp] theorem Draft.finished_done (text : List Char) : (done text).finished = true := rfl

@[simp] theorem Draft.finished_append (a b : Draft) :
    (a ++ b).finished = (a.finished && b.finished) := by
  change (Draft.append a b).finished = _
  unfold Draft.append
  cases ha : a.finished with
  | true => rfl
  | false => exact ha

/-! ## Forms -/

/-- A form in which values are written. -/
inductive Form where
  | compact
  | indented (level : Nat)

/-- The comma between two items. -/
def separator (first : Bool) : List Char := if first then [] else [',']

namespace Form

/-- A value in a form. -/
def draft : Form → Json → Draft
  | compact, v => v.compact
  | indented level, v => v.indented level

/-- The form of the items of a list and the members of an object. -/
def inner : Form → Form
  | compact => compact
  | indented level => indented (level + 1)

/-- The blanks at the start of a line. -/
def lineStart : Form → List Char
  | compact => []
  | indented level => newLine level

/-- The blanks between the colon of a member and its value. -/
def space : Form → List Char
  | compact => []
  | indented _ => [' ']

/-- The blanks before a closing bracket. There are none if nothing is inside. -/
def closing (form : Form) (empty : Bool) : List Char :=
  if empty then [] else form.lineStart

def items : Form → Bool → List Json → Draft
  | compact, first, vs => compactItems first vs
  | indented level, first, vs => indentedItems level first vs

def members : Form → Bool → List (String × Json) → Draft
  | compact, first, ms => compactMembers first ms
  | indented level, first, ms => indentedMembers level first ms

variable (form : Form)

theorem blank_lineStart : Blank form.lineStart := by
  cases form with
  | compact => exact blank_nil
  | indented level => exact blank_newLine level

theorem blank_closing (empty : Bool) : Blank (form.closing empty) := by
  cases empty with
  | true => exact blank_nil
  | false => exact form.blank_lineStart

-- Values with nothing inside look the same in all forms.
theorem draft_null : form.draft .null = .done "null".toList := by
  cases form <;> rfl

theorem draft_bool (b : Bool) :
    form.draft (.bool b) = .done (if b then "true".toList else "false".toList) := by
  cases form <;> rfl

theorem draft_number (text : List Char) : form.draft (.number text) = .done text := by
  cases form <;> rfl

theorem draft_string (s : String) : form.draft (.string s) = .done (quote s) := by
  cases form <;> rfl

theorem items_nil (first : Bool) : form.items first [] = .done [] := by
  cases form <;> rfl

theorem members_nil (first : Bool) : form.members first [] = .done [] := by
  cases form <;> rfl

variable {form}

theorem items_cons {first : Bool} {vs : List Json} {text body : List Char}
    (hv : form.draft v = .done text) (hvs : form.items false vs = .done body) :
    form.items first (v :: vs) = .done (separator first ++ form.lineStart ++ text ++ body) := by
  cases form with
  | compact =>
    change compactItems first (v :: vs) = _
    rw [compactItems, show v.compact = .done text from hv,
      show compactItems false vs = .done body from hvs, lineStart, List.append_nil]
    rfl
  | indented level =>
    change indentedItems level first (v :: vs) = _
    rw [indentedItems, show v.indented level = .done text from hv,
      show indentedItems level false vs = .done body from hvs]
    rfl

theorem members_cons {first : Bool} {key : String} {ms : List (String × Json)}
    {text body : List Char} (hv : form.draft v = .done text)
    (hms : form.members false ms = .done body) :
    form.members first ((key, v) :: ms) =
      .done (separator first ++ form.lineStart ++ quote key ++ ':' :: (form.space ++ text) ++
        body) := by
  cases form with
  | compact =>
    change compactMembers first ((key, v) :: ms) = _
    rw [compactMembers, show v.compact = .done text from hv,
      show compactMembers false ms = .done body from hms, lineStart, List.append_nil]
    simp [separator, space]
  | indented level =>
    change indentedMembers level first ((key, v) :: ms) = _
    rw [indentedMembers, show v.indented level = .done text from hv,
      show indentedMembers level false ms = .done body from hms]
    simp [separator, lineStart, space]

theorem draft_array {vs : List Json} {body : List Char}
    (h : form.inner.items true vs = .done body) :
    form.draft (array vs) = .done ('[' :: (body ++ form.closing vs.isEmpty ++ [']'])) := by
  cases form with
  | compact =>
    change (array vs).compact = _
    rw [Json.compact, show compactItems true vs = .done body from h, closing, lineStart, ite_self,
      List.append_nil]
    rfl
  | indented level =>
    cases vs with
    | nil =>
      cases h
      rfl
    | cons v vs =>
      change (array (v :: vs)).indented level = _
      rw [Json.indented, show indentedItems (level + 1) true (v :: vs) = .done body from h]
      simp [closing, lineStart]

theorem draft_object {ms : List (String × Json)} {body : List Char}
    (h : form.inner.members true ms = .done body) :
    form.draft (object ms) = .done ('\x7b' :: (body ++ form.closing ms.isEmpty ++ ['\x7d'])) := by
  cases form with
  | compact =>
    change (object ms).compact = _
    rw [Json.compact, show compactMembers true ms = .done body from h, closing, lineStart, ite_self,
      List.append_nil]
    rfl
  | indented level =>
    cases ms with
    | nil =>
      cases h
      rfl
    | cons m ms =>
      change (object (m :: ms)).indented level = _
      rw [Json.indented, show indentedMembers (level + 1) true (m :: ms) = .done body from h]
      simp [closing, lineStart]

end Form

end FontCatalog.Json
