import FontCatalog.Proofs.Json.Scalars
import FontCatalog.Proofs.Results

/-!
# Reading lists and objects

A list is read item by item and an object member by member. Where they were written, the first item
or member that its reader refuses decides about the whole, and otherwise all of them come back in
their order. Of any text that is accepted, what each member keeps holds of what is read.
-/

namespace FontCatalog.Json

variable {α σ : Type} {read : Reader α} {v : Json} {result : Except ReadError α} {st : σ}
  {t : List Char} {c : Char} {member : Member σ} {key : String}

/-! ## Lists -/

-- The next item begins with a character of its own.
theorem nextItem_separator (form : Form) (first : Bool) (hblank : isBlank c = false) (hc : c ≠ ']') :
    nextItem first (separator first ++ form.lineStart ++ c :: t) = .ok (some (c :: t)) := by
  have hskip : skipBlank (form.lineStart ++ c :: t) = c :: t := by
    rw [form.blank_lineStart.skipBlank_append, skipBlank_cons hblank]
  have hcomma : skipBlank (',' :: (form.lineStart ++ c :: t)) = ',' :: (form.lineStart ++ c :: t) :=
    skipBlank_cons rfl
  cases first with
  | true => simp [nextItem, separator, hskip]
  | false => simp [nextItem, separator, hcomma, hskip, hc]

/-- A value that can stand as an item: its text begins with no white space and does not close the
list. -/
def Opens (v : Json) : Prop :=
  ∀ form : Form, ∃ c t, (form.draft v).text = c :: t ∧ isBlank c = false ∧ c ≠ ']'

theorem opens_object (ms : List (String × Json)) : Opens (object ms) := by
  have hdraft : ∀ d e : Draft, ∃ t, (Draft.done ['\x7b'] ++ d ++ e).text = '\x7b' :: t := by
    rintro ⟨s, _ | _⟩ e
    · exact ⟨s, rfl⟩
    · exact ⟨s ++ e.text, rfl⟩
  have htext (form : Form) : ∃ t, (form.draft (object ms)).text = '\x7b' :: t := by
    cases form with
    | compact =>
      obtain ⟨t, ht⟩ := hdraft (compactMembers true ms) (.done ['\x7d'])
      exact ⟨t, by rw [Form.draft, compact, ht]⟩
    | indented level =>
      cases ms with
      | nil => exact ⟨['\x7d'], rfl⟩
      | cons m ms =>
        obtain ⟨t, ht⟩ := hdraft (indentedMembers (level + 1) true (m :: ms))
          (.done (newLine level ++ ['\x7d']))
        exact ⟨t, by rw [Form.draft, indented, ht]⟩
  intro form
  obtain ⟨t, ht⟩ := htext form
  exact ⟨'\x7b', t, ht, rfl, by decide⟩

-- What follows an item or a member.
theorem endsNumber_separator {bracket : Char} (hbracket : bracket = ']' ∨ bracket = '\x7d')
    {blanks : List Char} (hblanks : Blank blanks) (body rest : List Char)
    (hbody : body = [] ∨ ∃ t, body = ',' :: t) :
    EndsNumber (body ++ (blanks ++ bracket :: rest)) := by
  rcases hbody with rfl | ⟨t, rfl⟩
  · cases blanks with
    | nil =>
      rcases hbracket with rfl | rfl
      · exact endsNumber_cons rfl (by decide)
      · exact endsNumber_cons rfl (by decide)
    | cons c blanks => exact endsNumber_of_isBlank (hblanks c List.mem_cons_self)
  · exact endsNumber_cons rfl (by decide)

theorem nextItem_close (first : Bool) {blanks : List Char} (hblanks : Blank blanks)
    (rest : List Char) : nextItem first (blanks ++ ']' :: rest) = .ok none := by
  have hskip : skipBlank (blanks ++ ']' :: rest) = ']' :: rest := hblanks.skipBlank_append _
  simp [nextItem, hskip]

theorem closeList_close {blanks : List Char} (hblanks : Blank blanks) (rest : List Char) :
    closeList (blanks ++ ']' :: rest) = .ok rest := by
  have hskip : skipBlank (blanks ++ ']' :: rest) = ']' :: rest := hblanks.skipBlank_append _
  simp [closeList, hskip]

theorem listItems_items {toJson : α → Json} {result : α → Except ReadError α} (form : Form)
    (items : List α) (hreads : ∀ a ∈ items, Reads read (toJson a) (result a))
    (hopens : ∀ a ∈ items, Opens (toJson a)) (first : Bool) :
    ∃ body, form.items first (items.map toJson) = .done body ∧ items.length ≤ body.length ∧
      (first = false → body = [] ∨ ∃ t, body = ',' :: t) ∧
      ∀ blanks rest fuel, Blank blanks → items.length < fuel →
        listItems read fuel first (body ++ (blanks ++ ']' :: rest)) =
          (items.mapM result).map (·, rest) := by
  -- Every item takes a character at least, so the length of the text is fuel enough.
  induction items generalizing first with
  | nil =>
    refine ⟨[], form.items_nil first, Nat.le_refl 0, fun _ => Or.inl rfl, ?_⟩
    intro blanks rest fuel hblanks hfuel
    obtain ⟨fuel, rfl⟩ := Nat.exists_eq_succ_of_ne_zero (Nat.ne_zero_of_lt hfuel)
    rw [List.nil_append, listItems, nextItem_close first hblanks]
    simp only [bind, Except.bind, closeList_close hblanks]
    rfl
  | cons a items ih =>
    obtain ⟨text, htext, hread⟩ := (hreads a List.mem_cons_self).reads form
    obtain ⟨body, hbody, hlength, hcomma, hitems⟩ :=
      ih (fun b hb => hreads b (List.mem_cons_of_mem _ hb))
        (fun b hb => hopens b (List.mem_cons_of_mem _ hb)) false
    obtain ⟨c, t, hstart, hblank, hc⟩ := hopens a List.mem_cons_self form
    obtain rfl : text = c :: t := by rw [htext] at hstart; exact hstart
    refine ⟨_, Form.items_cons htext hbody, ?_, ?_, ?_⟩
    · simp only [List.length_append, List.length_cons]
      omega
    · rintro rfl
      exact Or.inr ⟨_, rfl⟩
    · intro blanks rest fuel hblanks hfuel
      obtain ⟨fuel, rfl⟩ := Nat.exists_eq_succ_of_ne_zero (Nat.ne_zero_of_lt hfuel)
      have hends := endsNumber_separator (Or.inl rfl) hblanks body rest (hcomma rfl)
      have hnext : nextItem first (separator first ++ form.lineStart ++ (c :: t) ++ body ++
            (blanks ++ ']' :: rest)) =
          .ok (some (c :: t ++ (body ++ (blanks ++ ']' :: rest)))) := by
        rw [List.append_assoc, List.append_assoc]
        exact nextItem_separator form first hblank hc
      rw [listItems, hnext]
      simp only [bind, Except.bind, hread _ hends, List.mapM_cons]
      cases result a with
      | error e => rfl
      | ok b =>
        simp only [Except.map, hitems blanks rest fuel hblanks (by simpa using hfuel)]
        cases items.mapM result <;> rfl

theorem reads_list {toJson : α → Json} {result : α → Except ReadError α} (items : List α)
    (hreads : ∀ a ∈ items, Reads read (toJson a) (result a))
    (hopens : ∀ a ∈ items, Opens (toJson a)) :
    Reads (readList read) (.array (items.map toJson)) (items.mapM result) := by
  refine ⟨fun _ => rfl, fun form => ?_⟩
  obtain ⟨body, hbody, hlength, -, hitems⟩ :=
    listItems_items form.inner items hreads hopens true
  refine ⟨_, Form.draft_array hbody, fun rest _ => ?_⟩
  generalize hclosing : form.closing (items.map toJson).isEmpty = closing
  have hblank : Blank closing := hclosing ▸ form.blank_closing _
  have hlist : readList read ('[' :: (body ++ closing ++ [']']) ++ rest) =
      listItems read ((body ++ closing ++ [']'] ++ rest).length + 1) true
        (body ++ closing ++ [']'] ++ rest) := rfl
  have hfuel : items.length < (body ++ closing ++ [']'] ++ rest).length + 1 := by
    simp only [List.length_append]
    omega
  rw [hlist, List.append_assoc _ [']'], List.append_assoc body]
  rw [List.append_assoc _ [']'], List.append_assoc body] at hfuel
  exact hitems closing rest _ hblank hfuel

/-! ## Objects -/

theorem nextKey_quote (form : Form) (first : Bool) (key : String) (t : List Char) :
    nextKey first (separator first ++ form.lineStart ++ quote key ++ t) = .ok (some (key, t)) := by
  obtain ⟨body, hquote, hbody⟩ : ∃ body, quote key ++ t = '"' :: body ∧
      stringBody body = .ok (key.toList, t) := ⟨_, rfl, stringBody_quote key t⟩
  have hskip : skipBlank (form.lineStart ++ '"' :: body) = '"' :: body := by
    rw [form.blank_lineStart.skipBlank_append]
    exact skipBlank_cons rfl
  have hcomma : skipBlank (',' :: (form.lineStart ++ '"' :: body)) =
      ',' :: (form.lineStart ++ '"' :: body) := skipBlank_cons rfl
  rw [List.append_assoc, List.append_assoc, hquote]
  cases first with
  | true => simp [nextKey, separator, hskip, hbody, bind, Except.bind, pure, Except.pure]
  | false => simp [nextKey, separator, hcomma, hskip, hbody, bind, Except.bind, pure, Except.pure]

theorem nextKey_close (first : Bool) {blanks : List Char} (hblanks : Blank blanks)
    (rest : List Char) : nextKey first (blanks ++ '\x7d' :: rest) = .ok none := by
  have hskip : skipBlank (blanks ++ '\x7d' :: rest) = '\x7d' :: rest := hblanks.skipBlank_append _
  simp [nextKey, hskip]

theorem closeObject_close {blanks : List Char} (hblanks : Blank blanks) (rest : List Char) :
    closeObject (blanks ++ '\x7d' :: rest) = .ok rest := by
  have hskip : skipBlank (blanks ++ '\x7d' :: rest) = '\x7d' :: rest := hblanks.skipBlank_append _
  simp [closeObject, hskip]

-- One member, and then the others.
theorem objectMembers_member {text : List Char} {step : Except ReadError σ} (form : Form)
    (first : Bool) (fuel : Nat)
    (hmember : member st key (':' :: (form.space ++ text ++ t)) = step.map (·, t)) :
    objectMembers member (fuel + 1) first st
        (separator first ++ form.lineStart ++ quote key ++ ':' :: (form.space ++ text) ++ t) =
      step.bind fun st' => objectMembers member fuel false st' t := by
  have hkey : nextKey first
        (separator first ++ form.lineStart ++ quote key ++ ':' :: (form.space ++ text) ++ t) =
      .ok (some (key, ':' :: (form.space ++ text ++ t))) := by
    rw [List.append_assoc]
    exact nextKey_quote form first key _
  rw [objectMembers, hkey]
  simp only [bind, Except.bind, hmember]
  cases step <;> rfl

/-- What the members of an object give, one after another from a state. Only the last one may be
refused. -/
inductive MembersRead (member : Member σ) : σ → List (String × Json) → Except ReadError σ → Prop
  | last {st : σ} {key : String} {v : Json} {result : Except ReadError σ}
      (hread : Reads (fun s => member st key (':' :: s)) v result) :
      MembersRead member st [(key, v)] result
  | cons {st st' : σ} {key : String} {v : Json} {ms : List (String × Json)}
      {result : Except ReadError σ} (hread : Reads (fun s => member st key (':' :: s)) v (.ok st'))
      (hrest : MembersRead member st' ms result) : MembersRead member st ((key, v) :: ms) result

-- The value of a member is read from after the colon.
theorem Reads.after_space {v : Json} {result : Except ReadError α} (h : Reads read v result)
    (form : Form) :
    ∃ text, form.draft v = .done text ∧
      ∀ rest, EndsNumber rest → read (form.space ++ text ++ rest) = result.map (·, rest) := by
  obtain ⟨text, htext, hread⟩ := h.reads form
  refine ⟨text, htext, fun rest hrest => ?_⟩
  cases form with
  | compact => exact hread rest hrest
  | indented level => exact (h.skips _).trans (hread rest hrest)

theorem objectMembers_members {ms : List (String × Json)} {result : Except ReadError σ}
    (h : MembersRead member st ms result) (form : Form) (first : Bool) :
    ∃ body, form.members first ms = .done body ∧ ms.length ≤ body.length ∧
      (first = false → ∃ t, body = ',' :: t) ∧
      ∀ blanks rest fuel, Blank blanks → ms.length < fuel →
        objectMembers member fuel first st (body ++ (blanks ++ '\x7d' :: rest)) =
          result.map (·, blanks ++ '\x7d' :: rest) := by
  -- The induction is on the members that are read, since a refusal can only come from the last.
  induction h generalizing first with
  | @last st key v result hread =>
    obtain ⟨text, htext, hmember⟩ := hread.after_space form
    refine ⟨_, Form.members_cons htext (form.members_nil false), ?_, ?_, ?_⟩
    · simp only [List.length_append, List.length_cons]
      omega
    · rintro rfl
      exact ⟨_, rfl⟩
    · intro blanks rest fuel hblanks hfuel
      obtain ⟨fuel, rfl⟩ : ∃ n, fuel = n + 2 := ⟨fuel - 2, by simp at hfuel; omega⟩
      have hends : EndsNumber (blanks ++ '\x7d' :: rest) :=
        endsNumber_separator (Or.inr rfl) hblanks [] rest (Or.inl rfl)
      rw [List.append_nil, objectMembers_member form first _ (hmember _ hends)]
      cases result with
      | error e => rfl
      | ok st' =>
        change objectMembers member (fuel + 1) false st' (blanks ++ '\x7d' :: rest) = _
        rw [objectMembers, nextKey_close false hblanks]
        rfl
  | @cons st st' key v ms result hread hrest ih =>
    obtain ⟨text, htext, hmember⟩ := hread.after_space form
    obtain ⟨body, hbody, hlength, hcomma, hmembers⟩ := ih false
    refine ⟨_, Form.members_cons htext hbody, ?_, ?_, ?_⟩
    · simp only [List.length_append, List.length_cons]
      omega
    · rintro rfl
      exact ⟨_, rfl⟩
    · intro blanks rest fuel hblanks hfuel
      obtain ⟨fuel, rfl⟩ := Nat.exists_eq_succ_of_ne_zero (Nat.ne_zero_of_lt hfuel)
      have hends := endsNumber_separator (Or.inr rfl) hblanks body rest (Or.inr (hcomma rfl))
      rw [List.append_assoc _ body, objectMembers_member form first fuel (hmember _ hends)]
      exact hmembers blanks rest fuel hblanks (by simpa using hfuel)

-- A member that was not there before.
theorem reads_once {store : α → σ} (h : Reads read v result) :
    Reads (fun s => once key none read store (':' :: s)) v (result.map store) := by
  have honce (s : List Char) : once key none read store (':' :: s) =
      (read s).map (Prod.map store id) := by
    rw [once, if_neg (by simp)]
    change (read s).bind (fun r => .ok (store r.1, r.2)) = _
    cases read s <;> rfl
  simp only [honce]
  exact h.map store

theorem MembersRead.cons_once {store : α → σ} {a : α} {ms : List (String × Json)}
    {result : Except ReadError σ} (hkey : member st key = once key none read store)
    (h : Reads read v (.ok a)) (hrest : MembersRead member (store a) ms result) :
    MembersRead member st ((key, v) :: ms) result := by
  refine .cons ?_ hrest
  rw [hkey]
  exact reads_once h

theorem MembersRead.last_once {store : α → σ} (hkey : member st key = once key none read store)
    (h : Reads read v result) : MembersRead member st [(key, v)] (result.map store) := by
  refine .last ?_
  rw [hkey]
  exact reads_once h

theorem reads_struct {finish : σ → Except ReadError α} {items : Reader α} (expected : String)
    {ms : List (String × Json)} {state : Except ReadError σ} (h : MembersRead member st ms state) :
    Reads (readStruct expected st member finish items) (.object ms) (state.bind finish) := by
  refine ⟨fun _ => rfl, fun form => ?_⟩
  obtain ⟨body, hbody, hlength, -, hmembers⟩ := objectMembers_members h form.inner true
  refine ⟨_, Form.draft_object hbody, fun rest _ => ?_⟩
  generalize hclosing : form.closing ms.isEmpty = closing
  have hblank : Blank closing := hclosing ▸ form.blank_closing _
  have hstruct : readStruct expected st member finish items
        ('\x7b' :: (body ++ closing ++ ['\x7d']) ++ rest) =
      (objectMembers member ((body ++ closing ++ ['\x7d'] ++ rest).length + 1) true st
        (body ++ closing ++ ['\x7d'] ++ rest)).bind fun r =>
          (finish r.1).bind fun a => (closeObject r.2).bind fun t => .ok (a, t) := rfl
  have hfuel : ms.length < (body ++ closing ++ ['\x7d'] ++ rest).length + 1 := by
    simp only [List.length_append]
    omega
  have hread : objectMembers member ((body ++ closing ++ ['\x7d'] ++ rest).length + 1) true st
      (body ++ closing ++ ['\x7d'] ++ rest) = state.map (·, closing ++ '\x7d' :: rest) := by
    rw [List.append_assoc _ ['\x7d'], List.append_assoc body] at hfuel ⊢
    exact hmembers closing rest _ hblank hfuel
  rw [hstruct, hread]
  cases state with
  | error e => rfl
  | ok st' =>
    change ((finish st').bind fun a =>
      (closeObject (closing ++ '\x7d' :: rest)).bind fun t => .ok (a, t)) =
        (finish st').map (·, rest)
    rw [closeObject_close hblank]
    cases finish st' <;> rfl

/-- A whole text in a form, with blanks after it. -/
theorem Reads.readAll_draft (h : Reads read v result) (form : Form) :
    ∃ text, form.draft v = .done text ∧
      ∀ blanks, Blank blanks → readAll read (String.ofList (text ++ blanks)) = result := by
  obtain ⟨text, htext, hread⟩ := h.reads form
  refine ⟨text, htext, fun blanks hblanks => ?_⟩
  have hends : EndsNumber blanks := by
    cases blanks with
    | nil => exact endsNumber_nil
    | cons c blanks => exact endsNumber_of_isBlank (hblanks c List.mem_cons_self)
  rw [readAll, String.toList_ofList, hread blanks hends]
  cases result with
  | error e => rfl
  | ok a =>
    simp only [Except.map, bind, Except.bind, hblanks.skipBlank_eq_nil]
    rfl

/-- A whole text of the compact form. -/
theorem Reads.readAll (h : Reads read v result) :
    ∃ text, v.compact = .done text ∧ readAll read (String.ofList text) = result := by
  obtain ⟨text, htext, hread⟩ := h.readAll_draft .compact
  refine ⟨text, htext, ?_⟩
  rw [← hread [] blank_nil, List.append_nil]

/-! ## Texts that are accepted -/

theorem ok_of_once {current : Option α} {store : α → σ} {s : List Char} {r : σ × List Char}
    (h : once key current read store s = .ok r) :
    ∃ a t, read t = .ok (a, r.2) ∧ r.1 = store a := by
  unfold once at h
  split at h
  · cases h
  · obtain ⟨t, -, h⟩ := exists_of_bind_ok h
    obtain ⟨⟨a, rest⟩, hread, h⟩ := exists_of_bind_ok h
    cases h
    exact ⟨a, t, hread, rfl⟩

theorem eq_of_ignored {s : List Char} {r : σ × List Char} (h : ignored st s = .ok r) : r.1 = st := by
  obtain ⟨t, -, h⟩ := exists_of_bind_ok h
  obtain ⟨u, -, h⟩ := exists_of_bind_ok h
  cases h
  rfl

/-- What every member keeps, all members of an object keep. -/
theorem objectMembers_keeps {P : σ → Prop}
    (hmember : ∀ {st key s r}, P st → member st key s = .ok r → P r.1) {fuel : Nat}
    {first : Bool} {s : List Char} {r : σ × List Char} (hst : P st)
    (h : objectMembers member fuel first st s = .ok r) : P r.1 := by
  induction fuel generalizing first st s with
  | zero => cases h
  | succ fuel ih =>
    rw [objectMembers] at h
    obtain ⟨next, -, h⟩ := exists_of_bind_ok h
    cases next with
    | none =>
      cases h
      exact hst
    | some next =>
      obtain ⟨⟨st', t⟩, hread, h⟩ := exists_of_bind_ok h
      exact ih (hmember hst hread) h

/-- What is kept by the members of a structure and comes of its list of fields holds of what is
read. -/
theorem readStruct_keeps {expected : String} {finish : σ → Except ReadError α} {items : Reader α}
    {s : List Char} {r : α × List Char} {P : σ → Prop} {Q : α → Prop}
    (h : readStruct expected st member finish items s = .ok r) (hst : P st)
    (hmember : ∀ {st key s r}, P st → member st key s = .ok r → P r.1)
    (hfinish : ∀ {st a}, P st → finish st = .ok a → Q a)
    (hitems : ∀ {t r}, items t = .ok r → Q r.1) : Q r.1 := by
  unfold readStruct at h
  split at h
  · obtain ⟨⟨st', t⟩, hread, h⟩ := exists_of_bind_ok h
    obtain ⟨a, ha, h⟩ := exists_of_bind_ok h
    obtain ⟨u, -, h⟩ := exists_of_bind_ok h
    cases h
    exact hfinish (objectMembers_keeps hmember hst hread) ha
  · obtain ⟨⟨a, t⟩, ha, h⟩ := exists_of_bind_ok h
    obtain ⟨u, -, h⟩ := exists_of_bind_ok h
    cases h
    exact hitems (r := (a, t)) ha
  · cases h

end FontCatalog.Json
