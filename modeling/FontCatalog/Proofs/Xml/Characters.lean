import FontCatalog.Proofs.Results
import FontCatalog.Proofs.Xml.Legal
import FontCatalog.Proofs.Xml.Namespaces
import FontCatalog.Proofs.Xml.Print

/-!
# Characters that trees hold

Text of a tree has characters of a document only, by whatever way it came in: what an entity brings
into text is scanned like all other text. The text of an entity is taken as it is where a value of
an attribute refers to it. So attributes may hold whatever characters stand there.
-/

namespace FontCatalog.Xml

/-! ## Runs -/

/-- Runs of raw text whose characters have a property. -/
def Run.Made (p : Char → Prop) : Run → Prop
  | .char c => p c
  | .reference (.char c) => isXmlChar c = true
  | _ => True

theorem legal_namedReference {name : List Char} {c : Char} (h : namedReference name = .char c) :
    isXmlChar c = true := by
  unfold namedReference at h
  split at h
  · cases h; decide
  split at h
  · cases h; decide
  split at h
  · cases h; decide
  split at h
  · cases h; decide
  split at h
  · cases h; decide
  · cases h

theorem Scan.mem_of_name {s n rest : List Char} (h : name s = some (n, rest)) :
    ∀ c ∈ rest, c ∈ s := by
  unfold name at h
  split at h
  · cases h
  · split at h
    · cases h
      exact fun c hc => List.mem_cons_of_mem _ ((List.dropWhile_suffix _).subset hc)
    · cases h

-- A reference stands for no character but one of a document, and takes away from the text.
theorem Scan.reference_made {s rest : List Char} {r : Reference}
    (h : Scan.reference s = some (r, rest)) :
    (∀ c, r = .char c → isXmlChar c = true) ∧ ∀ c ∈ rest, c ∈ s := by
  simp only [Scan.reference, Option.bind_eq_bind, Option.pure_def] at h
  split at h
  · rename_i digits
    split at h
    · split at h
      · rename_i c _ hc
        rw [Option.bind_some] at h
        split at h
        · rename_i left hleft
          cases h
          refine ⟨fun c' hc' => by cases hc'; exact hc, fun c' hc' => List.mem_cons_of_mem _ ?_⟩
          have hmem : c' ∈ List.dropWhile _ _ := hleft.symm ▸ List.mem_cons_of_mem _ hc'
          have hdigits := (List.dropWhile_suffix _).subset hmem
          split at hdigits
          · exact List.mem_cons_of_mem _ hdigits
          · exact hdigits
        · cases h
      · cases h
    · cases h
  · simp only [Option.bind_eq_some_iff, Option.map_eq_some_iff] at h
    obtain ⟨_, ⟨⟨n, left⟩, hname, rfl⟩, h⟩ := h
    split at h
    · rename_i left' hleft
      cases h
      obtain rfl : left = ';' :: rest := hleft
      exact ⟨fun c hc => legal_namedReference hc,
        fun c hc => mem_of_name hname c (List.mem_cons_of_mem _ hc)⟩
    · cases h

theorem made_runs {p : Char → Prop} (fuel : Nat) {s : List Char} (h : ∀ c ∈ s, p c) :
    ∀ r ∈ runs fuel s, r.Made p := by
  induction fuel generalizing s with
  | zero => simp [runs, Run.Made]
  | succ fuel ih =>
    cases s with
    | nil => simp [runs]
    | cons c s =>
      simp only [List.forall_mem_cons] at h
      by_cases hc : c = '&'
      · subst hc
        rw [runs]
        split
        · rename_i r rest hreference
          obtain ⟨hchar, hrest⟩ := Scan.reference_made hreference
          simp only [List.forall_mem_cons]
          refine ⟨?_, ih fun c hc => h.2 c (hrest c hc)⟩
          cases r with
          | char c => exact hchar c rfl
          | entity name => trivial
        · simp [Run.Made]
      · rw [runs]
        · simp only [List.forall_mem_cons]
          exact ⟨h.1, ih h.2⟩
        · exact hc

theorem made_runsOf {p : Char → Prop} {raw : List Char} (h : ∀ c ∈ raw, p c) :
    ∀ r ∈ runsOf raw, r.Made p :=
  made_runs _ h

/-! ## Attribute values -/

/-- A character that a value of an attribute may hold: one of a document, or one of the text of an
entity. -/
def Admitted (entities : List Entity) (c : Char) : Prop :=
  isXmlChar c = true ∨ ∃ e ∈ entities, c ∈ e.value

variable {entities : List Entity}

theorem Admitted.flatten {c : Char} (h : Admitted entities c) : Admitted entities (flatten c) := by
  unfold Xml.flatten
  split
  · exact .inl (by decide)
  · exact h

theorem admitted_of_lookupEntity {name value : List Char}
    (h : lookupEntity entities name = some value) : ∀ c ∈ value, Admitted entities c := by
  obtain ⟨e, he, rfl⟩ := Option.map_eq_some_iff.mp h
  exact fun c hc => .inr ⟨e, List.mem_of_find?_eq_some he, hc⟩

theorem admitted_normalizeRuns {enter : Nesting → List Char → Option (List Char × Nesting)}
    (henter : ∀ n name inner n', enter n name = some (inner, n') →
      ∀ c ∈ inner, Admitted entities c)
    {n n' : Nesting} {rs : List Run} {cs : List Char}
    (hrs : ∀ r ∈ rs, r.Made (Admitted entities)) (h : normalizeRuns enter n rs = some (cs, n')) :
    ∀ c ∈ cs, Admitted entities c := by
  induction rs generalizing n n' cs with
  | nil =>
    cases h
    simp
  | cons r rs ih =>
    simp only [List.forall_mem_cons] at hrs
    obtain ⟨hr, hrs⟩ := hrs
    cases r with
    | char c =>
      simp only [normalizeRuns, Option.bind_eq_bind, Option.bind_eq_some_iff, Option.pure_def] at h
      obtain ⟨⟨more, n₁⟩, hmore, h⟩ := h
      have hmore := ih hrs hmore
      split at h
      · cases h
        exact hmore
      · cases h
        simp only [List.forall_mem_cons]
        exact ⟨Admitted.flatten hr, hmore⟩
    | reference r =>
      cases r with
      | char c =>
        have hc : Admitted entities c := .inl hr
        simp only [normalizeRuns, Option.bind_eq_bind, Option.pure_def] at h
        split at h
        · cases h
        · obtain ⟨⟨more, n₁⟩, hmore, h⟩ := Option.bind_eq_some_iff.mp h
          cases h
          simp only [List.forall_mem_cons]
          refine ⟨?_, ih hrs hmore⟩
          split
          · exact hc
          · exact hc.flatten
      | entity name =>
        simp only [normalizeRuns, Option.bind_eq_bind, Option.bind_eq_some_iff, Option.pure_def] at h
        obtain ⟨⟨inner, n₁⟩, hinner, ⟨more, n₂⟩, hmore, h⟩ := h
        cases h
        rw [List.forall_mem_append]
        exact ⟨henter _ _ _ _ hinner, ih hrs hmore⟩
    | malformed => cases h

/-- The value of an attribute holds characters of a document and of entities. -/
theorem admitted_normalizeValue (levels : Nat) {n n' : Nesting} {raw cs : List Char}
    (hraw : ∀ c ∈ raw, Admitted entities c)
    (h : normalizeValue entities levels n raw = some (cs, n')) :
    ∀ c ∈ cs, Admitted entities c := by
  induction levels generalizing n n' raw cs with
  | zero =>
    refine admitted_normalizeRuns ?_ (made_runsOf hraw) h
    intro n name inner n' henter
    cases henter
  | succ levels ih =>
    refine admitted_normalizeRuns ?_ (made_runsOf hraw) h
    intro n name inner n' henter
    simp only [Option.bind_eq_bind, Option.bind_eq_some_iff, Option.pure_def] at henter
    obtain ⟨value, hvalue, n₁, -, ⟨cs, n₂⟩, hcs, henter⟩ := henter
    cases henter
    exact ih (admitted_of_lookupEntity hvalue) hcs

/-! ## Text -/

namespace TextBuffer

variable {b : TextBuffer} {c : Char}

theorem legal_push (hb : ∀ d ∈ b.reversed, isXmlChar d = true) (hc : isXmlChar c = true)
    (last : Bool) : ∀ d ∈ b.push c last, isXmlChar d = true := by
  have hline : isXmlChar '\n' = true := by decide
  unfold push
  split
  · rename_i cs hreversed
    simp only [hreversed, List.forall_mem_cons] at hb
    split
    · simp only [List.forall_mem_cons]
      exact ⟨hline, hline, hb.2⟩
    · split
      · simp only [List.forall_mem_cons]
        exact ⟨hline, hb.2⟩
      · simp only [List.forall_mem_cons]
        exact ⟨hc, hline, hb.2⟩
  · split
    · simp only [List.forall_mem_cons]
      exact ⟨hline, hb⟩
    · simp only [List.forall_mem_cons]
      exact ⟨hc, hb⟩

theorem legal_pushChar (hb : ∀ d ∈ b.reversed, isXmlChar d = true) (hc : isXmlChar c = true)
    (last : Bool) : ∀ d ∈ (b.pushChar c last).reversed, isXmlChar d = true := by
  unfold pushChar
  split
  · simp only [List.forall_mem_cons]
    exact ⟨hc, hb⟩
  · exact legal_push hb hc last

theorem legal_pushReference (hb : ∀ d ∈ b.reversed, isXmlChar d = true) (hc : isXmlChar c = true)
    (outermost last : Bool) :
    ∀ d ∈ (b.pushReference outermost c last).reversed, isXmlChar d = true := by
  unfold pushReference
  split
  · simp only [List.forall_mem_cons]
    exact ⟨hc, hb⟩
  · exact legal_push hb hc last

end TextBuffer

theorem legal_normalizeLines {s : List Char} (h : ∀ c ∈ s, isXmlChar c = true) :
    ∀ c ∈ normalizeLines s, isXmlChar c = true := by
  suffices hgo : ∀ (b : TextBuffer) (s : List Char), (∀ d ∈ b.reversed, isXmlChar d = true) →
      (∀ c ∈ s, isXmlChar c = true) → ∀ c ∈ normalizeLines.go b s, isXmlChar c = true from
    hgo .empty s (by simp [TextBuffer.empty]) h
  intro b s
  induction s generalizing b with
  | nil =>
    intro hb _
    simpa [normalizeLines.go, TextBuffer.chars] using hb
  | cons c s ih =>
    intro hb hs
    simp only [List.forall_mem_cons] at hs
    exact ih _ (TextBuffer.legal_pushChar hb hs.1 _) hs.2

/-! ## Trees -/

/-- A tree whose text holds characters of a document, and whose attributes hold admitted ones. -/
inductive Node.Clean (entities : List Entity) : Node → Prop where
  | text {s : String} (hs : Legal s) : Clean entities (.text s)
  | comment (s : String) : Clean entities (.comment s)
  | instruction (target data : String) : Clean entities (.instruction target data)
  | element {space : Option String} {name : String} {as : List Attribute} {cs : List Node}
      (has : ∀ a ∈ as, ∀ c ∈ a.value.toList, Admitted entities c)
      (hcs : ∀ t ∈ cs, Clean entities t) : Clean entities (.element space name as cs)

namespace Assembly

/-- A tree under construction that comes out clean. -/
structure Clean (entities : List Entity) (b : Assembly) : Prop where
  children : ∀ f ∈ b.frames, ∀ t ∈ f.children, t.Clean entities
  attributes : ∀ f ∈ b.frames, ∀ a ∈ f.attributes, ∀ c ∈ a.value.toList, Admitted entities c
  top : ∀ t ∈ b.top, t.Clean entities
  waiting : ∀ a ∈ b.waiting, ∀ c ∈ a.2.toList, Admitted entities c

namespace Clean

variable {b b' : Assembly} {enter : Assembly → List Char → Except Error Assembly}

theorem start (entities : List Entity) : Assembly.start.Clean entities := by
  constructor <;> simp [Assembly.start]

-- Namespaces and nesting do not matter.
theorem congr (hb : b.Clean entities) (hframes : b'.frames = b.frames) (htop : b'.top = b.top)
    (hwaiting : b'.waiting = b.waiting) : b'.Clean entities := by
  obtain ⟨hchildren, hattributes, hnodes, hvalues⟩ := hb
  rw [← hframes] at hchildren hattributes
  rw [← htop] at hnodes
  rw [← hwaiting] at hvalues
  exact ⟨hchildren, hattributes, hnodes, hvalues⟩

theorem add (hb : b.Clean entities) {t : Node} (ht : t.Clean entities) :
    (b.add t).Clean entities := by
  unfold Assembly.add
  split
  · rename_i f fs hframes
    obtain ⟨hchildren, hattributes, htop, hwaiting⟩ := hb
    simp only [hframes, List.forall_mem_cons] at hchildren hattributes
    refine ⟨?_, ?_, htop, hwaiting⟩ <;> simp only [List.forall_mem_cons]
    · exact ⟨⟨ht, hchildren.1⟩, hchildren.2⟩
    · exact hattributes
  · refine ⟨hb.children, hb.attributes, ?_, hb.waiting⟩
    simp only [List.forall_mem_cons]
    exact ⟨ht, hb.top⟩

theorem addText (hb : b.Clean entities) {s : List Char} (hs : ∀ c ∈ s, isXmlChar c = true) :
    (b.addText s).Clean entities := by
  unfold Assembly.addText
  split
  · exact hb
  · exact hb.add (.text (by rwa [Legal, String.toList_ofList]))

theorem declare (hb : b.Clean entities) {n : QName} {value : String}
    (hvalue : ∀ c ∈ value.toList, Admitted entities c) (h : b.declare n value = some b') :
    b'.Clean entities := by
  obtain ⟨-, -, rfl⟩ := (declare_eq_some_iff b ⟨n, value⟩).mp h
  refine ⟨hb.children, hb.attributes, hb.top, ?_⟩
  rw [List.forall_mem_append]
  refine ⟨hb.waiting, fun w hw => ?_⟩
  rw [Setting.eq_of_mem_waiting hw]
  exact hvalue

theorem takeAttributes (hb : b.Clean entities) {as : List (QName × List Char)}
    (has : ∀ a ∈ as, ∀ c ∈ a.2, isXmlChar c = true)
    (h : Assembly.takeAttributes entities b as = some b') : b'.Clean entities := by
  induction as generalizing b with
  | nil =>
    cases h
    exact hb
  | cons a as ih =>
    obtain ⟨n, raw⟩ := a
    simp only [List.forall_mem_cons] at has
    simp only [Assembly.takeAttributes, Option.bind_eq_bind, Option.bind_eq_some_iff] at h
    obtain ⟨⟨value, nesting⟩, hvalue, b₁, hdeclare, h⟩ := h
    have hadmitted := admitted_normalizeValue _ (fun c hc => .inl (has.1 c hc)) hvalue
    have hnested : ({ b with nesting } : Assembly).Clean entities := hb.congr rfl rfl rfl
    exact ih (hnested.declare (by rwa [String.toList_ofList]) hdeclare) has.2 h

end Clean

theorem admitted_resolve {ns : Namespaces} {as : List Attribute} {waiting : List (QName × String)}
    (hwaiting : ∀ w ∈ waiting, ∀ c ∈ w.2.toList, Admitted entities c)
    (h : resolve ns [] waiting = some as) : ∀ a ∈ as, ∀ c ∈ a.value.toList, Admitted entities c := by
  obtain ⟨-, rfl⟩ := resolve_nil_eq_some_iff.mp h
  intro a ha
  obtain ⟨w, hw, hresolved⟩ := List.mem_filterMap.mp ha
  obtain ⟨space, -, rfl⟩ := Option.map_eq_some_iff.mp hresolved
  exact hwaiting w hw

namespace Clean

variable {b b' : Assembly} {enter : Assembly → List Char → Except Error Assembly}

theorem settle (hb : b.Clean entities) {ns : Namespaces} {as : List Attribute}
    (h : b.settle = some (ns, as, b')) :
    b'.Clean entities ∧ ∀ a ∈ as, ∀ c ∈ a.value.toList, Admitted entities c := by
  simp only [Assembly.settle, Option.bind_eq_bind, Option.bind_eq_some_iff, Option.pure_def] at h
  obtain ⟨as', hresolve, h⟩ := h
  cases h
  exact ⟨⟨hb.children, hb.attributes, hb.top, by simp⟩,
    admitted_resolve hb.waiting hresolve⟩

theorem openTag (hb : b.Clean entities) {n : QName} {as : List (QName × List Char)}
    {ending : TagEnd} (has : ∀ a ∈ as, ∀ c ∈ a.2, isXmlChar c = true)
    (h : b.openTag entities n as ending = some b') : b'.Clean entities := by
  unfold Assembly.openTag at h
  split at h
  · cases h
  simp only [Option.bind_eq_bind, Option.bind_eq_some_iff, Option.pure_def] at h
  obtain ⟨b₁, htake, h⟩ := h
  have hseen : ({ b with tagSeen := true } : Assembly).Clean entities := hb.congr rfl rfl rfl
  have hb₁ := hseen.takeAttributes has htake
  cases ending with
  | missing =>
    cases h
    exact hb₁
  | content =>
    simp only [Option.bind_eq_some_iff] at h
    obtain ⟨⟨ns, as', b₂⟩, hsettle, space, -, h⟩ := h
    cases h
    obtain ⟨hb₂, has'⟩ := hb₁.settle hsettle
    refine ⟨?_, ?_, hb₂.top, hb₂.waiting⟩ <;> simp only [List.forall_mem_cons]
    · exact ⟨by simp, hb₂.children⟩
    · exact ⟨has', hb₂.attributes⟩
  | empty =>
    simp only [Option.bind_eq_some_iff] at h
    obtain ⟨⟨ns, as', b₂⟩, hsettle, space, -, h⟩ := h
    cases h
    obtain ⟨hb₂, has'⟩ := hb₁.settle hsettle
    exact hb₂.add (.element has' (by simp))

theorem closeTag (hb : b.Clean entities) {n : QName} (h : b.closeTag n = .ok b') :
    b'.Clean entities := by
  unfold Assembly.closeTag at h
  split at h
  · cases h
  split at h
  · cases h
  · rename_i ns as b₁ hsettle
    obtain ⟨hchildren, hattributes, htop, hwaiting⟩ := (hb.settle hsettle).1
    split at h
    · cases h
    · rename_i f fs hframes
      simp only [hframes, List.forall_mem_cons] at hchildren hattributes
      split at h
      · cases h
      · cases h
        have hbelow : ({ b₁ with frames := fs } : Assembly).Clean entities :=
          ⟨hchildren.2, hattributes.2, htop, hwaiting⟩
        exact hbelow.add (.element hattributes.1 (by simpa using hchildren.1))

theorem takeText (henter : ∀ b name b', b.Clean entities → enter b name = .ok b' →
      b'.Clean entities)
    (hb : b.Clean entities) {t : TextBuffer} (ht : ∀ d ∈ t.reversed, isXmlChar d = true)
    {rs : List Run} (hrs : ∀ r ∈ rs, r.Made fun c => isXmlChar c = true)
    (h : Assembly.takeText enter b t rs = .ok b') : b'.Clean entities := by
  have hchars {t : TextBuffer} (ht : ∀ d ∈ t.reversed, isXmlChar d = true) :
      ∀ c ∈ t.chars, isXmlChar c = true := by
    simpa [TextBuffer.chars] using ht
  induction rs generalizing b t with
  | nil =>
    cases h
    exact hb.addText (hchars ht)
  | cons r rs ih =>
    simp only [List.forall_mem_cons] at hrs
    obtain ⟨hr, hrs⟩ := hrs
    cases r with
    | char c => exact ih hb (TextBuffer.legal_pushChar ht hr _) hrs h
    | reference r =>
      cases r with
      | char c => exact ih hb (TextBuffer.legal_pushReference ht hr _ _) hrs h
      | entity name =>
        obtain ⟨b₁, hinside, h⟩ := exists_of_bind_ok h
        exact ih (henter _ _ _ (hb.addText (hchars ht)) hinside) (by simp [TextBuffer.empty]) hrs h
    | malformed => cases h

theorem take (henter : ∀ b name b', b.Clean entities → enter b name = .ok b' →
      b'.Clean entities)
    (hb : b.Clean entities) {t : Token} (ht : t.Legal)
    (h : Assembly.take entities enter b t = .ok b') : b'.Clean entities := by
  cases t with
  | startTag n as ending =>
    rw [Assembly.take] at h
    cases hopen : Assembly.openTag entities b n as ending with
    | none =>
      rw [hopen] at h
      cases h
    | some b₁ =>
      rw [hopen] at h
      cases h
      exact hb.openTag ht hopen
  | endTag n => exact hb.closeTag h
  | text raw => exact takeText henter hb (by simp [TextBuffer.empty]) (made_runsOf ht) h
  | cdata raw =>
    cases h
    exact hb.addText (legal_normalizeLines ht)
  | comment raw =>
    cases h
    exact hb.add (.comment _)
  | instruction target data =>
    cases h
    exact hb.add (.instruction _ _)
  | malformed => cases h

theorem foldlM_take (henter : ∀ b name b', b.Clean entities → enter b name = .ok b' →
      b'.Clean entities)
    (hb : b.Clean entities) {ts : List Token} (hts : ∀ t ∈ ts, t.Legal)
    (h : ts.foldlM (Assembly.take entities enter) b = .ok b') : b'.Clean entities := by
  induction ts generalizing b with
  | nil =>
    cases h
    exact hb
  | cons t ts ih =>
    simp only [List.forall_mem_cons] at hts
    obtain ⟨b₁, htake, h⟩ := exists_of_bind_ok h
    exact ih (take henter hb hts.1 htake) hts.2 h

/-- Legal tokens make a clean tree, through any number of entities. -/
theorem takeAll (levels : Nat) (hb : b.Clean entities) {ts : List Token}
    (hts : ∀ t ∈ ts, t.Legal) (h : Assembly.takeAll entities levels b ts = .ok b') :
    b'.Clean entities := by
  -- The content of an entity is legal whatever characters the entity has.
  induction levels generalizing b ts b' with
  | zero =>
    refine foldlM_take ?_ hb hts h
    intro b name b' _ henter
    cases henter
  | succ levels ih =>
    refine foldlM_take ?_ hb hts h
    intro b name b' hb henter
    split at henter
    · cases henter
    · rename_i value nesting hinside
      obtain ⟨b₁, htake, henter⟩ := exists_of_bind_ok henter
      cases henter
      have hstart : ({ b with nesting, tagSeen := false } : Assembly).Clean entities :=
        hb.congr rfl rfl rfl
      exact (ih hstart (Scan.scanned_legal.content _ _ _) htake).congr rfl rfl rfl

end Clean

end Assembly

/-- The tree of a document is clean. -/
theorem clean_read {s : List Char} {root : Node} (h : read s = .ok root) :
    root.Clean (Scan.document s).1 := by
  obtain ⟨b, htake, h⟩ := exists_of_bind_ok h
  have hb := (Assembly.Clean.start _).takeAll _ (Scan.scanned_legal.document s) htake
  split at h
  · cases hroot : b.top.reverse.find? Node.isElement with
    | none =>
      rw [hroot] at h
      cases h
    | some t =>
      rw [hroot] at h
      cases h
      exact hb.top root (List.mem_reverse.mp (List.mem_of_find?_eq_some hroot))
  · cases h

end FontCatalog.Xml
