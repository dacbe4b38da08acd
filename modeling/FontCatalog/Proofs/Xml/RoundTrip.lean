import FontCatalog.Proofs.Xml.Values

/-!
# Reading what was written

A plain element is read back from its text as it was.
-/

namespace FontCatalog.Xml

/-- An attribute before its name is resolved. -/
def Attribute.pending (a : Attribute) : QName × String := (.plain a.name, a.value)

/-! ## Plain names -/

theorem scope_plain_ne (name : String) : (QName.plain name).scope ≠ "xmlns".toList := by
  simp [QName.plain]

theorem ofList_base_plain (name : String) : String.ofList (QName.plain name).base = name :=
  String.ofList_toList

theorem ofElement_plain (name : String) : Namespaces.ofElement [] (.plain name) = some none := by
  simp [Namespaces.ofElement, QName.plain]

theorem ofAttribute_plain (name : String) :
    Namespaces.ofAttribute [] (.plain name) = some none := by
  simp [Namespaces.ofAttribute, QName.plain]

namespace Assembly

variable {b : Assembly} {entities : List Entity}
  {enter : Assembly → List Char → Except Error Assembly}

/-- Between the nodes of a document without entities and namespaces. -/
structure Between (b : Assembly) : Prop where
  declared : b.declared = []
  waiting : b.waiting = []
  nesting : b.nesting = .outermost
  tagSeen : b.tagSeen = true
  namespaces : ∀ f ∈ b.frames, f.namespaces = []

theorem between_start : start.Between := ⟨rfl, rfl, rfl, rfl, by simp [start]⟩

theorem Between.outer (h : b.Between) : b.outer = [] := by
  unfold Assembly.outer
  split
  · rename_i f fs hframes
    exact h.namespaces f (by simp [hframes])
  · rfl

theorem Between.add (h : b.Between) (t : Node) : (b.add t).Between := by
  unfold Assembly.add
  split
  · rename_i f fs hframes
    refine ⟨h.declared, h.waiting, h.nesting, h.tagSeen, ?_⟩
    intro g hg
    rcases List.mem_cons.mp hg with rfl | hg
    · exact h.namespaces f (by simp [hframes])
    · exact h.namespaces g (by simp [hframes, hg])
  · exact ⟨h.declared, h.waiting, h.nesting, h.tagSeen, h.namespaces⟩

/-- An assembly inside one more open element, with the children of it so far, last first. -/
def inside (b : Assembly) (name : String) (as : List Attribute) (children : List Node) : Assembly :=
  { b with frames := ⟨.plain name, none, as, [], children⟩ :: b.frames }

theorem Between.inside (h : b.Between) (name : String) (as : List Attribute)
    (children : List Node) : (b.inside name as children).Between := by
  refine ⟨h.declared, h.waiting, h.nesting, h.tagSeen, ?_⟩
  intro f hf
  rcases List.mem_cons.mp hf with rfl | hf
  · rfl
  · exact h.namespaces f hf

-- The nodes added inside an element are its children.
theorem foldl_add_inside (name : String) (as : List Attribute) (children ts : List Node) :
    ts.foldl add (b.inside name as children) = b.inside name as (ts.reverse ++ children) := by
  induction ts generalizing children with
  | nil => rfl
  | cons t ts ih =>
    have hadd : (b.inside name as children).add t = b.inside name as (t :: children) := rfl
    rw [List.foldl_cons, hadd, ih, List.reverse_cons, List.append_assoc, List.singleton_append]

/-! ## Tags -/

theorem declare_plain {a : Attribute} (h : a.Plain) :
    b.declare (.plain a.name) (String.ofList a.value.toList) =
      some { b with waiting := b.waiting ++ [a.pending] } := by
  have hbase : (QName.plain a.name).base ≠ "xmlns".toList := by
    intro hname
    exact h.not_xmlns (String.toList_inj.mp hname)
  rw [declare, if_neg (scope_plain_ne a.name), if_neg hbase, String.ofList_toList,
    Attribute.pending]

-- The attributes of a plain element wait as they were before they were escaped.
theorem takeAttributes_token {as : List Attribute} (has : ∀ a ∈ as, a.Plain)
    (hb : b.nesting = .outermost) :
    takeAttributes entities b (as.map Attribute.token) =
      some { b with waiting := b.waiting ++ as.map Attribute.pending } := by
  induction as generalizing b with
  | nil => simp [takeAttributes]
  | cons a as ih =>
    have ha := has a List.mem_cons_self
    have hvalue := normalizeValue_escape entities b.nesting.room a.value
    rw [← hb] at hvalue
    rw [List.map_cons, Attribute.token, takeAttributes, hvalue]
    simp only [Option.bind_eq_bind, Option.bind_some, declare_plain ha]
    rw [ih (b := { b with waiting := b.waiting ++ [a.pending] })
      (fun a ha => has a (List.mem_cons_of_mem _ ha)) hb]
    simp

-- Attributes with distinct names are resolved as they were.
theorem resolve_pending {as : List Attribute} (has : ∀ a ∈ as, a.Plain)
    (hdistinct : (as.map (·.name)).Nodup) (done : List Attribute)
    (hdone : ∀ d ∈ done, d.name ∉ as.map (·.name)) :
    resolve [] done (as.map Attribute.pending) = some (done.reverse ++ as) := by
  induction as generalizing done with
  | nil => simp [resolve]
  | cons a as ih =>
    obtain ⟨space, name, value⟩ := a
    obtain rfl : space = none := (has _ List.mem_cons_self).space
    have hnew : done.any (fun d => d.space == none && d.name == name) = false := by
      rw [List.any_eq_false]
      intro d hd
      have hne : d.name ≠ name := fun h => hdone d hd (by simp [h])
      simp [hne]
    rw [List.map_cons, List.nodup_cons] at hdistinct
    rw [List.map_cons, Attribute.pending, resolve, ofAttribute_plain]
    simp only [Option.bind_eq_bind, Option.bind_some, ofList_base_plain, hnew]
    rw [if_neg (by decide), ih (fun a ha => has a (List.mem_cons_of_mem _ ha)) hdistinct.2]
    · simp
    · intro d hd
      rcases List.mem_cons.mp hd with rfl | hd
      · exact hdistinct.1
      · exact fun h => hdone d hd (by simp [h])

-- A start tag settles into its attributes, outside all namespaces.
theorem Between.settle_pending (h : b.Between) {as : List Attribute} (has : ∀ a ∈ as, a.Plain)
    (hdistinct : (as.map (·.name)).Nodup) :
    { b with waiting := as.map Attribute.pending }.settle = some ([], as, b) := by
  have hresolve := resolve_pending has hdistinct [] (by simp)
  have houter : { b with waiting := as.map Attribute.pending }.outer = [] := h.outer
  have hb : { b with declared := [], waiting := [] } = b := by
    obtain ⟨frames, top, declared, waiting, nesting, tagSeen⟩ := b
    obtain rfl : declared = [] := h.declared
    obtain rfl : waiting = [] := h.waiting
    rfl
  rw [settle, houter, h.declared]
  simp [Namespaces.nest, hresolve, hb]

theorem Between.settle (h : b.Between) : b.settle = some ([], [], b) := by
  have hnone : ∀ a ∈ ([] : List Attribute), a.Plain := by simp
  have hsettle := h.settle_pending hnone List.nodup_nil
  rwa [List.map_nil, ← h.waiting] at hsettle

theorem Between.takeAttributes (h : b.Between) {as : List Attribute} (has : ∀ a ∈ as, a.Plain) :
    takeAttributes entities { b with tagSeen := true } (as.map Attribute.token) =
      some { b with waiting := as.map Attribute.pending } := by
  obtain ⟨frames, top, declared, waiting, nesting, tagSeen⟩ := b
  obtain rfl : waiting = [] := h.waiting
  obtain rfl : tagSeen = true := h.tagSeen
  rw [takeAttributes_token has h.nesting, List.nil_append]

theorem openTag_content {name : String} {as : List Attribute} (h : b.Between)
    (has : ∀ a ∈ as, a.Plain) (hdistinct : (as.map (·.name)).Nodup) :
    openTag entities b (.plain name) (as.map Attribute.token) .content =
      some (b.inside name as []) := by
  rw [openTag, if_neg (scope_plain_ne name), h.takeAttributes has]
  simp [h.settle_pending has hdistinct, ofElement_plain, inside]

theorem openTag_empty {name : String} {as : List Attribute} (h : b.Between)
    (has : ∀ a ∈ as, a.Plain) (hdistinct : (as.map (·.name)).Nodup) :
    openTag entities b (.plain name) (as.map Attribute.token) .empty =
      some (b.add (.element none name as [])) := by
  rw [openTag, if_neg (scope_plain_ne name), h.takeAttributes has]
  simp [h.settle_pending has hdistinct, ofElement_plain, ofList_base_plain]

theorem closeTag_inside (h : b.Between) (name : String) (as : List Attribute) (cs : List Node) :
    (b.inside name as cs.reverse).closeTag (.plain name) =
      .ok (b.add (.element none name as cs)) := by
  rw [closeTag, (h.inside name as cs.reverse).settle]
  simp only [Assembly.inside, h.tagSeen, Bool.not_true, Bool.false_eq_true, if_false, ne_eq,
    not_true_eq_false, ofList_base_plain, List.reverse_reverse]
  rw [← h.tagSeen]

/-! ## Trees -/

/-- Whether the tokens of a node add it as a child. -/
def Added (t : Node) : Prop :=
  ∀ (entities : List Entity) (enter : Assembly → List Char → Except Error Assembly) (b : Assembly),
    b.Between → t.tokens.foldlM (take entities enter) b = .ok (b.add t)

theorem foldlM_take_cons {b' : Assembly} {token : Token} (h : take entities enter b token = .ok b')
    (tokens : List Token) :
    (token :: tokens).foldlM (take entities enter) b = tokens.foldlM (take entities enter) b' := by
  rw [List.foldlM_cons, h]
  rfl

theorem foldlM_tokensAll {ts : List Node} (h : ∀ t ∈ ts, Added t) (entities : List Entity)
    (enter : Assembly → List Char → Except Error Assembly) (hb : b.Between) :
    (Node.tokensAll ts).foldlM (take entities enter) b = .ok (ts.foldl add b) := by
  induction ts generalizing b with
  | nil => rfl
  | cons t ts ih =>
    rw [Node.tokensAll, List.foldlM_append, h t List.mem_cons_self entities enter b hb]
    exact ih (fun t ht => h t (List.mem_cons_of_mem _ ht)) (hb.add t)

theorem added_text {s : String} (hs : s ≠ "") : Added (.text s) := by
  intro entities enter b hb
  have hescape : escapeText s = s.toList.flatMap (escapeChar textReferences) := rfl
  have hne : s.toList.isEmpty = false := by
    simpa [List.isEmpty_eq_false_iff] using hs
  have hchars : TextBuffer.empty.chars ++ s.toList = s.toList := rfl
  have htake : take entities enter b (.text (escapeText s)) = .ok (b.add (.text s)) := by
    rw [take, hescape, runsOf_escape faithful_text,
      takeText_escape (by rw [hb.nesting]; rfl) (Or.inr (by simp [TextBuffer.empty])), hchars,
      addText, hne, String.ofList_toList]
    rfl
  exact foldlM_take_cons htake []

theorem added_element {name : String} {as : List Attribute} {cs : List Node}
    (has : ∀ a ∈ as, a.Plain) (hdistinct : (as.map (·.name)).Nodup) (hcs : ∀ c ∈ cs, Added c) :
    Added (.element none name as cs) := by
  intro entities enter b hb
  cases cs with
  | nil =>
    have hopen : take entities enter b
        (.startTag (.plain name) (as.map Attribute.token) .empty) =
          .ok (b.add (.element none name as [])) := by
      rw [take, openTag_empty hb has hdistinct]
      rfl
    exact foldlM_take_cons hopen []
  | cons c cs =>
    have hopen : take entities enter b
        (.startTag (.plain name) (as.map Attribute.token) .content) =
          .ok (b.inside name as []) := by
      rw [take, openTag_content hb has hdistinct]
      rfl
    have hcontent := foldlM_tokensAll hcs entities enter (hb.inside name as [])
    rw [foldl_add_inside, List.append_nil] at hcontent
    have hclose : take entities enter (b.inside name as (c :: cs).reverse)
        (.endTag (.plain name)) = .ok (b.add (.element none name as (c :: cs))) := by
      rw [take, closeTag_inside hb name as (c :: cs)]
    rw [Node.tokens, foldlM_take_cons hopen, List.foldlM_append, hcontent]
    exact foldlM_take_cons hclose []

theorem added {t : Node} (h : t.Plain) : Added t := by
  induction h with
  | text hs h => exact added_text hs
  | element hname has hdistinct hcs hseparate ih => exact added_element has hdistinct ih

end Assembly

/-- A plain element is read back from its text. -/
theorem read_print {t : Node} (h : t.Plain) (helement : t.isElement = true) :
    read t.print = .ok t := by
  rw [read, Scan.document_print h helement]
  have hadd := Assembly.added h
  have hall : Assembly.takeAll [] Nesting.maxDepth .start t.tokens =
      .ok (Assembly.start.add t) := hadd [] _ _ Assembly.between_start
  simp only [hall]
  have hfind : [t].find? Node.isElement = some t := by simp [helement]
  change Option.elim ([t].find? Node.isElement) (Except.error Error.malformed) Except.ok = .ok t
  rw [hfind]
  rfl

end FontCatalog.Xml
