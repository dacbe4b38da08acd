import FontCatalog.Xml.Assemble

/-!
# Characters and names that tokens hold

Attribute values and text are scanned one character at a time, and only characters of a document are
let through. A name is scanned only if something stands after its scope. So the tokens of any text,
also of that of an entity, hold no other characters, and their attributes have names.
-/

namespace FontCatalog.Xml

/-- The value of every attribute and all text has characters of a document only. -/
def Token.Legal : Token → Prop
  | .startTag _ attributes _ => ∀ a ∈ attributes, ∀ c ∈ a.2, isXmlChar c = true
  | .text raw => ∀ c ∈ raw, isXmlChar c = true
  | .cdata raw => ∀ c ∈ raw, isXmlChar c = true
  | _ => True

/-- Every attribute has a name apart from its scope. -/
def Token.Named : Token → Prop
  | .startTag _ attributes _ => ∀ a ∈ attributes, a.1.base ≠ []
  | _ => True

/-- A token without attributes, and with characters of a document only. -/
def Token.Bare : Token → Prop
  | .startTag .. => False
  | t => t.Legal

theorem Token.Bare.named {t : Token} (h : t.Bare) : t.Named := by
  cases t with
  | startTag n as ending => exact h.elim
  | _ => trivial

theorem Token.Bare.legal {t : Token} (h : t.Bare) : t.Legal := by
  cases t with
  | startTag n as ending => exact h.elim
  | _ => exact h

namespace Scan

variable {s rest : List Char} {t : Token} {ts : List Token}

theorem legal_chars {halt : List Char → Bool} {taken : List Char}
    (h : chars halt s = some (taken, rest)) : ∀ c ∈ taken, isXmlChar c = true := by
  induction s generalizing taken rest with
  | nil =>
    obtain ⟨rfl, rfl⟩ : [] = taken ∧ [] = rest := by simpa [chars] using h
    simp
  | cons d s ih =>
    rw [chars] at h
    split at h
    · cases h
    · rename_i hd
      split at h
      · cases h
        simp
      · obtain ⟨⟨more, left⟩, hmore, hsplit⟩ := Option.map_eq_some_iff.mp h
        cases hsplit
        simp only [List.forall_mem_cons]
        exact ⟨by simpa using hd, ih hmore⟩

theorem legal_quotedValue {value : List Char} (h : quotedValue s = some (value, rest)) :
    ∀ c ∈ value, isXmlChar c = true := by
  unfold quotedValue at h
  split at h
  · rename_i q u
    split at h
    · split at h
      · rename_i value' d rest' hchars
        split at h
        · cases h
          exact legal_chars hchars
        · cases h
      · cases h
    · cases h
  · cases h

theorem legal_attributePair {n : QName} {value : List Char}
    (h : attributePair s = some ((n, value), rest)) : ∀ c ∈ value, isXmlChar c = true := by
  simp only [attributePair, Option.bind_eq_bind, Option.bind_eq_some_iff, Option.pure_def] at h
  obtain ⟨⟨n', s₁⟩, -, s₂, -, ⟨value', s₃⟩, hvalue, h⟩ := h
  cases h
  exact legal_quotedValue hvalue

theorem qname_base_ne {n : QName} (h : qname s = some (n, rest)) : n.base ≠ [] := by
  simp only [qname, Option.ite_none_left_eq_some] at h
  obtain ⟨hgood, h⟩ := h
  cases h
  intro hbase
  simp only [Bool.or_eq_true, not_or, List.isEmpty_iff] at hgood
  exact hgood.1.1.2 hbase

theorem attributePair_base_ne {a : QName × List Char} (h : attributePair s = some (a, rest)) :
    a.1.base ≠ [] := by
  simp only [attributePair, Option.bind_eq_bind, Option.bind_eq_some_iff, Option.pure_def] at h
  obtain ⟨⟨n, s₁⟩, hname, s₂, -, ⟨value, s₃⟩, -, h⟩ := h
  cases h
  exact qname_base_ne hname

/-- What holds of every pair that is scanned holds of the attributes of a tag. -/
theorem forall_attributes {P : QName × List Char → Prop}
    (hP : ∀ s a rest, attributePair s = some (a, rest) → P a) {fuel : Nat}
    {as : List (QName × List Char)} {ending : TagEnd}
    (h : attributes fuel s = some ((as, ending), rest)) : ∀ a ∈ as, P a := by
  induction fuel generalizing s as ending rest with
  | zero => cases h
  | succ fuel ih =>
    cases s with
    | nil =>
      cases h
      simp
    | cons c cs =>
      rw [attributes] at h
      split at h
      · cases h
      · split at h
        · cases h
          simp
        · cases h
      · cases h
        simp
      · split at h
        · cases h
        · simp only [Option.bind_eq_bind, Option.bind_eq_some_iff, Option.pure_def] at h
          obtain ⟨⟨a, s₁⟩, ha, ⟨⟨more, ending'⟩, s₂⟩, hmore, h⟩ := h
          cases h
          simp only [List.forall_mem_cons]
          exact ⟨hP _ _ _ ha, ih hmore⟩

theorem legal_startTag (h : startTag s = some (t, rest)) : t.Legal := by
  simp only [startTag, Option.bind_eq_bind, Option.bind_eq_some_iff, Option.pure_def] at h
  obtain ⟨⟨n, s₁⟩, -, ⟨⟨as, ending⟩, s₂⟩, hattributes, h⟩ := h
  cases h
  exact forall_attributes (fun _ _ _ => legal_attributePair) hattributes

theorem named_startTag (h : startTag s = some (t, rest)) : t.Named := by
  simp only [startTag, Option.bind_eq_bind, Option.bind_eq_some_iff, Option.pure_def] at h
  obtain ⟨⟨n, s₁⟩, -, ⟨⟨as, ending⟩, s₂⟩, hattributes, h⟩ := h
  cases h
  exact forall_attributes (fun _ _ _ => attributePair_base_ne) hattributes

theorem bare_text (h : text s = some (t, rest)) : t.Bare := by
  simp only [text, Option.bind_eq_bind, Option.bind_eq_some_iff, Option.pure_def] at h
  obtain ⟨⟨body, s₁⟩, hchars, h⟩ := h
  split at h
  · cases h
  · cases h
    exact legal_chars hchars

theorem bare_cdata (h : cdata s = some (t, rest)) : t.Bare := by
  simp only [cdata, Option.bind_eq_bind, Option.bind_eq_some_iff, Option.pure_def] at h
  obtain ⟨⟨body, s₁⟩, hchars, s₂, -, h⟩ := h
  cases h
  exact legal_chars hchars

theorem bare_comment (h : comment s = some (t, rest)) : t.Bare := by
  simp only [comment, Option.bind_eq_bind, Option.bind_eq_some_iff, Option.pure_def] at h
  obtain ⟨⟨body, s₁⟩, -, s₂, -, h⟩ := h
  split at h
  · cases h
  · cases h
    trivial

theorem bare_instruction (h : instruction s = some (t, rest)) : t.Bare := by
  unfold instruction at h
  split at h
  · cases h
  · simp only [Option.bind_eq_bind, Option.bind_eq_some_iff, Option.pure_def] at h
    obtain ⟨⟨target, s₁⟩, -, ⟨data, s₂⟩, -, s₃, -, h⟩ := h
    cases h
    trivial

theorem bare_endTag (h : endTag s = some (t, rest)) : t.Bare := by
  simp only [endTag, Option.bind_eq_bind, Option.bind_eq_some_iff, Option.pure_def] at h
  obtain ⟨⟨n, s₁⟩, -, h⟩ := h
  split at h
  · cases h
    trivial
  · cases h

-- Content has attributes in its start tags only.
theorem contentToken_cases (h : contentToken s = some (t, rest)) :
    (∃ s', startTag s' = some (t, rest)) ∨ t.Bare := by
  unfold contentToken at h
  split at h
  · split at h
    · exact .inr (bare_comment h)
    · split at h
      · exact .inr (bare_cdata h)
      · cases h
  · exact .inr (bare_instruction h)
  · exact .inr (bare_endTag h)
  · cases h
  · exact .inl ⟨_, h⟩
  · exact .inr (bare_text h)

/-! ## All tokens -/

/-- A property of every token that is scanned, and of the one that stands where none can be. -/
structure Scanned (P : Token → Prop) : Prop where
  startTag : ∀ s t rest, startTag s = some (t, rest) → P t
  contentToken : ∀ s t rest, contentToken s = some (t, rest) → P t
  malformed : P .malformed

namespace Scanned

variable {P : Token → Prop}

theorem content (hP : Scanned P) (fuel depth : Nat) (s : List Char) :
    ∀ t ∈ (content fuel depth s).1, P t := by
  induction fuel generalizing depth s with
  | zero => simpa [Scan.content] using hP.malformed
  | succ fuel ih =>
    cases s with
    | nil => simp [Scan.content]
    | cons c cs =>
      rw [Scan.content]
      · split
        · simpa using hP.malformed
        · rename_i t rest htoken
          simp only [List.forall_mem_cons]
          refine ⟨hP.contentToken _ _ _ htoken, ?_⟩
          split
          · simp
          · exact ih _ _
          · exact ih _ _
          · exact ih _ _
      · simp

theorem element (hP : Scanned P) (s : List Char) : ∀ t ∈ (element s).1, P t := by
  unfold Scan.element
  split
  · simpa using hP.malformed
  · rename_i t rest htag
    have ht := hP.startTag _ _ _ htag
    split
    · simp only [List.forall_mem_cons]
      exact ⟨ht, hP.content _ _ _⟩
    · simpa using ht

theorem root (hP : Scanned P) (s : List Char) : ∀ t ∈ root s, P t := by
  unfold Scan.root
  split
  rename_i tokens rest htokens
  have hall : ∀ t ∈ tokens, P t := by
    split at htokens
    · have htokens : (Scan.element _).1 = tokens := congrArg Prod.fst htokens
      rw [← htokens]
      exact hP.element _
    · cases htokens
      simp
  split
  · exact hall
  · rw [List.forall_mem_append, List.forall_mem_singleton]
    exact ⟨hall, hP.malformed⟩

theorem document (hP : Scanned P) (s : List Char) : ∀ t ∈ (document s).2, P t := by
  unfold Scan.document
  split
  · exact hP.root _
  · simpa using hP.malformed

end Scanned

/-- Every token that is scanned is legal. -/
theorem scanned_legal : Scanned Token.Legal where
  startTag := fun _ _ _ => legal_startTag
  contentToken := by
    intro s t rest h
    rcases contentToken_cases h with ⟨_, h⟩ | hbare
    · exact legal_startTag h
    · exact hbare.legal
  malformed := trivial

/-- Every token that is scanned has names for its attributes. -/
theorem scanned_named : Scanned Token.Named where
  startTag := fun _ _ _ => named_startTag
  contentToken := by
    intro s t rest h
    rcases contentToken_cases h with ⟨_, h⟩ | hbare
    · exact named_startTag h
    · exact hbare.named
  malformed := trivial

end Scan

end FontCatalog.Xml
