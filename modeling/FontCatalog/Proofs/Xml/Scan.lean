import FontCatalog.Proofs.Xml.Print
import Mathlib.Data.List.TakeWhile

/-!
# Scanning what was written

The tokens of a plain tree are read back from its text, whatever follows. Each token takes one unit
of the fuel that reading content has.
-/

namespace FontCatalog.Xml

variable {name s : String} {rest : List Char} {t : Node}

/-! ## Escaped text -/

theorem escapeText_ne_nil (hs : s ≠ "") : escapeText s ≠ [] := by
  obtain ⟨c, cs, hcons⟩ := List.exists_cons_of_ne_nil (mt String.toList_eq_nil_iff.mp hs)
  rw [escapeText, hcons, List.flatMap_cons, escapeChar]
  cases textReferences.lookup c with
  | some name => simp
  | none => simp

-- The characters of escaped text have a property if those of all references have it, and those
-- that need no reference.
theorem forall_mem_escape {references : List (Char × String)} {p : Char → Bool}
    (hamp : p '&' = true) (hsemicolon : p ';' = true)
    (hnames : (references.all fun r => r.2.toList.all p) = true)
    (hother : ∀ c ∈ s.toList, (∀ r ∈ references, c ≠ r.1) → p c = true) :
    ∀ c ∈ s.toList.flatMap (escapeChar references), p c = true := by
  intro c hc
  obtain ⟨x, hx, hc⟩ := List.mem_flatMap.mp hc
  unfold escapeChar at hc
  cases hlookup : references.lookup x with
  | some name =>
    obtain ⟨before, after, hreferences, -⟩ := List.lookup_eq_some_iff.mp hlookup
    have hmem : (x, name) ∈ references := by simp [hreferences]
    rw [hlookup, List.mem_cons, List.mem_append, List.mem_singleton] at hc
    rcases hc with rfl | hc | rfl
    · exact hamp
    · exact List.all_eq_true.mp (List.all_eq_true.mp hnames (x, name) hmem) c hc
    · exact hsemicolon
  | none =>
    rw [hlookup, List.mem_singleton] at hc
    subst hc
    exact hother c hx fun r hr => by simpa using List.lookup_eq_none_iff.mp hlookup r hr

theorem escapeText_chars (h : Legal s) :
    ∀ c ∈ escapeText s, isXmlChar c = true ∧ c ≠ '<' ∧ c ≠ '>' := by
  have hall : ∀ c ∈ escapeText s, (isXmlChar c && (c != '<' && c != '>')) = true := by
    apply forall_mem_escape (by decide) (by decide) (by decide)
    intro c hc hother
    have hlt : c ≠ '<' := hother ('<', "lt") (by simp [textReferences])
    have hgt : c ≠ '>' := hother ('>', "gt") (by simp [textReferences])
    simp [h c hc, hlt, hgt]
  intro c hc
  simpa using hall c hc

theorem escapeValue_chars (h : Legal s) :
    ∀ c ∈ escapeValue s, isXmlChar c = true ∧ c ≠ '<' ∧ c ≠ '"' := by
  have hall : ∀ c ∈ escapeValue s, (isXmlChar c && (c != '<' && c != '"')) = true := by
    apply forall_mem_escape (by decide) (by decide) (by decide)
    intro c hc hother
    have hlt : c ≠ '<' := hother ('<', "lt") (by simp [valueReferences, textReferences])
    have hquote : c ≠ '"' := hother ('"', "quot") (by simp [valueReferences, textReferences])
    simp [h c hc, hlt, hquote]
  intro c hc
  simpa using hall c hc

theorem length_le_length_flatMap {α β : Type} {f : α → List β} (h : ∀ a, 0 < (f a).length)
    (as : List α) : as.length ≤ (as.flatMap f).length := by
  induction as with
  | nil => exact Nat.le_refl 0
  | cons a as ih =>
    have ha := h a
    rw [List.flatMap_cons, List.length_append, List.length_cons]
    omega

namespace Scan

-- Characters are read up to the first one at which reading halts.
theorem chars_append {halt : List Char → Bool} {p : Char → Bool}
    (hhalt : ∀ c cs, halt (c :: cs) = p c) {body : List Char}
    (hbody : ∀ c ∈ body, isXmlChar c = true ∧ p c = false) {c : Char} (hc : isXmlChar c = true)
    (hp : p c = true) (rest : List Char) :
    chars halt (body ++ c :: rest) = some (body, c :: rest) := by
  induction body with
  | nil => simp [chars, hc, hhalt, hp]
  | cons x body ih =>
    obtain ⟨hx, hpx⟩ := hbody x List.mem_cons_self
    rw [List.cons_append, chars, ih fun y hy => hbody y (List.mem_cons_of_mem x hy)]
    simp [hx, hhalt, hpx]

/-! ## Tags -/

-- A plain name is read up to the first character that does not continue it.
theorem qname_append (h : PlainName name) (hrest : ∀ c ∈ rest.head?, isNameChar c = false) :
    qname (name.toList ++ rest) = some (.plain name, rest) := by
  have htake : rest.takeWhile isNameChar = [] := by
    cases rest with
    | nil => rfl
    | cons c cs => simp [hrest c rfl]
  have hdrop : rest.dropWhile isNameChar = rest := by
    cases rest with
    | nil => rfl
    | cons c cs => simp [hrest c rfl]
  have hbase : ∀ c ∈ name.toList, (c != ':') = true := by
    intro c hc
    rw [bne_iff_ne]
    rintro rfl
    exact h.no_colon hc
  have htakeBase : name.toList.takeWhile (· != ':') = name.toList :=
    List.takeWhile_eq_self_iff.mpr hbase
  have hdropBase : name.toList.dropWhile (· != ':') = [] :=
    List.dropWhile_eq_nil_iff.mpr hbase
  obtain ⟨c, cs, hname, hstart⟩ := h.start
  have hcolon : name.toList.contains ':' = false := by simpa using h.no_colon
  unfold qname
  simp only [List.takeWhile_append_of_pos h.chars, List.dropWhile_append_of_pos h.chars, htake,
    hdrop, List.append_nil, htakeBase, hdropBase, hcolon, Bool.false_or]
  rw [hname]
  simp [beginsName, hstart, QName.plain, hname]

theorem attributePair_append {a : Attribute} (h : a.Plain) (rest : List Char) :
    attributePair (a.name.toList ++ '=' :: '"' :: (escapeValue a.value ++ '"' :: rest)) =
      some (a.token, rest) := by
  have hvalue : quotedValue ('"' :: (escapeValue a.value ++ '"' :: rest)) =
      some (escapeValue a.value, rest) := by
    have hbody : ∀ c ∈ escapeValue a.value,
        isXmlChar c = true ∧ (c == '"' || c == '<') = false := by
      intro c hc
      obtain ⟨hxml, hlt, hquote⟩ := escapeValue_chars h.value c hc
      exact ⟨hxml, by simp [hlt, hquote]⟩
    have hchars : chars (fun u => u.head? == some '"' || u.head? == some '<')
        (escapeValue a.value ++ '"' :: rest) = some (escapeValue a.value, '"' :: rest) :=
      chars_append (fun c cs => by simp) hbody (by decide) (by decide) rest
    simp [quotedValue, hchars]
  have hname : qname (a.name.toList ++ '=' :: '"' :: (escapeValue a.value ++ '"' :: rest)) =
      some (.plain a.name, '=' :: '"' :: (escapeValue a.value ++ '"' :: rest)) :=
    qname_append h.name (by simp; decide)
  simp only [attributePair, hname, Option.bind_eq_bind, Option.bind_some]
  have heq : equals ('=' :: '"' :: (escapeValue a.value ++ '"' :: rest)) =
      some ('"' :: (escapeValue a.value ++ '"' :: rest)) := by
    simp [equals, skipBlank, Text.isXmlBlank]
  simp [heq, hvalue, Attribute.token]

-- No blank or markup character begins a name.
theorem ne_of_isNameStart {c d : Char} (h : isNameStart c = true)
    (hd : isNameStart d = false) : c ≠ d := by
  rintro rfl
  rw [h] at hd
  cases hd

theorem skipBlank_name (h : PlainName name) (s : List Char) :
    skipBlank (name.toList ++ s) = name.toList ++ s := by
  obtain ⟨c, cs, hname, hstart⟩ := h.start
  have hc : Text.isXmlBlank c = false := by
    simp only [Text.isXmlBlank, Bool.or_eq_false_iff, beq_eq_false_iff_ne]
    refine ⟨⟨⟨?_, ?_⟩, ?_⟩, ?_⟩ <;> exact ne_of_isNameStart hstart (by decide)
  rw [hname, List.cons_append, skipBlank, List.dropWhile_cons, if_neg (by simp [hc])]

theorem attributes_print {a : Attribute} (h : a.Plain) (fuel : Nat) (s : List Char) :
    attributes (fuel + 1) (a.print ++ s) =
      (attributes fuel s).map fun r => ((a.token :: r.1.1, r.1.2), r.2) := by
  have hpair := attributePair_append h s
  have hblank := skipBlank_name h.name ('=' :: '"' :: (escapeValue a.value ++ '"' :: s))
  obtain ⟨c, cs, hname, hstart⟩ := h.name.start
  rw [Attribute.print]
  simp only [List.cons_append, List.append_assoc, List.nil_append]
  rw [attributes]
  have hspace : skipBlank (' ' :: (a.name.toList ++ '=' :: '"' ::
        (escapeValue a.value ++ '"' :: s))) =
      skipBlank (a.name.toList ++ '=' :: '"' :: (escapeValue a.value ++ '"' :: s)) := rfl
  rw [hspace, hblank]
  -- The name begins with neither of the characters that end a tag.
  split
  · rename_i heq
    simp at heq
  · rename_i heq
    rw [hname, List.cons_append, List.cons.injEq] at heq
    exact absurd heq.1 (ne_of_isNameStart hstart (by decide))
  · rename_i heq
    rw [hname, List.cons_append, List.cons.injEq] at heq
    exact absurd heq.1 (ne_of_isNameStart hstart (by decide))
  · rw [if_neg (by decide), Option.bind_eq_bind]
    simp only [hpair, Option.bind_some, Option.bind_eq_bind]
    cases attributes fuel s with
    | none => rfl
    | some r => rfl

-- Each attribute takes one unit of fuel, and what follows the attributes the rest of it.
theorem attributes_append {as : List Attribute} (h : ∀ a ∈ as, a.Plain) (fuel : Nat)
    (s : List Char) :
    attributes (as.length + fuel) (as.flatMap Attribute.print ++ s) =
      (attributes fuel s).map fun r => ((as.map Attribute.token ++ r.1.1, r.1.2), r.2) := by
  induction as with
  | nil => simp
  | cons a as ih =>
    have htail := ih fun a ha => h a (List.mem_cons_of_mem _ ha)
    rw [List.length_cons, Nat.add_right_comm, List.flatMap_cons, List.append_assoc,
      attributes_print (h a List.mem_cons_self), htail, Option.map_map]
    rfl

-- A start tag that ends, with any text after it.
theorem startTag_append {as : List Attribute} (hname : PlainName name) (has : ∀ a ∈ as, a.Plain)
    {ending : TagEnd} (hending : ending ≠ .missing) (rest : List Char) :
    startTag (name.toList ++ (as.flatMap Attribute.print ++ (ending.print ++ rest))) =
      some (.startTag (.plain name) (as.map Attribute.token) ending, rest) := by
  have hhead : ∀ c ∈ (as.flatMap Attribute.print ++ (ending.print ++ rest)).head?,
      isNameChar c = false := by
    intro c hc
    cases as with
    | nil => cases ending <;> simp_all [TagEnd.print] <;> subst hc <;> decide
    | cons a as => simp [Attribute.print] at hc; subst hc; decide
  have hlength : as.length ≤ (as.flatMap Attribute.print ++ (ending.print ++ rest)).length := by
    have hpos : ∀ a : Attribute, 0 < a.print.length := fun a => by simp [Attribute.print]
    have hprint := length_le_length_flatMap hpos as
    rw [List.length_append]
    omega
  obtain ⟨fuel, hfuel⟩ := Nat.exists_eq_add_of_le hlength
  have hend : attributes (fuel + 1) (ending.print ++ rest) = some (([], ending), rest) := by
    cases ending with
    | content => rfl
    | empty => rfl
    | missing => exact absurd rfl hending
  simp only [startTag, qname_append hname hhead, Option.bind_eq_bind, Option.bind_some, hfuel,
    Nat.add_assoc, attributes_append has, hend]
  simp

theorem endTag_append (h : PlainName name) (rest : List Char) :
    endTag (name.toList ++ '>' :: rest) = some (.endTag (.plain name), rest) := by
  have hname : qname (name.toList ++ '>' :: rest) = some (.plain name, '>' :: rest) :=
    qname_append h (by simp; decide)
  simp [endTag, hname, skipBlank, Text.isXmlBlank]

/-! ## Content -/

/-- Tokens before those that a scan gives. -/
def prepend (ts : List Token) (r : List Token × List Char) : List Token × List Char :=
  (ts ++ r.1, r.2)

@[simp] theorem prepend_nil (r : List Token × List Char) : prepend [] r = r := rfl

@[simp] theorem prepend_prepend (ts ts' : List Token) (r : List Token × List Char) :
    prepend ts (prepend ts' r) = prepend (ts ++ ts') r := by
  rw [prepend, prepend, prepend, List.append_assoc]

theorem not_hasSectionEnd {body : List Char} (h : ∀ c ∈ body, c ≠ '>') :
    hasSectionEnd body = false := by
  induction body using hasSectionEnd.induct with
  | case1 cs => exact absurd rfl (h '>' (by simp))
  | case2 c cs _ ih =>
    rw [hasSectionEnd]
    · exact ih fun d hd => h d (List.mem_cons_of_mem c hd)
    · assumption
  | case3 => rfl

-- What does not begin with `<` is text.
theorem contentToken_of_ne {c : Char} (hc : c ≠ '<') (cs : List Char) :
    contentToken (c :: cs) = text (c :: cs) := by
  rw [contentToken] <;> intros <;> simp_all

-- What begins like a name after `<` is a start tag.
theorem contentToken_startTag {c : Char} (hc : isNameStart c = true) (cs : List Char) :
    contentToken ('<' :: c :: cs) = startTag (c :: cs) := by
  have hne : ∀ d, isNameStart d = false → c ≠ d := fun d hd => ne_of_isNameStart hc hd
  rw [contentToken]
  · rintro s ⟨⟩
    exact hne '!' (by decide) rfl
  · rintro s ⟨⟩
    exact hne '?' (by decide) rfl
  · rintro s ⟨⟩
    exact hne '/' (by decide) rfl
  · rintro ⟨⟩

-- Text is read up to the tag after it.
theorem contentToken_text (hs : s ≠ "") (h : Legal s) (rest : List Char) :
    contentToken (escapeText s ++ '<' :: rest) = some (.text (escapeText s), '<' :: rest) := by
  have hbody : ∀ c ∈ escapeText s, isXmlChar c = true ∧ (c == '<') = false := by
    intro c hc
    obtain ⟨hxml, hlt, -⟩ := escapeText_chars h c hc
    exact ⟨hxml, by simp [hlt]⟩
  have hchars : chars (fun u => u.head? == some '<') (escapeText s ++ '<' :: rest) =
      some (escapeText s, '<' :: rest) :=
    chars_append (fun c cs => by simp) hbody (by decide) (by decide) rest
  have hend : hasSectionEnd (escapeText s) = false :=
    not_hasSectionEnd fun c hc => (escapeText_chars h c hc).2.2
  obtain ⟨c, cs, hcons⟩ := List.exists_cons_of_ne_nil (escapeText_ne_nil hs)
  have hc := escapeText_chars h c (by simp [hcons])
  rw [hcons, List.cons_append, contentToken_of_ne hc.2.1, ← List.cons_append, ← hcons, text, hchars]
  simp [hend]

-- A start tag, with the tokens that follow it.
theorem content_printStart {as : List Attribute} (hname : PlainName name)
    (has : ∀ a ∈ as, a.Plain) {ending : TagEnd} (hending : ending ≠ .missing) (fuel depth : Nat)
    (rest : List Char) :
    content (fuel + 1) depth (printStart name as ending ++ rest) =
      prepend [.startTag (.plain name) (as.map Attribute.token) ending]
        (content fuel (if ending = .content then depth + 1 else depth) rest) := by
  obtain ⟨c, cs, hcons, hstart⟩ := hname.start
  have htoken := startTag_append hname has hending rest
  rw [hcons, List.cons_append] at htoken
  rw [printStart, hcons]
  simp only [List.cons_append, List.append_assoc]
  rw [content, contentToken_startTag hstart, htoken]
  · cases ending with
    | content => rfl
    | empty => rfl
    | missing => exact absurd rfl hending
  · simp

theorem content_printEnd (hname : PlainName name) (fuel depth : Nat) (rest : List Char) :
    content (fuel + 1) (depth + 1) (printEnd name ++ rest) =
      prepend [.endTag (.plain name)] (content fuel depth rest) := by
  rw [printEnd]
  simp only [List.cons_append, List.append_assoc, List.nil_append]
  rw [content, contentToken, endTag_append hname]
  · rfl
  · simp

-- The end tag that closes the content.
theorem content_printEnd_zero (hname : PlainName name) (fuel : Nat) (rest : List Char) :
    content (fuel + 1) 0 (printEnd name ++ rest) = ([.endTag (.plain name)], rest) := by
  rw [printEnd]
  simp only [List.cons_append, List.append_assoc, List.nil_append]
  rw [content, contentToken, endTag_append hname]
  simp

/-- A node is read back as its tokens. A text needs a tag after it. -/
def Readable (t : Node) : Prop :=
  ∀ (fuel depth : Nat) (rest : List Char), t.isElement = true ∨ rest.head? = some '<' →
    content (t.tokens.length + fuel) depth (t.print ++ rest) =
      prepend t.tokens (content fuel depth rest)

theorem head?_print (h : t.Plain) (helement : t.isElement = true) (rest : List Char) :
    (t.print ++ rest).head? = some '<' := by
  cases h with
  | text hs h => cases helement
  | @element name as cs hname has hdistinct hcs hseparate =>
    cases cs with
    | nil => rfl
    | cons c cs => rfl

-- Siblings are read back if each of them is and no two texts touch each other.
theorem content_printAll {ts : List Node} (hts : ∀ t ∈ ts, t.Plain) (hread : ∀ t ∈ ts, Readable t)
    (hseparate : ts.IsChain fun t t' => t.isElement = true ∨ t'.isElement = true)
    (fuel depth : Nat) {rest : List Char} (hrest : rest.head? = some '<') :
    content ((Node.tokensAll ts).length + fuel) depth (Node.printAll ts ++ rest) =
      prepend (Node.tokensAll ts) (content fuel depth rest) := by
  induction ts with
  | nil =>
    rw [Node.tokensAll, Node.printAll, prepend_nil, List.length_nil, Nat.zero_add, List.nil_append]
  | cons t ts ih =>
    have htail := ih (fun t ht => hts t (List.mem_cons_of_mem _ ht))
      (fun t ht => hread t (List.mem_cons_of_mem _ ht)) hseparate.tail
    have hnext : t.isElement = true ∨ (Node.printAll ts ++ rest).head? = some '<' := by
      cases ts with
      | nil => exact Or.inr hrest
      | cons t' ts =>
        apply (List.isChain_cons_cons.mp hseparate).1.imp id
        intro helement
        rw [Node.printAll, List.append_assoc]
        exact head?_print (hts t' (by simp)) helement _
    rw [Node.tokensAll, Node.printAll, List.length_append, Nat.add_assoc, List.append_assoc,
      hread t List.mem_cons_self _ _ _ hnext, htail, prepend_prepend]

theorem readable (h : t.Plain) : Readable t := by
  -- The induction is on the plain tree. An element without children is one tag only.
  induction h with
  | text hs h =>
    intro fuel depth rest hrest
    obtain ⟨rest, rfl⟩ : ∃ cs, rest = '<' :: cs := by
      cases rest with
      | nil => simp [Node.isElement] at hrest
      | cons c cs => simp_all [Node.isElement]
    rw [Node.tokens, Node.print, List.length_singleton, Nat.add_comm, content,
      contentToken_text hs h]
    · rfl
    · simp
  | @element name as cs hname has hdistinct hcs hseparate ih =>
    rintro fuel depth rest -
    cases cs with
    | nil =>
      rw [Node.tokens, Node.print, List.length_singleton, Nat.add_comm,
        content_printStart hname has (by decide)]
      rfl
    | cons c cs =>
      rw [Node.tokens, Node.print, List.length_cons, List.length_append, List.length_singleton,
        List.append_assoc, List.append_assoc, Nat.add_right_comm,
        content_printStart hname has (by decide), if_pos rfl, Nat.add_assoc, Nat.add_comm 1 fuel,
        content_printAll hcs ih hseparate _ _ rfl, content_printEnd hname, prepend_prepend,
        prepend_prepend]
      rfl

/-! ## Documents -/

theorem length_tokensAll_le {ts : List Node}
    (h : ∀ t ∈ ts, t.tokens.length ≤ t.print.length) :
    (Node.tokensAll ts).length ≤ (Node.printAll ts).length := by
  induction ts with
  | nil => exact Nat.le_refl 0
  | cons t ts ih =>
    have ht := h t List.mem_cons_self
    have hts := ih fun t ht => h t (List.mem_cons_of_mem _ ht)
    rw [Node.tokensAll, Node.printAll, List.length_append, List.length_append]
    omega

-- Every token takes a character.
theorem length_tokens_le (h : t.Plain) : t.tokens.length ≤ t.print.length := by
  induction h with
  | text hs h =>
    rw [Node.tokens, Node.print]
    exact List.length_pos_of_ne_nil (escapeText_ne_nil hs)
  | @element name as cs hname has hdistinct hcs hseparate ih =>
    cases cs with
    | nil =>
      rw [Node.tokens, Node.print, printStart]
      simp
    | cons c cs =>
      have hcontent := length_tokensAll_le ih
      rw [Node.tokens, Node.print, printStart, printEnd]
      simp only [List.length_cons, List.length_append]
      omega

/-- The tokens of a plain element are read back from its text after the `<`. -/
theorem element_print (h : t.Plain) (helement : t.isElement = true) :
    ∃ s, t.print = '<' :: s ∧ element s = (t.tokens, []) := by
  cases h with
  | text hs h => cases helement
  | @element name as cs hname has hdistinct hcs hseparate =>
    cases cs with
    | nil =>
      have htag := startTag_append hname has (show TagEnd.empty ≠ .missing by decide) []
      rw [List.append_nil] at htag
      refine ⟨_, rfl, ?_⟩
      rw [element, htag]
      rfl
    | cons c cs =>
      have htag := startTag_append hname has (show TagEnd.content ≠ .missing by decide)
        (Node.printAll (c :: cs) ++ printEnd name)
      have hlength := length_tokensAll_le fun t ht => length_tokens_le (hcs t ht)
      obtain ⟨fuel, hfuel⟩ := Nat.exists_eq_add_of_le hlength
      have hcontent := content_printAll hcs (fun t ht => readable (hcs t ht)) hseparate
        (fuel + (printEnd name).length + 1) 0 (show (printEnd name).head? = some '<' from rfl)
      have hend := content_printEnd_zero hname (fuel + (printEnd name).length) []
      rw [List.append_nil] at hend
      refine ⟨_, by rw [Node.print, printStart, List.cons_append], ?_⟩
      rw [List.append_assoc, List.append_assoc, element, htag]
      simp only
      rw [List.length_append, hfuel, Nat.add_assoc, Nat.add_assoc, ← Nat.add_assoc fuel, hcontent,
        hend]
      rfl

theorem exists_print (h : t.Plain) (helement : t.isElement = true) :
    ∃ c s, isNameStart c = true ∧ t.print = '<' :: c :: s := by
  cases h with
  | text hs h => cases helement
  | @element name as cs hname has hdistinct hcs hseparate =>
    obtain ⟨c, s, hcons, hstart⟩ := hname.start
    cases cs with
    | nil => exact ⟨c, _, hstart, by rw [Node.print, printStart, hcons, List.cons_append]⟩
    | cons d ds =>
      exact ⟨c, _, hstart, by rw [Node.print, printStart, hcons, List.cons_append,
        List.cons_append, List.cons_append]⟩

-- Nothing stands before a root element that begins the text.
theorem prologue_name {c : Char} (hc : isNameStart c = true) (s : List Char) :
    prologue ('<' :: c :: s) = some ([], '<' :: c :: s) := by
  have hquestion : ('?' == c) = false := by
    simpa using (ne_of_isNameStart hc (d := '?') (by decide)).symm
  have hbang : ('!' == c) = false := by
    simpa using (ne_of_isNameStart hc (d := '!') (by decide)).symm
  have hblank : skipBlank ('<' :: c :: s) = '<' :: c :: s := rfl
  have hmark : after "\uFEFF" ('<' :: c :: s) = none := rfl
  have hcomment : after "<!--" ('<' :: c :: s) = none := by
    simp [after, List.isPrefixOf?, hbang]
  have hdoctype : after "<!DOCTYPE" ('<' :: c :: s) = none := by
    simp [after, List.isPrefixOf?, hbang]
  have hinstruction : startsWith "<?" ('<' :: c :: s) = false := by
    simp [startsWith, List.isPrefixOf, hquestion]
  have hdeclaration : startsWith "<?xml " ('<' :: c :: s) = false := by
    simp [startsWith, List.isPrefixOf, hquestion]
  simp [prologue, hmark, hdeclaration, misc, hblank, hcomment, hinstruction, hdoctype]

/-- The text of a plain element is a document without a prologue. -/
theorem document_print (h : t.Plain) (helement : t.isElement = true) :
    document t.print = ([], t.tokens) := by
  obtain ⟨c, s, hc, hs⟩ := exists_print h helement
  obtain ⟨s', hs', htokens⟩ := element_print h helement
  obtain rfl : c :: s = s' := List.tail_eq_of_cons_eq (hs.symm.trans hs')
  have hroot : root ('<' :: c :: s) = t.tokens := by
    have hblank : skipBlank ('<' :: c :: s) = '<' :: c :: s := rfl
    rw [root, hblank]
    simp only [htokens]
    rfl
  rw [document, hs, prologue_name hc]
  simp only [hroot]

end Scan

end FontCatalog.Xml
