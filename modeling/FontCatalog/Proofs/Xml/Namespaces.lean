import FontCatalog.Proofs.Results
import FontCatalog.Xml.Assemble

/-!
# Names in their namespaces

What the attributes of a start tag declare, and how the names of the others resolve at its end. Of
the namespaces in force, the default one matters to no attribute. Whether the names resolve and are
distinct does not depend on the order of the attributes.
-/

namespace FontCatalog.Xml

namespace Namespaces

/-- The same namespaces, apart from the default one. -/
def Alike (ns ns' : Namespaces) : Prop := ∀ scope ≠ [], ns.lookup scope = ns'.lookup scope

variable {ns ns' ns'' own own' outer outer' : Namespaces}

namespace Alike

theorem refl (ns : Namespaces) : ns.Alike ns := fun _ _ => rfl

theorem symm (h : ns.Alike ns') : ns'.Alike ns := fun scope hscope => (h scope hscope).symm

theorem trans (h : ns.Alike ns') (h' : ns'.Alike ns'') : ns.Alike ns'' :=
  fun scope hscope => (h scope hscope).trans (h' scope hscope)

theorem append (h : own.Alike own') (houter : outer.Alike outer') :
    Alike (own ++ outer) (own' ++ outer') := by
  intro scope hscope
  rw [List.lookup_append, List.lookup_append, h scope hscope, houter scope hscope]

end Alike

theorem lookup_nest (own outer : Namespaces) (scope : List Char) :
    (nest own outer).lookup scope = (own.lookup scope).or (outer.lookup scope) := by
  rw [nest, List.lookup_append]
  cases hown : own.lookup scope with
  | some uri => rfl
  | none =>
    rw [Option.none_or, Option.none_or]
    -- What is left out of the outer scopes is not this one.
    induction outer with
    | nil => rfl
    | cons d outer ih =>
      obtain ⟨first, uri⟩ := d
      by_cases hfirst : scope = first
      · subst hfirst
        rw [List.filter_cons_of_pos (by simpa using hown), List.lookup_cons_self,
          List.lookup_cons_self]
      · have hne : (scope == first) = false := beq_false_of_ne hfirst
        rw [List.lookup_cons, hne]
        by_cases hinner : (own.lookup first).isNone = true
        · rw [List.filter_cons_of_pos (by exact hinner), List.lookup_cons, hne]
          exact ih
        · rw [List.filter_cons_of_neg (by exact hinner)]
          exact ih

namespace Alike

theorem nest (h : own.Alike own') (houter : outer.Alike outer') :
    (nest own outer).Alike (Namespaces.nest own' outer') := by
  intro scope hscope
  rw [lookup_nest, lookup_nest, h scope hscope, houter scope hscope]

theorem ofAttribute (h : ns.Alike ns') (n : QName) : ns.ofAttribute n = ns'.ofAttribute n := by
  unfold Namespaces.ofAttribute
  split
  · rfl
  split
  · rfl
  · rename_i hscope
    rw [h n.scope (by simpa using hscope)]

-- The name of an element resolves in both, but without a scope not always to the same.
theorem ofElement (h : ns.Alike ns') (n : QName) :
    Option.Rel (fun _ _ => True) (ns.ofElement n) (ns'.ofElement n) := by
  unfold Namespaces.ofElement
  by_cases hscope : n.scope = []
  · cases ns.lookup n.scope <;> cases ns'.lookup n.scope <;> simp [hscope]
  · rw [h n.scope hscope]
    cases ns'.lookup n.scope <;> simp [hscope]

end Alike

end Namespaces

/-! ## Declarations -/

namespace Assembly

/-- An attribute with its value. -/
structure Setting where
  name : QName
  value : String

/-- The namespaces that an attribute declares. -/
def Setting.declared (x : Setting) : Namespaces :=
  if x.name.scope = "xmlns".toList then
    if x.value = Namespaces.xmlUri then [] else [(x.name.base, x.value)]
  else if x.name.base = "xmlns".toList then [([], x.value)]
  else []

/-- The attribute, if it waits for the end of the tag. -/
def Setting.waiting (x : Setting) : List (QName × String) :=
  if x.name.scope = "xmlns".toList ∨ x.name.base = "xmlns".toList then [] else [(x.name, x.value)]

/-- A declaration leaves the namespaces of XML as they are. -/
def Setting.Allowed (x : Setting) : Prop :=
  if x.name.scope = "xmlns".toList then
    x.value ≠ Namespaces.xmlnsUri ∧ (x.name.base = "xml".toList ↔ x.value = Namespaces.xmlUri)
  else if x.name.base = "xmlns".toList then
    x.value ≠ Namespaces.xmlUri ∧ x.value ≠ Namespaces.xmlnsUri
  else True

variable {x y : Setting}

theorem Setting.eq_of_mem_waiting {w : QName × String} (h : w ∈ x.waiting) :
    w = (x.name, x.value) := by
  unfold waiting at h
  split at h
  · cases h
  · exact List.mem_singleton.mp h

/-- What an attribute of a start tag leaves behind. -/
theorem declare_eq_some_iff (b : Assembly) (x : Setting) {b' : Assembly} :
    b.declare x.name x.value = some b' ↔
      x.Allowed ∧ (x.name.scope = "xmlns".toList → b.declared.lookup x.name.base = none) ∧
        b' = { b with
          declared := b.declared ++ x.declared, waiting := b.waiting ++ x.waiting } := by
  obtain ⟨n, value⟩ := x
  simp only [declare, Setting.Allowed, Setting.declared, Setting.waiting]
  by_cases hscope : n.scope = "xmlns".toList
  · simp only [if_pos hscope, if_pos (Or.inl hscope), Option.ite_none_left_eq_some, ne_eq, not_not,
      eq_iff_iff, Option.not_isSome_iff_eq_none, and_assoc, forall_prop_of_true hscope,
      List.append_nil]
    by_cases hvalue : value = Namespaces.xmlUri
    · simp only [if_pos hvalue, List.append_nil, Option.some_inj, eq_comm (b := b')]
    · simp only [if_neg hvalue, Option.some_inj, eq_comm (b := b')]
  · simp only [hscope, if_false, false_or, false_imp_iff, true_and]
    by_cases hbase : n.base = "xmlns".toList
    · simp only [if_pos hbase, Option.ite_none_left_eq_some, not_or, List.append_nil,
        Option.some_inj, eq_comm (b := b')]
    · simp only [if_neg hbase, List.append_nil, Option.some_inj, eq_comm (b := b'), true_and]

-- Only a declaration by a scope declares a namespace other than the default one.
theorem Setting.lookup_declared_eq_some {scope : List Char} {uri : String} (hscope : scope ≠ [])
    (h : x.declared.lookup scope = some uri) :
    x.name.scope = "xmlns".toList ∧ scope = x.name.base ∧ x.value ≠ Namespaces.xmlUri := by
  unfold declared at h
  split at h
  · rename_i hxmlns
    split at h
    · cases h
    · rename_i hvalue
      have hbase : scope = x.name.base := by
        by_contra hne
        rw [List.lookup_cons, beq_false_of_ne hne] at h
        cases h
      exact ⟨hxmlns, hbase, hvalue⟩
  · split at h
    · rw [List.lookup_cons, beq_false_of_ne hscope] at h
      cases h
    · cases h

-- If the second of two declarations is none of the scope of the first, then neither the first is
-- one of the scope of the second.
theorem Setting.Allowed.lookup_symm (hx : x.Allowed) (hy : y.Allowed) (hbase : x.name.base ≠ [])
    (hxmlns : x.name.scope = "xmlns".toList) (h : y.name.scope = "xmlns".toList →
      x.declared.lookup y.name.base = none) : y.declared.lookup x.name.base = none := by
  by_contra hsome
  obtain ⟨uri, huri⟩ := Option.ne_none_iff_exists'.mp hsome
  obtain ⟨hyxmlns, hsame, hyvalue⟩ := lookup_declared_eq_some hbase huri
  rw [Allowed, if_pos hxmlns] at hx
  rw [Allowed, if_pos hyxmlns, ← hsame] at hy
  have hxvalue : x.value ≠ Namespaces.xmlUri := fun hvalue => hyvalue (hy.2.mp (hx.2.mpr hvalue))
  have hnone := h hyxmlns
  rw [← hsame, declared, if_pos hxmlns, if_neg hxvalue, List.lookup_cons_self] at hnone
  cases hnone

end Assembly

/-! ## Attributes -/

/-- Attributes with different names, or with the same name in different namespaces. -/
def Attribute.Distinct (a a' : Attribute) : Prop := ¬ (a.space = a'.space ∧ a.name = a'.name)

theorem Attribute.Distinct.symm {a a' : Attribute} (h : a.Distinct a') : a'.Distinct a :=
  fun ⟨hspace, hname⟩ => h ⟨hspace.symm, hname.symm⟩

namespace Assembly

variable {ns ns' : Namespaces} {waiting waiting' : List (QName × String)}

-- A waiting attribute with its name resolved.
def resolved (ns : Namespaces) (w : QName × String) : Option Attribute :=
  (ns.ofAttribute w.1).map fun space => ⟨space, String.ofList w.1.base, w.2⟩

/-- All names resolve, and no two to the same. -/
structure Resolves (ns : Namespaces) (waiting : List (QName × String)) : Prop where
  isSome : ∀ w ∈ waiting, (resolved ns w).isSome = true
  distinct : (waiting.filterMap (resolved ns)).Pairwise Attribute.Distinct

theorem resolves_cons {w : QName × String} {a : Attribute} (hw : resolved ns w = some a) :
    Resolves ns (w :: waiting) ↔
      (∀ a' ∈ waiting.filterMap (resolved ns), a.Distinct a') ∧ Resolves ns waiting := by
  constructor
  · rintro ⟨hsome, hdistinct⟩
    rw [List.filterMap_cons_some hw, List.pairwise_cons] at hdistinct
    exact ⟨hdistinct.1, fun w' hw' => hsome w' (List.mem_cons_of_mem w hw'), hdistinct.2⟩
  · rintro ⟨hfirst, hsome, hdistinct⟩
    refine ⟨List.forall_mem_cons.mpr ⟨by rw [hw]; rfl, hsome⟩, ?_⟩
    rw [List.filterMap_cons_some hw]
    exact hdistinct.cons hfirst

theorem resolve_eq_some_iff {done as : List Attribute} :
    resolve ns done waiting = some as ↔
      Resolves ns waiting ∧ (∀ d ∈ done, ∀ a ∈ waiting.filterMap (resolved ns), d.Distinct a) ∧
        as = done.reverse ++ waiting.filterMap (resolved ns) := by
  induction waiting generalizing done with
  | nil =>
    rw [resolve, Option.some_inj, List.filterMap_nil, List.append_nil, eq_comm]
    exact ⟨fun h => ⟨⟨by simp, .nil⟩, by simp, h⟩, fun h => h.2.2⟩
  | cons w waiting ih =>
    obtain ⟨n, value⟩ := w
    rw [resolve]
    cases hspace : ns.ofAttribute n with
    | none =>
      have hw : resolved ns (n, value) = none := by simp [resolved, hspace]
      refine ⟨fun h => (nomatch h), fun ⟨hresolves, _, _⟩ => ?_⟩
      have hsome := hresolves.isSome _ List.mem_cons_self
      rw [hw] at hsome
      cases hsome
    | some space =>
      let a : Attribute := ⟨space, String.ofList n.base, value⟩
      have hw : resolved ns (n, value) = some a := by simp [resolved, hspace, a]
      have hclash : (done.any fun d => d.space == space && d.name == String.ofList n.base) = true ↔
          ¬ (∀ d ∈ done, d.Distinct a) := by
        simp [Attribute.Distinct, a]
      rw [Option.bind_eq_bind, Option.bind_some, resolves_cons hw, List.filterMap_cons_some hw]
      simp only [List.forall_mem_cons]
      by_cases hdone : ∀ d ∈ done, d.Distinct a
      · rw [if_neg (fun h => hclash.mp h hdone), ih, List.forall_mem_cons, List.reverse_cons,
          List.append_assoc, List.singleton_append]
        constructor
        · rintro ⟨hresolves, ⟨hfirst, hrest⟩, has⟩
          exact ⟨⟨hfirst, hresolves⟩, fun d hd => ⟨hdone d hd, hrest d hd⟩, has⟩
        · rintro ⟨⟨hfirst, hresolves⟩, hrest, has⟩
          exact ⟨hresolves, ⟨hfirst, fun d hd => (hrest d hd).2⟩, has⟩
      · rw [if_pos (hclash.mpr hdone)]
        exact ⟨fun h => (nomatch h), fun ⟨_, hrest, _⟩ => absurd (fun d hd => (hrest d hd).1) hdone⟩

theorem resolve_nil_eq_some_iff {as : List Attribute} :
    resolve ns [] waiting = some as ↔
      Resolves ns waiting ∧ as = waiting.filterMap (resolved ns) := by
  simp [resolve_eq_some_iff]

theorem resolved_eq (h : ns.Alike ns') : resolved ns = resolved ns' := by
  funext w
  rw [resolved, resolved, h.ofAttribute]

theorem Resolves.reorder (h : Resolves ns waiting) (hns : ns.Alike ns')
    (hwaiting : waiting.Perm waiting') : Resolves ns' waiting' := by
  obtain ⟨hsome, hdistinct⟩ := h
  rw [resolved_eq hns] at hsome hdistinct
  refine ⟨fun w hw => hsome w (hwaiting.mem_iff.mpr hw), ?_⟩
  exact ((hwaiting.filterMap _).pairwise_iff Attribute.Distinct.symm).mp hdistinct

/-- Attributes in another order resolve to the same ones in another order. -/
theorem resolve_reorder (hns : ns.Alike ns') (hwaiting : waiting.Perm waiting') :
    Option.Rel List.Perm (resolve ns [] waiting) (resolve ns' [] waiting') := by
  by_cases h : Resolves ns waiting
  · rw [resolve_nil_eq_some_iff.mpr ⟨h, rfl⟩,
      resolve_nil_eq_some_iff.mpr ⟨h.reorder hns hwaiting, rfl⟩, resolved_eq hns]
    exact .some (hwaiting.filterMap _)
  · have h' : ¬ Resolves ns' waiting' := fun h' => h (h'.reorder hns.symm hwaiting.symm)
    rw [Option.eq_none_iff_forall_ne_some.mpr fun as has => h (resolve_nil_eq_some_iff.mp has).1,
      Option.eq_none_iff_forall_ne_some.mpr fun as has => h' (resolve_nil_eq_some_iff.mp has).1]
    exact .none

end Assembly

end FontCatalog.Xml
