import FontCatalog.Xml.Tree
import Mathlib.Data.List.Nodup

/-!
# Elements of a tree by their addresses

The address of an element says which child to follow from the root on, where only elements count.
The addresses of all elements in document order are those in lexicographic order, so the place of an
address in this list is the number of its element in document order.
-/

namespace FontCatalog.Xml.Node

/-! ## Views of a node -/

def name : Node → String
  | .element _ name _ _ => name
  | _ => ""

/-- The attributes of an element by their names after any scope. -/
def attributes : Node → List (String × String)
  | .element _ _ attributes _ => attributes.map fun a => (a.name, a.value)
  | _ => []

def children : Node → List Node
  | .element _ _ _ children => children
  | _ => []

/-- The value of the first attribute with a key. -/
def attribute? (key : String) : Node → Option String
  | .element _ _ attributes _ => (attributes.map fun a => (a.name, a.value)).lookup key
  | _ => none

/-- The text directly inside an element. -/
def ownText (t : Node) : String := String.ofList (t.children.flatMap directText)

/-- The child elements with a name. -/
def named (t : Node) (tag : String) : List Node :=
  (t.children.filter isElement).filter (·.name == tag)

/-! ## Addresses -/

/-- The element at an address below a node. -/
def at? (t : Node) : List Nat → Option Node
  | [] => some t
  | i :: rest => (t.children.filter isElement)[i]?.bind fun c => c.at? rest

mutual

/-- The addresses of the elements of a tree in document order. -/
def addresses : Node → List (List Nat)
  | .element _ _ _ children => [] :: addressesBelow 0 children
  | _ => []

/-- The addresses of the elements among some siblings and below them. The first element among the
siblings has the place `slot`. -/
def addressesBelow (slot : Nat) : List Node → List (List Nat)
  | [] => []
  | t :: ts =>
    if t.isElement then t.addresses.map (slot :: ·) ++ addressesBelow (slot + 1) ts
    else addressesBelow slot ts

end

variable {slot i : Nat} {a : List Nat} {t c : Node} {ts : List Node}

theorem addressesBelow_cons_element (h : t.isElement = true) (slot : Nat) (ts : List Node) :
    addressesBelow slot (t :: ts) =
      t.addresses.map (slot :: ·) ++ addressesBelow (slot + 1) ts := by
  rw [addressesBelow, if_pos h]

theorem addressesBelow_cons_other (h : t.isElement = false) (slot : Nat) (ts : List Node) :
    addressesBelow slot (t :: ts) = addressesBelow slot ts := by
  rw [addressesBelow, if_neg (by simp [h])]

theorem mem_addressesBelow :
    a ∈ addressesBelow slot ts ↔
      ∃ i b c, a = (slot + i) :: b ∧ (ts.filter isElement)[i]? = some c ∧ b ∈ c.addresses := by
  induction ts generalizing slot with
  | nil => simp [addressesBelow]
  | cons t ts ih =>
    cases ht : t.isElement with
    | false => rw [addressesBelow_cons_other ht, List.filter_cons_of_neg (by simp [ht]), ih]
    | true =>
      rw [addressesBelow_cons_element ht, List.filter_cons_of_pos ht, List.mem_append, List.mem_map,
        ih]
      constructor
      · rintro (⟨b, hb, rfl⟩ | ⟨i, b, c, rfl, hc, hb⟩)
        · exact ⟨0, b, t, rfl, rfl, hb⟩
        · exact ⟨i + 1, b, c, by rw [Nat.add_assoc, Nat.add_comm 1 i], hc, hb⟩
      · rintro ⟨i, b, c, rfl, hc, hb⟩
        cases i with
        | zero =>
          obtain rfl := Option.some.inj hc
          exact .inl ⟨b, hb, rfl⟩
        | succ i => exact .inr ⟨i, b, c, by rw [Nat.add_assoc, Nat.add_comm 1 i], hc, hb⟩

theorem mem_zipIdx_addresses (h : t.isElement = true) (n : Nat) : ([], n) ∈ t.addresses.zipIdx n := by
  cases t with
  | element => simp [addresses]
  | text => cases h
  | comment => cases h
  | instruction => cases h

/-- The addresses of a tree are those at which it has an element. -/
theorem mem_addresses (h : t.isElement = true) : a ∈ t.addresses ↔ (t.at? a).isSome := by
  -- The induction is on the address. Every child on the way is an element.
  induction a generalizing t with
  | nil =>
    cases t with
    | element => simp [addresses, at?]
    | text => cases h
    | comment => cases h
    | instruction => cases h
  | cons i b ih =>
    cases t with
    | element space name as ts =>
      rw [addresses, List.mem_cons, or_iff_right (List.cons_ne_nil i b), mem_addressesBelow, at?,
        children]
      have hchild : ∀ c, (ts.filter isElement)[i]? = some c → c.isElement = true := fun c hc =>
        (List.mem_filter.mp (List.mem_of_getElem? hc)).2
      constructor
      · rintro ⟨j, b', c, hcons, hc, hb⟩
        obtain ⟨rfl, rfl⟩ := List.cons.inj hcons
        rw [Nat.zero_add] at *
        rw [hc, Option.bind_some]
        exact (ih (hchild c hc)).mp hb
      · intro hsome
        obtain ⟨c, hc⟩ := Option.isSome_iff_exists.mp (Option.isSome_of_isSome_bind hsome)
        rw [hc, Option.bind_some] at hsome
        exact ⟨i, b, c, by rw [Nat.zero_add], hc, (ih (hchild c hc)).mpr hsome⟩
    | text => cases h
    | comment => cases h
    | instruction => cases h

/-- The continuations of an address lead to the child elements. -/
theorem at?_append_singleton {u : Node} (h : t.at? a = some u) (i : Nat) :
    t.at? (a ++ [i]) = (u.children.filter isElement)[i]? := by
  induction a generalizing t with
  | nil =>
    obtain rfl := Option.some.inj h
    simp [at?]
  | cons j a ih =>
    obtain ⟨c, hc, hat⟩ := Option.bind_eq_some_iff.mp h
    rw [List.cons_append, at?, hc, Option.bind_some]
    exact ih hat

/-! ## Document order -/

/-- One address comes before another one in document order. -/
def Before (a b : List Nat) : Prop := List.Lex (· < ·) a b

theorem Before.irrefl (a : List Nat) : ¬ Before a a := List.lex_irrefl Nat.lt_irrefl a

theorem Before.asymm {a b : List Nat} (h : Before a b) : ¬ Before b a :=
  List.lex_asymm Nat.lt_asymm h

theorem Before.append_singleton (a : List Nat) (i : Nat) : Before a (a ++ [i]) := by
  induction a with
  | nil => exact .nil
  | cons _ _ ih => exact .cons ih

-- What is below an address comes before the addresses after it on the same level.
theorem Before.append_below (a : List Nat) {i j : Nat} (h : i < j) (b : List Nat) :
    Before (a ++ [i] ++ b) (a ++ [j]) := by
  induction a with
  | nil => exact .rel h
  | cons _ _ ih => exact .cons ih

theorem Before.append_left (a : List Nat) {i j : Nat} (h : i < j) :
    Before (a ++ [i]) (a ++ [j]) := by
  simpa using Before.append_below a h []

mutual

/-- The addresses of a tree are listed in document order. -/
theorem sorted_addresses : ∀ t : Node, t.addresses.Pairwise Before
  | .element space name as ts => by
    rw [addresses, List.pairwise_cons]
    refine ⟨?_, sorted_addressesBelow 0 ts⟩
    intro a ha
    obtain ⟨i, b, c, rfl, -⟩ := mem_addressesBelow.mp ha
    exact .nil
  | .text _ => List.Pairwise.nil
  | .comment _ => List.Pairwise.nil
  | .instruction _ _ => List.Pairwise.nil

theorem sorted_addressesBelow (slot : Nat) :
    ∀ ts : List Node, (addressesBelow slot ts).Pairwise Before
  | [] => List.Pairwise.nil
  | t :: ts => by
    cases ht : t.isElement with
    | false =>
      rw [addressesBelow_cons_other ht]
      exact sorted_addressesBelow slot ts
    | true =>
      rw [addressesBelow_cons_element ht, List.pairwise_append, List.pairwise_map]
      refine ⟨(sorted_addresses t).imp fun h => .cons h, sorted_addressesBelow (slot + 1) ts, ?_⟩
      -- What stands below a later sibling begins with its place.
      intro a ha a' ha'
      obtain ⟨b, -, rfl⟩ := List.mem_map.mp ha
      obtain ⟨i, b', c, rfl, -⟩ := mem_addressesBelow.mp ha'
      exact .rel (by omega)

end

theorem nodup_addresses (t : Node) : t.addresses.Nodup := by
  refine t.sorted_addresses.imp ?_
  rintro a _ h rfl
  exact Before.irrefl a h

-- No address is listed twice.
theorem number_unique {m n : Nat} (hm : t.addresses[m]? = some a) (hn : t.addresses[n]? = some a) :
    m = n := by
  obtain ⟨hm', hgetm⟩ := List.getElem?_eq_some_iff.mp hm
  obtain ⟨hn', hgetn⟩ := List.getElem?_eq_some_iff.mp hn
  exact t.nodup_addresses.getElem_inj_iff.mp (hgetm.trans hgetn.symm)

-- Numbers of addresses in document order are ordered as the addresses are.
theorem lt_of_before {m n : Nat} {a b : List Nat} (hm : t.addresses[m]? = some a)
    (hn : t.addresses[n]? = some b) (h : Before a b) : m < n := by
  obtain ⟨hm', rfl⟩ := List.getElem?_eq_some_iff.mp hm
  obtain ⟨hn', rfl⟩ := List.getElem?_eq_some_iff.mp hn
  rcases Nat.lt_trichotomy m n with hlt | rfl | hlt
  · exact hlt
  · exact absurd h (Before.irrefl _)
  · exact absurd (List.pairwise_iff_getElem.mp t.sorted_addresses n m hn' hm' hlt) h.asymm

end FontCatalog.Xml.Node
