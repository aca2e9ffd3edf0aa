import Mathlib.Data.List.Basic

/-!
# Survivors

A list changes, and some of its items have to stay what they are. `Survive` says that the
names are still there, in order, among the items of one kind; mapping, appending and
erasing keep it where they leave these items alone.
-/

namespace QuicProxy

universe u v

variable {Item : Type u} {Name : Type v} {kind : Item → Bool} {name : Item → Name}
  {names : List Name} {items : List Item}

/-- The names are among those of the items of a kind, in their order. -/
def Survive (kind : Item → Bool) (name : Item → Name) (names : List Name)
    (items : List Item) : Prop :=
  names.Sublist ((items.filter kind).map name)

namespace Survive

/-- An item of the kind stands behind every name. -/
theorem standing (survive : Survive kind name names items) {one : Name} (member : one ∈ names) :
    ∃ item ∈ items, kind item = true ∧ name item = one := by
  obtain ⟨item, kept, isName⟩ := List.mem_map.mp (survive.subset member)
  obtain ⟨there, isKind⟩ := List.mem_filter.mp kept
  exact ⟨item, there, isKind, isName⟩

/-- New items take no place from the old. -/
theorem append (survive : Survive kind name names items) (more : List Item) :
    Survive kind name names (items ++ more) :=
  survive.trans (((List.sublist_append_left _ _).filter _).map _)

/-- The items change, but none that must stay. -/
theorem map {change : Item → Item} (survive : Survive kind name names items)
    (keeps : ∀ item ∈ items, name (change item) = name item)
    (stays : ∀ item ∈ items, kind item = true → name item ∈ names →
      kind (change item) = true) :
    Survive kind name names (items.map change) := by
  induction items generalizing names with
  | nil => exact survive
  | cons item rest ih =>
      have keepsRest := fun other member => keeps other (List.mem_cons_of_mem item member)
      have staysRest := fun other member => stays other (List.mem_cons_of_mem item member)
      have skipped : Survive kind name names (rest.map change) →
          Survive kind name names ((item :: rest).map change) := by
        intro later
        exact later.trans (((List.sublist_cons_self _ _).filter _).map _)
      cases isKind : kind item with
      | false =>
          rw [Survive, List.filter_cons_of_neg (by simp [isKind])] at survive
          exact skipped (ih survive keepsRest staysRest)
      | true =>
          rw [Survive, List.filter_cons_of_pos isKind, List.map_cons] at survive
          cases survive with
          | cons _ later => exact skipped (ih later keepsRest staysRest)
          | cons_cons _ later =>
              have still := stays item List.mem_cons_self isKind List.mem_cons_self
              rw [Survive, List.map_cons, List.filter_cons_of_pos still, List.map_cons,
                keeps item List.mem_cons_self]
              apply List.Sublist.cons_cons
              exact ih later keepsRest fun other member otherKind named =>
                staysRest other member otherKind (List.mem_cons_of_mem _ named)

/-- An item goes that is not of the kind. -/
theorem eraseP {gone : Item → Bool} (survive : Survive kind name names items)
    (other : ∀ item ∈ items, gone item = true → kind item = false) :
    Survive kind name names (items.eraseP gone) := by
  induction items generalizing names with
  | nil => exact survive
  | cons item rest ih =>
      have otherRest := fun another member => other another (List.mem_cons_of_mem item member)
      cases removed : gone item with
      | true =>
          have notKind := other item List.mem_cons_self removed
          rw [Survive, List.filter_cons_of_neg (by simp [notKind])] at survive
          rw [List.eraseP_cons_of_pos removed]
          exact survive
      | false =>
          rw [List.eraseP_cons_of_neg (by simp [removed])]
          cases isKind : kind item with
          | false =>
              rw [Survive, List.filter_cons_of_neg (by simp [isKind])] at survive ⊢
              exact ih survive otherRest
          | true =>
              rw [Survive, List.filter_cons_of_pos isKind, List.map_cons] at survive ⊢
              cases survive with
              | cons _ later => exact (ih later otherRest).cons _
              | cons_cons _ later => exact (ih later otherRest).cons_cons _

end Survive

/-- Two kinds that exclude each other make up part of a third. -/
theorem length_filter_add_le {first second whole : Item → Bool}
    (isFirst : ∀ item ∈ items, first item = true → whole item = true ∧ second item = false)
    (isSecond : ∀ item ∈ items, second item = true → whole item = true) :
    (items.filter first).length + (items.filter second).length ≤
      (items.filter whole).length := by
  induction items with
  | nil => exact Nat.le_refl _
  | cons item rest ih =>
      have smaller := ih (fun other member => isFirst other (List.mem_cons_of_mem _ member))
        fun other member => isSecond other (List.mem_cons_of_mem _ member)
      have here := isFirst item List.mem_cons_self
      have also := isSecond item List.mem_cons_self
      simp only [List.filter_cons]
      cases inFirst : first item with
      | true =>
          obtain ⟨inWhole, notSecond⟩ := here inFirst
          simp only [inWhole, notSecond, if_true, Bool.false_eq_true, if_false,
            List.length_cons]
          omega
      | false =>
          cases inSecond : second item with
          | true =>
              simp only [also inSecond, if_true, Bool.false_eq_true, if_false, List.length_cons]
              omega
          | false =>
              have grows : (rest.filter whole).length ≤ ((item :: rest).filter whole).length :=
                ((List.sublist_cons_self _ _).filter _).length_le
              rw [List.filter_cons] at grows
              simp only [Bool.false_eq_true, if_false]
              omega

end QuicProxy
