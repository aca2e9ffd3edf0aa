import Mathlib.Data.List.Nodup

/-!
# Weights of keyed lists

A `Weight` measures lists and adds up over appending. A keyed list weighs a fixed
amount for each of its entries and what their values weigh; `entries_change` says what
changing the value under one key adds. `foldl_lt_foldl` tells two loops apart by what
they add to a measure.
-/

namespace QuicProxy

variable {κ α : Type}

/-- A measure of lists that adds up. -/
structure Weight (α : Type) where
  of : List α → Nat
  append : ∀ first second, of (first ++ second) = of first + of second

namespace Weight

/-- The elements that meet a test. -/
def count (test : α → Bool) : Weight α := ⟨List.countP test, fun _ _ => List.countP_append⟩

/-- Every element, those that meet a test twice. -/
def lengthAnd (test : α → Bool) : Weight α where
  of list := list.length + list.countP test
  append first second := by
    rw [List.length_append, List.countP_append]
    omega

variable (weight : Weight α)

/-- What a keyed list weighs. -/
def entries (each : Nat) : List (κ × List α) → Nat
  | [] => 0
  | entry :: rest => each + weight.of entry.2 + entries each rest

/-- The weights of entries add up. -/
theorem entries_append (each : Nat) (first second : List (κ × List α)) :
    weight.entries each (first ++ second) =
      weight.entries each first + weight.entries each second := by
  induction first with
  | nil => simp [entries]
  | cons entry rest ih =>
      rw [List.cons_append, entries, entries, ih]
      omega

variable [DecidableEq κ]

/-- Changing values under a key that does not occur. -/
theorem map_change_absent {list : List (κ × List α)} {key : κ} {change : List α → List α}
    (absent : key ∉ list.map Prod.fst) :
    (list.map fun entry => if entry.1 = key then (entry.1, change entry.2) else entry) = list := by
  induction list with
  | nil => rfl
  | cons entry rest ih =>
      rw [List.map_cons, List.mem_cons, not_or] at absent
      rw [List.map_cons, if_neg (Ne.symm absent.1), ih absent.2]

/-- Changing the value under one key adds what the change adds. -/
theorem entries_change {list : List (κ × List α)} {key : κ} {change : List α → List α}
    {each gain : Nat} (distinct : (list.map Prod.fst).Nodup) (present : key ∈ list.map Prod.fst)
    (gains : ∀ value, weight.of (change value) = weight.of value + gain) :
    weight.entries each
        (list.map fun entry => if entry.1 = key then (entry.1, change entry.2) else entry) =
      weight.entries each list + gain := by
  induction list with
  | nil => cases present
  | cons entry rest ih =>
      rw [List.map_cons] at distinct present ⊢
      obtain ⟨notLater, distinct⟩ := List.nodup_cons.mp distinct
      by_cases here : entry.1 = key
      · rw [if_pos here, map_change_absent (here ▸ notLater), entries, entries, gains]
        omega
      · have later : key ∈ rest.map Prod.fst := by
          rcases List.mem_cons.mp present with equal | later
          · exact absurd equal.symm here
          · exact later
        rw [if_neg here, entries, entries, ih distinct later]
        omega

end Weight

/-! Two loops over one list, of which one adds less to a measure at each item. -/

section Loops

variable {ι σ : Type} (measure : σ → Nat) {less more : σ → ι → σ} {below above : ι → Nat}

/-- A bound on each item's change of the measure adds up along two folds. -/
theorem foldl_le_foldl {items : List ι}
    (lower : ∀ item ∈ items, ∀ state, measure (less state item) ≤ measure state + below item)
    (upper : ∀ item ∈ items, ∀ state, measure state + above item ≤ measure (more state item))
    (ordered : ∀ item ∈ items, below item ≤ above item) {first second : σ} {apart : Nat}
    (begins : measure first + apart ≤ measure second) :
    measure (items.foldl less first) + apart ≤ measure (items.foldl more second) := by
  induction items generalizing first second with
  | nil => exact begins
  | cons item rest ih =>
      obtain ⟨lowerHere, lower⟩ := List.forall_mem_cons.mp lower
      obtain ⟨upperHere, upper⟩ := List.forall_mem_cons.mp upper
      obtain ⟨orderedHere, ordered⟩ := List.forall_mem_cons.mp ordered
      apply ih lower upper ordered
      have added := lowerHere first
      have reached := upperHere second
      omega

/-- One item at which it adds strictly less keeps the loops apart. -/
theorem foldl_lt_foldl {items : List ι}
    (lower : ∀ item ∈ items, ∀ state, measure (less state item) ≤ measure state + below item)
    (upper : ∀ item ∈ items, ∀ state, measure state + above item ≤ measure (more state item))
    (ordered : ∀ item ∈ items, below item ≤ above item)
    (strict : ∃ item ∈ items, below item < above item) (start : σ) :
    measure (items.foldl less start) < measure (items.foldl more start) := by
  obtain ⟨item, member, differs⟩ := strict
  obtain ⟨before, after, rfl⟩ := List.append_of_mem member
  rw [List.forall_mem_append, List.forall_mem_cons] at lower upper ordered
  have upTo := foldl_le_foldl measure lower.1 upper.1 ordered.1 (Nat.le_refl (measure start + 0))
  have added := lower.2.1 (before.foldl less start)
  have reached := upper.2.1 (before.foldl more start)
  rw [List.foldl_append, List.foldl_append, List.foldl_cons, List.foldl_cons]
  have apart : measure (less (before.foldl less start) item) + 1 ≤
      measure (more (before.foldl more start) item) := by
    omega
  exact foldl_le_foldl measure lower.2.2 upper.2.2 ordered.2.2 apart

end Loops

end QuicProxy
