/-!
# Buffers that are used again

A buffer keeps its size, and a copy to its front leaves what stands behind as it was:
`front_overwrite` says what is read back nevertheless. `refill` does the same to a row of
slots, each with an item of a list as long as there are any.
-/

namespace QuicProxy

universe u v

namespace Buffer

variable {α : Type u} {β : Type v} {size : Nat}

/-- Copy a list to the front, as far as the buffer goes. -/
def overwrite (buffer : Vector α size) (items : List α) : Vector α size :=
  Vector.ofFn fun place => items.getD place buffer[place]

/-- The first `count` places. -/
def front (buffer : Vector α size) (count : Nat) : List α := buffer.toList.take count

/-- What was written first is read first. -/
theorem front_overwrite_of_le (buffer : Vector α size) {items : List α} {count : Nat}
    (within : count ≤ items.length) (fits : items.length ≤ size) :
    front (overwrite buffer items) count = items.take count := by
  apply List.ext_getElem
  · rw [front, List.length_take, List.length_take, Vector.length_toList]
    omega
  · intro place inFront inItems
    rw [List.length_take] at inItems
    have written : place < items.length := by omega
    simp [front, overwrite, written]

/-- What was written is read back. -/
theorem front_overwrite (buffer : Vector α size) {items : List α} (fits : items.length ≤ size) :
    front (overwrite buffer items) items.length = items := by
  rw [front_overwrite_of_le buffer (Nat.le_refl _) fits, List.take_length]

/-- Put the items into the slots, one after the other. -/
def refill (put : β → α → β) (slots : Vector β size) (items : List α) : Vector β size :=
  slots.mapIdx fun place slot =>
    match items[place]? with
    | some item => put slot item
    | none => slot

/-- The slots that were refilled. -/
theorem front_refill (put : β → α → β) (slots : Vector β size) (items : List α) :
    front (refill put slots items) (min size items.length) =
      List.zipWith put slots.toList items := by
  apply List.ext_getElem
  · simp [front]
  · intro place inFront inBoth
    rw [List.length_zipWith, Vector.length_toList] at inBoth
    have inItems : place < items.length := by omega
    simp [front, refill, inItems]

/-- Where a refilled slot gives what its item does, the row gives what the items do. -/
theorem filterMap_zipWith {γ : Type v} {put : β → α → β} {ofSlot : β → Option γ}
    {ofItem : α → Option γ} {slots : List β} {items : List α}
    (gives : ∀ slot ∈ slots, ∀ item ∈ items, ofSlot (put slot item) = ofItem item) :
    (List.zipWith put slots items).filterMap ofSlot =
      (items.take slots.length).filterMap ofItem := by
  induction slots generalizing items with
  | nil => simp
  | cons slot rest ih =>
      cases items with
      | nil => rfl
      | cons item later =>
          have here := gives slot List.mem_cons_self item List.mem_cons_self
          have there := ih fun other member otherItem among =>
            gives other (List.mem_cons_of_mem _ member) otherItem (List.mem_cons_of_mem _ among)
          simp only [List.zipWith_cons_cons, List.length_cons, List.take_succ_cons,
            List.filterMap_cons, here, there]

end Buffer

end QuicProxy
