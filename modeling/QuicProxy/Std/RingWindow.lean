import Mathlib.Data.List.Nodup
import Mathlib.Data.Nat.ModEq

/-!
# Windows of a ring

Writes are numbered from zero and write number `n` lands in slot
`n % capacity`. The entries a first-in first-out queue still holds are the
latest `count` writes, and `window` lists the slots they occupy. Every fact a
ring buffer needs about slots is a fact about such a window: a queue no longer
than the ring never holds one slot twice (`window_nodup`), and as long as it is
shorter the next write lands in none of its slots (`next_not_mem_window`).
-/

namespace QuicProxy.Ring

/-- Slots of the `count` consecutive writes that begin with write `first`. -/
def window (capacity first count : Nat) : List Nat :=
  (List.range' first count).map (· % capacity)

variable {capacity first count : Nat}

/-- Dropping the oldest entries moves the front of the window. -/
theorem drop_window (sent : Nat) :
    (window capacity first count).drop sent = window capacity (first + sent) (count - sent) := by
  simp [window, ← List.map_drop, List.drop_range']

/-- A window stays within the ring. -/
theorem lt_of_mem_window (positive : 0 < capacity) {slot : Nat}
    (member : slot ∈ window capacity first count) : slot < capacity := by
  obtain ⟨write, -, rfl⟩ := List.mem_map.mp member
  exact Nat.mod_lt write positive

/-- One more write extends the window at its end. -/
theorem window_append_next :
    window capacity first count ++ [(first + count) % capacity] =
      window capacity first (count + 1) := by
  simp [window, List.range'_concat]

/-- Writes that lie less than one turn apart use different slots. -/
theorem slot_injective {left right : Nat} (ordered : left ≤ right)
    (close : right < left + capacity) (same : left % capacity = right % capacity) :
    left = right := by
  have turns : capacity ∣ right - left := (Nat.modEq_iff_dvd' ordered).mp same
  have short : right - left < capacity := by omega
  have none := Nat.eq_zero_of_dvd_of_lt turns short
  omega

/-- A window no longer than the ring visits every slot at most once. -/
theorem window_nodup (bounded : count ≤ capacity) : (window capacity first count).Nodup := by
  refine List.Nodup.map_on ?_ List.nodup_range'
  intro left leftMem right rightMem same
  simp only [List.mem_range'_1] at leftMem rightMem
  rcases Nat.le_total left right with ordered | ordered
  · exact slot_injective ordered (by omega) same
  · exact (slot_injective ordered (by omega) same.symm).symm

/-- Where the ring is not full, the next write lands outside the window. -/
theorem next_not_mem_window (room : count < capacity) :
    (first + count) % capacity ∉ window capacity first count := by
  have distinct : (window capacity first (count + 1)).Nodup := window_nodup room
  rw [← window_append_next, List.nodup_append] at distinct
  intro member
  exact distinct.2.2 _ member _ (List.mem_singleton.mpr rfl) rfl

/-- A write counter kept modulo a multiple of the capacity names the same slot
as the unbounded count does. -/
theorem wrapped_slot {modulus : Nat} (divides : capacity ∣ modulus) (writes : Nat) :
    writes % modulus % capacity = writes % capacity :=
  Nat.mod_mod_of_dvd writes divides

end QuicProxy.Ring
