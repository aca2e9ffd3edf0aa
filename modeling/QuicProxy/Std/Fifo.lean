import QuicProxy.Semantics.Execution
import Mathlib.Data.List.Infix

/-!
# First-in first-out outboxes

What an outbox is for, whatever it is made of: items are accepted at one end
and handed over at the other, and no item is lost, repeated or overtaken
(`Fifo.conserved`). An implementation that refines `Fifo.system` inherits this.
-/

namespace QuicProxy

universe u

/-- An outbox with its history: everything it accepted, everything it handed
over, and what waits. -/
structure Fifo (α : Type u) where
  accepted : List α
  handed : List α
  waiting : List α

namespace Fifo

variable {α : Type u}

/-- Nothing accepted, nothing handed over. -/
def empty : Fifo α := ⟨[], [], []⟩

/-- An item joins the queue. -/
def push (item : α) (box : Fifo α) : Fifo α :=
  ⟨box.accepted ++ [item], box.handed, box.waiting ++ [item]⟩

/-- Hand over the `count` oldest items. -/
def send (count : Nat) (box : Fifo α) : Fifo α :=
  ⟨box.accepted, box.handed ++ box.waiting.take count, box.waiting.drop count⟩

/-- What can be done to a queue. -/
inductive Move (α : Type u) where
  | push (item : α)
  | send (count : Nat)

/-- What a move does. -/
def apply (box : Fifo α) : Move α → Fifo α
  | .push item => box.push item
  | .send count => box.send count

/-- An outbox may accept and hand over at any time. -/
def system : LabelledSystem (Fifo α) (Move α) :=
  .functional (· = empty) (fun _ _ => True) apply

/-- Any item may join. -/
theorem reachable_push {box : Fifo α} (reachable : system.Reachable box) (item : α) :
    system.Reachable (box.push item) :=
  reachable.next ⟨trivial, (rfl : _ = apply box (.push item))⟩

/-- Any front may be sent. -/
theorem reachable_send {box : Fifo α} (reachable : system.Reachable box) (count : Nat) :
    system.Reachable (box.send count) :=
  reachable.next ⟨trivial, (rfl : _ = apply box (.send count))⟩

/-- Nothing is lost, repeated or overtaken. -/
def conserves : (@system α).Invariant where
  Holds box := box.handed ++ box.waiting = box.accepted
  initial := by rintro _ rfl; rfl
  preserved := by
    rintro box move _ balanced ⟨-, rfl⟩
    cases move with
    | push item => simp [apply, push, ← List.append_assoc, balanced]
    | send count => simpa [apply, send] using balanced

/-- Every item is handed over or waits, in the order of acceptance. -/
theorem conserved {box : Fifo α} (reachable : system.Reachable box) :
    box.handed ++ box.waiting = box.accepted :=
  conserves.of_reachable reachable

/-- Nobody is overtaken: by the time `count` more items have been handed over, the first
`count` of those that waited have been. -/
theorem served_in_turn {box later : Fifo α} {out more : List α}
    (balanced : box.handed ++ box.waiting = box.accepted)
    (laterBalanced : later.handed ++ later.waiting = later.accepted)
    (handed : later.handed = box.handed ++ out) (accepted : later.accepted = box.accepted ++ more)
    {count : Nat} (enough : count ≤ out.length) :
    box.handed ++ box.waiting.take count <+: later.handed := by
  have whole : out ++ later.waiting = box.waiting ++ more := by
    rw [accepted, handed, ← balanced, List.append_assoc, List.append_assoc] at laterBalanced
    exact List.append_cancel_left laterBalanced
  have outFirst : out <+: box.waiting ++ more := ⟨later.waiting, whole⟩
  have waitingFirst : box.waiting.take count <+: box.waiting ++ more :=
    (List.take_prefix count box.waiting).trans (List.prefix_append _ _)
  have shorter : (box.waiting.take count).length ≤ out.length := by
    rw [List.length_take]
    omega
  rw [handed]
  exact (List.prefix_append_right_inj _).mpr
    (List.prefix_of_prefix_length_le waitingFirst outFirst shorter)

end Fifo

end QuicProxy
