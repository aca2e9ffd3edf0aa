import Mathlib.Logic.Function.Basic

/-!
# Matchings

Two families of references match when each points back where it is pointed at.
`Matching.link` and `Matching.unlink` are the two ways of keeping it so that need
both sides to change together.
-/

namespace QuicProxy

variable {α β : Type}

/-- `left` and `right` point at each other, or not at all. -/
def Matching (left : α → Option β) (right : β → Option α) : Prop :=
  ∀ a b, left a = some b ↔ right b = some a

namespace Matching

variable {left : α → Option β} {right : β → Option α}

/-- Nothing is matched. -/
theorem nowhere : Matching (fun _ : α => (none : Option β)) (fun _ : β => (none : Option α)) := by
  intro a b
  simp

/-- What is unmatched on one side is pointed at by nobody on the other. -/
theorem right_ne (matching : Matching left right) {a : α} (free : left a = none) (b : β) :
    right b ≠ some a := by
  intro points
  rw [(matching a b).mpr points] at free
  cases free

/-- Nothing is matched with an element that is free. -/
theorem left_ne (matching : Matching left right) {b : β} (free : right b = none) (a : α) :
    left a ≠ some b := by
  intro points
  rw [(matching a b).mp points] at free
  cases free

variable [DecidableEq α] [DecidableEq β]

/-- Two unmatched references are matched. -/
theorem link (matching : Matching left right) {a : α} {b : β} (leftFree : left a = none)
    (rightFree : right b = none) :
    Matching (Function.update left a (some b)) (Function.update right b (some a)) := by
  intro x y
  by_cases isA : x = a
  · subst isA
    by_cases isB : y = b
    · subst isB
      simp
    · have other := matching.right_ne leftFree y
      simp [Function.update_of_ne isB, other, Ne.symm isB]
  · by_cases isB : y = b
    · subst isB
      have other := matching.left_ne rightFree x
      simp [Function.update_of_ne isA, other, Ne.symm isA]
    · simp [Function.update_of_ne isA, Function.update_of_ne isB, matching x y]

/-- A match is taken apart on both sides. -/
theorem unlink (matching : Matching left right) {a : α} {b : β} (matched : left a = some b) :
    Matching (Function.update left a none) (Function.update right b none) := by
  intro x y
  by_cases isA : x = a
  · subst isA
    by_cases isB : y = b
    · simp [isB]
    · have other : right y ≠ some x := by
        intro points
        rw [(matching x y).mpr points] at matched
        exact isB (Option.some.inj matched)
      simp [Function.update_of_ne isB, other]
  · by_cases isB : y = b
    · subst isB
      have other : left x ≠ some y := by
        intro points
        have back := (matching a y).mp matched
        rw [(matching x y).mp points] at back
        exact isA (Option.some.inj back)
      simp [Function.update_of_ne isA, other]
    · simp [Function.update_of_ne isA, Function.update_of_ne isB, matching x y]

end Matching

end QuicProxy
