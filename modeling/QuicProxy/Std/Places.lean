import Mathlib.Data.List.Basic

/-!
# Places of a list

`AtEachPlace P list` says `P` of every element together with what stands before
and after it; `atEachPlace_cons` takes it apart along the list, `atEachPlace_concat`
from its end.
-/

namespace QuicProxy

variable {α : Type}

/-- `P` holds at every element, with the lists before and after it. -/
def AtEachPlace (P : List α → α → List α → Prop) (list : List α) : Prop :=
  ∀ before element after, list = before ++ element :: after → P before element after

/-- An empty list has no places. -/
@[simp] theorem atEachPlace_nil (P : List α → α → List α → Prop) : AtEachPlace P [] := by
  intro before element after split
  simp at split

/-- The first place, and those after it. -/
theorem atEachPlace_cons (P : List α → α → List α → Prop) (first : α) (rest : List α) :
    AtEachPlace P (first :: rest) ↔
      P [] first rest ∧ AtEachPlace (fun before => P (first :: before)) rest := by
  constructor
  · intro each
    refine ⟨each [] first rest rfl, ?_⟩
    intro before element after split
    exact each (first :: before) element after (by rw [split, List.cons_append])
  · rintro ⟨head, tail⟩ before element after split
    cases before with
    | nil =>
        obtain ⟨rfl, rfl⟩ := List.cons.inj split
        exact head
    | cons other before =>
        obtain ⟨rfl, rest_eq⟩ := List.cons.inj split
        exact tail before element after rest_eq

/-- The last place, and those before it. -/
theorem atEachPlace_concat (P : List α → α → List α → Prop) (list : List α) (last : α) :
    AtEachPlace P (list ++ [last]) ↔
      P list last [] ∧
        AtEachPlace (fun before element after => P before element (after ++ [last])) list := by
  constructor
  · intro each
    refine ⟨each list last [] rfl, ?_⟩
    intro before element after split
    exact each before element (after ++ [last]) (by rw [split]; simp)
  · rintro ⟨atLast, inside⟩ before element after split
    rcases List.eq_nil_or_concat after with rfl | ⟨after, other, rfl⟩
    · obtain ⟨rfl, equal⟩ := List.append_inj' split rfl
      cases equal
      exact atLast
    · have shape : list ++ [last] = (before ++ element :: after) ++ [other] := by
        rw [split]
        simp
      obtain ⟨rfl, equal⟩ := List.append_inj' shape rfl
      cases equal
      rw [List.concat_eq_append]
      exact inside before element after rfl

end QuicProxy
