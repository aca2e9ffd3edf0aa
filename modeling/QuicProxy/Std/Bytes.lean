/-!
# Byte strings

The program handles unterminated byte strings and passes some of them on as C
strings. They are lists of bytes here; `ascii` spells a literal of the source.
-/

namespace QuicProxy

/-- A byte string. -/
abbrev Bytes := List UInt8

/-- The bytes of an ASCII literal. -/
def ascii (text : String) : Bytes := text.toList.map fun c => UInt8.ofNat c.toNat

def cr : UInt8 := 13
def lf : UInt8 := 10
def nul : UInt8 := 0

/-- The line end of HTTP/1.x. -/
def crlf : Bytes := [cr, lf]

namespace Bytes

/-- `substr(pos, count)`, which a string piece cuts off at its end. -/
def substr (text : Bytes) (pos count : Nat) : Bytes := (text.drop pos).take count

@[simp] theorem substr_zero (text : Bytes) (count : Nat) : text.substr 0 count = text.take count :=
  rfl

/-- `text.find(needle)`: where `needle` begins for the first time. -/
def find : Bytes → Bytes → Option Nat
  | [], needle => if needle = [] then some 0 else none
  | byte :: rest, needle =>
      if needle <+: byte :: rest then some 0 else (find rest needle).map (· + 1)

/-- What a reader of the C string `c_str()` sees. -/
def cString (text : Bytes) : Bytes := text.takeWhile (· ≠ nul)

/-- `find` gives a place of the needle before which there is none. -/
theorem find_eq_some_iff {text needle : Bytes} {pos : Nat} :
    text.find needle = some pos ↔
      pos ≤ text.length ∧ needle <+: text.drop pos ∧
        ∀ earlier < pos, ¬ needle <+: text.drop earlier := by
  induction text generalizing pos with
  | nil =>
      rw [find]
      by_cases empty : needle = []
      · simp only [empty, if_true, Option.some_inj, List.length_nil]
        constructor
        · rintro rfl
          exact ⟨Nat.le_refl 0, List.nil_prefix, fun earlier before => by omega⟩
        · rintro ⟨bound, _, _⟩
          omega
      · simp [empty]
  | cons byte rest ih =>
      rw [find]
      by_cases here : needle <+: byte :: rest
      · simp only [here, if_true, Option.some_inj]
        constructor
        · rintro rfl
          exact ⟨Nat.zero_le _, here, fun earlier before => by omega⟩
        · rintro ⟨_, _, first⟩
          cases pos with
          | zero => rfl
          | succ pos => exact absurd here (first 0 (Nat.zero_lt_succ pos))
      · simp only [here, if_false, Option.map_eq_some_iff]
        constructor
        · rintro ⟨inRest, found, rfl⟩
          obtain ⟨bound, place, first⟩ := ih.mp found
          refine ⟨Nat.succ_le_succ bound, place, fun earlier before => ?_⟩
          cases earlier with
          | zero => exact here
          | succ earlier => exact first earlier (Nat.lt_of_succ_lt_succ before)
        · rintro ⟨bound, place, first⟩
          cases pos with
          | zero => exact absurd place here
          | succ pos =>
              refine ⟨pos, ih.mpr ⟨Nat.le_of_succ_le_succ bound, place, ?_⟩, rfl⟩
              intro earlier before
              exact first (earlier + 1) (Nat.succ_lt_succ before)

example : (ascii "HTTP/1.1 404 Not Found").find (ascii " ") = some 8 := by decide
example : (ascii "key:value").find (ascii ": ") = none := by decide

/-- A needle that stands somewhere is found. -/
theorem find_of_within {text needle : Bytes} (within : needle <:+: text) :
    ∃ pos, text.find needle = some pos := by
  induction text with
  | nil =>
      obtain rfl := List.infix_nil.mp within
      exact ⟨0, rfl⟩
  | cons byte rest ih =>
      rw [find]
      by_cases here : needle <+: byte :: rest
      · exact ⟨0, if_pos here⟩
      · obtain ⟨pos, found⟩ := ih ((List.infix_cons_iff.mp within).resolve_left here)
        exact ⟨pos + 1, by rw [if_neg here, found, Option.map_some]⟩

/-- Bytes before the text that the needle does not begin with. -/
theorem find_append {front needle : Bytes} {first : UInt8} (text : Bytes)
    (begins : needle.head? = some first) (absent : first ∉ front) :
    (front ++ text).find needle = (text.find needle).map (front.length + ·) := by
  obtain ⟨tail, rfl⟩ := List.head?_eq_some_iff.mp begins
  induction front with
  | nil => simp
  | cons byte front ih =>
      have differ : first ≠ byte := fun equal => absent (equal ▸ List.mem_cons_self)
      have notHere : ¬ first :: tail <+: byte :: (front ++ text) :=
        fun here => differ (List.cons_prefix_cons.mp here).1
      have later := ih fun member => absent (List.mem_cons_of_mem byte member)
      rw [List.cons_append, find, if_neg notHere, later, Option.map_map]
      congr 1
      funext pos
      simp only [Function.comp_apply, List.length_cons]
      omega

/-- The text around the needle. -/
theorem find_split {text needle : Bytes} {pos : Nat} (found : text.find needle = some pos) :
    text = text.take pos ++ needle ++ text.drop (pos + needle.length) := by
  obtain ⟨_, ⟨back, place⟩, _⟩ := find_eq_some_iff.mp found
  have behind : text.drop (pos + needle.length) = back := by
    rw [← List.drop_drop, ← place, List.drop_left]
  rw [behind, List.append_assoc, place, List.take_append_drop]

/-- The needle lies within the text it was found in. -/
theorem find_fits {text needle : Bytes} {pos : Nat} (found : text.find needle = some pos) :
    pos + needle.length ≤ text.length := by
  obtain ⟨bound, place, _⟩ := find_eq_some_iff.mp found
  have fits := place.length_le
  rw [List.length_drop] at fits
  omega

end Bytes

/-- A C string does not end before a NUL. -/
theorem cString_append {front : Bytes} (text : Bytes) (noNul : nul ∉ front) :
    Bytes.cString (front ++ text) = front ++ Bytes.cString text := by
  unfold Bytes.cString
  rw [List.takeWhile_append_of_pos]
  intro byte member
  rw [decide_eq_true_iff]
  rintro rfl
  exact noNul member

/-- A text without NUL is a C string. -/
theorem cString_eq_of_not_mem {text : Bytes} (noNul : nul ∉ text) :
    Bytes.cString text = text := by
  have whole := cString_append [] noNul
  rwa [List.append_nil, show Bytes.cString [] = [] from rfl, List.append_nil] at whole

end QuicProxy
