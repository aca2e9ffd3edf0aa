import QuicProxy.Std.Bytes
import Mathlib.Data.List.DropRight
import Mathlib.Data.List.Infix

/-!
# Field lines of HTTP/1.1

A reader of a header section: it cuts the bytes into lines, reads `name ":" value`
from each, trims the value and stops at the blank line. Readers differ in what ends
a line, so this is a parameter.

`readSection_lines` reads back what was written one field to a line;
`readSection_sound` says what any value that was read looks like.
-/

namespace QuicProxy

/-- A line ends at CR LF only, or also at an LF without a CR before it. -/
inductive LineEnd where
  | strict
  | lenient
deriving DecidableEq

/-- `:` -/
def colon : UInt8 := 58

/-- SP or HTAB. -/
def isOws (byte : UInt8) : Bool := byte == 32 || byte == 9

/-- A value without the blanks around it. -/
def trimOws (value : Bytes) : Bytes := (value.dropWhile isOws).rdropWhile isOws

/-- No blank stands at either end. -/
structure Trimmed (value : Bytes) : Prop where
  front : ∀ byte, value.head? = some byte → isOws byte = false
  back : ∀ byte, value.getLast? = some byte → isOws byte = false

/-- The text has no line end in it. -/
structure LineFree (lineEnd : LineEnd) (text : Bytes) : Prop where
  noCrlf : ¬ crlf <:+: text
  noLf : lineEnd = .lenient → lf ∉ text

/-- A byte ends the line read so far. -/
def endsLine (lineEnd : LineEnd) (current : Bytes) (byte : UInt8) : Prop :=
  byte = lf ∧ (lineEnd = .lenient ∨ current.getLast? = some cr)

instance (lineEnd : LineEnd) (current : Bytes) (byte : UInt8) :
    Decidable (endsLine lineEnd current byte) :=
  inferInstanceAs (Decidable (_ ∧ _))

/-- A line that ended at an LF, without the CR before it. -/
def withoutCr (line : Bytes) : Bytes :=
  if line.getLast? = some cr then line.dropLast else line

/-- The lines of a text of which `current` has been read since the last line end;
what follows the last line end comes last. -/
def linesFrom (lineEnd : LineEnd) (current : Bytes) : Bytes → List Bytes
  | [] => [current]
  | byte :: rest =>
      if endsLine lineEnd current byte then withoutCr current :: linesFrom lineEnd [] rest
      else linesFrom lineEnd (current ++ [byte]) rest

/-- The field a line spells. -/
def readFieldLine (line : Bytes) : Option (Bytes × Bytes) :=
  match line.dropWhile (· != colon) with
  | [] => none
  | _ :: value => some (line.takeWhile (· != colon), trimOws value)

/-- What a reader made of a header section, and the lines after its blank line. -/
structure HeaderSection where
  fields : List (Bytes × Bytes)
  after : List Bytes
deriving DecidableEq

/-- Read a header section up to its blank line. -/
def readSection (lineEnd : LineEnd) (bytes : Bytes) : Option HeaderSection :=
  let lines := linesFrom lineEnd [] bytes
  match lines.dropWhile (· != []) with
  | [] => none
  | _ :: after =>
      ((lines.takeWhile (· != [])).mapM readFieldLine).map fun fields => ⟨fields, after⟩

/-! ## Lines -/

/-- An empty text ends no line. -/
theorem LineFree.nil (lineEnd : LineEnd) : LineFree lineEnd [] := by
  constructor
  · decide
  · simp

/-- A part of a text ends no line that the text does not. -/
theorem LineFree.part {lineEnd : LineEnd} {text part : Bytes} (free : LineFree lineEnd text)
    (within : part <:+: text) : LineFree lineEnd part :=
  ⟨fun found => free.noCrlf (found.trans within),
    fun lenient member => free.noLf lenient (within.subset member)⟩

/-- A text stays free of line ends as long as no byte ends a line. -/
theorem lineFree_concat (lineEnd : LineEnd) (text : Bytes) (byte : UInt8) :
    LineFree lineEnd (text ++ [byte]) ↔
      LineFree lineEnd text ∧ ¬ endsLine lineEnd text byte := by
  have ending : crlf <:+ text ++ [byte] ↔ byte = lf ∧ text.getLast? = some cr := by
    have split : crlf = [cr] ++ [lf] := rfl
    rw [split, List.suffix_concat_iff, ← List.singleton_suffix_iff_getLast?_eq_some]
    constructor
    · rintro (empty | ⟨front, equal, suffix⟩)
      · cases empty
      · obtain ⟨rfl, last⟩ := List.append_inj' equal rfl
        exact ⟨(List.singleton_inj.mp last).symm, suffix⟩
    · rintro ⟨rfl, suffix⟩
      exact .inr ⟨[cr], rfl, suffix⟩
  constructor
  · intro free
    refine ⟨free.part (List.prefix_append _ _).isInfix, ?_⟩
    rintro ⟨rfl, lenient | last⟩
    · exact free.noLf lenient (by simp)
    · exact free.noCrlf (ending.mpr ⟨rfl, last⟩).isInfix
  · rintro ⟨free, inside⟩
    constructor
    · intro found
      rcases List.infix_concat_iff.mp found with atEnd | before
      · obtain ⟨isLf, last⟩ := ending.mp atEnd
        exact inside ⟨isLf, .inr last⟩
      · exact free.noCrlf before
    · intro lenient member
      rcases List.mem_append.mp member with before | last
      · exact free.noLf lenient before
      · exact inside ⟨(List.mem_singleton.mp last).symm, .inl lenient⟩

/-- A text without CR or LF in front of one free of line ends. -/
theorem LineFree.append {lineEnd : LineEnd} {front text : Bytes} (free : LineFree lineEnd text)
    (plain : ∀ byte ∈ front, byte ≠ cr ∧ byte ≠ lf) : LineFree lineEnd (front ++ text) := by
  induction front with
  | nil => exact free
  | cons byte rest ih =>
      obtain ⟨first, plain⟩ := List.forall_mem_cons.mp plain
      have tail := ih plain
      constructor
      · intro found
        rcases List.infix_cons_iff.mp found with atFront | inside
        · exact first.1 (List.cons_prefix_cons.mp atFront).1.symm
        · exact tail.noCrlf inside
      · intro lenient member
        rcases List.mem_cons.mp member with isFirst | inside
        · exact first.2 isFirst.symm
        · exact tail.noLf lenient inside

/-- A text without CR and LF ends no line. -/
theorem LineFree.of_plain (lineEnd : LineEnd) {text : Bytes}
    (plain : ∀ byte ∈ text, byte ≠ cr ∧ byte ≠ lf) : LineFree lineEnd text := by
  have free := (LineFree.nil lineEnd).append plain
  rwa [List.append_nil] at free

/-- At most the last byte of a line is dropped. -/
theorem withoutCr_begins (line : Bytes) : withoutCr line <+: line := by
  unfold withoutCr
  split
  · exact List.dropLast_prefix line
  · exact List.prefix_refl line

/-- Cutting a text leaves no line end in any line. -/
theorem linesFrom_lineFree (lineEnd : LineEnd) (current bytes : Bytes)
    (free : LineFree lineEnd current) :
    ∀ line ∈ linesFrom lineEnd current bytes, LineFree lineEnd line := by
  induction bytes generalizing current with
  | nil => simpa [linesFrom] using free
  | cons byte rest ih =>
      unfold linesFrom
      split
      · intro line member
        rcases List.mem_cons.mp member with rfl | later
        · exact free.part (withoutCr_begins current).isInfix
        · exact ih [] (LineFree.nil lineEnd) line later
      · next inside => exact ih _ ((lineFree_concat lineEnd current byte).mpr ⟨free, inside⟩)

/-- CR LF ends a line, whatever was written before it. -/
theorem linesFrom_crlf (lineEnd : LineEnd) (current text rest : Bytes) :
    linesFrom lineEnd current (text ++ crlf ++ rest) =
      linesFrom lineEnd current text ++ linesFrom lineEnd [] rest := by
  induction text generalizing current with
  | nil =>
      have notLf : ¬ endsLine lineEnd current cr := fun ends => absurd ends.1 (by decide)
      have ends : endsLine lineEnd (current ++ [cr]) lf := ⟨rfl, .inr (by simp)⟩
      simp [crlf, linesFrom, notLf, ends, withoutCr]
  | cons byte text ih =>
      rw [List.cons_append, List.cons_append, linesFrom, linesFrom]
      by_cases ends : endsLine lineEnd current byte
      · rw [if_pos ends, if_pos ends, ih, List.cons_append]
      · rw [if_neg ends, if_neg ends, ih]

/-- A text without a line end is one line. -/
theorem linesFrom_free (lineEnd : LineEnd) (current text : Bytes)
    (free : LineFree lineEnd (current ++ text)) :
    linesFrom lineEnd current text = [current ++ text] := by
  induction text generalizing current with
  | nil => rw [linesFrom, List.append_nil]
  | cons byte text ih =>
      have shift : current ++ byte :: text = (current ++ [byte]) ++ text := by simp
      rw [shift] at free ⊢
      have inside := ((lineFree_concat lineEnd current byte).mp
        (free.part (List.prefix_append _ _).isInfix)).2
      rw [linesFrom, if_neg inside]
      exact ih _ free

/-- A line that was written with CR LF after it comes back as it was. -/
theorem linesFrom_line (lineEnd : LineEnd) (current line rest : Bytes)
    (free : LineFree lineEnd (current ++ line)) :
    linesFrom lineEnd current (line ++ crlf ++ rest) =
      (current ++ line) :: linesFrom lineEnd [] rest := by
  rw [linesFrom_crlf, linesFrom_free lineEnd current line free]
  rfl

/-- Texts with CR LF after each are cut one by one. -/
theorem linesFrom_flatMap (lineEnd : LineEnd) (texts : List Bytes) (rest : Bytes) :
    linesFrom lineEnd [] (texts.flatMap (· ++ crlf) ++ rest) =
      texts.flatMap (linesFrom lineEnd []) ++ linesFrom lineEnd [] rest := by
  induction texts with
  | nil => rfl
  | cons text others ih =>
      rw [List.flatMap_cons, List.append_assoc, linesFrom_crlf, ih, List.flatMap_cons,
        List.append_assoc]

/-- Lines that are free of line ends are read as they were written. -/
theorem linesFrom_lines (lineEnd : LineEnd) (lines : List Bytes) (rest : Bytes)
    (free : ∀ line ∈ lines, LineFree lineEnd line) :
    linesFrom lineEnd [] (lines.flatMap (· ++ crlf) ++ rest) =
      lines ++ linesFrom lineEnd [] rest := by
  have single : lines.flatMap (linesFrom lineEnd []) = lines.flatMap fun line => [line] :=
    List.flatMap_congr fun line member => linesFrom_free lineEnd [] line (free line member)
  rw [linesFrom_flatMap, single, List.flatMap_singleton']

/-! ## Values -/

/-- A trimmed value has no blanks around it. -/
theorem trimmed_trimOws (value : Bytes) : Trimmed (trimOws value) := by
  constructor
  · intro byte head
    have front : (value.dropWhile isOws).head? = some byte := by
      obtain ⟨rest, split⟩ := List.rdropWhile_prefix isOws (value.dropWhile isOws)
      rw [← split, List.head?_append, show (List.rdropWhile isOws _).head? = _ from head]
      rfl
    have stopped := List.head?_dropWhile_not isOws value
    rw [front] at stopped
    simpa using stopped
  · intro byte last
    have nonempty : trimOws value ≠ [] := by
      intro empty
      rw [empty] at last
      cases last
    have stopped := List.rdropWhile_last_not isOws (value.dropWhile isOws) nonempty
    rw [List.getLast?_eq_some_getLast nonempty, Option.some_inj] at last
    rw [← last]
    simpa [trimOws] using stopped

/-- A value without blanks around it stays as it is. -/
theorem Trimmed.trimOws_eq {value : Bytes} (trimmed : Trimmed value) : trimOws value = value := by
  have front : value.dropWhile isOws = value := by
    cases value with
    | nil => rfl
    | cons byte rest => rw [List.dropWhile_cons, trimmed.front byte rfl]; rfl
  rw [trimOws, front, List.rdropWhile_eq_self_iff]
  intro nonempty
  rw [trimmed.back _ (List.getLast?_eq_some_getLast nonempty)]
  simp

/-- Trimming leaves a part of the value. -/
theorem trimOws_within (value : Bytes) : trimOws value <:+: value :=
  (List.rdropWhile_prefix isOws _).isInfix.trans (List.dropWhile_suffix isOws).isInfix

/-! ## Sections -/

/-- Each image comes from an element. -/
theorem mem_of_mapM {α β : Type} {f : α → Option β} {list : List α} {images : List β}
    (mapped : list.mapM f = some images) {image : β} (member : image ∈ images) :
    ∃ element ∈ list, f element = some image := by
  induction list generalizing images with
  | nil =>
      cases mapped
      cases member
  | cons first rest ih =>
      rw [List.mapM_cons] at mapped
      obtain ⟨head, headImage, mapped⟩ := Option.bind_eq_some_iff.mp mapped
      obtain ⟨tail, tailImages, equal⟩ := Option.bind_eq_some_iff.mp mapped
      cases equal
      rcases List.mem_cons.mp member with rfl | inTail
      · exact ⟨first, by simp, headImage⟩
      · obtain ⟨element, inRest, elementImage⟩ := ih tailImages inTail
        exact ⟨element, by simp [inRest], elementImage⟩

/-- A map that succeeds everywhere is a map. -/
theorem mapM_eq_some_map {α β : Type} {f : α → Option β} {g : α → β} {list : List α}
    (each : ∀ element ∈ list, f element = some (g element)) :
    list.mapM f = some (list.map g) := by
  induction list with
  | nil => rfl
  | cons first rest ih =>
      obtain ⟨head, each⟩ := List.forall_mem_cons.mp each
      rw [List.mapM_cons, head, ih each]
      rfl

/-- A field line is read as its name and its value. -/
theorem readFieldLine_line (name value : Bytes) (noColon : colon ∉ name) :
    readFieldLine (name ++ ascii ": " ++ value) = some (name, trimOws value) := by
  have plain : ∀ byte ∈ name, (byte != colon) = true := by
    intro byte member
    rw [bne_iff_ne]
    rintro rfl
    exact noColon member
  have separator : ascii ": " ++ value = colon :: 32 :: value := rfl
  have blank : isOws 32 = true := rfl
  rw [List.append_assoc, separator, readFieldLine, List.dropWhile_append_of_pos plain,
    List.takeWhile_append_of_pos plain]
  simp [trimOws, blank]

/-- Whatever is read from a line without line ends has none, and no blanks around it. -/
theorem readFieldLine_sound {lineEnd : LineEnd} {line : Bytes} {field : Bytes × Bytes}
    (free : LineFree lineEnd line) (read : readFieldLine line = some field) :
    LineFree lineEnd field.2 ∧ Trimmed field.2 := by
  unfold readFieldLine at read
  split at read
  · cases read
  · next byte value rest =>
      cases read
      have within : value <:+: line :=
        ((List.suffix_cons byte value).trans (rest ▸ List.dropWhile_suffix _)).isInfix
      exact ⟨free.part ((trimOws_within value).trans within), trimmed_trimOws value⟩

/-- What was written one field to a line, with a blank line at the end, is read line
by line, with nothing left after it. -/
theorem readSection_lines (lineEnd : LineEnd) (lines : List Bytes)
    (free : ∀ line ∈ lines, LineFree lineEnd line) (nonempty : ∀ line ∈ lines, line ≠ []) :
    readSection lineEnd (lines.flatMap (· ++ crlf) ++ crlf) =
      (lines.mapM readFieldLine).map fun fields => ⟨fields, [[]]⟩ := by
  have blank : linesFrom lineEnd [] crlf = [[], []] :=
    linesFrom_line lineEnd [] [] [] (LineFree.nil lineEnd)
  have kept : ∀ line ∈ lines, (line != []) = true := by simpa using nonempty
  rw [readSection, linesFrom_lines lineEnd lines crlf free, blank,
    List.dropWhile_append_of_pos kept, List.takeWhile_append_of_pos kept]
  simp

/-- No value that is read has a line end in it or a blank around it. -/
theorem readSection_sound {lineEnd : LineEnd} {bytes : Bytes} {headers : HeaderSection}
    (read : readSection lineEnd bytes = some headers) :
    ∀ field ∈ headers.fields, LineFree lineEnd field.2 ∧ Trimmed field.2 := by
  have lines := linesFrom_lineFree lineEnd [] bytes (LineFree.nil lineEnd)
  simp only [readSection] at read
  split at read
  · cases read
  · obtain ⟨fields, readLines, rfl⟩ := Option.map_eq_some_iff.mp read
    intro field member
    obtain ⟨line, lineMember, readLine⟩ := mem_of_mapM readLines member
    exact readFieldLine_sound (lines line ((List.takeWhile_prefix _).subset lineMember)) readLine

end QuicProxy
