import QuicProxy.Curl.ResponseLines
import QuicProxy.Http.FieldLines
import QuicProxy.Std.Weights

/-!
# Field lines of a response

A field line of HTTP/1.1 is `name ":" OWS value OWS`. `HttpHeaderCallback` splits a line
at its first `": "` instead, wherever that is. `readsFields_iff` says for which lines
this gives the fields: a line that is split elsewhere, or not at all, adds fewer bytes
that are no blanks to the block than its value has, and a line split at its colon that
has further blanks adds more bytes.
-/

namespace QuicProxy

/-- `field-name ":" OWS field-value OWS`, with a name that is not read as a status
line. -/
structure FieldLine where
  name : Bytes
  before : Bytes
  value : Bytes
  after : Bytes
  named : name ≠ []
  token : ∀ byte ∈ name, Platform.isTokenByte byte = true
  notHttp : ¬ BeginsHttp name
  blankBefore : ∀ byte ∈ before, isOws byte = true
  blankAfter : ∀ byte ∈ after, isOws byte = true
  trimmed : Trimmed value

/-- A needle without the mark that stands in front stands before the mark. -/
theorem prefix_of_prefix_append {needle front rest : Bytes} {mark : UInt8}
    (begins : needle <+: front ++ mark :: rest) (absent : mark ∉ needle) : needle <+: front := by
  rcases List.prefix_or_prefix_of_prefix begins (List.prefix_append front _) with
    within | ⟨tail, rfl⟩
  · exact within
  · cases tail with
    | nil => simp
    | cons byte tail =>
        obtain ⟨rfl, _⟩ := List.cons_prefix_cons.mp ((List.prefix_append_right_inj front).mp begins)
        exact absurd (List.mem_append_right front List.mem_cons_self) absent

namespace FieldLine

/-- What stands behind the colon. -/
def behindColon (line : FieldLine) : Bytes := line.before ++ line.value ++ line.after

/-- The line, without its end. -/
def content (line : FieldLine) : Bytes := line.name ++ colon :: line.behindColon

/-- The first colon of a line ends its name. -/
theorem colon_not_mem (line : FieldLine) : colon ∉ line.name := by
  intro member
  have token := line.token colon member
  revert token
  decide

/-- No field line begins as a status line does. -/
theorem not_beginsHttp (line : FieldLine) : ¬ BeginsHttp line.content := by
  intro begins
  exact line.notHttp (prefix_of_prefix_append begins (by decide))

/-- The first `": "` is sought from the colon on. -/
theorem find_content (line : FieldLine) :
    line.content.find (ascii ": ") =
      (Bytes.find (colon :: line.behindColon) (ascii ": ")).map (line.name.length + ·) :=
  Bytes.find_append _ rfl line.colon_not_mem

/-- The field line as a line of a section. -/
def line (line : FieldLine) : LineText where
  text := line.content
  nonempty := by simp [content, line.named]
  accepted := by
    rw [readHeader_of_not_beginsHttp line.not_beginsHttp]
    cases line.content.find (ascii ": ") with
    | none => simp
    | some pos => simp

/-! ## Where a line is split -/

/-- A space behind the colon: the line is split there. -/
theorem readHeader_space (line : FieldLine) {rest : Bytes}
    (space : line.behindColon = 32 :: rest) :
    readHeader line.content = .field line.name rest := by
  have here : Bytes.find (colon :: line.behindColon) (ascii ": ") = some 0 := by
    rw [space, Bytes.find, if_pos ⟨rest, rfl⟩]
  have split : line.content = line.name ++ ascii ": " ++ rest := by
    simp [content, space, ascii, colon]
  have two : (ascii ": ").length = 2 := rfl
  have value : line.content.drop (line.name.length + 2) = rest := by
    rw [split, ← two, ← List.length_append, List.drop_left]
  have name : line.content.take line.name.length = line.name := List.take_left
  rw [readHeader_of_not_beginsHttp line.not_beginsHttp, line.find_content, here,
    Option.map_some, Option.elim_some, Bytes.substr_zero, Nat.add_zero, name, value]

/-- No space behind the colon: the line is not split, or at a later `": "`. -/
theorem readHeader_noSpace (line : FieldLine) (noSpace : line.behindColon.head? ≠ some 32) :
    readHeader line.content = .noField ∨
      ∃ key value, readHeader line.content = .field key value ∧
        ∃ front, line.behindColon = front ++ ascii ": " ++ value := by
  have notHere : ¬ ascii ": " <+: colon :: line.behindColon := by
    intro here
    obtain ⟨tail, split⟩ := (List.cons_prefix_cons.mp here).2
    apply noSpace
    rw [← split]
    rfl
  rw [readHeader_of_not_beginsHttp line.not_beginsHttp, line.find_content, Bytes.find,
    if_neg notHere]
  cases found : line.behindColon.find (ascii ": ") with
  | none => exact .inl rfl
  | some pos =>
      have kept : line.content.drop (line.name.length + (pos + 1) + 2) =
          line.behindColon.drop (pos + 2) := by
        rw [content, Nat.add_assoc, ← List.drop_drop, List.drop_left]
        rfl
      refine .inr ⟨_, _, rfl, line.behindColon.take pos, ?_⟩
      rw [kept]
      exact Bytes.find_split found

/-- The value stands in what follows the space. -/
theorem value_within (line : FieldLine) {rest : Bytes} (space : line.behindColon = 32 :: rest) :
    line.value <:+: rest := by
  have within : line.value <:+: 32 :: rest := ⟨line.before, line.after, space⟩
  rcases List.infix_cons_iff.mp within with atFront | inRest
  · cases found : line.value with
    | nil => exact List.nil_infix
    | cons byte value =>
        rw [found] at atFront
        have isSpace := (List.cons_prefix_cons.mp atFront).1
        have noBlank := line.trimmed.front byte (by rw [found]; rfl)
        rw [isSpace] at noBlank
        cases noBlank
  · exact inRest

end FieldLine

/-! ## What a line adds to the block -/

/-- The bytes of a value that are no blanks. -/
def nonBlank : Weight UInt8 := .count fun byte => !isOws byte

/-- All bytes of a value, a NUL twice. -/
def bytesAndNuls : Weight UInt8 := .lengthAnd (· == nul)

/-- Every separator of joined values weighs the same. -/
def SeparatorsWeigh (weight : Weight UInt8) (each : Nat) : Prop :=
  ∀ name, weight.of (SpdyHeaderBlock.separatorForKey name) = each

/-- Either separator has one byte that is no blank. -/
theorem separators_nonBlank : SeparatorsWeigh nonBlank 1 := by
  intro name
  rw [SpdyHeaderBlock.separatorForKey]
  split
  · rfl
  · rfl

/-- The NUL weighs as much as the two bytes that join cookies. -/
theorem separators_bytesAndNuls : SeparatorsWeigh bytesAndNuls 2 := by
  intro name
  rw [SpdyHeaderBlock.separatorForKey]
  split
  · rfl
  · rfl

/-- What keeping the reading of a line adds. -/
def gain (weight : Weight UInt8) (each : Nat) : HeaderReading → Nat
  | .field _ value => each + weight.of value
  | .status _ | .badStatus | .noField => 0

/-- A field adds its value and the weight of one entry, whether it makes an entry or
joins one. -/
theorem weight_append {weight : Weight UInt8} {each : Nat} (weigh : SeparatorsWeigh weight each)
    (block : SpdyHeaderBlock) (name value : Bytes) :
    weight.entries each (block.appendValueOrAddHeader name value).entries =
      weight.entries each block.entries + (each + weight.of value) := by
  rw [SpdyHeaderBlock.appendValueOrAddHeader, SpdyHeaderBlock.upsert]
  by_cases present : name ∈ block.entries.map Prod.fst
  · rw [dif_pos present]
    have gains : ∀ old, weight.of (old ++ SpdyHeaderBlock.separatorForKey name ++ value) =
        weight.of old + (each + weight.of value) := by
      intro old
      rw [weight.append, weight.append, weigh]
      omega
    exact weight.entries_change block.distinct present gains
  · rw [dif_neg present, weight.entries_append]
    rfl

section Fields

variable (platform : Platform)

/-- The block as `HttpHeaderCallback` builds it. -/
def storeLine (block : SpdyHeaderBlock) (line : FieldLine) : SpdyHeaderBlock :=
  QuicProxyCurl.store platform block (readHeader line.content)

/-- The block as the lines spell it. -/
def addField (block : SpdyHeaderBlock) (line : FieldLine) : SpdyHeaderBlock :=
  block.appendValueOrAddHeader (platform.toLower line.name) line.value

/-- A status and the fields of the lines, repeated names combined in order. -/
def spelledBlock (code : Bytes) (lines : List FieldLine) : SpdyHeaderBlock :=
  lines.foldl (addField platform) (statusBlock code)

/-- The section is written as its lines spell it, and its length is taken over. -/
def ReadsFields (exchange : Exchange) (status : StatusLine) (lines : List FieldLine) : Prop :=
  Writes platform exchange (sectionOf status (lines.map FieldLine.line))
    (spelledBlock platform status.code lines)
    (lengthFrom platform (spelledBlock platform status.code lines) exchange.proxy.contentLength)

/-- One space stands behind the colon and nothing behind the value. -/
def FieldLine.Plain (line : FieldLine) : Prop :=
  line.before ++ line.value ++ line.after = 32 :: line.value

/-- A stored line adds what its reading weighs. -/
theorem weight_storeLine {weight : Weight UInt8} {each : Nat}
    (weigh : SeparatorsWeigh weight each) (block : SpdyHeaderBlock) (line : FieldLine) :
    weight.entries each (storeLine platform block line).entries =
      weight.entries each block.entries + gain weight each (readHeader line.content) := by
  rw [storeLine]
  by_cases space : line.behindColon.head? = some 32
  · obtain ⟨rest, behind⟩ := List.head?_eq_some_iff.mp space
    rw [line.readHeader_space behind]
    exact weight_append weigh block _ rest
  · rcases line.readHeader_noSpace space with dropped | ⟨key, value, kept, _⟩
    · rw [dropped]
      rfl
    · rw [kept]
      exact weight_append weigh block _ value

/-! ## Lines that are split elsewhere -/

/-- Blanks weigh nothing. -/
theorem nonBlank_blank {blanks : Bytes} (blank : ∀ byte ∈ blanks, isOws byte = true) :
    nonBlank.of blanks = 0 := by
  apply List.countP_eq_zero.mpr
  intro byte member
  simp [blank byte member]

/-- Blanks around a value weigh nothing. -/
theorem nonBlank_behindColon (line : FieldLine) :
    nonBlank.of line.behindColon = nonBlank.of line.value := by
  rw [FieldLine.behindColon, nonBlank.append, nonBlank.append,
    nonBlank_blank line.blankBefore, nonBlank_blank line.blankAfter]
  omega

/-- A line split at its colon adds as much as its value. -/
theorem gain_space (line : FieldLine) (space : line.behindColon.head? = some 32) :
    gain nonBlank 1 (readHeader line.content) = 1 + nonBlank.of line.value := by
  obtain ⟨rest, behind⟩ := List.head?_eq_some_iff.mp space
  have blank : nonBlank.of [32] = 0 := rfl
  have weight := nonBlank_behindColon line
  rw [behind, ← List.singleton_append, nonBlank.append, blank] at weight
  rw [line.readHeader_space behind, gain]
  omega

/-- A line split elsewhere loses its colon to the name, and what stands before. -/
theorem gain_noSpace (line : FieldLine) (noSpace : line.behindColon.head? ≠ some 32) :
    gain nonBlank 1 (readHeader line.content) < 1 + nonBlank.of line.value := by
  rcases line.readHeader_noSpace noSpace with dropped | ⟨key, value, kept, front, behind⟩
  · rw [dropped, gain]
    omega
  · have mark : nonBlank.of (ascii ": ") = 1 := rfl
    have weight := nonBlank_behindColon line
    rw [behind, nonBlank.append, nonBlank.append, mark] at weight
    rw [kept, gain]
    omega

/-- A line adds the weight of its value and of one entry at most. -/
theorem gain_le (line : FieldLine) :
    gain nonBlank 1 (readHeader line.content) ≤ 1 + nonBlank.of line.value := by
  by_cases space : line.behindColon.head? = some 32
  · exact Nat.le_of_eq (gain_space line space)
  · exact Nat.le_of_lt (gain_noSpace line space)

/-- If the blocks agree, every line was split at its colon. -/
theorem space_of_eq {start : SpdyHeaderBlock} {lines : List FieldLine}
    (agree : lines.foldl (storeLine platform) start = lines.foldl (addField platform) start) :
    ∀ line ∈ lines, line.behindColon.head? = some 32 := by
  intro line member
  by_contra noSpace
  have lighter := foldl_lt_foldl (fun block => nonBlank.entries 1 block.entries)
    (fun line _ block => Nat.le_of_eq (weight_storeLine platform separators_nonBlank block line))
    (fun line _ block => Nat.le_of_eq (weight_append separators_nonBlank block
      (platform.toLower line.name) line.value).symm)
    (fun line _ => gain_le line) ⟨line, member, gain_noSpace line noSpace⟩ start
  rw [agree] at lighter
  exact Nat.lt_irrefl _ lighter

/-! ## Lines with further blanks -/

/-- A part weighs no more than the whole, and as much only if it is the whole. -/
theorem bytesAndNuls_part {part whole : Bytes} (within : part <:+: whole) :
    bytesAndNuls.of part ≤ bytesAndNuls.of whole ∧
      (bytesAndNuls.of whole ≤ bytesAndNuls.of part → whole = part) := by
  obtain ⟨front, back, rfl⟩ := within
  have positive : ∀ text, text.length ≤ bytesAndNuls.of text :=
    fun text => Nat.le_add_right text.length _
  have inFront := positive front
  have inBack := positive back
  rw [bytesAndNuls.append, bytesAndNuls.append]
  constructor
  · omega
  · intro noMore
    have noFront : front = [] := List.eq_nil_of_length_eq_zero (by omega)
    have noBack : back = [] := List.eq_nil_of_length_eq_zero (by omega)
    simp [noFront, noBack]

/-- If the blocks agree, every value was kept as it is. -/
theorem plain_of_eq {start : SpdyHeaderBlock} {lines : List FieldLine}
    (agree : lines.foldl (storeLine platform) start = lines.foldl (addField platform) start) :
    ∀ line ∈ lines, line.Plain := by
  have spaces := space_of_eq platform agree
  have gains : ∀ line ∈ lines, ∃ rest, line.behindColon = 32 :: rest ∧
      gain bytesAndNuls 2 (readHeader line.content) = 2 + bytesAndNuls.of rest ∧
      line.value <:+: rest := by
    intro line member
    obtain ⟨rest, behind⟩ := List.head?_eq_some_iff.mp (spaces line member)
    refine ⟨rest, behind, ?_, line.value_within behind⟩
    rw [line.readHeader_space behind, gain]
  intro line member
  by_contra notPlain
  have lighter := foldl_lt_foldl (fun block => bytesAndNuls.entries 2 block.entries)
    (fun line _ block => Nat.le_of_eq (weight_append separators_bytesAndNuls block
      (platform.toLower line.name) line.value))
    (fun line _ block =>
      Nat.le_of_eq (weight_storeLine platform separators_bytesAndNuls block line).symm)
    (fun line member => by
      obtain ⟨rest, _, amount, within⟩ := gains line member
      rw [amount]
      exact Nat.add_le_add_left (bytesAndNuls_part within).1 2)
    ⟨line, member, by
      obtain ⟨rest, behind, amount, within⟩ := gains line member
      rw [amount]
      apply Nat.add_lt_add_left
      apply Nat.lt_of_not_le
      intro noMore
      obtain rfl := (bytesAndNuls_part within).2 noMore
      exact notPlain behind⟩ start
  rw [agree] at lighter
  exact Nat.lt_irrefl _ lighter

/-- A plain line is read as its field. -/
theorem storeLine_plain (block : SpdyHeaderBlock) {line : FieldLine} (plain : line.Plain) :
    storeLine platform block line = addField platform block line := by
  rw [storeLine, line.readHeader_space plain]
  rfl

/-- A section read as its lines. -/
theorem fields_fieldLines (status : StatusLine) (lines : List FieldLine) :
    (sectionOf status (lines.map FieldLine.line)).fields platform =
      lines.foldl (storeLine platform) (statusBlock status.code) := by
  rw [fields_sectionOf, List.foldl_map]
  rfl

/-- The block is the one the lines spell exactly when every line has one space behind
its colon and no blank behind its value. -/
theorem readsFields_iff (exchange : Exchange) (status : StatusLine) (lines : List FieldLine)
    (attached : exchange.proxy.quicStream ≠ none) (fresh : exchange.proxy.spdyHeaders = .empty) :
    ReadsFields platform exchange status lines ↔ ∀ line ∈ lines, line.Plain := by
  rw [ReadsFields, writes_iff platform exchange status _ _ _ attached fresh, fields_fieldLines]
  constructor
  · rintro ⟨agree, _⟩
    exact plain_of_eq platform agree.symm
  · intro plain
    have agree : lines.foldl (storeLine platform) (statusBlock status.code) =
        spelledBlock platform status.code lines :=
      List.foldl_ext _ _ _ fun block line member =>
        storeLine_plain platform block (plain line member)
    rw [agree]
    exact ⟨rfl, rfl⟩

end Fields

/-- `HTTP/1.1 200 OK` -/
def okLine : StatusLine :=
  .http11 (ascii "200") (ascii " OK") rfl (by decide +kernel)

/-- A content length without a space behind the colon. -/
def tightLength : FieldLine where
  name := ascii "Content-Length"
  before := []
  value := ascii "5"
  after := []
  named := by decide +kernel
  token := by decide +kernel
  notHttp := by decide +kernel
  blankBefore := by simp
  blankAfter := by simp
  trimmed := ⟨by decide +kernel, by decide +kernel⟩

/-- `Content-Length:5` is not plain. -/
theorem readsFields_iff_tightLength :
    ReadsFields Platform.chromium (.start 0 0 (ascii "http://localhost/")) okLine [tightLength] ↔
      ∀ line ∈ [tightLength], line.Plain :=
  readsFields_iff Platform.chromium _ okLine [tightLength] (by decide +kernel) rfl

/-- The field is dropped, and its length is not known. -/
theorem tightLength_dropped :
    Writes Platform.chromium (.start 0 0 (ascii "http://localhost/"))
        (sectionOf okLine [tightLength.line]) (statusBlock (ascii "200")) 0 ∧
      ¬ ∀ (status : StatusLine) (lines : List FieldLine),
        ReadsFields Platform.chromium (.start 0 0 (ascii "http://localhost/")) status lines := by
  have written : Writes Platform.chromium (.start 0 0 (ascii "http://localhost/"))
      (sectionOf okLine [tightLength.line]) (statusBlock (ascii "200")) 0 := by
    rw [writes_iff Platform.chromium _ okLine [tightLength.line] _ _ (by decide +kernel) rfl]
    decide +kernel
  refine ⟨written, fun claimed => ?_⟩
  have spelled := claimed okLine [tightLength]
  rw [ReadsFields, writes_iff Platform.chromium _ okLine _ _ _ (by decide +kernel) rfl] at spelled
  revert spelled
  decide +kernel

end QuicProxy
