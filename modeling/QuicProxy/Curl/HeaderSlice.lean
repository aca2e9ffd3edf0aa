import QuicProxy.Curl.ProxyCurl
import QuicProxy.Http.FieldLines

/-!
# The piece of a header line that is read

`HttpHeaderCallback` takes CR LF alone for the end of the headers and reads any other
line without its last two bytes. `httpHeaderCallback_eq` puts the callback in terms of
that piece; `handlesLine_iff` says for which lines the piece is the line without its
terminator.
-/

namespace QuicProxy

/-- A header line as libcurl delivers it: it ends in LF, with or without a CR. -/
structure DeliveredLine where
  bytes : Bytes
  ended : bytes.getLast? = some lf
  bounded : bytes.length < UInt64.size

namespace DeliveredLine

/-- The line without its terminator. -/
def content (line : DeliveredLine) : Bytes := withoutCr line.bytes.dropLast

/-- The line is all terminator. -/
def IsBlank (line : DeliveredLine) : Prop := line.bytes = crlf ∨ line.bytes = [lf]

/-- A delivered line is its content and one of the two terminators. -/
theorem bytes_eq (line : DeliveredLine) :
    line.bytes = line.content ++ crlf ∨
      line.bytes = line.content ++ [lf] ∧ ¬ crlf <:+ line.bytes := by
  obtain ⟨front, split⟩ := List.getLast?_eq_some_iff.mp line.ended
  have dropped : line.bytes.dropLast = front := by rw [split, List.dropLast_concat]
  rw [content, dropped, withoutCr]
  by_cases returned : front.getLast? = some cr
  · obtain ⟨text, rfl⟩ := List.getLast?_eq_some_iff.mp returned
    rw [if_pos returned, List.dropLast_concat, split]
    exact .inl (List.append_assoc _ _ _)
  · rw [if_neg returned]
    refine .inr ⟨split, ?_⟩
    rintro ⟨text, ending⟩
    rw [split, show crlf = [cr] ++ [lf] from rfl, ← List.append_assoc] at ending
    rw [← (List.append_inj' ending rfl).1, List.getLast?_concat] at returned
    exact returned rfl

end DeliveredLine

namespace QuicProxyCurl

/-- `real_size - 2`, which wraps below zero. -/
def lineSize (contents : Bytes) : UInt64 := realSize contents - 2

/-- `QuicStringPiece line(header_line, real_size - 2)`; none where the piece goes beyond
the bytes that were delivered. -/
def headerSlice (contents : Bytes) : Option Bytes :=
  if (lineSize contents).toNat ≤ contents.length then
    some (contents.take (lineSize contents).toNat)
  else none

/-- The reading of a line uses positions within it: the status code behind the first
space, the two sides of the first `": "`. -/
def ReadsWithin (line : Bytes) : HeaderReading → Prop
  | .status code => ∃ pos, line.find (ascii " ") = some pos ∧ pos + 1 ≤ line.length ∧
      code = line.substr (pos + 1) 3
  | .field name value => ∃ pos, line.find (ascii ": ") = some pos ∧ pos + 2 ≤ line.length ∧
      name = line.substr 0 pos ∧ value = line.drop (pos + 2)
  | .badStatus | .noField => True

variable (platform : Platform)

/-- What the callback does at the end of the headers. -/
def atEndOfHeaders (proxy : QuicProxyCurl) (contents : Bytes) : CallbackResult :=
  ⟨realSize contents, (proxy.endOfHeaders platform).1, [(proxy.endOfHeaders platform).2]⟩

/-- What the callback does with the piece it reads. -/
def atLine (proxy : QuicProxyCurl) (contents line : Bytes) : CallbackResult :=
  ⟨if readHeader line = .badStatus then 0 else realSize contents,
    { proxy with spdyHeaders := store platform proxy.spdyHeaders (readHeader line) }, []⟩

/-- Blank lines end the headers; any other line is read without its terminator, all of
it, at positions within it. -/
structure HandlesLine (proxy : QuicProxyCurl) (line : DeliveredLine) : Prop where
  blank : line.IsBlank →
    proxy.httpHeaderCallback platform line.bytes = some (proxy.atEndOfHeaders platform line.bytes)
  noWrap : ¬ line.IsBlank → 2 ≤ realSize line.bytes
  slice : ¬ line.IsBlank → headerSlice line.bytes = some line.content
  read : ¬ line.IsBlank →
    proxy.httpHeaderCallback platform line.bytes =
      some (proxy.atLine platform line.bytes line.content) ∧
    ReadsWithin line.content (readHeader line.content)

/-! ## The subtraction -/

/-- A size below 2^64 is not wrapped. -/
theorem realSize_toNat {contents : Bytes} (bounded : contents.length < UInt64.size) :
    (realSize contents).toNat = contents.length :=
  UInt64.toNat_ofNat_of_lt' bounded

/-- A line with two bytes has a size of at least two. -/
theorem two_le_realSize {contents : Bytes} (bounded : contents.length < UInt64.size)
    (long : 2 ≤ contents.length) : 2 ≤ realSize contents := by
  rw [UInt64.le_iff_toNat_le, realSize_toNat bounded]
  exact long

/-- Two bytes less, without wrapping. -/
theorem lineSize_toNat {contents : Bytes} (bounded : contents.length < UInt64.size)
    (long : 2 ≤ contents.length) : (lineSize contents).toNat = contents.length - 2 := by
  rw [lineSize, UInt64.toNat_sub_of_le _ _ (two_le_realSize bounded long),
    realSize_toNat bounded]
  rfl

/-- With fewer than two bytes the size of the piece is beyond any buffer. -/
theorem lineSize_wraps {contents : Bytes} (short : contents.length < 2) :
    contents.length < (lineSize contents).toNat := by
  obtain empty | single : contents.length = 0 ∨ contents.length = 1 := by omega
  · rw [lineSize, realSize, empty]
    decide
  · rw [lineSize, realSize, single]
    decide

/-- What is read of a line: all but its last two bytes, where it has two. -/
theorem headerSlice_eq {contents : Bytes} (bounded : contents.length < UInt64.size) :
    headerSlice contents =
      if contents.length < 2 then none else some (contents.take (contents.length - 2)) := by
  by_cases short : contents.length < 2
  · rw [headerSlice, if_neg (Nat.not_le.mpr (lineSize_wraps short)), if_pos short]
  · rw [headerSlice, lineSize_toNat bounded (Nat.le_of_not_lt short), if_neg short,
      if_pos (Nat.sub_le _ _)]

/-- The callback with a stream: the end of the headers, or the reading of the piece. -/
theorem httpHeaderCallback_eq (proxy : QuicProxyCurl) (contents : Bytes)
    (bounded : contents.length < UInt64.size) (attached : proxy.quicStream ≠ none) :
    proxy.httpHeaderCallback platform contents =
      if contents = crlf then some (proxy.atEndOfHeaders platform contents)
      else (headerSlice contents).map (proxy.atLine platform contents) := by
  rw [httpHeaderCallback, if_neg attached, headerSlice_eq bounded]
  by_cases ends : contents = crlf
  · rw [if_pos ends, if_pos ends]
    rfl
  · rw [if_neg ends, if_neg ends]
    by_cases short : contents.length < 2
    · rw [if_pos short, if_pos short]
      rfl
    · rw [if_neg short, if_neg short]
      rfl

/-! ## The positions -/

/-- Names and values are parts of the line they are read from. -/
theorem readsWithin_readHeader (line : Bytes) : ReadsWithin line (readHeader line) := by
  unfold readHeader
  split
  · split
    · trivial
    · next pos found => exact ⟨pos, found, Bytes.find_fits found, rfl⟩
  · split
    · trivial
    · next pos found => exact ⟨pos, found, Bytes.find_fits found, rfl, rfl⟩

/-! ## The terminators -/

/-- A line that ends in CRLF is handled as a line. -/
theorem handlesLine_of_crlf (proxy : QuicProxyCurl) (line : DeliveredLine)
    (attached : proxy.quicStream ≠ none) (ending : crlf <:+ line.bytes) :
    proxy.HandlesLine platform line := by
  have callback := httpHeaderCallback_eq platform proxy line.bytes line.bounded attached
  have bytes : line.bytes = line.content ++ crlf := by
    rcases line.bytes_eq with bytes | ⟨_, bare⟩
    · exact bytes
    · exact absurd ending bare
  have long : 2 ≤ line.bytes.length := ending.length_le
  have slice : headerSlice line.bytes = some line.content := by
    rw [headerSlice_eq line.bounded, if_neg (Nat.not_lt.mpr long), bytes]
    simp [crlf]
  have blank : line.IsBlank → line.bytes = crlf := by
    rintro (ends | bare)
    · exact ends
    · rw [bare] at long
      exact absurd long (by decide)
  constructor
  · intro isBlank
    rw [callback, if_pos (blank isBlank)]
  · intro _
    exact two_le_realSize line.bounded long
  · intro _
    exact slice
  · intro notBlank
    have notEnd : line.bytes ≠ crlf := fun ends => notBlank (.inl ends)
    rw [callback, if_neg notEnd, slice]
    exact ⟨rfl, readsWithin_readHeader line.content⟩

/-- After a bare LF the piece lacks the last byte of the content, and where there is no
content it is no piece of the line at all. -/
theorem crlf_of_handlesLine (proxy : QuicProxyCurl) (line : DeliveredLine)
    (attached : proxy.quicStream ≠ none) (handles : proxy.HandlesLine platform line) :
    crlf <:+ line.bytes := by
  rcases line.bytes_eq with bytes | ⟨bytes, bare⟩
  · exact ⟨line.content, bytes.symm⟩
  · have slice := headerSlice_eq line.bounded
    by_cases empty : line.content = []
    · rw [empty, List.nil_append] at bytes
      have ends := handles.blank (.inr bytes)
      have notCrlf : ([lf] : Bytes) ≠ crlf := by decide
      rw [httpHeaderCallback_eq platform proxy _ line.bounded attached, slice, bytes,
        if_neg notCrlf] at ends
      cases ends
    · have notBlank : ¬ line.IsBlank := by
        rintro (ends | isLf)
        · exact bare (ends ▸ List.suffix_rfl)
        · rw [isLf] at bytes
          have lengths := congrArg List.length bytes
          rw [List.length_append, List.length_singleton] at lengths
          exact empty (List.eq_nil_of_length_eq_zero (by omega))
      have positive := List.length_pos_iff.mpr empty
      have kept := handles.slice notBlank
      rw [slice, bytes, List.length_append, List.length_singleton] at kept
      rw [if_neg (by omega), Option.some_inj] at kept
      have lengths := congrArg List.length kept
      rw [List.length_take, List.length_append, List.length_singleton] at lengths
      omega

/-- A line is handled as one should be exactly when it ends in CR LF. -/
theorem handlesLine_iff (proxy : QuicProxyCurl) (line : DeliveredLine)
    (attached : proxy.quicStream ≠ none) :
    proxy.HandlesLine platform line ↔ crlf <:+ line.bytes :=
  ⟨crlf_of_handlesLine platform proxy line attached,
    handlesLine_of_crlf platform proxy line attached⟩

/-- The last line of a section whose lines end in LF alone. -/
def bareBlankLine : DeliveredLine := ⟨[lf], rfl, by decide⟩

/-- A field line of such a section. -/
def bareFieldLine : DeliveredLine := ⟨ascii "etag: 17\n", by decide +kernel, by decide +kernel⟩

/-- A field line that ends in a bare LF. -/
theorem handlesLine_iff_bareFieldLine :
    (create (ascii "http://localhost/") 0).HandlesLine Platform.chromium bareFieldLine ↔
      crlf <:+ bareFieldLine.bytes :=
  handlesLine_iff Platform.chromium _ bareFieldLine (by decide +kernel)

/-- The last byte of the value is cut off, and the blank line is read outside its
buffer. -/
theorem bareLines_not_handled :
    headerSlice bareFieldLine.bytes = some (ascii "etag: 1") ∧
      (create (ascii "http://localhost/") 0).httpHeaderCallback Platform.chromium
        bareBlankLine.bytes = none ∧
      ¬ ∀ (proxy : QuicProxyCurl) (line : DeliveredLine), proxy.quicStream ≠ none →
        proxy.HandlesLine Platform.chromium line := by
  have cut : headerSlice bareFieldLine.bytes = some (ascii "etag: 1") := by decide +kernel
  refine ⟨cut, rfl, fun claimed => ?_⟩
  have whole := (claimed (create (ascii "http://localhost/") 0) bareFieldLine
    (by decide +kernel)).slice (by unfold DeliveredLine.IsBlank; decide +kernel)
  rw [cut] at whole
  revert whole
  decide +kernel

end QuicProxyCurl

end QuicProxy
