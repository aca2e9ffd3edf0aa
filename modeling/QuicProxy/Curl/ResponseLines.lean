import QuicProxy.Curl.Delivery

/-!
# A header section line by line

A section is a status line and further lines, each with CR LF after it.
`readHeader_content` is the reading of a status line, `writes_iff` what the delivery of
a whole section hands to the stream.
-/

namespace QuicProxy

/-- The line begins as a status line does. -/
def BeginsHttp (line : Bytes) : Prop := ascii "HTTP" <+: line

instance (line : Bytes) : Decidable (BeginsHttp line) :=
  inferInstanceAs (Decidable (_ <+: _))

/-- The first four bytes of a line say whether it is a status line. -/
theorem beginsHttp_iff (line : Bytes) : line.substr 0 4 = ascii "HTTP" ↔ BeginsHttp line := by
  have four : (ascii "HTTP").length = 4 := rfl
  rw [BeginsHttp, List.prefix_iff_eq_take, four, Bytes.substr_zero]
  exact eq_comm

/-- A status line is read from its first space. -/
theorem readHeader_of_beginsHttp {line : Bytes} (http : BeginsHttp line) :
    readHeader line =
      (line.find (ascii " ")).elim .badStatus fun pos => .status (line.substr (pos + 1) 3) := by
  rw [readHeader, if_pos ((beginsHttp_iff line).mpr http)]
  cases line.find (ascii " ") with
  | none => rfl
  | some pos => rfl

/-- Any other line is split at its first separator. -/
theorem readHeader_of_not_beginsHttp {line : Bytes} (notHttp : ¬ BeginsHttp line) :
    readHeader line =
      (line.find (ascii ": ")).elim .noField fun pos =>
        .field (line.substr 0 pos) (line.drop (pos + 2)) := by
  rw [readHeader, if_neg fun http => notHttp ((beginsHttp_iff line).mp http)]
  cases line.find (ascii ": ") with
  | none => rfl
  | some pos => rfl

/-- A line of a section, before its CR LF. -/
structure LineText where
  text : Bytes
  nonempty : text ≠ []
  accepted : readHeader text ≠ .badStatus

namespace LineText

/-- The line as it is delivered. -/
def toHeaderLine (line : LineText) : HeaderLine where
  bytes := line.text ++ crlf
  long := by
    have terminator : crlf.length = 2 := rfl
    rw [List.length_append, terminator]
    exact Nat.le_add_left 2 _
  notBlank := by
    intro blank
    have lengths := congrArg List.length blank
    rw [List.length_append] at lengths
    have positive := List.length_pos_iff.mpr line.nonempty
    omega
  accepted := by
    have whole : (line.text ++ crlf).take ((line.text ++ crlf).length - 2) = line.text := by
      simp [crlf]
    rw [whole]
    exact line.accepted

/-- A line that ends in CRLF is read as its text. -/
theorem reading_toHeaderLine (line : LineText) :
    line.toHeaderLine.reading = readHeader line.text := by
  have whole : (line.text ++ crlf).take ((line.text ++ crlf).length - 2) = line.text := by
    simp [crlf]
  rw [HeaderLine.reading, toHeaderLine, whole]

end LineText

/-- `HTTP/<version> <3 digits> ...` -/
structure StatusLine where
  version : Bytes
  code : Bytes
  reason : Bytes
  oneWord : 32 ∉ version
  threeDigits : code.length = 3
  digits : ∀ byte ∈ code, Platform.isDigit byte = true

namespace StatusLine

/-- A status line of HTTP/1.1. -/
def http11 (code reason : Bytes) (threeDigits : code.length = 3)
    (digits : ∀ byte ∈ code, Platform.isDigit byte = true) : StatusLine where
  version := ascii "1.1"
  code := code
  reason := reason
  oneWord := by decide +kernel
  threeDigits := threeDigits
  digits := digits

/-- The status line, without its end. -/
def content (status : StatusLine) : Bytes :=
  ascii "HTTP/" ++ status.version ++ ascii " " ++ status.code ++ status.reason

/-- The reading of a status line is its code. -/
theorem readHeader_content (status : StatusLine) :
    readHeader status.content = .status status.code := by
  have split : status.content =
      (ascii "HTTP/" ++ status.version) ++ (32 :: (status.code ++ status.reason)) := by
    simp [content, ascii]
  have begins : BeginsHttp status.content := by
    refine ⟨47 :: (status.version ++ ascii " " ++ status.code ++ status.reason), ?_⟩
    simp [content, ascii]
  have absent : 32 ∉ ascii "HTTP/" ++ status.version := by
    intro member
    rcases List.mem_append.mp member with inHttp | inVersion
    · revert inHttp
      decide
    · exact status.oneWord inVersion
  have space : Bytes.find (32 :: (status.code ++ status.reason)) (ascii " ") = some 0 := by
    rw [Bytes.find, if_pos ⟨status.code ++ status.reason, rfl⟩]
  have found : status.content.find (ascii " ") =
      some (ascii "HTTP/" ++ status.version).length := by
    rw [split, Bytes.find_append _ rfl absent, space]
    rfl
  have behind : status.content.drop ((ascii "HTTP/" ++ status.version).length + 1) =
      status.code ++ status.reason := by
    rw [split, List.drop_append, List.drop_of_length_le (Nat.le_succ _), Nat.add_sub_cancel_left]
    rfl
  rw [readHeader_of_beginsHttp begins, found, Option.elim_some, Bytes.substr, behind,
    ← status.threeDigits, List.take_left]

/-- The status line as a line of a section. -/
def line (status : StatusLine) : LineText where
  text := status.content
  nonempty := by simp [content, ascii]
  accepted := by
    rw [status.readHeader_content]
    simp

end StatusLine

/-- A section of a status line and further lines. -/
def sectionOf (status : StatusLine) (lines : List LineText) : ResponseHead :=
  .ofLines ((status.line :: lines).map LineText.toHeaderLine)

section Sections

variable (platform : Platform)

/-- The block that holds a status only. -/
def statusBlock (code : Bytes) : SpdyHeaderBlock := SpdyHeaderBlock.empty.set (ascii ":status") code

/-- The lines of a section are stored one after the other in the block that holds the
status. -/
theorem fields_sectionOf (status : StatusLine) (lines : List LineText) :
    (sectionOf status lines).fields platform =
      lines.foldl (fun block line => QuicProxyCurl.store platform block (readHeader line.text))
        (statusBlock status.code) := by
  rw [sectionOf, ResponseHead.ofLines, ResponseHead.fields, List.foldl_map, List.foldl_cons]
  simp only [LineText.reading_toHeaderLine]
  rw [StatusLine.line, status.readHeader_content]
  rfl

/-- The length a block declares, or else the length in force before. -/
def lengthFrom (block : SpdyHeaderBlock) (before : UInt64) : UInt64 :=
  ((block.find (ascii "content-length")).map platform.stringToSizeT).getD before

/-- The delivery of a section hands `block` to `WriteHeaders`, once, and leaves
`length` as the content length. -/
def Writes (exchange : Exchange) (head : ResponseHead) (block : SpdyHeaderBlock)
    (length : UInt64) : Prop :=
  ∃ after fin, exchange.deliver platform head.callbacks = some after ∧
    after.stream.calls = exchange.stream.calls ++ [.writeHeaders block fin] ∧
    after.proxy.contentLength = length

/-- What a section is written as: the block of its lines, with the length it leaves in force. -/
theorem writes_iff (exchange : Exchange) (status : StatusLine) (lines : List LineText)
    (block : SpdyHeaderBlock) (length : UInt64) (attached : exchange.proxy.quicStream ≠ none)
    (fresh : exchange.proxy.spdyHeaders = .empty) :
    Writes platform exchange (sectionOf status lines) block length ↔
      block = (sectionOf status lines).fields platform ∧
        length = lengthFrom platform ((sectionOf status lines).fields platform)
          exchange.proxy.contentLength := by
  have delivered := exchange.deliver_head platform (sectionOf status lines) attached fresh rfl
  unfold Writes
  rw [delivered]
  constructor
  · rintro ⟨after, fin, same, calls, rfl⟩
    cases same
    simp only [Exchange.withHeads, headerCalls, QuicProxyStream.call, List.append_cancel_left_eq,
      List.cons.injEq, StreamCall.writeHeaders.injEq] at calls
    exact ⟨calls.1.1.symm, rfl⟩
  · rintro ⟨rfl, rfl⟩
    exact ⟨_, _, rfl, rfl, rfl⟩

end Sections

end QuicProxy
