import QuicProxy.Curl.ProxyCurl
import QuicProxy.Http.FieldLines

/-!
# The header lines of a request

`StartHttp` turns the header block of a request into lines, which libcurl sends
with CR LF after each. `requestHeaderLines_eq` gives the lines field by field, each
value cut at its first NUL; `forwards_faithfully_iff` says when the backend reads
the block back.
-/

namespace QuicProxy

/-- The name of a pseudo-header, or a lower-case token. -/
def IsHeaderName (name : Bytes) : Prop :=
  name.head? = some colon ∨
    name ≠ [] ∧ ∀ byte ∈ name, Platform.isTokenByte byte = true ∧ ¬ (65 ≤ byte ∧ byte ≤ 90)

/-- A byte of the text of an IP address. -/
def isAddressByte (byte : UInt8) : Bool :=
  (48 ≤ byte && byte ≤ 57) || (65 ≤ byte && byte ≤ 70) || (97 ≤ byte && byte ≤ 102) ||
    byte == 46 || byte == 58

/-- What a request brings: a header block and the address it comes from. -/
structure ClientRequest where
  headers : SpdyHeaderBlock
  peerIp : Bytes
  names : ∀ header ∈ headers.entries, IsHeaderName header.1
  address : ∀ byte ∈ peerIp, isAddressByte byte

namespace ClientRequest

/-- The entries of the block that are not pseudo-headers. -/
def fields (request : ClientRequest) : List (Bytes × Bytes) :=
  request.headers.entries.filter fun header => header.1.head? != some colon

/-- The fields the block stands for, then the one the proxy adds. A repeated field
is stored as its values joined by NUL. -/
def spelled (request : ClientRequest) : List (Bytes × Bytes) :=
  (request.fields.flatMap fun header =>
      (header.2.splitOn nul).map fun value => (header.1, value)) ++
    [(ascii "x-real-ip", request.peerIp)]

end ClientRequest

/-- The header section libcurl sends for a list of lines. -/
def sentSection (lines : List Bytes) : Bytes := lines.flatMap (· ++ crlf) ++ crlf

/-- A value that survives: no NUL, no line end, no blank at either end. -/
structure CleanValue (lineEnd : LineEnd) (value : Bytes) : Prop where
  noNul : nul ∉ value
  lineFree : LineFree lineEnd value
  trimmed : Trimmed value

/-- The backend reads what the block stands for, and nothing after it. -/
def ForwardsFaithfully (platform : Platform) (lineEnd : LineEnd) (requestUrl : Bytes)
    (streamRef : StreamRef) (request : ClientRequest) (requestBody : Bytes) : Prop :=
  let proxy := ((QuicProxyCurl.create requestUrl streamRef).startHttp platform request.peerIp
    request.headers requestBody).1
  readSection lineEnd (sentSection proxy.requestHeaderList) = some ⟨request.spelled, [[]]⟩

/-! ## C strings -/

/-- A C string holds the first of the values that NULs join. -/
theorem splitOn_nul (value : Bytes) :
    ∃ others, value.splitOn nul = Bytes.cString value :: others := by
  induction value with
  | nil => exact ⟨[], rfl⟩
  | cons byte rest ih =>
      obtain ⟨others, split⟩ := ih
      rw [List.splitOn_cons_eq_if_modifyHead]
      by_cases isNul : byte = nul
      · exact ⟨rest.splitOn nul, by simp [isNul, Bytes.cString]⟩
      · exact ⟨others, by simp [isNul, split, Bytes.cString]⟩

/-- A value that is not cut short has no NUL. -/
theorem not_mem_of_splitOn {value : Bytes} (single : value.splitOn nul = [Bytes.cString value]) :
    nul ∉ value := by
  have joined : [nul].intercalate (value.splitOn nul) = value := List.intercalate_splitOn nul
  rw [single, List.intercalate_singleton] at joined
  rw [← joined]
  intro found
  have kept := List.mem_takeWhile_imp found
  simp at kept

/-! ## The lines -/

/-- A byte that a field name or an address can have. -/
structure IsPlain (byte : UInt8) : Prop where
  notNul : byte ≠ nul
  notCr : byte ≠ cr
  notLf : byte ≠ lf

/-- A byte of a class is none of those outside it. -/
theorem ne_of_class {accepts : UInt8 → Bool} {byte other : UInt8}
    (inside : accepts byte = true) (outside : accepts other = false) : byte ≠ other := by
  rintro rfl
  rw [inside] at outside
  cases outside

/-- A token has no line end and no colon. -/
theorem isPlain_of_token {byte : UInt8} (token : Platform.isTokenByte byte = true) :
    IsPlain byte ∧ byte ≠ colon :=
  ⟨⟨ne_of_class token rfl, ne_of_class token rfl,
    ne_of_class token rfl⟩, ne_of_class token rfl⟩

/-- An address has no line end and no blank. -/
theorem isPlain_of_address {byte : UInt8} (address : isAddressByte byte = true) :
    IsPlain byte ∧ isOws byte = false := by
  have notSp : byte ≠ 32 := ne_of_class address rfl
  have notTab : byte ≠ 9 := ne_of_class address rfl
  refine ⟨⟨ne_of_class address rfl, ne_of_class address rfl,
    ne_of_class address rfl⟩, ?_⟩
  rw [isOws, beq_false_of_ne notSp, beq_false_of_ne notTab]
  rfl

namespace ClientRequest

/-- The name of a forwarded field is a token. -/
theorem name_token (request : ClientRequest) {header : Bytes × Bytes}
    (member : header ∈ request.fields) :
    header.1 ≠ [] ∧ ∀ byte ∈ header.1, IsPlain byte ∧ byte ≠ colon := by
  obtain ⟨inBlock, notPseudo⟩ := List.mem_filter.mp member
  rcases request.names header inBlock with pseudo | ⟨nonempty, token⟩
  · rw [pseudo] at notPseudo
    cases notPseudo
  · exact ⟨nonempty, fun byte inName => isPlain_of_token (token byte inName).1⟩

end ClientRequest

/-- The line of one field. -/
def fieldLine (header : Bytes × Bytes) : Bytes :=
  header.1 ++ ascii ": " ++ Bytes.cString header.2

/-- The lines of a request: its fields, and the peer's address last. -/
theorem requestHeaderLines_eq (request : ClientRequest) :
    QuicProxyCurl.requestHeaderLines request.peerIp request.headers =
      (request.fields ++ [(ascii "x-real-ip", request.peerIp)]).map fieldLine := by
  have separator : nul ∉ ascii ": " := by decide
  have realIp : nul ∉ ascii "x-real-ip: " := by decide
  have fields : (request.fields.map fun header =>
      Bytes.cString (header.1 ++ ascii ": " ++ header.2)) = request.fields.map fieldLine := by
    refine List.map_congr_left fun header member => ?_
    have name := (request.name_token member).2
    refine cString_append _ fun found => ?_
    rcases List.mem_append.mp found with inName | inSeparator
    · exact (name nul inName).1.notNul rfl
    · exact separator inSeparator
  rw [List.map_append, ← fields]
  unfold QuicProxyCurl.requestHeaderLines
  rw [cString_append _ realIp]
  rfl

/-- `StartHttp` adds these lines to the list. -/
theorem startHttp_requestHeaderList (platform : Platform) (proxy : QuicProxyCurl)
    (peerIp : Bytes) (headers : SpdyHeaderBlock) (requestBody : Bytes) :
    (proxy.startHttp platform peerIp headers requestBody).1.requestHeaderList =
      proxy.requestHeaderList ++ QuicProxyCurl.requestHeaderLines peerIp headers := by
  simp only [QuicProxyCurl.startHttp]
  split
  · rfl
  · split <;> rfl

/-! ## Reading them back -/

/-- As many parts as elements at least, where none is empty. -/
theorem length_le_flatMap {α β : Type} {pieces : α → List β} {list : List α}
    (nonempty : ∀ element ∈ list, pieces element ≠ []) :
    list.length ≤ (list.flatMap pieces).length := by
  induction list with
  | nil => simp
  | cons head rest ih =>
      obtain ⟨first, nonempty⟩ := List.forall_mem_cons.mp nonempty
      have others := ih nonempty
      have positive := List.length_pos_iff.mpr first
      rw [List.flatMap_cons, List.length_append, List.length_cons]
      omega

/-- Lists of pieces that amount to one piece each are single pieces. -/
theorem singletons_of_flatMap_eq_map {α β : Type} {pieces : α → List β} {first : α → β}
    {list : List α} (starts : ∀ element ∈ list, ∃ others, pieces element = first element :: others)
    (equal : list.flatMap pieces = list.map first) :
    ∀ element ∈ list, pieces element = [first element] := by
  induction list with
  | nil => simp
  | cons head rest ih =>
      obtain ⟨⟨others, split⟩, starts⟩ := List.forall_mem_cons.mp starts
      rw [List.flatMap_cons, split, List.map_cons, List.cons_append, List.cons_inj_right] at equal
      have lengths : rest.length ≤ (rest.flatMap pieces).length := by
        refine length_le_flatMap fun element member => ?_
        obtain ⟨more, nextSplit⟩ := starts element member
        simp [nextSplit]
      have total := congrArg List.length equal
      rw [List.length_append, List.length_map] at total
      have none : others = [] := List.eq_nil_of_length_eq_zero (by omega)
      subst none
      exact List.forall_mem_cons.mpr ⟨split, ih starts equal⟩

/-- The line of a field as it is read: its value is the C string, trimmed. -/
theorem readFieldLine_fieldLine {header : Bytes × Bytes} (noColon : colon ∉ header.1) :
    readFieldLine (fieldLine header) = some (header.1, trimOws (Bytes.cString header.2)) :=
  readFieldLine_line header.1 (Bytes.cString header.2) noColon

/-- A field whose line comes back as one field. -/
structure ReadsBack (lineEnd : LineEnd) (header : Bytes × Bytes) : Prop where
  named : header.1 ≠ []
  plain : ∀ byte ∈ header.1, IsPlain byte ∧ byte ≠ colon
  lineFree : LineFree lineEnd (Bytes.cString header.2)
  trimmed : Trimmed (Bytes.cString header.2)

/-- A line that reads back has no line end in it. -/
theorem ReadsBack.line {lineEnd : LineEnd} {header : Bytes × Bytes}
    (back : ReadsBack lineEnd header) : LineFree lineEnd (fieldLine header) := by
  refine back.lineFree.append fun byte member => ?_
  rcases List.mem_append.mp member with inName | inSeparator
  · exact ⟨(back.plain byte inName).1.notCr, (back.plain byte inName).1.notLf⟩
  · have separator : ∀ byte ∈ ascii ": ", byte ≠ cr ∧ byte ≠ lf := by decide +kernel
    exact separator byte inSeparator

/-- A section whose lines read back is read as their fields. -/
theorem readSection_fieldLines (lineEnd : LineEnd) (headers : List (Bytes × Bytes))
    (back : ∀ header ∈ headers, ReadsBack lineEnd header) :
    readSection lineEnd (sentSection (headers.map fieldLine)) =
      some ⟨headers.map fun header => (header.1, Bytes.cString header.2), [[]]⟩ := by
  have free : ∀ line ∈ headers.map fieldLine, LineFree lineEnd line := by
    intro line member
    obtain ⟨header, inHeaders, rfl⟩ := List.mem_map.mp member
    exact (back header inHeaders).line
  have nonempty : ∀ line ∈ headers.map fieldLine, line ≠ [] := by
    intro line member
    obtain ⟨header, inHeaders, rfl⟩ := List.mem_map.mp member
    simp [fieldLine, (back header inHeaders).named]
  have fields : (headers.map fieldLine).mapM readFieldLine =
      some (headers.map fun header => (header.1, Bytes.cString header.2)) := by
    rw [List.mapM_map]
    refine mapM_eq_some_map fun header member => ?_
    have noColon : colon ∉ header.1 := fun found => ((back header member).plain colon found).2 rfl
    have trimmed := (back header member).trimmed.trimOws_eq
    rw [Function.comp_apply, readFieldLine_fieldLine noColon, trimmed]
  rw [sentSection, readSection_lines lineEnd _ free nonempty, fields]
  rfl

/-- An address is a C string. -/
theorem address_cString {peerIp : Bytes} (address : ∀ byte ∈ peerIp, isAddressByte byte) :
    Bytes.cString peerIp = peerIp :=
  cString_eq_of_not_mem fun found => (isPlain_of_address (address nul found)).1.notNul rfl

/-- An address has no blanks around it. -/
theorem address_trimmed {peerIp : Bytes} (address : ∀ byte ∈ peerIp, isAddressByte byte) :
    Trimmed peerIp :=
  ⟨fun byte head => (isPlain_of_address (address byte (List.mem_of_head? head))).2,
    fun byte last => (isPlain_of_address (address byte (List.mem_of_getLast? last))).2⟩

/-- The proxy's own field comes back. -/
theorem realIp_readsBack (lineEnd : LineEnd) {peerIp : Bytes}
    (address : ∀ byte ∈ peerIp, isAddressByte byte) :
    ReadsBack lineEnd (ascii "x-real-ip", peerIp) := by
  have named : ascii "x-real-ip" ≠ [] := by decide +kernel
  have token : ∀ byte ∈ ascii "x-real-ip", Platform.isTokenByte byte = true := by decide +kernel
  have lineFree : LineFree lineEnd peerIp := .of_plain lineEnd fun byte member =>
    have plain := (isPlain_of_address (address byte member)).1
    ⟨plain.notCr, plain.notLf⟩
  have trimmed := address_trimmed address
  rw [← address_cString address] at lineFree trimmed
  exact ⟨named, fun byte member => isPlain_of_token (token byte member), lineFree, trimmed⟩

/-- The fields that are sent, with the values the C strings hold. -/
def ClientRequest.sent (request : ClientRequest) : List (Bytes × Bytes) :=
  (request.fields.map fun header => (header.1, Bytes.cString header.2)) ++
    [(ascii "x-real-ip", request.peerIp)]

/-- The section of a request with clean values reads back as what was sent. -/
theorem readSection_sent (lineEnd : LineEnd) (request : ClientRequest)
    (clean : ∀ header ∈ request.fields, LineFree lineEnd (Bytes.cString header.2) ∧
      Trimmed (Bytes.cString header.2)) :
    readSection lineEnd (sentSection
        ((request.fields ++ [(ascii "x-real-ip", request.peerIp)]).map fieldLine)) =
      some ⟨request.sent, [[]]⟩ := by
  rw [readSection_fieldLines]
  · rw [List.map_append, List.map_singleton, address_cString request.address]
    rfl
  · intro header member
    rcases List.mem_append.mp member with isField | isRealIp
    · have name := request.name_token isField
      exact ⟨name.1, name.2, (clean header isField).1, (clean header isField).2⟩
    · obtain rfl := List.mem_singleton.mp isRealIp
      exact realIp_readsBack lineEnd request.address

/-- The backend reads the fields of the request, and the peer's address, exactly if no value
of the client's has a NUL, a line end or blanks around it. -/
theorem forwards_faithfully_iff (platform : Platform) (lineEnd : LineEnd) (requestUrl : Bytes)
    (streamRef : StreamRef) (request : ClientRequest) (requestBody : Bytes) :
    ForwardsFaithfully platform lineEnd requestUrl streamRef request requestBody ↔
      ∀ header ∈ request.fields, CleanValue lineEnd header.2 := by
  have lines : ((QuicProxyCurl.create requestUrl streamRef).startHttp platform request.peerIp
      request.headers requestBody).1.requestHeaderList =
      (request.fields ++ [(ascii "x-real-ip", request.peerIp)]).map fieldLine := by
    rw [startHttp_requestHeaderList, requestHeaderLines_eq]
    rfl
  simp only [ForwardsFaithfully, lines]
  constructor
  · intro read header member
    have sound := readSection_sound read
    -- every value the block stands for was read back
    have values : ∀ header ∈ request.fields, ∀ value ∈ header.2.splitOn nul,
        LineFree lineEnd value ∧ Trimmed value := by
      intro other otherMember value piece
      refine sound (other.1, value) ?_
      rw [ClientRequest.spelled, List.mem_append, List.mem_flatMap]
      exact .inl ⟨other, otherMember, List.mem_map.mpr ⟨value, piece, rfl⟩⟩
    -- so each line reads back as the first of its values
    have firsts : ∀ header ∈ request.fields, LineFree lineEnd (Bytes.cString header.2) ∧
        Trimmed (Bytes.cString header.2) := by
      intro other otherMember
      obtain ⟨others, split⟩ := splitOn_nul other.2
      exact values other otherMember _ (by simp [split])
    rw [readSection_sent lineEnd request firsts, Option.some_inj] at read
    have equal : request.sent = request.spelled := congrArg HeaderSection.fields read
    have pieces := List.append_cancel_right equal
    have single := singletons_of_flatMap_eq_map
      (fun other _ => by
        obtain ⟨others, split⟩ := splitOn_nul other.2
        exact ⟨others.map (other.1, ·), by rw [split, List.map_cons]⟩) pieces.symm header member
    have whole : header.2.splitOn nul = [Bytes.cString header.2] := by
      obtain ⟨others, split⟩ := splitOn_nul header.2
      rw [split, List.map_cons, List.cons_inj_right, List.map_eq_nil_iff] at single
      rw [split, single]
    have noNul := not_mem_of_splitOn whole
    have first := firsts header member
    rw [cString_eq_of_not_mem noNul] at first
    exact ⟨noNul, first.1, first.2⟩
  · intro clean
    have firsts : ∀ header ∈ request.fields, LineFree lineEnd (Bytes.cString header.2) ∧
        Trimmed (Bytes.cString header.2) := by
      intro header member
      rw [cString_eq_of_not_mem (clean header member).noNul]
      exact ⟨(clean header member).lineFree, (clean header member).trimmed⟩
    have whole : request.sent = request.spelled := by
      unfold ClientRequest.sent ClientRequest.spelled
      congr 1
      rw [List.map_eq_flatMap]
      refine List.flatMap_congr fun header member => ?_
      have noNul := (clean header member).noNul
      rw [List.splitOn_eq_singleton noNul, cString_eq_of_not_mem noNul]
      rfl
    rw [readSection_sent lineEnd request firsts, whole]

/-- A client sends two values under one name. -/
def repeatedField : ClientRequest where
  headers := (SpdyHeaderBlock.empty.set (ascii ":method") (ascii "GET")).set (ascii "accept")
    (ascii "text/html" ++ [nul] ++ ascii "text/plain")
  peerIp := ascii "192.0.2.7"
  names := by
    intro header member
    have all : ∀ header ∈ ((SpdyHeaderBlock.empty.set (ascii ":method") (ascii "GET")).set
        (ascii "accept") (ascii "text/html" ++ [nul] ++ ascii "text/plain")).entries,
        header.1.head? = some colon ∨ header.1 ≠ [] ∧ ∀ byte ∈ header.1,
          Platform.isTokenByte byte = true ∧ ¬ (65 ≤ byte ∧ byte ≤ 90) := by
      decide +kernel
    exact all header member
  address := by decide +kernel

/-- A repeated field is sent up to its first value. -/
theorem repeatedField_cut_short :
    ¬ ForwardsFaithfully Platform.chromium .strict (ascii "http://localhost/") 0 repeatedField
      [] := by
  intro faithful
  have read : readSection .strict (sentSection
      ((QuicProxyCurl.create (ascii "http://localhost/") 0).startHttp Platform.chromium
        repeatedField.peerIp repeatedField.headers []).1.requestHeaderList) =
      some ⟨[(ascii "accept", ascii "text/html"), (ascii "x-real-ip", ascii "192.0.2.7")],
        [[]]⟩ := by
    decide +kernel
  have differ : ¬ repeatedField.spelled =
      [(ascii "accept", ascii "text/html"), (ascii "x-real-ip", ascii "192.0.2.7")] := by
    decide +kernel
  rw [ForwardsFaithfully, read, Option.some_inj] at faithful
  exact differ (congrArg HeaderSection.fields faithful).symm

end QuicProxy
