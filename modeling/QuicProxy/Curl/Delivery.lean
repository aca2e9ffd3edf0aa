import QuicProxy.Curl.Exchange

/-!
# The calls a transfer makes

The callbacks of one transfer turn into one `WriteHeaders` for each header section
and one `WriteOrBufferBody` for each piece of the body. `deliver_responses` gives
them in order with the fin each carries; `deliver_bareBlank` is the transfer with
a section that ends in a bare LF.
-/

namespace QuicProxy

/-- The bytes of a sequence of chunks, counted as `size_t` counts them. -/
def totalSize (chunks : List Bytes) : UInt64 := .ofNat chunks.flatten.length

@[simp] theorem totalSize_nil : totalSize [] = 0 := rfl

@[simp] theorem totalSize_cons (chunk : Bytes) (rest : List Bytes) :
    totalSize (chunk :: rest) = QuicProxyCurl.realSize chunk + totalSize rest := by
  simp [totalSize, QuicProxyCurl.realSize, UInt64.ofNat_add]

section Calls

variable (platform : Platform)

/-- What the header sections write, from `length` as the length in force. -/
def headerCalls (length : UInt64) : List ResponseHead → List StreamCall
  | [] => []
  | head :: rest =>
      let inForce := (head.declaredLength platform).getD length
      .writeHeaders (head.fields platform) (decide (head.Closes platform inForce)) ::
        headerCalls inForce rest

/-- What the pieces of the body write, after `sent` bytes. -/
def bodyCalls (length sent : UInt64) : List Bytes → List StreamCall
  | [] => []
  | chunk :: rest =>
      let nowSent := sent + QuicProxyCurl.realSize chunk
      .writeOrBufferBody chunk (nowSent == length) :: bodyCalls length nowSent rest

/-- Everything a transfer writes. -/
def Responses.calls (responses : Responses) : List StreamCall :=
  headerCalls platform 0 responses.heads ++
    bodyCalls (responses.lengthInForce platform) 0 responses.chunks

/-- The lengths of earlier sections stay in force for the later ones. -/
theorem headerCalls_append (length : UInt64) (first second : List ResponseHead) :
    headerCalls platform length (first ++ second) =
      headerCalls platform length first ++
        headerCalls platform (lengthAfter platform length first) second := by
  induction first generalizing length with
  | nil => rfl
  | cons head rest ih => simp [headerCalls, lengthAfter, ih]

end Calls

namespace Exchange

variable (platform : Platform)

@[simp] theorem deliver_nil (exchange : Exchange) :
    exchange.deliver platform [] = some exchange := rfl

/-- A delivery callback by callback. -/
theorem deliver_cons (exchange : Exchange) (callback : Callback) (rest : List Callback) :
    exchange.deliver platform (callback :: rest) =
      (exchange.callback platform callback).bind fun next => next.deliver platform rest := by
  simp [deliver]

/-- A delivery in two parts. -/
theorem deliver_append (exchange : Exchange) (first second : List Callback) :
    exchange.deliver platform (first ++ second) =
      (exchange.deliver platform first).bind fun next => next.deliver platform second := by
  simp [deliver, List.foldlM_append]

/-- The proxy after the lines of a section, or of a trailer. -/
def withLines (exchange : Exchange) (lines : List HeaderLine) : Exchange :=
  { exchange with
    proxy.spdyHeaders := lines.foldl
      (fun block line => QuicProxyCurl.store platform block line.reading)
      exchange.proxy.spdyHeaders }

/-- A line other than the blank one changes the block being built only. -/
theorem callback_line (exchange : Exchange) (line : HeaderLine)
    (attached : exchange.proxy.quicStream ≠ none) :
    exchange.callback platform (.header line.bytes) =
      some (exchange.withLines platform [line]) := by
  have long : ¬ line.bytes.length < 2 := Nat.not_lt.mpr line.long
  simp [callback, QuicProxyCurl.httpHeaderCallback, attached, line.notBlank, long, accept,
    withLines, QuicProxyStream.call, HeaderLine.reading]

/-- The lines of a section fill the block. -/
theorem deliver_lines (exchange : Exchange) (lines : List HeaderLine)
    (attached : exchange.proxy.quicStream ≠ none) :
    exchange.deliver platform (lines.map fun line => .header line.bytes) =
      some (exchange.withLines platform lines) := by
  induction lines generalizing exchange with
  | nil => rfl
  | cons line rest ih =>
      have next := ih (exchange.withLines platform [line]) attached
      rw [List.map_cons, deliver_cons, callback_line platform exchange line attached]
      exact next

/-- The exchange after some header sections. -/
def withHeads (exchange : Exchange) (heads : List ResponseHead) : Exchange where
  proxy := { exchange.proxy with
    contentLength := lengthAfter platform exchange.proxy.contentLength heads
    spdyHeaders := .empty }
  stream := exchange.stream.call (headerCalls platform exchange.proxy.contentLength heads)

/-- The fin on a header section is `ResponseHead.Closes` of the length in force. -/
theorem finOnHeaders_fields (head : ResponseHead) (length : UInt64) :
    QuicProxyCurl.finOnHeaders (head.fields platform) length =
      decide (head.Closes platform length) := by
  rw [Bool.eq_iff_iff, decide_eq_true_iff]
  simp [QuicProxyCurl.finOnHeaders, ResponseHead.Closes, ResponseHead.status,
    ResponseHead.transferEncoding, and_assoc]

/-- The end of a section whose lines have been stored. -/
theorem endOfHeaders_fields (proxy : QuicProxyCurl) (head : ResponseHead)
    (block : proxy.spdyHeaders = head.fields platform) :
    proxy.endOfHeaders platform =
      let length := (head.declaredLength platform).getD proxy.contentLength
      ({ proxy with contentLength := length, spdyHeaders := .empty },
        .writeHeaders (head.fields platform) (decide (head.Closes platform length))) := by
  unfold QuicProxyCurl.endOfHeaders ResponseHead.declaredLength
  rw [block]
  cases (head.fields platform).find (ascii "content-length") with
  | none => simp [finOnHeaders_fields]
  | some value => simp [finOnHeaders_fields]

/-- A section that ends in CRLF is sent as one block. -/
theorem deliver_head (exchange : Exchange) (head : ResponseHead)
    (attached : exchange.proxy.quicStream ≠ none) (fresh : exchange.proxy.spdyHeaders = .empty)
    (blank : head.blank = crlf) :
    exchange.deliver platform head.callbacks = some (exchange.withHeads platform [head]) := by
  have lines := deliver_lines platform exchange head.lines attached
  have block : (exchange.withLines platform head.lines).proxy.spdyHeaders =
      head.fields platform := by
    simp [withLines, fresh, ResponseHead.fields]
  have still : (exchange.withLines platform head.lines).proxy.quicStream ≠ none := attached
  rw [ResponseHead.callbacks, deliver_append, lines, Option.bind_some, deliver_cons, blank]
  simp only [callback, QuicProxyCurl.httpHeaderCallback, if_neg still, if_true,
    endOfHeaders_fields platform _ head block]
  simp [accept, withHeads, withLines, headerCalls, lengthAfter]
  rfl

/-- A section whose blank line came as a bare LF is read outside its buffer. -/
theorem deliver_bareBlank (exchange : Exchange) (head : ResponseHead)
    (attached : exchange.proxy.quicStream ≠ none) (bare : head.blank = [lf]) :
    exchange.deliver platform head.callbacks = none := by
  have lines := deliver_lines platform exchange head.lines attached
  have still : (exchange.withLines platform head.lines).proxy.quicStream ≠ none := attached
  have notBlank : ([lf] : Bytes) ≠ crlf := by decide
  rw [ResponseHead.callbacks, deliver_append, lines, Option.bind_some, deliver_cons, bare]
  simp [callback, QuicProxyCurl.httpHeaderCallback, still, notBlank]

/-- One section after the other. -/
theorem deliver_heads (exchange : Exchange) (heads : List ResponseHead)
    (attached : exchange.proxy.quicStream ≠ none) (fresh : exchange.proxy.spdyHeaders = .empty)
    (blanks : ∀ head ∈ heads, head.blank = crlf) :
    exchange.deliver platform (heads.flatMap ResponseHead.callbacks) =
      some (exchange.withHeads platform heads) := by
  induction heads generalizing exchange with
  | nil =>
      simp [withHeads, headerCalls, lengthAfter, QuicProxyStream.call, ← fresh]
  | cons head rest ih =>
      obtain ⟨blank, blanks⟩ := List.forall_mem_cons.mp blanks
      have next := ih (exchange.withHeads platform [head]) attached rfl blanks
      rw [List.flatMap_cons, deliver_append,
        deliver_head platform exchange head attached fresh blank, Option.bind_some, next]
      simp [withHeads, headerCalls, lengthAfter, QuicProxyStream.call]

/-- The exchange after some pieces of the body. -/
def withChunks (exchange : Exchange) (chunks : List Bytes) : Exchange where
  proxy := { exchange.proxy with
    hadSendLength := exchange.proxy.hadSendLength + totalSize chunks }
  stream := exchange.stream.call
    (bodyCalls exchange.proxy.contentLength exchange.proxy.hadSendLength chunks)

/-- The body is sent piece by piece. -/
theorem deliver_chunks (exchange : Exchange) (chunks : List Bytes)
    (attached : exchange.proxy.quicStream ≠ none) :
    exchange.deliver platform (chunks.map .body) = some (exchange.withChunks chunks) := by
  induction chunks generalizing exchange with
  | nil => simp [withChunks, bodyCalls, QuicProxyStream.call]
  | cons chunk rest ih =>
      have first : exchange.callback platform (.body chunk) =
          some (exchange.withChunks [chunk]) := by
        simp [callback, QuicProxyCurl.writeQuicCallback, attached, accept, withChunks, bodyCalls]
      have next := ih (exchange.withChunks [chunk]) attached
      rw [List.map_cons, deliver_cons, first, Option.bind_some, next]
      simp [withChunks, bodyCalls, QuicProxyStream.call, UInt64.add_assoc]

/-- The exchange after all callbacks of a transfer. -/
def withResponses (exchange : Exchange) (responses : Responses) : Exchange :=
  ((exchange.withHeads platform responses.heads).withChunks responses.chunks).withLines platform
    responses.trailer

/-- What a whole transfer does when every header section ends in CR LF. -/
theorem deliver_responses (exchange : Exchange) (responses : Responses)
    (attached : exchange.proxy.quicStream ≠ none) (fresh : exchange.proxy.spdyHeaders = .empty)
    (blanks : ∀ head ∈ responses.heads, head.blank = crlf) :
    exchange.deliver platform responses.callbacks =
      some (exchange.withResponses platform responses) := by
  have heads := deliver_heads platform exchange responses.heads attached fresh blanks
  have chunks := deliver_chunks platform (exchange.withHeads platform responses.heads)
    responses.chunks attached
  have trailer := deliver_lines platform
    ((exchange.withHeads platform responses.heads).withChunks responses.chunks)
    responses.trailer attached
  rw [Responses.callbacks, deliver_append, deliver_append, heads, Option.bind_some, chunks,
    Option.bind_some, trailer]
  rfl

/-- With some section ending in a bare LF the transfer does not get through. -/
theorem deliver_responses_bareBlank (exchange : Exchange) (responses : Responses)
    (attached : exchange.proxy.quicStream ≠ none) (fresh : exchange.proxy.spdyHeaders = .empty)
    (bare : ¬ ∀ head ∈ responses.heads, head.blank = crlf) :
    exchange.deliver platform responses.callbacks = none := by
  have heads : exchange.deliver platform (responses.heads.flatMap ResponseHead.callbacks) =
      none := by
    generalize responses.heads = heads at bare
    induction heads generalizing exchange with
    | nil => simp at bare
    | cons head rest ih =>
        rw [List.flatMap_cons, deliver_append]
        rcases head.blankLine with blank | blank
        · rw [deliver_head platform exchange head attached fresh blank]
          exact ih (exchange.withHeads platform [head]) attached rfl (by simpa [blank] using bare)
        · rw [deliver_bareBlank platform exchange head attached blank]
          rfl
  rw [Responses.callbacks, deliver_append, deliver_append, heads]
  rfl

/-- A new proxy has its stream. -/
theorem start_attached (proxyRef : ProxyRef) (streamRef : StreamRef) (requestUrl : Bytes) :
    (start proxyRef streamRef requestUrl).proxy.quicStream ≠ none :=
  Option.some_ne_none streamRef

/-- The transfer from its start: either every header section ends in CR LF and
the calls are those of `Responses.calls`, or there is no result. -/
theorem start_deliver (proxyRef : ProxyRef) (streamRef : StreamRef) (requestUrl : Bytes)
    (responses : Responses) (exchange : Exchange) :
    (start proxyRef streamRef requestUrl).deliver platform responses.callbacks = some exchange ↔
      (∀ head ∈ responses.heads, head.blank = crlf) ∧
        (start proxyRef streamRef requestUrl).withResponses platform responses = exchange := by
  have attached := start_attached proxyRef streamRef requestUrl
  by_cases blanks : ∀ head ∈ responses.heads, head.blank = crlf
  · rw [deliver_responses platform _ responses attached rfl blanks, Option.some_inj]
    exact ⟨fun equal => ⟨blanks, equal⟩, fun ⟨_, equal⟩ => equal⟩
  · rw [deliver_responses_bareBlank platform _ responses attached rfl blanks]
    simp [blanks]

/-- What a whole delivery sends. -/
theorem start_withResponses_calls (proxyRef : ProxyRef) (streamRef : StreamRef)
    (requestUrl : Bytes) (responses : Responses) :
    ((start proxyRef streamRef requestUrl).withResponses platform responses).stream.calls =
      responses.calls platform := by
  simp [withResponses, withLines, withChunks, withHeads, start, QuicProxyCurl.create,
    QuicProxyStream.create, QuicProxyStream.setProxyCurl, QuicProxyStream.call,
    Responses.calls, Responses.lengthInForce]

end Exchange

end QuicProxy
