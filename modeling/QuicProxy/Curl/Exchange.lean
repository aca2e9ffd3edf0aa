import QuicProxy.Curl.Stream

/-!
# One transfer and its stream

An `Exchange` is a proxy with the stream it serves. `Responses` is what libcurl
delivers for one transfer: the header sections of interim responses and of
followed redirects, then those of the final response, its body in pieces and its
trailer.
-/

namespace QuicProxy

/-- A callback of libcurl for one transfer. -/
inductive Callback where
  | header (line : Bytes)
  | body (chunk : Bytes)

/-- What can happen to a transfer next. -/
inductive ExchangeEvent where
  | callback (callback : Callback)
  | done (result : CurlCode)
  | acked (bufferedDataBytes : Nat)
  | finConsumed

/-- A proxy and its stream. -/
structure Exchange where
  proxy : QuicProxyCurl
  stream : QuicProxyStream

namespace Exchange

variable (platform : Platform)

/-- The proxy changes and its calls reach the stream. -/
def accept (exchange : Exchange) (result : CallbackResult) : Exchange :=
  ⟨result.proxy, exchange.stream.call result.calls⟩

/-- A callback of libcurl. -/
def callback (exchange : Exchange) : Callback → Option Exchange
  | .header line => (exchange.proxy.httpHeaderCallback platform line).map exchange.accept
  | .body chunk => some (exchange.accept (exchange.proxy.writeQuicCallback chunk))

/-- What `CheckCurlMultiInfo` does to the two objects of a finished transfer:
the result is logged and not looked at. -/
def done (exchange : Exchange) (_result : CurlCode) : Exchange :=
  if exchange.proxy.quicStream.isSome then
    ⟨exchange.proxy.setStream none, exchange.stream.setProxyCurl none⟩
  else exchange

/-- What happens to both at an event. -/
def step (exchange : Exchange) : ExchangeEvent → Option Exchange
  | .callback callback => exchange.callback platform callback
  | .done result => some (exchange.done result)
  | .acked bufferedDataBytes =>
      some { exchange with stream := exchange.stream.onStreamFrameAcked bufferedDataBytes }
  | .finConsumed => some { exchange with stream := exchange.stream.finConsumed }

/-- The transfer as it starts, after `StartHttp`. -/
def start (proxyRef : ProxyRef) (streamRef : StreamRef) (requestUrl : Bytes) : Exchange :=
  ⟨.create requestUrl streamRef, QuicProxyStream.create.setProxyCurl (some proxyRef)⟩

/-- Deliver callbacks one after the other. -/
def deliver (exchange : Exchange) (callbacks : List Callback) : Option Exchange :=
  callbacks.foldlM (callback platform) exchange

end Exchange

/-! ## What libcurl delivers -/

/-- A line of a header section other than the blank one. A status line without a
space is none: the callback returns 0 for it and libcurl ends the transfer. -/
structure HeaderLine where
  bytes : Bytes
  long : 2 ≤ bytes.length
  notBlank : bytes ≠ crlf
  accepted : readHeader (bytes.take (bytes.length - 2)) ≠ .badStatus

namespace HeaderLine

/-- The line as `HttpHeaderCallback` reads it, without its last two bytes. -/
def reading (line : HeaderLine) : HeaderReading :=
  readHeader (line.bytes.take (line.bytes.length - 2))

end HeaderLine

/-- The header section of one response. libcurl passes the blank line on as it
came: as CR LF, or as LF alone. -/
structure ResponseHead where
  lines : List HeaderLine
  blank : Bytes
  blankLine : blank = crlf ∨ blank = [lf]

namespace ResponseHead

/-- A section that ends in CR LF. -/
def ofLines (lines : List HeaderLine) : ResponseHead := ⟨lines, crlf, .inl rfl⟩

variable (platform : Platform)

/-- The header block its lines spell. -/
def fields (head : ResponseHead) : SpdyHeaderBlock :=
  head.lines.foldl (fun block line => QuicProxyCurl.store platform block line.reading) .empty

/-- The length the section declares, as `HttpHeaderCallback` reads it: `StringToSizeT` of the
value it has stored as `content-length`. -/
def declaredLength (head : ResponseHead) : Option UInt64 :=
  ((head.fields platform).find (ascii "content-length")).map platform.stringToSizeT

/-- The status as the callback keeps it. -/
def status (head : ResponseHead) : Bytes :=
  ((head.fields platform).find (ascii ":status")).getD []

/-- The transfer encoding as the callback keeps it. -/
def transferEncoding (head : ResponseHead) : Bytes :=
  ((head.fields platform).find (ascii "transfer-encoding")).getD []

/-- With `length` as the length in force, the section is taken for a whole
response. -/
def Closes (head : ResponseHead) (length : UInt64) : Prop :=
  length = 0 ∧ head.status platform ≠ ascii "200" ∧ head.status platform ≠ ascii "100" ∧
    head.transferEncoding platform ≠ ascii "chunked"

instance (head : ResponseHead) (length : UInt64) : Decidable (head.Closes platform length) :=
  inferInstanceAs (Decidable (_ ∧ _))

/-- One callback for each line. -/
def callbacks (head : ResponseHead) : List Callback :=
  head.lines.map (fun line => .header line.bytes) ++ [.header head.blank]

end ResponseHead

/-- The latest length declared in a sequence of header sections, from `length`. -/
def lengthAfter (platform : Platform) (length : UInt64) (heads : List ResponseHead) : UInt64 :=
  heads.foldl (fun latest head => (head.declaredLength platform).getD latest) length

/-- Everything libcurl delivers for one transfer. `earlier` are the interim
responses and the followed redirects. -/
structure Responses where
  earlier : List ResponseHead
  final : ResponseHead
  chunks : List Bytes
  trailer : List HeaderLine

namespace Responses

variable (platform : Platform)

/-- All the sections, the response's own last. -/
def heads (responses : Responses) : List ResponseHead := responses.earlier ++ [responses.final]

/-- All of libcurl's callbacks, in order. -/
def callbacks (responses : Responses) : List Callback :=
  responses.heads.flatMap ResponseHead.callbacks ++ responses.chunks.map .body ++
    responses.trailer.map fun line => .header line.bytes

/-- The length in force for the body: the latest one declared in the transfer. -/
def lengthInForce (responses : Responses) : UInt64 := lengthAfter platform 0 responses.heads

end Responses

end QuicProxy
