import QuicProxy.Curl.ProxyCurl

/-!
# The QUIC stream of a request

Of `QuicProxyStream` and its base classes the code uses the back-pointer, the
calls that send a response, and two flags. Assumed of `QuicStream`:
`set_fin_sent` and `CloseWriteSide` change flags and send nothing; the transport
sets both once it has consumed a FIN that a call handed to it.
-/

namespace QuicProxy

namespace StreamCall

/-- The call hands a FIN to the stream. -/
def carriesFin : StreamCall → Bool
  | .writeHeaders _ fin | .writeOrBufferBody _ fin => fin
  | .reset => false

/-- The call writes a header block or at least one body byte. -/
def writes : StreamCall → Bool
  | .writeHeaders _ _ => true
  | .writeOrBufferBody body _ => body != []
  | .reset => false

end StreamCall

/-- `calls` lists what was called on the stream, the latest call last. -/
structure QuicProxyStream where
  quicProxyCurl : Option ProxyRef
  calls : List StreamCall
  finSent : Bool
  writeSideClosed : Bool

namespace QuicProxyStream

/-- The constructor. -/
def create : QuicProxyStream := ⟨none, [], false, false⟩

/-- `set_proxy_curl` -/
def setProxyCurl (stream : QuicProxyStream) (proxy : Option ProxyRef) : QuicProxyStream :=
  { stream with quicProxyCurl := proxy }

/-- The stream with more calls made on it. -/
def call (stream : QuicProxyStream) (calls : List StreamCall) : QuicProxyStream :=
  { stream with calls := stream.calls ++ calls }

/-- A FIN was handed to the transport. -/
def finHanded (stream : QuicProxyStream) : Bool := stream.calls.any StreamCall.carriesFin

/-- The transport consumes the FIN it was handed, if any. -/
def finConsumed (stream : QuicProxyStream) : QuicProxyStream :=
  if stream.finHanded then { stream with finSent := true, writeSideClosed := true } else stream

/-- `QuicProxyStream::OnStreamFrameAcked`, after the base class has run. With a
proxy attached it calls `ContinueDownload`, whose body is commented out. -/
def onStreamFrameAcked (stream : QuicProxyStream) (bufferedDataBytes : Nat) :
    QuicProxyStream :=
  if stream.quicProxyCurl.isSome then
    stream
  else if stream.finSent = false ∧ bufferedDataBytes = 0 then
    { stream with finSent := true, writeSideClosed := true }
  else
    stream

/-! Neither the transport's FIN nor an acknowledgement touches the pointer or makes
a call. -/

@[simp] theorem quicProxyCurl_finConsumed (stream : QuicProxyStream) :
    stream.finConsumed.quicProxyCurl = stream.quicProxyCurl := by
  unfold finConsumed
  split <;> rfl

@[simp] theorem calls_finConsumed (stream : QuicProxyStream) :
    stream.finConsumed.calls = stream.calls := by
  unfold finConsumed
  split <;> rfl

@[simp] theorem quicProxyCurl_onStreamFrameAcked (stream : QuicProxyStream)
    (bufferedDataBytes : Nat) :
    (stream.onStreamFrameAcked bufferedDataBytes).quicProxyCurl = stream.quicProxyCurl := by
  unfold onStreamFrameAcked
  split
  · rfl
  · split <;> rfl

@[simp] theorem calls_onStreamFrameAcked (stream : QuicProxyStream) (bufferedDataBytes : Nat) :
    (stream.onStreamFrameAcked bufferedDataBytes).calls = stream.calls := by
  unfold onStreamFrameAcked
  split
  · rfl
  · split <;> rfl

end QuicProxyStream

end QuicProxy
