import QuicProxy.Curl.Stream
import Mathlib.Logic.Function.Basic

/-!
# The backend and its objects

`QuicProxyBackend` holds the transfers in progress in `proxy_http_hash_` and the
finished ones in `proxy_http_dead_list_`. Streams and proxies point at each other
without owning each other, so the state has a heap of each: an object that is not
there has been destroyed, and using it is a `Fault`.

Of the libraries the state keeps what the code hands to them. libcurl: the easy
handles added to the multi, and the sockets it has announced with the pointer
`curl_multi_assign` gave each. The epoll server: per registered fd its callback
object and interest; registering an fd again replaces its entry, and the calls that
change or remove an entry do nothing where there is none.
-/

namespace QuicProxy

/-- A `curl_socket_t`. -/
abbrev Socket := Int

/-- Undefined behaviour the code can run into. -/
inductive Fault where
  | destroyedStream (stream : StreamRef)
  | destroyedProxy (proxy : ProxyRef)
  | absentProxy
  | missingPath
  | outOfBounds
deriving DecidableEq

/-- The fault is a use of an object that has been destroyed. -/
def Fault.isUseAfterFree : Fault → Bool
  | .destroyedStream _ | .destroyedProxy _ => true
  | .absentProxy | .missingPath | .outOfBounds => false

/-- `CURL_POLL_*` -/
inductive CurlPoll where
  | none
  | pollIn
  | pollOut
  | pollInOut
  | remove
deriving DecidableEq

namespace CurlPoll

/-- `act & CURL_POLL_IN` -/
def hasIn : CurlPoll → Bool
  | pollIn | pollInOut => true
  | none | pollOut | remove => false

/-- `act & CURL_POLL_OUT` -/
def hasOut : CurlPoll → Bool
  | pollOut | pollInOut => true
  | none | pollIn | remove => false

end CurlPoll

/-- A `CURLMsg`; libcurl has no other kind than `CURLMSG_DONE` so far. -/
inductive CurlMsg where
  | done (easyHandle : EasyRef) (result : CurlCode)
  | other

/-- An easy handle in the multi: its `CURLOPT_PRIVATE` and what `StartHttp` set. -/
structure EasyHandle where
  privateData : ProxyRef
  options : EasyOptions

/-- A socket libcurl has announced: the transfer's proxy, the latest action, and
the pointer `curl_multi_assign` gave it. -/
structure CurlSocket where
  announcer : ProxyRef
  action : CurlPoll
  socketp : Option ProxyRef
deriving DecidableEq

/-- What epoll knows of a descriptor: whose callback it runs, and for which events. -/
structure EpollEntry where
  callback : ProxyRef
  read : Bool
  write : Bool
deriving DecidableEq

/-- The objects of the backend, with what libcurl and epoll hold of them. -/
structure BackendState where
  backendUrl : Bytes
  proxyHttpHash : EasyRef → Option ProxyRef
  proxyHttpDeadList : List ProxyRef
  proxies : ProxyRef → Option QuicProxyCurl
  streams : StreamRef → Option QuicProxyStream
  /-- The stream has asked for its response, which it does once. -/
  requested : StreamRef → Bool
  multi : EasyRef → Option EasyHandle
  sockets : Socket → Option CurlSocket
  epoll : Socket → Option EpollEntry

namespace BackendState

/-- Before the first connection, with the spec of the backend's URL. -/
def initial (backendUrl : Bytes) : BackendState where
  backendUrl := backendUrl
  proxyHttpHash := fun _ => none
  proxyHttpDeadList := []
  proxies := fun _ => none
  streams := fun _ => none
  requested := fun _ => false
  multi := fun _ => none
  sockets := fun _ => none
  epoll := fun _ => none

/-! ## The heap -/

/-- A proxy through a pointer to it. -/
def proxy (state : BackendState) (ref : ProxyRef) : Except Fault QuicProxyCurl :=
  match state.proxies ref with
  | some proxy => .ok proxy
  | none => .error (.destroyedProxy ref)

/-- A stream through a pointer to it. -/
def stream (state : BackendState) (ref : StreamRef) : Except Fault QuicProxyStream :=
  match state.streams ref with
  | some stream => .ok stream
  | none => .error (.destroyedStream ref)

def putProxy (state : BackendState) (ref : ProxyRef) (proxy : QuicProxyCurl) : BackendState :=
  { state with proxies := Function.update state.proxies ref (some proxy) }

def putStream (state : BackendState) (ref : StreamRef) (stream : QuicProxyStream) :
    BackendState :=
  { state with streams := Function.update state.streams ref (some stream) }

/-! ## Starting and closing -/

/-- `QuicProxyBackend::CreateProxyCurl`: a new object at `ref`, unless
`curl_easy_init` returns nothing; then the object is gone again. The handle is
new, so no entry of the hash is overwritten. -/
def createProxyCurl (state : BackendState) (ref : ProxyRef) (easyInit : Option EasyRef)
    (requestUrl : Bytes) (quicStream : StreamRef) : Option ProxyRef × BackendState :=
  match easyInit with
  | none => (none, state)
  | some easy =>
      (some ref, { state.putProxy ref
          { QuicProxyCurl.create requestUrl quicStream with easy := some easy } with
        proxyHttpHash := Function.update state.proxyHttpHash easy (some ref) })

variable (platform : Platform)

/-- `StartHttp` on a proxy of the heap. -/
def startHttp (state : BackendState) (ref : ProxyRef) (peerIp : Bytes)
    (requestHeaders : SpdyHeaderBlock) (requestBody : Bytes) : Except Fault BackendState := do
  let proxy ← state.proxy ref
  let (started, options) := proxy.startHttp platform peerIp requestHeaders requestBody
  let state := state.putProxy ref started
  match options, started.easy with
  | some options, some easy =>
      .ok { state with multi := Function.update state.multi easy (some ⟨ref, options⟩) }
  | _, _ => .ok state

/-- `QuicProxyBackend::FetchResponseFromBackend`. A failed `CreateProxyCurl` is
logged, and the code goes on with a null proxy. -/
def fetchResponseFromBackend (state : BackendState) (ref : ProxyRef)
    (easyInit : Option EasyRef) (peerIp : Bytes) (requestHeaders : SpdyHeaderBlock)
    (requestBody : Bytes) (quicStream : StreamRef) : Except Fault BackendState := do
  match requestHeaders.find (ascii ":path") with
  | none => .error .missingPath
  | some path =>
      let url := state.backendUrl ++ path.drop 1
      let (created, state) := state.createProxyCurl ref easyInit url quicStream
      let stream ← state.stream quicStream
      let state := state.putStream quicStream (stream.setProxyCurl created)
      match created with
      | none => .error .absentProxy
      | some proxy => state.startHttp platform proxy peerIp requestHeaders requestBody

/-- `QuicProxyBackend::CloseBackendResponseStream` -/
def closeBackendResponseStream (state : BackendState) (quicStream : StreamRef) :
    Except Fault BackendState := do
  let stream ← state.stream quicStream
  match stream.quicProxyCurl with
  | none => .ok state
  | some ref =>
      let proxy ← state.proxy ref
      .ok ((state.putProxy ref (proxy.setStream none)).putStream quicStream
        (stream.setProxyCurl none))

/-- A stream is destroyed: its destructor closes it at the backend first. -/
def destroyStream (state : BackendState) (quicStream : StreamRef) :
    Except Fault BackendState := do
  let state ← state.closeBackendResponseStream quicStream
  .ok { state with
    streams := Function.update state.streams quicStream none
    requested := Function.update state.requested quicStream false }

/-! ## Finished transfers -/

/-- `curl_multi_remove_handle` -/
def multiRemoveHandle (state : BackendState) (easy : EasyRef) : BackendState :=
  { state with multi := Function.update state.multi easy none }

/-- An entry of the hash moves to the front of the dead list. -/
def moveToDeadList (state : BackendState) (easy : EasyRef) : BackendState :=
  match state.proxyHttpHash easy with
  | some held =>
      { state with
        proxyHttpDeadList := held :: state.proxyHttpDeadList
        proxyHttpHash := Function.update state.proxyHttpHash easy none }
  | none => state

/-- The end of a transfer in the loop of `CheckCurlMultiInfo`. The result is
logged only. libcurl reports no handle that is not in the multi. -/
def finishTransfer (state : BackendState) (easy : EasyRef) (_result : CurlCode) :
    Except Fault BackendState := do
  match state.multi easy with
  | none => .ok state
  | some handle =>
      let proxy ← state.proxy handle.privateData
      let state := (state.multiRemoveHandle easy).moveToDeadList easy
      match proxy.quicStream with
      | none => .ok state
      | some quicStream =>
          let stream ← state.stream quicStream
          .ok ((state.putStream quicStream (stream.setProxyCurl none)).putProxy
            handle.privateData (proxy.setStream none))

/-- One round of `CheckCurlMultiInfo`. -/
def readMessage (state : BackendState) : CurlMsg → Except Fault BackendState
  | .done easy result => state.finishTransfer easy result
  | .other => .ok state

/-- The list held the last reference to each proxy in it. -/
def clearDeadList (state : BackendState) : BackendState :=
  { state with
    proxies := fun ref => if ref ∈ state.proxyHttpDeadList then none else state.proxies ref
    proxyHttpDeadList := [] }

/-- `QuicProxyBackend::CheckCurlMultiInfo` with the messages libcurl has for it:
the dead list is cleared by a call that reads none. -/
def checkCurlMultiInfo (state : BackendState) (messages : List CurlMsg) :
    Except Fault BackendState := do
  let state ← messages.foldlM readMessage state
  match messages with
  | [] => .ok state.clearDeadList
  | _ :: _ => .ok state

/-! ## Callbacks of a transfer -/

/-- What a callback did to the proxy, and its calls on the proxy's stream. -/
def accept (state : BackendState) (ref : ProxyRef) (target : Option StreamRef)
    (result : CallbackResult) : Except Fault BackendState :=
  let state := state.putProxy ref result.proxy
  match target, result.calls with
  | none, _ | _, [] => .ok state
  | some quicStream, calls => do
      let stream ← state.stream quicStream
      .ok (state.putStream quicStream (stream.call calls))

/-- libcurl delivers a header line to a proxy. -/
def httpHeaderCallback (state : BackendState) (ref : ProxyRef) (contents : Bytes) :
    Except Fault BackendState := do
  let proxy ← state.proxy ref
  match proxy.httpHeaderCallback platform contents with
  | none => .error .outOfBounds
  | some result => state.accept ref proxy.quicStream result

/-- libcurl delivers a piece of the body to a proxy. -/
def writeQuicCallback (state : BackendState) (ref : ProxyRef) (contents : Bytes) :
    Except Fault BackendState := do
  let proxy ← state.proxy ref
  state.accept ref proxy.quicStream (proxy.writeQuicCallback contents)

/-- `QuicProxyStream::OnStreamFrameAcked` on a stream of the heap; a proxy it
points at is called, to no effect. -/
def onStreamFrameAcked (state : BackendState) (quicStream : StreamRef)
    (bufferedDataBytes : Nat) : Except Fault BackendState := do
  let stream ← state.stream quicStream
  match stream.quicProxyCurl with
  | some ref =>
      let _ ← state.proxy ref
      .ok state
  | none => .ok (state.putStream quicStream (stream.onStreamFrameAcked bufferedDataBytes))

/-- The transport consumes the FIN a stream was handed, if any. -/
def finConsumed (state : BackendState) (quicStream : StreamRef) : Except Fault BackendState := do
  let stream ← state.stream quicStream
  .ok (state.putStream quicStream stream.finConsumed)

/-! ## Sockets -/

/-- `RegisterFD(s, proxy, EPOLLIN | EPOLLOUT)` -/
def registerFD (state : BackendState) (fd : Socket) (ref : ProxyRef) : BackendState :=
  { state with epoll := Function.update state.epoll fd (some ⟨ref, true, true⟩) }

/-- `UnregisterFD` -/
def unregisterFD (state : BackendState) (fd : Socket) : BackendState :=
  { state with epoll := Function.update state.epoll fd none }

/-- `QuicProxyBackend::CurlRemoveSock` -/
def curlRemoveSock (state : BackendState) (proxy : Option ProxyRef) :
    Except Fault BackendState := do
  match proxy with
  | none => .ok state
  | some ref =>
      let proxy ← state.proxy ref
      if proxy.sockfd ≠ -1 then .ok (state.unregisterFD proxy.sockfd) else .ok state

/-- `QuicProxyBackend::CurlSetSock`: `StartRead` or `StopRead`, then `StartWrite`
or `StopWrite`. -/
def curlSetSock (state : BackendState) (s : Socket) (act : CurlPoll) : BackendState :=
  { state with
    epoll := Function.update state.epoll s ((state.epoll s).map fun entry =>
      { entry with read := act.hasIn, write := act.hasOut }) }

/-- `curl_multi_assign` -/
def multiAssign (state : BackendState) (s : Socket) (ref : ProxyRef) : BackendState :=
  { state with
    sockets := Function.update state.sockets s ((state.sockets s).map fun socket =>
      { socket with socketp := some ref }) }

/-- `QuicProxyBackend::CurlAddSock` -/
def curlAddSock (state : BackendState) (s : Socket) (easy : EasyRef) (action : CurlPoll) :
    Except Fault BackendState := do
  match state.proxyHttpHash easy with
  | none => .ok state
  | some ref =>
      let proxy ← state.proxy ref
      let state := (state.putProxy ref (proxy.setSockfd s)).registerFD s ref
      .ok ((state.curlSetSock s action).multiAssign s ref)

/-- `QuicProxyBackend::CurlSockCB` -/
def curlSockCB (state : BackendState) (e : EasyRef) (s : Socket) (what : CurlPoll)
    (sockp : Option ProxyRef) : Except Fault BackendState :=
  if what = .remove then
    state.curlRemoveSock sockp
  else
    match sockp with
    | none => state.curlAddSock s e what
    | some _ => .ok (state.curlSetSock s what)

/-- libcurl's own record of a socket when it calls back about it. -/
def announce (state : BackendState) (ref : ProxyRef) (s : Socket) (what : CurlPoll) :
    BackendState :=
  { state with
    sockets := Function.update state.sockets s (some
      (match state.sockets s with
      | some socket => { socket with action := what }
      | none => ⟨ref, what, none⟩)) }

/-- libcurl calls back about a socket of a transfer, with the pointer assigned to
the socket; it forgets the socket after `CURL_POLL_REMOVE`. -/
def socketEvent (state : BackendState) (e : EasyRef) (ref : ProxyRef) (s : Socket)
    (what : CurlPoll) : Except Fault BackendState := do
  let sockp := (state.sockets s).bind CurlSocket.socketp
  let state ← (state.announce ref s what).curlSockCB e s what sockp
  if what = .remove then
    .ok { state with sockets := Function.update state.sockets s none }
  else
    .ok state

end BackendState

end QuicProxy
