import QuicProxy.Backend.Backend
import QuicProxy.Semantics.Execution

/-!
# The process around the backend

The events of the process in any order: sessions open and destroy streams and
acknowledge what they sent, streams ask for their responses, libcurl delivers
headers, bodies and finished transfers and calls back about sockets.

`Enabled` holds what the code is promised: a stream asks for its response once,
new objects and handles are new, libcurl speaks of handles in the multi only,
reports a transfer done once, and removes only sockets it has announced.
-/

namespace QuicProxy

/-- What can happen to the backend next. -/
inductive BackendEvent where
  | openStream (stream : StreamRef)
  | fetch (stream : StreamRef) (ref : ProxyRef) (easyInit : Option EasyRef) (peerIp : Bytes)
      (requestHeaders : SpdyHeaderBlock) (requestBody : Bytes)
  | destroyStream (stream : StreamRef)
  | header (easy : EasyRef) (line : Bytes)
  | body (easy : EasyRef) (chunk : Bytes)
  | check (messages : List CurlMsg)
  | socket (easy : EasyRef) (s : Socket) (what : CurlPoll)
  | acked (stream : StreamRef) (bufferedDataBytes : Nat)
  | finConsumed (stream : StreamRef)

/-- The event is a socket callback. -/
def BackendEvent.isSocket : BackendEvent → Bool
  | .socket _ _ _ => true
  | _ => false

/-- The handle a message reports done. -/
def CurlMsg.easyHandle? : CurlMsg → Option EasyRef
  | .done easy _ => some easy
  | .other => none

namespace BackendState

variable (platform : Platform)

/-- No proxy that exists owns the handle. -/
def FreshEasy (state : BackendState) (easy : EasyRef) : Prop :=
  ∀ ref proxy, state.proxies ref = some proxy → proxy.easy ≠ some easy

/-- The event can happen: the objects it names exist, and those it creates are new. -/
def Enabled (state : BackendState) : BackendEvent → Prop
  | .openStream stream => state.streams stream = none
  | .fetch stream ref easyInit _ _ _ =>
      (state.streams stream).isSome ∧ state.requested stream = false ∧
        state.proxies ref = none ∧ ∀ easy, easyInit = some easy → state.FreshEasy easy
  | .destroyStream stream | .acked stream _ | .finConsumed stream =>
      (state.streams stream).isSome
  | .header easy _ | .body easy _ => (state.multi easy).isSome
  | .check messages =>
      (messages.filterMap CurlMsg.easyHandle?).Nodup ∧
        ∀ easy ∈ messages.filterMap CurlMsg.easyHandle?, (state.multi easy).isSome
  | .socket easy s what =>
      0 ≤ s ∧ (state.multi easy).isSome ∧
        if what = .remove then (state.sockets s).isSome else (state.proxyHttpHash easy).isSome

/-- A new stream object. -/
def openStream (state : BackendState) (stream : StreamRef) : BackendState :=
  { state.putStream stream .create with
    requested := Function.update state.requested stream false }

/-- Something libcurl does for the transfer of a handle; its user pointer is the
handle's proxy. -/
def forTransfer (state : BackendState) (easy : EasyRef)
    (call : ProxyRef → Except Fault BackendState) : Except Fault BackendState :=
  match state.multi easy with
  | some handle => call handle.privateData
  | none => .ok state

/-- What the backend does at an event. -/
def step (state : BackendState) : BackendEvent → Except Fault BackendState
  | .openStream stream => .ok (state.openStream stream)
  | .fetch stream ref easyInit peerIp requestHeaders requestBody =>
      { state with requested := Function.update state.requested stream true
        }.fetchResponseFromBackend platform ref easyInit peerIp requestHeaders requestBody stream
  | .destroyStream stream => state.destroyStream stream
  | .header easy line =>
      state.forTransfer easy fun ref => state.httpHeaderCallback platform ref line
  | .body easy chunk => state.forTransfer easy fun ref => state.writeQuicCallback ref chunk
  | .check messages => state.checkCurlMultiInfo messages
  | .socket easy s what => state.forTransfer easy fun ref => state.socketEvent easy ref s what
  | .acked stream bufferedDataBytes => state.onStreamFrameAcked stream bufferedDataBytes
  | .finConsumed stream => state.finConsumed stream

/-- The state after an event, where it does not fail. -/
def take (state : BackendState) (event : BackendEvent) : BackendState :=
  match state.step platform event with
  | .ok next => next
  | .error _ => state

/-- Every interleaving of the events. -/
def system (backendUrl : Bytes) : LabelledSystem BackendState BackendEvent :=
  .failing (· = initial backendUrl) Enabled (step platform)

/-- A run is extended by an event that succeeds. -/
theorem reachable_take {platform : Platform} {backendUrl : Bytes} {state : BackendState}
    {event : BackendEvent} (reachable : (system platform backendUrl).Reachable state)
    (enabled : state.Enabled event)
    (succeeds : state.step platform event = .ok (state.take platform event)) :
    (system platform backendUrl).Reachable (state.take platform event) :=
  reachable.next ⟨enabled, succeeds⟩

/-! ## A transfer in progress -/

/-- The header block of a GET. -/
def getRequest : SpdyHeaderBlock :=
  (SpdyHeaderBlock.empty.set (ascii ":method") (ascii "GET")).set (ascii ":path") (ascii "/")

/-- A stream is open. -/
def oneStream : BackendState :=
  (initial (ascii "http://localhost/")).openStream 0

/-- The stream is there, and has asked for nothing. -/
theorem oneStream_reachable :
    (system Platform.chromium (ascii "http://localhost/")).Reachable oneStream := by
  have enabled : (initial (ascii "http://localhost/")).Enabled (.openStream 0) := rfl
  exact .next (.start rfl) ⟨enabled, rfl⟩

/-- It asks for its response. -/
def oneFetch : BackendEvent := .fetch 0 0 (some 0) (ascii "192.0.2.7") getRequest []

/-- The request is started, and its transfer runs. -/
def oneTransfer : BackendState := oneStream.take Platform.chromium oneFetch

/-- Everything the request creates is new. -/
theorem oneFetch_enabled : oneStream.Enabled oneFetch := by
  refine ⟨rfl, rfl, rfl, ?_⟩
  intro easy _ ref proxy lives
  cases lives

/-- The transfer is reached by two events, under any guard that admits them. -/
theorem oneTransfer_guarded {guard : BackendState → BackendEvent → Prop}
    (admitsOpen : guard (initial (ascii "http://localhost/")) (.openStream 0))
    (admitsFetch : guard oneStream oneFetch) :
    ((system Platform.chromium (ascii "http://localhost/")).guarded guard).Reachable
      oneTransfer := by
  have start : ((system Platform.chromium (ascii "http://localhost/")).guarded guard).Reachable
      (initial (ascii "http://localhost/")) := .start rfl
  have enabled : (initial (ascii "http://localhost/")).Enabled (.openStream 0) := rfl
  have opened : ((system Platform.chromium (ascii "http://localhost/")).guarded guard).Reachable
      oneStream := start.next ⟨admitsOpen, enabled, rfl⟩
  exact opened.next ⟨admitsFetch, oneFetch_enabled, rfl⟩

/-- The transfer runs after two events. -/
theorem oneTransfer_reachable :
    (system Platform.chromium (ascii "http://localhost/")).Reachable oneTransfer := by
  have reachable : ((system Platform.chromium (ascii "http://localhost/")).guarded
      fun _ _ => True).Reachable oneTransfer := oneTransfer_guarded trivial trivial
  exact reachable.of_guarded

end BackendState

end QuicProxy
