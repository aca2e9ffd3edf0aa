import QuicProxy.Backend.EventLoop
import QuicProxy.Backend.Forwarding

/-!
# Transfers in the event loop

Seen at the backend, the event loop does what the backend's own system does: `toBackend`
hides the curl timer, the calls of `OnEvent` and libcurl's accounts. So a request that is
started in the loop is a `Transfer` (`request_is_transfer`), and what is proved of transfers
holds of it there: it is served as if it were alone (`isolated_in_loop`), and has its response
(`forwarded_in_loop`).
-/

namespace QuicProxy

namespace LoopState

variable {platform : Platform} {backendUrl : Bytes}

/-- The backend alone follows the loop's events on it. -/
def toBackend (platform : Platform) (backendUrl : Bytes) :
    LabelledSystem.Simulation (system platform backendUrl)
      (BackendState.system platform backendUrl) fun _ => LoopEvent.onBackend where
  Related state view := view = state.backend
  hidden := by
    rintro here event there _ rfl ⟨enabled, stepped⟩ hidden
    rcases step_backend enabled stepped with ⟨-, same⟩ | ⟨onBackend, isEvent, -, -⟩
    · exact same.symm
    · cases hidden.symm.trans isEvent
  shown := by
    rintro here event there _ saw rfl ⟨enabled, stepped⟩ shown
    rcases step_backend enabled stepped with ⟨quiet, -⟩ | ⟨onBackend, isEvent, allowed, moved⟩
    · cases quiet.symm.trans shown
    · obtain rfl := Option.some.inj (isEvent.symm.trans shown)
      exact ⟨there.backend, ⟨allowed, moved⟩, rfl⟩

/-- A guard on the events of the backend is one on those of the loop. -/
def toGuarded (platform : Platform) (backendUrl : Bytes) (guard : BackendEvent → Prop) :
    LabelledSystem.Simulation
      ((system platform backendUrl).guarded fun _ event =>
        ∀ onBackend, event.onBackend = some onBackend → guard onBackend)
      ((BackendState.system platform backendUrl).guarded fun _ => guard)
      fun _ => LoopEvent.onBackend where
  Related := (toBackend platform backendUrl).Related
  hidden related taken hidden := (toBackend platform backendUrl).hidden related taken.2 hidden
  shown related taken shown := by
    obtain ⟨next, moved, relatedNext⟩ := (toBackend platform backendUrl).shown related taken.2 shown
    exact ⟨next, ⟨taken.1 _ shown, moved⟩, relatedNext⟩

/-- What the loop does to the backend the backend can do alone. -/
theorem backend_reachable {state : LoopState}
    (reachable : (system platform backendUrl).Reachable state) :
    (BackendState.system platform backendUrl).Reachable state.backend := by
  obtain ⟨origin, history, rfl, run⟩ := reachable
  obtain ⟨_, ran, rfl⟩ := (toBackend platform backendUrl).labels run rfl
  exact ⟨_, _, rfl, ran⟩

/-! ## Requests in the loop -/

/-- What a stream sees of an event of the loop. -/
def observe (quicStream : StreamRef) (state : LoopState) (event : LoopEvent) :
    Option ExchangeEvent :=
  event.onBackend.bind (BackendState.observe quicStream state.backend)

section Requests

variable {before begun last : LoopState} {quicStream : StreamRef} {ref : ProxyRef}
  {easyInit : Option EasyRef} {peerIp : Bytes} {requestHeaders : SpdyHeaderBlock}
  {requestBody : Bytes} {events : List LoopEvent} {seen : List ExchangeEvent}
  (reachable : (system platform backendUrl).Reachable before)
  (enabled : before.Enabled
    (.backend (.fetch quicStream ref easyInit peerIp requestHeaders requestBody)))
  (begins : before.step platform
    (.backend (.fetch quicStream ref easyInit peerIp requestHeaders requestBody)) = .ok begun)
  (watched : ((system platform backendUrl).guarded fun _ event => ∀ onBackend,
    event.onBackend = some onBackend → onBackend ≠ .destroyStream quicStream).ObservedRun
      (observe quicStream) begun events seen last)

include watched in
/-- A stream sees the same of the loop and of its backend. -/
theorem backend_watched :
    ((BackendState.system platform backendUrl).guarded
      fun _ event => event ≠ .destroyStream quicStream).ObservedRun
        (BackendState.observe quicStream) begun.backend (events.filterMap LoopEvent.onBackend) seen
          last.backend := by
  have agree {here : LoopState} {view : BackendState} {event : LoopEvent}
      (related : view = here.backend) : observe quicStream here event =
        event.onBackend.bind (BackendState.observe quicStream view) := by
    rw [related, observe]
  obtain ⟨_, ran, rfl⟩ := (toGuarded platform backendUrl
    (· ≠ .destroyStream quicStream)).observed agree watched rfl
  exact ran

include enabled begins in
/-- The request is started in the backend. -/
theorem fetch_started : before.backend.step platform
    (.fetch quicStream ref easyInit peerIp requestHeaders requestBody) = .ok begun.backend := by
  obtain ⟨_, started, rfl⟩ := (toBackend platform []).shown rfl ⟨enabled, begins⟩ rfl
  exact started.2

/-- A request that is started in a run of the loop, with what its stream sees of it. -/
def transfer : Transfer platform backendUrl where
  quicStream := quicStream
  ref := ref
  easyInit := easyInit
  peerIp := peerIp
  requestHeaders := requestHeaders
  requestBody := requestBody
  before := before.backend
  begun := begun.backend
  last := last.backend
  events := events.filterMap LoopEvent.onBackend
  seen := seen
  reachable := backend_reachable reachable
  enabled := enabled.2
  begins := fetch_started enabled begins
  watched := backend_watched watched

include reachable enabled begins watched

/-- In the loop as well a stream is in the state that what it has seen of its own transfer
leads to. -/
theorem isolated_in_loop (requestUrl : Bytes) :
    ∃ stream exchange, before.backend.streams quicStream = some stream ∧
      stream.quicProxyCurl = none ∧ stream.calls = [] ∧
      Exchange.run platform ⟨.create requestUrl quicStream, stream.setProxyCurl (some ref)⟩ seen =
        some exchange ∧
      last.backend.streams quicStream = some exchange.stream := by
  obtain ⟨stream, exchange, lives, nothing, -, ran, follows⟩ :=
    (transfer reachable enabled begins watched).followed requestUrl
  exact ⟨stream, exchange, lives, nothing.1, nothing.2, ran, follows.stream⟩

/-- And it has at every moment what has been delivered of its response. -/
theorem forwarded_in_loop {responses : Responses}
    (blanks : ∀ head ∈ responses.heads, head.blank = crlf)
    (delivered : seen.filterMap ExchangeEvent.callback? <+: responses.callbacks) :
    ∃ stream, last.backend.streams quicStream = some stream ∧
      Responded platform responses seen stream :=
  (transfer reachable enabled begins watched).exists_responded blanks delivered

end Requests

/-- A request that is started in a run of the loop is a transfer of the backend as long as its
stream exists, whatever timers expire and whatever sockets become ready meanwhile. -/
theorem request_is_transfer {before begun last : LoopState}
    (reachable : (system platform backendUrl).Reachable before) {quicStream : StreamRef}
    {ref : ProxyRef} {easyInit : Option EasyRef} {peerIp : Bytes}
    {requestHeaders : SpdyHeaderBlock} {requestBody : Bytes}
    (enabled : before.Enabled
      (.backend (.fetch quicStream ref easyInit peerIp requestHeaders requestBody)))
    (begins : before.step platform
      (.backend (.fetch quicStream ref easyInit peerIp requestHeaders requestBody)) = .ok begun)
    {events : List LoopEvent}
    (run : ((system platform backendUrl).guarded fun _ event => ∀ onBackend,
      event.onBackend = some onBackend → onBackend ≠ .destroyStream quicStream).Run begun events
        last) :
    ∃ transfer : Transfer platform backendUrl,
      transfer.quicStream = quicStream ∧ transfer.requestHeaders = requestHeaders ∧
      transfer.requestBody = requestBody ∧ transfer.begun = begun.backend ∧
      transfer.last = last.backend ∧ transfer.events = events.filterMap LoopEvent.onBackend := by
  obtain ⟨seen, watched⟩ := run.observed (observe quicStream)
  exact ⟨transfer reachable enabled begins watched, rfl, rfl, rfl, rfl, rfl, rfl⟩

/-- The stream is there before its request. -/
theorem opened_reachable :
    (system Platform.chromium (ascii "http://localhost/")).Reachable opened := by
  have initEnabled : (initial (ascii "http://localhost/")).Enabled .initializeCURLM := rfl
  have openEnabled : initialised.Enabled (.backend (.openStream 0)) := ⟨trivial, rfl⟩
  have start : (system Platform.chromium (ascii "http://localhost/")).Reachable
      (initial (ascii "http://localhost/")) := .start rfl
  have up : (system Platform.chromium (ascii "http://localhost/")).Reachable initialised :=
    start.next ⟨initEnabled, rfl⟩
  exact up.next ⟨openEnabled, rfl⟩

/-- The request of the only stream, until its socket is ready. -/
theorem request_is_transfer_answering :
    ∃ transfer : Transfer Platform.chromium (ascii "http://localhost/"),
      transfer.begun = fetched.backend ∧ transfer.last = answering.backend ∧
      transfer.events = [.socket 0 3 .pollIn] := by
  have fetchEnabled : opened.Enabled (.backend BackendState.oneFetch) :=
    ⟨fun caller => Frame.noConfusion, BackendState.oneFetch_enabled⟩
  have socketEnabled : fetched.Enabled (.backend (.socket 0 3 .pollIn)) :=
    ⟨trivial, by decide, rfl, rfl⟩
  have readyEnabled : listening.Enabled (.socketReady 3) := ⟨rfl, rfl⟩
  have listens : ((system Platform.chromium (ascii "http://localhost/")).guarded fun _ event =>
      ∀ onBackend, event.onBackend = some onBackend → onBackend ≠ .destroyStream 0).Run fetched
        [.backend (.socket 0 3 .pollIn)] listening :=
    .snoc .nil ⟨by rintro _ ⟨⟩ ⟨⟩, socketEnabled, rfl⟩
  have run : ((system Platform.chromium (ascii "http://localhost/")).guarded fun _ event =>
      ∀ onBackend, event.onBackend = some onBackend → onBackend ≠ .destroyStream 0).Run fetched
        [.backend (.socket 0 3 .pollIn), .socketReady 3] answering :=
    .snoc listens ⟨by rintro _ ⟨⟩, readyEnabled, rfl⟩
  obtain ⟨transfer, -, -, -, begun, last, events⟩ :=
    request_is_transfer opened_reachable fetchEnabled rfl run
  exact ⟨transfer, begun, last, events⟩

end LoopState

end QuicProxy
