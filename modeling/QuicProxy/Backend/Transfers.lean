import QuicProxy.Backend.Unasked
import Mathlib.Data.List.Induction

/-!
# Transfers in a run

A `Transfer` is a request in a run of the backend, followed for as long as its stream
exists, with what the stream sees of it. `Transfer.isolated` runs the exchange of that
stream by itself on what was seen; the stream comes out the same. So what is proved of an
exchange holds in the backend, whatever else it serves: `Transfer.answered_alike` and
`Transfer.response_forwarded`.
-/

namespace QuicProxy

/-! ## Exchanges that differ in names only -/

namespace QuicProxyStream

/-- The stream with 0 for its proxy. -/
def nameless (stream : QuicProxyStream) : QuicProxyStream :=
  { stream with quicProxyCurl := stream.quicProxyCurl.map fun _ => 0 }

/-- An acknowledgement does not ask which proxy a stream has. -/
theorem nameless_onStreamFrameAcked (stream : QuicProxyStream) (bufferedDataBytes : Nat) :
    stream.nameless.onStreamFrameAcked bufferedDataBytes =
      (stream.onStreamFrameAcked bufferedDataBytes).nameless := by
  have pointer : stream.nameless.quicProxyCurl.isSome = stream.quicProxyCurl.isSome :=
    Option.isSome_map
  have flag : stream.nameless.finSent = stream.finSent := rfl
  unfold onStreamFrameAcked
  rw [pointer, flag]
  split
  · rfl
  · split
    · rfl
    · rfl

/-- Nor does the end of the client's data ask for it. -/
theorem nameless_finConsumed (stream : QuicProxyStream) :
    stream.nameless.finConsumed = stream.finConsumed.nameless := by
  have same : stream.nameless.finHanded = stream.finHanded := rfl
  unfold finConsumed
  rw [same]
  split
  · rfl
  · rfl

end QuicProxyStream

namespace Exchange

/-- The exchange with 0 for its stream and its proxy, and without what a response does not
touch. -/
def nameless (exchange : Exchange) : Exchange where
  proxy := { QuicProxyCurl.create [] 0 with
    quicStream := exchange.proxy.quicStream.map fun _ => 0
    spdyHeaders := exchange.proxy.spdyHeaders
    contentLength := exchange.proxy.contentLength
    hadSendLength := exchange.proxy.hadSendLength }
  stream := exchange.stream.nameless

variable (platform : Platform)

/-- A callback does the same to a stream whatever its proxy is called. -/
theorem nameless_callback (exchange : Exchange) (received : Callback) :
    exchange.nameless.callback platform received =
      (exchange.callback platform received).map nameless := by
  cases received with
  | header line =>
      simp only [callback, QuicProxyCurl.httpHeaderCallback, nameless, Option.map_eq_none_iff]
      split
      · rfl
      · split
        · rfl
        · split
          · rfl
          · rfl
  | body chunk =>
      simp only [callback, QuicProxyCurl.writeQuicCallback, nameless, Option.map_eq_none_iff]
      split
      · rfl
      · rfl

/-- An event of an exchange does the same to a stream whatever its proxy is called. -/
theorem nameless_step (exchange : Exchange) (event : ExchangeEvent) :
    exchange.nameless.step platform event = (exchange.step platform event).map nameless := by
  cases event with
  | callback received => exact nameless_callback platform exchange received
  | done result =>
      simp only [step, done, nameless, Option.isSome_map]
      split
      · rfl
      · rfl
  | acked bufferedDataBytes =>
      simp only [step, nameless, QuicProxyStream.nameless_onStreamFrameAcked]
      rfl
  | finConsumed =>
      simp only [step, nameless, QuicProxyStream.nameless_finConsumed]
      rfl

/-- Names play no part in a run. -/
theorem nameless_run (exchange : Exchange) (events : List ExchangeEvent) :
    exchange.nameless.run platform events = (exchange.run platform events).map nameless := by
  induction events generalizing exchange with
  | nil => rfl
  | cons event rest ih =>
      rw [run_cons, run_cons, nameless_step]
      cases exchange.step platform event with
      | none => rfl
      | some next => exact ih next

end Exchange

/-! ## Requests in a run -/

/-- A request in a run of the backend, followed until its stream is destroyed at most. -/
structure Transfer (platform : Platform) (backendUrl : Bytes) where
  quicStream : StreamRef
  ref : ProxyRef
  easyInit : Option EasyRef
  peerIp : Bytes
  requestHeaders : SpdyHeaderBlock
  requestBody : Bytes
  before : BackendState
  begun : BackendState
  last : BackendState
  events : List BackendEvent
  seen : List ExchangeEvent
  reachable : (BackendState.system platform backendUrl).Reachable before
  enabled : before.Enabled
    (.fetch quicStream ref easyInit peerIp requestHeaders requestBody)
  begins : before.step platform
    (.fetch quicStream ref easyInit peerIp requestHeaders requestBody) = .ok begun
  watched : ((BackendState.system platform backendUrl).guarded
    fun _ event => event ≠ .destroyStream quicStream).ObservedRun
      (BackendState.observe quicStream) begun events seen last

namespace Transfer

variable {platform : Platform} {backendUrl : Bytes}

/-- The exchange of the stream follows the backend from the start of the request on. -/
theorem followed (transfer : Transfer platform backendUrl) (requestUrl : Bytes) :
    ∃ stream exchange, transfer.before.streams transfer.quicStream = some stream ∧
      (stream.quicProxyCurl = none ∧ stream.calls = []) ∧
      BackendState.Follows transfer.quicStream transfer.begun
        ⟨.create requestUrl transfer.quicStream, stream.setProxyCurl (some transfer.ref)⟩ ∧
      Exchange.run platform ⟨.create requestUrl transfer.quicStream,
        stream.setProxyCurl (some transfer.ref)⟩ transfer.seen = some exchange ∧
      BackendState.Follows transfer.quicStream transfer.last exchange := by
  have intact := BackendState.intact_of_reachable transfer.reachable
  obtain ⟨stream, lives⟩ := Option.isSome_iff_exists.mp transfer.enabled.1
  have nothing := BackendState.silent_of_reachable transfer.reachable
    transfer.quicStream stream lives transfer.enabled.2.1
  have follows := BackendState.fetch_follows intact transfer.enabled transfer.begins lives
    requestUrl
  obtain ⟨exchange, ran, followsLast⟩ :=
    (BackendState.simulation platform backendUrl transfer.quicStream).run transfer.watched follows
  exact ⟨stream, exchange, lives, nothing, follows, Exchange.run_of_system ran, followsLast⟩

end Transfer

/-! ## Runs of callbacks -/

namespace BackendState

variable {platform : Platform} {state next last : BackendState}

/-- libcurl passes on what it has received for a handle. -/
def received (easy : EasyRef) : Callback → BackendEvent
  | .header line => .header easy line
  | .body chunk => .body easy chunk

/-- The stream sees the callbacks of its own transfer. -/
theorem observe_received (quicStream : StreamRef) (state : BackendState) (easy : EasyRef)
    (callback : Callback) :
    observe quicStream state (received easy callback) =
      if state.links.serves easy quicStream then some (.callback callback) else none := by
  cases callback <;> rfl

/-- libcurl may call back for a transfer that runs. -/
theorem enabled_received {easy : EasyRef} (inMulti : (state.links.multi easy).isSome)
    (callback : Callback) : state.Enabled (received easy callback) := by
  have isHandle : (state.multi easy).isSome := by simpa [links] using inMulti
  cases callback <;> exact isHandle

/-- A callback moves no pointer. -/
theorem links_received {easy : EasyRef} {callback : Callback}
    (returned : state.step platform (received easy callback) = .ok next) :
    next.links = state.links := by
  have outcome := step_iff.mp returned
  cases callback with
  | header line =>
      cases outcome with
      | idle => rfl
      | header _ called =>
          exact called.links (QuicProxyCurl.httpHeaderCallback_onlyResponds platform line)
  | body chunk =>
      cases outcome with
      | idle => rfl
      | body _ called => exact called.links (QuicProxyCurl.writeQuicCallback_onlyResponds chunk)

/-- Callbacks that return are a run, and a stream sees those for the handle that serves it. -/
theorem received_watched (backendUrl : Bytes) (quicStream : StreamRef)
    {callbacks : List (EasyRef × Callback)}
    (inMulti : ∀ own ∈ callbacks, (state.links.multi own.1).isSome)
    (returned : (callbacks.map fun own => received own.1 own.2).foldlM (step platform) state =
      .ok last) :
    ((system platform backendUrl).guarded
        fun _ event => event ≠ .destroyStream quicStream).ObservedRun (observe quicStream) state
      (callbacks.map fun own => received own.1 own.2)
      ((callbacks.filter fun own => state.links.serves own.1 quicStream).map
        fun own => .callback own.2) last ∧
      last.links = state.links := by
  induction callbacks using List.reverseRecOn generalizing last with
  | nil =>
      cases returned
      exact ⟨.nil, rfl⟩
  | append_singleton earlier own ih =>
      rw [List.map_append, List.map_singleton, List.foldlM_append] at returned
      obtain ⟨middle, before, latest⟩ := bind_eq_ok.mp returned
      rw [List.foldlM_cons] at latest
      obtain ⟨there, latest, ⟨⟩⟩ := bind_eq_ok.mp latest
      obtain ⟨watched, links⟩ := ih
        (fun other member => inMulti other (List.mem_append_left _ member)) before
      have isHandle := inMulti own (List.mem_append_right _ (List.mem_singleton_self own))
      rw [← links] at isHandle
      have notDestroyed : received own.1 own.2 ≠ .destroyStream quicStream := by
        cases own.2 <;> rintro ⟨⟩
      have shown : (observe quicStream middle (received own.1 own.2)).toList =
          ([own].filter fun own => state.links.serves own.1 quicStream).map
            fun own => .callback own.2 := by
        rw [observe_received, links, List.filter_singleton]
        cases state.links.serves own.1 quicStream <;> rfl
      refine ⟨?_, (links_received latest).trans links⟩
      rw [List.map_append, List.map_singleton, List.filter_append, List.map_append, ← shown]
      exact watched.snoc ⟨notDestroyed, enabled_received isHandle own.2, latest⟩

/-- One event more is watched. -/
theorem watched_take {backendUrl : Bytes} {quicStream : StreamRef} {origin : BackendState}
    {history : List BackendEvent} {seen : List ExchangeEvent}
    (watched : ((system platform backendUrl).guarded
      fun _ event => event ≠ .destroyStream quicStream).ObservedRun (observe quicStream) origin
        history seen state) {event : BackendEvent} (kept : event ≠ .destroyStream quicStream)
    (enabled : state.Enabled event)
    (succeeds : state.step platform event = .ok (state.take platform event)) :
    ((system platform backendUrl).guarded
      fun _ event => event ≠ .destroyStream quicStream).ObservedRun (observe quicStream) origin
        (history ++ [event]) (seen ++ (observe quicStream state event).toList)
        (state.take platform event) :=
  watched.snoc ⟨kept, enabled, succeeds⟩

/-- Where no event fails the fold of `take` is the run. -/
theorem foldlM_step {events : List BackendEvent}
    (returns : (events.foldlM (step platform) state).isOk = true) :
    events.foldlM (step platform) state = .ok (events.foldl (take platform) state) := by
  induction events generalizing state with
  | nil => rfl
  | cons event rest ih =>
      rw [List.foldlM_cons] at returns ⊢
      cases stepped : state.step platform event with
      | error fault =>
          rw [stepped] at returns
          cases returns
      | ok next =>
          have took : state.take platform event = next := by rw [take, stepped]
          rw [stepped] at returns
          rw [List.foldl_cons, took]
          exact ih returns

/-! ## Two transfers -/

/-- A second stream opens beside the first, whose transfer has begun. -/
def twoStreams : BackendState := oneTransfer.openStream 1

/-- Both streams are there, and neither has asked. -/
theorem twoStreams_reachable :
    (system Platform.chromium (ascii "http://localhost/")).Reachable twoStreams := by
  have enabled : oneTransfer.Enabled (.openStream 1) := rfl
  exact .next oneTransfer_reachable ⟨enabled, rfl⟩

/-- It asks for its response as well. -/
def secondFetch : BackendEvent := .fetch 1 1 (some 1) (ascii "192.0.2.8") getRequest []

/-- Everything the second request creates is new. -/
theorem secondFetch_enabled : twoStreams.Enabled secondFetch := by
  have fetched : Fetched Platform.chromium 0 0 (some 0) (ascii "192.0.2.7") getRequest []
      oneStream oneTransfer := fetch_iff.mp rfl
  refine ⟨rfl, rfl, rfl, ?_⟩
  rintro easy ⟨⟩
  exact fetched.freshEasy (by decide) fun ref proxy lives => by cases lives

/-- Both transfers run. -/
def twoTransfers : BackendState := twoStreams.take Platform.chromium secondFetch

/-- The response to the first request, while that to the second is `chunkedOk`. -/
def missingPage : List Callback :=
  [.header (ascii "HTTP/1.1 404 Not Found" ++ crlf), .header crlf, .body (ascii "no"),
    .body (ascii "ne")]

/-- libcurl receives both by turns. -/
def byTurns : List (EasyRef × Callback) :=
  (missingPage.zip chunkedOk.callbacks).flatMap fun both => [(0, both.1), (1, both.2)]

/-- What comes for the only stream it sees. -/
theorem alone_watched {callbacks : List Callback}
    (returns : ((callbacks.map (received 0)).foldlM (step Platform.chromium) oneTransfer).isOk =
      true) :
    ((system Platform.chromium (ascii "http://localhost/")).guarded
      fun _ event => event ≠ .destroyStream 0).ObservedRun (observe 0) oneTransfer
        (callbacks.map (received 0)) (callbacks.map .callback)
        ((callbacks.map (received 0)).foldl (take Platform.chromium) oneTransfer) := by
  have inMulti : ∀ own ∈ callbacks.map (Prod.mk 0),
      (oneTransfer.links.multi own.1).isSome := by
    intro own member
    obtain ⟨callback, -, rfl⟩ := List.mem_map.mp member
    rfl
  have paired : (callbacks.map (Prod.mk 0)).map (fun own => received own.1 own.2) =
      callbacks.map (received 0) := List.map_map ..
  have watched := (received_watched (ascii "http://localhost/") 0 inMulti
    (paired ▸ foldlM_step returns)).1
  rw [paired, List.filter_eq_self.mpr, List.map_map] at watched
  · exact watched
  · intro own member
    obtain ⟨callback, -, rfl⟩ := List.mem_map.mp member
    rfl

/-- Of what comes by turns the second stream sees its own. -/
theorem chunkedBeside_watched :
    ((system Platform.chromium (ascii "http://localhost/")).guarded
      fun _ event => event ≠ .destroyStream 1).ObservedRun (observe 1) twoTransfers
        (byTurns.map fun own => received own.1 own.2) (chunkedOk.callbacks.map .callback)
        ((byTurns.map fun own => received own.1 own.2).foldl (take Platform.chromium)
          twoTransfers) := by
  have inMulti : ∀ own ∈ byTurns, (twoTransfers.links.multi own.1).isSome := by
    intro own member
    obtain ⟨both, -, isOne⟩ := List.mem_flatMap.mp member
    rcases List.mem_pair.mp isOne with rfl | rfl
    · rfl
    · rfl
  exact (received_watched _ 1 inMulti (foldlM_step rfl)).1

end BackendState

open BackendState in
/-- The only stream, with what comes for it. -/
def alone (callbacks : List Callback)
    (returns : ((callbacks.map (received 0)).foldlM (step Platform.chromium) oneTransfer).isOk =
      true) : Transfer Platform.chromium (ascii "http://localhost/") where
  quicStream := 0
  ref := 0
  easyInit := some 0
  peerIp := ascii "192.0.2.7"
  requestHeaders := getRequest
  requestBody := []
  before := oneStream
  begun := oneTransfer
  last := (callbacks.map (received 0)).foldl (take Platform.chromium) oneTransfer
  events := callbacks.map (received 0)
  seen := callbacks.map .callback
  reachable := oneStream_reachable
  enabled := oneFetch_enabled
  begins := rfl
  watched := alone_watched returns

/-- The whole response comes to the only stream. -/
def chunkedAlone : Transfer Platform.chromium (ascii "http://localhost/") :=
  alone chunkedOk.callbacks rfl

open BackendState in
/-- It comes to the second of two streams, between what comes to the first. -/
def chunkedBeside : Transfer Platform.chromium (ascii "http://localhost/") where
  quicStream := 1
  ref := 1
  easyInit := some 1
  peerIp := ascii "192.0.2.8"
  requestHeaders := getRequest
  requestBody := []
  before := twoStreams
  begun := twoTransfers
  last := (byTurns.map fun own => received own.1 own.2).foldl (take Platform.chromium) twoTransfers
  events := byTurns.map fun own => received own.1 own.2
  seen := chunkedOk.callbacks.map .callback
  reachable := twoStreams_reachable
  enabled := secondFetch_enabled
  begins := rfl
  watched := chunkedBeside_watched

namespace Transfer

variable {platform : Platform} {backendUrl : Bytes}

/-- The backend does to a stream what its exchange does alone: whatever the process serves
beside it, the stream is in the state that what was seen of its own transfer leads to. -/
theorem isolated (transfer : Transfer platform backendUrl) (requestUrl : Bytes) :
    ∃ stream exchange, transfer.before.streams transfer.quicStream = some stream ∧
      stream.quicProxyCurl = none ∧ stream.calls = [] ∧
      Exchange.run platform ⟨.create requestUrl transfer.quicStream,
        stream.setProxyCurl (some transfer.ref)⟩ transfer.seen = some exchange ∧
      transfer.last.streams transfer.quicStream = some exchange.stream := by
  obtain ⟨stream, exchange, lives, nothing, -, ran, follows⟩ := transfer.followed requestUrl
  exact ⟨stream, exchange, lives, nothing.1, nothing.2, ran, follows.stream⟩

/-- The second stream's part of the run is a run of its exchange on its own. -/
theorem isolated_beside :
    ∃ stream exchange, BackendState.twoStreams.streams 1 = some stream ∧
      stream.quicProxyCurl = none ∧ stream.calls = [] ∧
      Exchange.run Platform.chromium ⟨.create (ascii "http://localhost/") 1,
        stream.setProxyCurl (some 1)⟩ (chunkedOk.callbacks.map .callback) = some exchange ∧
      chunkedBeside.last.streams 1 = some exchange.stream :=
  chunkedBeside.isolated (ascii "http://localhost/")

/-- Two transfers of which the same is seen give their streams the same calls and flags, in
whatever processes they run. -/
theorem answered_alike {otherUrl : Bytes} (first : Transfer platform backendUrl)
    (second : Transfer platform otherUrl) (sameSeen : first.seen = second.seen)
    (sameStream : first.before.streams first.quicStream =
      second.before.streams second.quicStream) :
    (first.last.streams first.quicStream).map QuicProxyStream.nameless =
      (second.last.streams second.quicStream).map QuicProxyStream.nameless := by
  obtain ⟨stream, exchange, lives, -, -, ran, last⟩ := first.followed []
  obtain ⟨other, otherExchange, otherLives, -, -, otherRan, otherLast⟩ := second.followed []
  obtain rfl : stream = other :=
    Option.some.inj (lives.symm.trans (sameStream.trans otherLives))
  have named := Exchange.nameless_run platform
    ⟨.create [] first.quicStream, stream.setProxyCurl (some first.ref)⟩ first.seen
  have otherNamed := Exchange.nameless_run platform
    ⟨.create [] second.quicStream, stream.setProxyCurl (some second.ref)⟩ second.seen
  rw [ran] at named
  rw [otherRan, ← sameSeen] at otherNamed
  have same : exchange.nameless = otherExchange.nameless :=
    Option.some.inj (named.symm.trans otherNamed)
  rw [last.stream, otherLast.stream]
  exact congrArg (fun exchange => some exchange.stream) same

/-- Alone and among the other's lines the response is the same. -/
theorem answered_alike_beside :
    (chunkedAlone.last.streams 0).map QuicProxyStream.nameless =
      (chunkedBeside.last.streams 1).map QuicProxyStream.nameless :=
  chunkedAlone.answered_alike chunkedBeside rfl rfl

end Transfer

end QuicProxy
