import QuicProxy.Backend.Bystanders
import QuicProxy.Semantics.Simulation

/-!
# Every transfer is served as if it were alone

An `Exchange` is one transfer with one stream. The backend has any number of them and
shares its tables, libcurl's multi and the objects' addresses between them; `Follows`
relates a state of it to the exchange of one stream, from the start of the request until
the stream is destroyed. Events the stream does not see keep the relation, the others are
steps of the exchange, and so the backend simulates the exchange of each of its streams
(`simulation`).
-/

namespace QuicProxy

namespace Exchange

/-- One transfer with its stream, and nothing else. -/
def system (platform : Platform) : LabelledSystem Exchange ExchangeEvent where
  Initial exchange := ∃ proxyRef streamRef requestUrl,
    exchange = start proxyRef streamRef requestUrl
  Step here event there := here.step platform event = some there

/-- A run of the exchange is what its events make of it, one after the other. -/
theorem run_of_system {platform : Platform} {origin last : Exchange}
    {seen : List ExchangeEvent} (run : (system platform).Run origin seen last) :
    origin.run platform seen = some last := by
  induction run with
  | nil => rfl
  | snoc _ latest ih =>
      have moved : Exchange.step platform _ _ = some _ := latest
      rw [run_append, ih, Option.bind_some, run_cons, moved, Option.bind_some, run_nil]

end Exchange

/-! ## Callbacks that answer alike -/

/-- What a callback leads to. -/
def CallbackResult.answer (result : CallbackResult) : UInt64 × ResponseState × List StreamCall :=
  (result.returned, result.proxy.responseState, result.calls)

namespace QuicProxyCurl

variable {proxy other : QuicProxyCurl}

/-- The answer to a header line depends on the response state only. -/
theorem httpHeaderCallback_answer (platform : Platform)
    (same : proxy.responseState = other.responseState) (contents : Bytes) :
    (proxy.httpHeaderCallback platform contents).map CallbackResult.answer =
      (other.httpHeaderCallback platform contents).map CallbackResult.answer := by
  obtain ⟨sockfd, easy, url, quicStream, block, length, sent, lines, body, pos⟩ := proxy
  obtain ⟨sockfd', easy', url', quicStream', block', length', sent', lines', body', pos'⟩ := other
  obtain ⟨rfl, rfl, rfl, rfl⟩ := ResponseState.mk.inj same
  unfold httpHeaderCallback
  simp only
  split
  · rfl
  · split
    · rfl
    · split
      · rfl
      · rfl

/-- The answer to a piece of the body depends on the response state only. -/
theorem writeQuicCallback_answer (same : proxy.responseState = other.responseState)
    (contents : Bytes) :
    (proxy.writeQuicCallback contents).answer = (other.writeQuicCallback contents).answer := by
  obtain ⟨sockfd, easy, url, quicStream, block, length, sent, lines, body, pos⟩ := proxy
  obtain ⟨sockfd', easy', url', quicStream', block', length', sent', lines', body', pos'⟩ := other
  obtain ⟨rfl, rfl, rfl, rfl⟩ := ResponseState.mk.inj same
  unfold writeQuicCallback
  simp only
  split
  · rfl
  · rfl

end QuicProxyCurl

namespace BackendState

/-- The state holds the stream of an exchange, and a proxy for it that answers like the
exchange's. -/
structure Follows (quicStream : StreamRef) (state : BackendState) (exchange : Exchange) :
    Prop where
  intact : state.links.Intact
  asked : state.requested quicStream = true
  stream : state.streams quicStream = some exchange.stream
  answers : ∀ ref, exchange.stream.quicProxyCurl = some ref →
    ∃ proxy, state.proxies ref = some proxy ∧ proxy.responseState = exchange.proxy.responseState

variable {platform : Platform} {state next : BackendState} {quicStream : StreamRef}
  {exchange : Exchange}

/-- What the stream does not see. -/
theorem Follows.hidden (follows : Follows quicStream state exchange)
    (same : SameTransfer quicStream state next) (intact : next.links.Intact) :
    Follows quicStream next exchange := by
  refine ⟨intact, same.stream.requested.trans follows.asked,
    same.stream.stream.trans follows.stream, fun ref points => ?_⟩
  obtain ⟨proxy, lives, answers⟩ := follows.answers ref points
  obtain ⟨found, foundLives, back⟩ := proxy_of_pointer follows.intact follows.stream points
  obtain rfl := Option.some.inj (lives.symm.trans foundLives)
  obtain ⟨kept, keptLives, still⟩ := same.answers ref proxy lives back
  exact ⟨kept, keptLives, still.trans answers⟩

/-- The proxy of a handle that serves the stream. -/
theorem Follows.served (follows : Follows quicStream state exchange) {easy : EasyRef}
    (serves : state.links.serves easy quicStream = true) :
    ∃ handle proxy, state.multi easy = some handle ∧
      exchange.stream.quicProxyCurl = some handle.privateData ∧
      state.proxies handle.privateData = some proxy ∧ proxy.quicStream = some quicStream ∧
      proxy.responseState = exchange.proxy.responseState := by
  obtain ⟨ref, inMulti, pointer⟩ := serves_iff.mp serves
  obtain ⟨handle, isHandle, rfl⟩ := Option.map_eq_some_iff.mp inMulti
  rw [proxyOf_links, follows.stream, Option.bind_some] at pointer
  obtain ⟨proxy, lives, answers⟩ := follows.answers _ pointer
  obtain ⟨found, foundLives, back⟩ := proxy_of_pointer follows.intact follows.stream pointer
  obtain rfl := Option.some.inj (lives.symm.trans foundLives)
  exact ⟨handle, proxy, isHandle, pointer, lives, back, answers⟩

/-! ## Callbacks -/

/-- The callback answers by what the proxy has of the response, and by nothing else. -/
def AnswersAlike (callback : QuicProxyCurl → Option CallbackResult) : Prop :=
  ∀ proxy other, proxy.responseState = other.responseState →
    (callback proxy).map CallbackResult.answer = (callback other).map CallbackResult.answer

/-- A callback of its own. -/
theorem Follows.called (follows : Follows quicStream state exchange) {easy : EasyRef}
    (serves : state.links.serves easy quicStream = true) {handle : EasyHandle}
    (inMulti : state.multi easy = some handle)
    {callback : QuicProxyCurl → Option CallbackResult}
    (called : Called callback handle.privateData state next)
    (responds : QuicProxyCurl.OnlyResponds callback) (alike : AnswersAlike callback) :
    ∃ other, callback exchange.proxy = some other ∧
      Follows quicStream next (exchange.accept other) := by
  have intact : next.links.Intact := called.links responds ▸ follows.intact
  obtain ⟨found, proxy, isFound, points, lives, back, answers⟩ := follows.served serves
  obtain rfl := Option.some.inj (inMulti.symm.trans isFound)
  obtain @⟨_, result, foundLives, returned, accepted⟩ := called
  obtain rfl := Option.some.inj (lives.symm.trans foundLives)
  have bothAnswer := alike proxy exchange.proxy answers
  rw [returned, Option.map_some] at bothAnswer
  obtain ⟨other, otherReturned, same⟩ := Option.map_eq_some_iff.mp bothAnswer.symm
  obtain ⟨sameState, sameCalls⟩ := Prod.mk.inj (Prod.mk.inj same.symm).2
  refine ⟨other, otherReturned, ?_⟩
  have answersOn (ref : ProxyRef) (pointer : exchange.stream.quicProxyCurl = some ref) :
      ∃ proxy, next.proxies ref = some proxy ∧
        proxy.responseState = other.proxy.responseState := by
    obtain rfl := Option.some.inj (points.symm.trans pointer)
    exact ⟨result.proxy, by rw [accepted.proxies, Function.update_self], sameState⟩
  cases accepted with
  | silent nothing =>
      have quiet : other.calls = [] := by
        rcases nothing with nowhere | none
        · cases back.symm.trans nowhere
        · exact sameCalls.symm.trans none
      have silent : exchange.accept other = ⟨other.proxy, exchange.stream⟩ := by
        simp [Exchange.accept, quiet, QuicProxyStream.call]
      rw [silent]
      exact ⟨intact, follows.asked, follows.stream, answersOn⟩
  | calls target speaks streamLives =>
      obtain rfl := Option.some.inj (back.symm.trans target)
      obtain rfl := Option.some.inj (follows.stream.symm.trans streamLives)
      refine ⟨intact, follows.asked, ?_, answersOn⟩
      rw [sameCalls]
      exact Function.update_self ..

/-! ## The report -/

/-- The end of its own transfer. -/
theorem Follows.finish (follows : Follows quicStream state exchange) {easy : EasyRef}
    (serves : state.links.serves easy quicStream = true)
    (finished : Finished easy state next) (result : CurlCode) :
    Follows quicStream next (exchange.done result) := by
  obtain ⟨handle, proxy, isHandle, points, lives, back, answers⟩ := follows.served serves
  have own : exchange.proxy.quicStream = some quicStream :=
    (congrArg ResponseState.quicStream answers).symm.trans back
  have done : exchange.done result =
      ⟨exchange.proxy.setStream none, exchange.stream.setProxyCurl none⟩ := by
    rw [Exchange.done, own]
    rfl
  have intact := finished.intact follows.intact
  rw [done]
  cases finished with
  | unknown absent => cases absent.symm.trans isHandle
  | alone inMulti found nowhere =>
      obtain rfl := Option.some.inj (isHandle.symm.trans inMulti)
      obtain rfl := Option.some.inj (lives.symm.trans found)
      cases back.symm.trans nowhere
  | letGo inMulti found target streamLives =>
      obtain rfl := Option.some.inj (isHandle.symm.trans inMulti)
      obtain rfl := Option.some.inj (lives.symm.trans found)
      obtain rfl := Option.some.inj (back.symm.trans target)
      obtain rfl := Option.some.inj (follows.stream.symm.trans streamLives)
      have moved (here : BackendState) := moveToDeadList_sameStream quicStream here easy
      refine ⟨intact, (moved _).requested.trans follows.asked, ?_, ?_⟩
      · exact (moved _).stream.trans (Function.update_self ..)
      · rintro ref ⟨⟩

/-- The stream's proxy is that of its exchange. -/
theorem Follows.proxyOf (follows : Follows quicStream state exchange) :
    state.links.proxyOf quicStream = exchange.stream.quicProxyCurl := by
  rw [proxyOf_links, follows.stream, Option.bind_some]

/-- A stream is without its proxy once the end has been reported. -/
theorem Follows.detached_done (follows : Follows quicStream state exchange)
    (result : CurlCode) : (exchange.done result).stream.quicProxyCurl = none := by
  unfold Exchange.done
  split
  · rfl
  · next notSome =>
      cases points : exchange.stream.quicProxyCurl with
      | none => rfl
      | some ref =>
          obtain ⟨proxy, lives, answers⟩ := follows.answers ref points
          obtain ⟨found, foundLives, back⟩ :=
            proxy_of_pointer follows.intact follows.stream points
          obtain rfl := Option.some.inj (lives.symm.trans foundLives)
          have own : exchange.proxy.quicStream = some quicStream :=
            (congrArg ResponseState.quicStream answers).symm.trans back
          rw [own] at notSome
          exact absurd rfl notSome

/-- A call that reads the end of its transfer. -/
theorem Follows.check (follows : Follows quicStream state exchange) {messages : List CurlMsg}
    {result : CurlCode}
    (reported : messages.findSome? (CurlMsg.resultFor state.links quicStream) = some result)
    (checked : Checked messages state next) :
    Follows quicStream next (exchange.done result) := by
  obtain ⟨before, message, after, rfl, own, others⟩ := List.findSome?_eq_some_iff.mp reported
  obtain ⟨easy, code, rfl⟩ : ∃ easy code, message = .done easy code := by
    cases message with
    | done easy code => exact ⟨easy, code, rfl⟩
    | other => cases own
  have serves : state.links.serves easy quicStream = true := by
    by_contra not
    rw [CurlMsg.resultFor, if_neg not] at own
    cases own
  rw [CurlMsg.resultFor, if_pos serves] at own
  obtain rfl := Option.some.inj own
  have reads : Reads (before ++ .done easy code :: after) state next := by
    generalize split : before ++ .done easy code :: after = messages at checked
    cases checked with
    | cleared => simp at split
    | read reads => exact reads
  obtain ⟨here, readBefore, rest⟩ := reads_append_iff.mp reads
  have past := readBefore.readPast follows.intact others
  have followsHere := follows.hidden past.same past.intact
  cases rest with
  | done finished readAfter =>
      have followsThere := followsHere.finish ((past.serves easy).trans serves) finished code
      -- nothing serves the stream any more
      have detached := followsThere.proxyOf.trans (followsHere.detached_done code)
      have pastAfter := readAfter.readPast followsThere.intact fun message _ => by
        cases message with
        | done other code => rw [CurlMsg.resultFor, not_serves_of_proxyOf detached]; rfl
        | other => rfl
      exact followsThere.hidden pastAfter.same pastAfter.intact

/-! ## The transport -/

/-- The stream has been written, but points where it did. -/
theorem Follows.putStream (follows : Follows quicStream state exchange)
    {changed : QuicProxyStream}
    (points : changed.quicProxyCurl = exchange.stream.quicProxyCurl) :
    Follows quicStream (state.putStream quicStream changed)
      { exchange with stream := changed } := by
  have links := links_putStream_same follows.stream points
  refine ⟨links ▸ follows.intact, follows.asked, Function.update_self .., fun ref pointer => ?_⟩
  exact follows.answers ref (points.symm.trans pointer)

/-- Acknowledged data is acknowledged in the exchange. -/
theorem Follows.acked (follows : Follows quicStream state exchange) {bufferedDataBytes : Nat}
    (acked : Acked quicStream bufferedDataBytes state next) : Follows quicStream next
      { exchange with stream := exchange.stream.onStreamFrameAcked bufferedDataBytes } := by
  cases acked with
  | attached lives points =>
      obtain rfl := Option.some.inj (follows.stream.symm.trans lives)
      have still : exchange.stream.onStreamFrameAcked bufferedDataBytes = exchange.stream := by
        rw [QuicProxyStream.onStreamFrameAcked, points, Option.isSome_some, if_pos rfl]
      rw [still]
      exact follows
  | apart lives =>
      obtain rfl := Option.some.inj (follows.stream.symm.trans lives)
      exact follows.putStream (QuicProxyStream.quicProxyCurl_onStreamFrameAcked _ _)

/-! ## The start -/

/-- `StartHttp` leaves the response as it was made. -/
theorem startHttp_responseState (platform : Platform) (proxy : QuicProxyCurl) (peerIp : Bytes)
    (requestHeaders : SpdyHeaderBlock) (requestBody : Bytes) :
    (proxy.startHttp platform peerIp requestHeaders requestBody).1.responseState =
      proxy.responseState := by
  simp only [QuicProxyCurl.startHttp]
  split
  · rfl
  · split <;> rfl

/-- The start of a request is the start of an exchange: the new proxy answers as one that has
answered nothing yet. -/
theorem fetch_follows {ref : ProxyRef} {easyInit : Option EasyRef} {peerIp : Bytes}
    {requestHeaders : SpdyHeaderBlock} {requestBody : Bytes} (intact : state.links.Intact)
    (enabled : state.Enabled
      (.fetch quicStream ref easyInit peerIp requestHeaders requestBody))
    (stepped : state.step platform
      (.fetch quicStream ref easyInit peerIp requestHeaders requestBody) = .ok next)
    {stream : QuicProxyStream} (lives : state.streams quicStream = some stream)
    (requestUrl : Bytes) :
    Follows quicStream next
      ⟨.create requestUrl quicStream, stream.setProxyCurl (some ref)⟩ := by
  have outcome := step_iff.mp stepped
  have nextIntact := outcome.intact intact enabled
  cases outcome with
  | idle transfer => cases transfer
  | fetch fetched =>
      obtain @⟨easy, path, found, given, hasPath, foundLives⟩ := fetched
      obtain rfl := Option.some.inj (lives.symm.trans foundLives)
      refine ⟨nextIntact, Function.update_self .., Function.update_self .., fun other points => ?_⟩
      obtain rfl := Option.some.inj points
      exact ⟨_, Function.update_self .., startHttp_responseState platform _ _ _ _⟩

/-! ## Steps of the backend -/

/-- An event the stream does not see leaves its exchange where it is. -/
theorem Follows.step_hidden (follows : Follows quicStream state exchange) {event : BackendEvent}
    (enabled : state.Enabled event) (outcome : Outcome platform state event next)
    (notDestroyed : event ≠ .destroyStream quicStream)
    (unseen : observe quicStream state event = none) : Follows quicStream next exchange := by
  have others : event.ownStream ≠ some quicStream := by
    rintro isOwn
    cases event with
    | openStream stream =>
        obtain rfl := Option.some.inj isOwn
        have absent : state.streams stream = none := enabled
        cases absent.symm.trans follows.stream
    | fetch stream ref easyInit peerIp requestHeaders requestBody =>
        obtain rfl := Option.some.inj isOwn
        cases enabled.2.1.symm.trans follows.asked
    | destroyStream stream =>
        obtain rfl := Option.some.inj isOwn
        exact notDestroyed rfl
    | _ => cases isOwn
  exact follows.hidden (outcome.sameTransfer follows.intact enabled others unseen)
    (outcome.intact follows.intact enabled)

/-- What the stream sees of an event is what its exchange does. -/
theorem Follows.step_shown (follows : Follows quicStream state exchange) {event : BackendEvent}
    (outcome : Outcome platform state event next) {saw : ExchangeEvent}
    (seen : observe quicStream state event = some saw) :
    ∃ moved, exchange.step platform saw = some moved ∧ Follows quicStream next moved := by
  cases outcome with
  | header inMulti called =>
      obtain ⟨serves, shown⟩ := Option.ite_none_right_eq_some.mp seen
      obtain rfl := Option.some.inj shown
      obtain ⟨other, returned, moved⟩ := follows.called serves inMulti called
        (QuicProxyCurl.httpHeaderCallback_onlyResponds platform _)
        fun proxy other same => QuicProxyCurl.httpHeaderCallback_answer platform same _
      exact ⟨_, by simp [Exchange.step, Exchange.callback, returned], moved⟩
  | body inMulti called =>
      obtain ⟨serves, shown⟩ := Option.ite_none_right_eq_some.mp seen
      obtain rfl := Option.some.inj shown
      obtain ⟨other, ⟨⟩, moved⟩ := follows.called serves inMulti called
        (QuicProxyCurl.writeQuicCallback_onlyResponds _)
        fun proxy other same => congrArg some (QuicProxyCurl.writeQuicCallback_answer same _)
      exact ⟨_, rfl, moved⟩
  | check checked =>
      obtain ⟨result, reported, rfl⟩ := Option.map_eq_some_iff.mp seen
      exact ⟨_, rfl, follows.check reported checked⟩
  | acked acked =>
      obtain ⟨rfl, shown⟩ := Option.ite_none_right_eq_some.mp seen
      obtain rfl := Option.some.inj shown
      exact ⟨_, rfl, follows.acked acked⟩
  | finConsumed lives =>
      obtain ⟨rfl, shown⟩ := Option.ite_none_right_eq_some.mp seen
      obtain rfl := Option.some.inj shown
      obtain rfl := Option.some.inj (follows.stream.symm.trans lives)
      exact ⟨_, rfl, follows.putStream (QuicProxyStream.quicProxyCurl_finConsumed _)⟩
  | idle transfer absent =>
      -- a handle that has left the multi serves no stream
      have notServes := not_serves_of_multi absent quicStream
      cases event with
      | header easy line | body easy chunk =>
          obtain rfl := Option.some.inj transfer
          rw [observe, notServes] at seen
          cases seen
      | socket easy s what => cases seen
      | _ => cases transfer
  | openStream | fetch | destroyStream | socket => cases seen

/-! ## Whole runs -/

/-- The backend simulates the exchange of each of its streams, until the stream is
destroyed. -/
def simulation (platform : Platform) (backendUrl : Bytes) (quicStream : StreamRef) :
    LabelledSystem.Simulation
      ((system platform backendUrl).guarded fun _ event => event ≠ .destroyStream quicStream)
      (Exchange.system platform) (observe quicStream) where
  Related := Follows quicStream
  hidden := by
    rintro here event there exchange follows ⟨notDestroyed, enabled, stepped⟩ unseen
    exact follows.step_hidden enabled (step_iff.mp stepped) notDestroyed unseen
  shown := by
    rintro here event there exchange saw follows ⟨-, -, stepped⟩ seen
    exact follows.step_shown (step_iff.mp stepped) seen

end BackendState

end QuicProxy
