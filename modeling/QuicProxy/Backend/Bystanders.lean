import QuicProxy.Backend.Safety
import QuicProxy.Curl.Completion

/-!
# What a stream sees of the backend

One backend serves every stream of the process. `observe` says which of its events are for
one stream: the callbacks and the report of the transfer whose proxy the stream points at,
and what the transport does to the stream itself. `Outcome.sameTransfer` is about all the
others. They leave the stream alone, and the part of its proxy that the callbacks for a
response read and write.
-/

namespace QuicProxy

/-- What the callbacks for a response read and write of a proxy. -/
structure ResponseState where
  quicStream : Option StreamRef
  spdyHeaders : SpdyHeaderBlock
  contentLength : UInt64
  hadSendLength : UInt64
deriving DecidableEq

/-- The part of a proxy that its response moves. -/
def QuicProxyCurl.responseState (proxy : QuicProxyCurl) : ResponseState :=
  ⟨proxy.quicStream, proxy.spdyHeaders, proxy.contentLength, proxy.hadSendLength⟩

/-- The handle is that of the proxy the stream points at. -/
def Links.serves (links : Links) (easy : EasyRef) (quicStream : StreamRef) : Bool :=
  (links.proxyOf quicStream).isSome && links.multi easy == links.proxyOf quicStream

/-- The stream an event makes or destroys, or whose request it starts. -/
def BackendEvent.ownStream : BackendEvent → Option StreamRef
  | .openStream stream | .fetch stream _ _ _ _ _ | .destroyStream stream => some stream
  | .header _ _ | .body _ _ | .check _ | .socket _ _ _ | .acked _ _ | .finConsumed _ => none

/-- The result a message reports of the stream's transfer. -/
def CurlMsg.resultFor (links : Links) (quicStream : StreamRef) : CurlMsg → Option CurlCode
  | .done easy result => if links.serves easy quicStream then some result else none
  | .other => none

namespace BackendState

/-- What a stream sees of an event. -/
def observe (quicStream : StreamRef) (state : BackendState) : BackendEvent → Option ExchangeEvent
  | .header easy line =>
      if state.links.serves easy quicStream then some (.callback (.header line)) else none
  | .body easy chunk =>
      if state.links.serves easy quicStream then some (.callback (.body chunk)) else none
  | .check messages =>
      (messages.findSome? (CurlMsg.resultFor state.links quicStream)).map .done
  | .acked stream bufferedDataBytes =>
      if stream = quicStream then some (.acked bufferedDataBytes) else none
  | .finConsumed stream => if stream = quicStream then some .finConsumed else none
  | .openStream _ | .fetch _ _ _ _ _ _ | .destroyStream _ | .socket _ _ _ => none

/-- A stream, and whether it has asked for its response, stay as they are. -/
structure SameStream (quicStream : StreamRef) (state next : BackendState) : Prop where
  requested : next.requested quicStream = state.requested quicStream
  stream : next.streams quicStream = state.streams quicStream

/-- The stream stays as it is, and a proxy that points at it goes on answering as before. -/
structure SameTransfer (quicStream : StreamRef) (state next : BackendState) : Prop where
  stream : SameStream quicStream state next
  answers : ∀ ref proxy, state.proxies ref = some proxy → proxy.quicStream = some quicStream →
    ∃ kept, next.proxies ref = some kept ∧ kept.responseState = proxy.responseState

variable {platform : Platform} {state next : BackendState} {quicStream : StreamRef}

/-- An event that does not touch the stream. -/
theorem SameStream.refl (quicStream : StreamRef) (state : BackendState) :
    SameStream quicStream state state := ⟨rfl, rfl⟩

/-- The dead list is not the stream's. -/
theorem moveToDeadList_sameStream (quicStream : StreamRef) (state : BackendState)
    (easy : EasyRef) : SameStream quicStream state (state.moveToDeadList easy) := by
  obtain ⟨hash, dead, moved⟩ := moveToDeadList_eq state easy
  rw [moved]
  exact ⟨rfl, rfl⟩

/-- An event that touches neither the stream nor a proxy. -/
theorem SameTransfer.of_proxies (stream : SameStream quicStream state next)
    (proxies : next.proxies = state.proxies) : SameTransfer quicStream state next := by
  refine ⟨stream, fun ref proxy lives _ => ⟨proxy, ?_, rfl⟩⟩
  rw [proxies, lives]

/-- An event that does nothing. -/
theorem SameTransfer.refl (quicStream : StreamRef) (state : BackendState) :
    SameTransfer quicStream state state :=
  .of_proxies (.refl quicStream state) rfl

/-- Events that leave a transfer alone, one after the other. -/
theorem SameTransfer.trans {middle last : BackendState}
    (first : SameTransfer quicStream state middle)
    (second : SameTransfer quicStream middle last) : SameTransfer quicStream state last := by
  constructor
  · exact ⟨second.stream.requested.trans first.stream.requested,
      second.stream.stream.trans first.stream.stream⟩
  · intro ref proxy lives points
    obtain ⟨kept, keptLives, same⟩ := first.answers ref proxy lives points
    have keptPoints : kept.quicStream = some quicStream :=
      (congrArg ResponseState.quicStream same).trans points
    obtain ⟨later, laterLives, still⟩ := second.answers ref kept keptLives keptPoints
    exact ⟨later, laterLives, still.trans same⟩

/-- Only a proxy that does not point at the stream has changed. -/
theorem SameTransfer.put {ref : ProxyRef} {proxy changed : QuicProxyCurl}
    (stream : SameStream quicStream state next) (lives : state.proxies ref = some proxy)
    (elsewhere : proxy.quicStream ≠ some quicStream)
    (proxies : next.proxies = Function.update state.proxies ref (some changed)) :
    SameTransfer quicStream state next := by
  refine ⟨stream, fun other kept keptLives points => ⟨kept, ?_, rfl⟩⟩
  have differs : other ≠ ref := by
    rintro rfl
    obtain rfl := Option.some.inj (lives.symm.trans keptLives)
    exact elsewhere points
  rw [proxies, Function.update_of_ne differs, keptLives]

/-! ## Handles that serve the stream -/

/-- A handle serves the stream whose proxy it belongs to. -/
theorem serves_iff {easy : EasyRef} :
    state.links.serves easy quicStream = true ↔
      ∃ ref, state.links.multi easy = some ref ∧ state.links.proxyOf quicStream = some ref := by
  unfold Links.serves
  rw [Bool.and_eq_true, beq_iff_eq]
  constructor
  · rintro ⟨points, same⟩
    obtain ⟨ref, pointer⟩ := Option.isSome_iff_exists.mp points
    exact ⟨ref, same.trans pointer, pointer⟩
  · rintro ⟨ref, inMulti, pointer⟩
    exact ⟨by rw [pointer, Option.isSome_some], inMulti.trans pointer.symm⟩

/-- The proxy of a handle points at the stream exactly where the handle serves it. -/
theorem points_iff_serves (intact : state.links.Intact) {easy : EasyRef} {ref : ProxyRef}
    {proxy : QuicProxyCurl} (inMulti : state.links.multi easy = some ref)
    (lives : state.proxies ref = some proxy) :
    proxy.quicStream = some quicStream ↔ state.links.serves easy quicStream = true := by
  have pointer : state.links.streamOf ref = proxy.quicStream := by
    rw [streamOf_links, lives, Option.bind_some]
  rw [serves_iff]
  constructor
  · intro points
    exact ⟨ref, inMulti, intact.proxyOf_of_streamOf (pointer.trans points)⟩
  · rintro ⟨other, isOther, pointsBack⟩
    obtain rfl := Option.some.inj (inMulti.symm.trans isOther)
    exact pointer.symm.trans (intact.streamOf_of_proxyOf pointsBack)

/-- Nothing serves a stream without a proxy. -/
theorem not_serves_of_proxyOf (nowhere : state.links.proxyOf quicStream = none)
    (easy : EasyRef) : state.links.serves easy quicStream = false := by
  simp [Links.serves, nowhere]

/-- A handle that is not in the multi serves nobody. -/
theorem not_serves_of_multi {easy : EasyRef} (absent : state.multi easy = none)
    (quicStream : StreamRef) : state.links.serves easy quicStream = false := by
  rw [Bool.eq_false_iff]
  intro serves
  obtain ⟨ref, inMulti, -⟩ := serves_iff.mp serves
  simp [links, absent] at inMulti

/-- A handle that does not serve the stream is that of a proxy that points elsewhere. -/
theorem elsewhere_of_not_serves (intact : state.links.Intact) {easy : EasyRef}
    (notServes : state.links.serves easy quicStream = false) {handle : EasyHandle}
    (inMulti : state.multi easy = some handle) {proxy : QuicProxyCurl}
    (lives : state.proxies handle.privateData = some proxy) :
    proxy.quicStream ≠ some quicStream := by
  intro points
  have multi : state.links.multi easy = some handle.privateData := by
    simp only [links, inMulti, Option.map_some]
  rw [(points_iff_serves intact multi lives).mp points] at notServes
  cases notServes

/-! ## Reading the messages of other transfers -/

/-- The end of a transfer that does not serve the stream. -/
theorem Finished.sameTransfer {easy : EasyRef} (finished : Finished easy state next)
    (intact : state.links.Intact) (notServes : state.links.serves easy quicStream = false) :
    SameTransfer quicStream state next := by
  have moved (here : BackendState) := moveToDeadList_sameStream quicStream here easy
  cases finished with
  | unknown => exact .refl quicStream state
  | alone =>
      exact .of_proxies ⟨(moved _).requested, (moved _).stream⟩ (moveToDeadList_proxies _ _)
  | letGo inMulti lives points =>
      have elsewhere := elsewhere_of_not_serves intact notServes inMulti lives
      have differs : quicStream ≠ _ := fun same =>
        elsewhere (points.trans (congrArg some same.symm))
      exact .put ⟨(moved _).requested, (moved _).stream.trans (Function.update_of_ne differs _ _)⟩
        lives elsewhere (moveToDeadList_proxies _ _)

/-- It changes no handle that serves the stream. -/
theorem Finished.serves {easy : EasyRef} (finished : Finished easy state next)
    (intact : state.links.Intact) (notServes : state.links.serves easy quicStream = false)
    (other : EasyRef) :
    next.links.serves other quicStream = state.links.serves other quicStream := by
  have same := (finished.sameTransfer intact notServes).stream
  have pointer : next.links.proxyOf quicStream = state.links.proxyOf quicStream := by
    rw [proxyOf_links, proxyOf_links, same.stream]
  by_cases isEasy : other = easy
  · subst isEasy
    have gone : next.multi other = none := by rw [finished.multi, Function.update_self]
    rw [not_serves_of_multi gone, notServes]
  · have multi : next.links.multi other = state.links.multi other := by
      simp only [BackendState.links, finished.multi, Function.update_of_ne isEasy]
    rw [Links.serves, Links.serves, pointer, multi]

/-- What messages for other transfers leave of a stream's own. -/
structure ReadPast (quicStream : StreamRef) (state next : BackendState) : Prop where
  same : SameTransfer quicStream state next
  intact : next.links.Intact
  serves : ∀ easy, next.links.serves easy quicStream = state.links.serves easy quicStream

/-- Messages about other transfers are read past the stream. -/
theorem Reads.readPast {messages : List CurlMsg} (reads : Reads messages state next)
    (intact : state.links.Intact)
    (others : ∀ message ∈ messages, message.resultFor state.links quicStream = none) :
    ReadPast quicStream state next := by
  refine reads.keeps ⟨.refl quicStream state, intact, fun _ => rfl⟩
    fun easy result here there member past finished => ?_
  have notHere : here.links.serves easy quicStream = false := by
    rw [past.serves, Bool.eq_false_iff]
    intro serves
    have nothing := others _ member
    rw [CurlMsg.resultFor, if_pos serves] at nothing
    cases nothing
  exact ⟨past.same.trans (finished.sameTransfer past.intact notHere),
    finished.intact past.intact,
    fun other => (finished.serves past.intact notHere other).trans (past.serves other)⟩

/-- Clearing the dead list destroys no proxy that points at a stream. -/
theorem clearDeadList_sameTransfer (intact : state.links.Intact) :
    SameTransfer quicStream state state.clearDeadList := by
  refine ⟨⟨rfl, rfl⟩, fun ref proxy lives points => ⟨proxy, ?_, rfl⟩⟩
  have alive : ref ∉ state.proxyHttpDeadList := by
    intro dead
    obtain ⟨other, otherLives, nowhere⟩ := (pointersAgree_of_intact intact).deadLetGo ref dead
    obtain rfl := Option.some.inj (lives.symm.trans otherLives)
    rw [nowhere] at points
    cases points
  exact (if_neg alive).trans lives

/-- `CheckCurlMultiInfo` leaves a stream alone that no message is about. -/
theorem Checked.sameTransfer {messages : List CurlMsg} (checked : Checked messages state next)
    (intact : state.links.Intact)
    (others : ∀ message ∈ messages, message.resultFor state.links quicStream = none) :
    SameTransfer quicStream state next := by
  cases checked with
  | cleared => exact clearDeadList_sameTransfer intact
  | read reads => exact (reads.readPast intact others).same

/-! ## The other events -/

/-- Closing the response of one stream leaves the others alone. -/
theorem Closed.sameTransfer {other : StreamRef} (closed : Closed other state next)
    (intact : state.links.Intact) (differs : quicStream ≠ other) :
    SameTransfer quicStream state next := by
  cases closed with
  | apart => exact .refl quicStream state
  | @letGo stream ref proxy lives points proxyLives =>
      obtain ⟨found, foundLives, back⟩ := proxy_of_pointer intact lives points
      obtain rfl := Option.some.inj (proxyLives.symm.trans foundLives)
      have elsewhere : proxy.quicStream ≠ some quicStream := by
        rw [back]
        exact fun isOther => differs (Option.some.inj isOther).symm
      exact .put ⟨rfl, Function.update_of_ne differs _ _⟩ proxyLives elsewhere rfl

/-- A callback for another stream. -/
theorem Called.sameTransfer {callback : QuicProxyCurl → Option CallbackResult} {ref : ProxyRef}
    (called : Called callback ref state next)
    (elsewhere : ∀ proxy, state.proxies ref = some proxy → proxy.quicStream ≠ some quicStream) :
    SameTransfer quicStream state next := by
  obtain ⟨lives, -, accepted⟩ := called
  have apart := elsewhere _ lives
  refine .put ?_ lives apart accepted.proxies
  cases accepted with
  | silent => exact ⟨rfl, rfl⟩
  | calls points =>
      have differs : quicStream ≠ _ := fun same => apart (points.trans (congrArg some same.symm))
      exact ⟨rfl, Function.update_of_ne differs _ _⟩

/-- The start of a request for another stream; its proxy is a new one. -/
theorem Fetched.sameTransfer {other : StreamRef} {ref : ProxyRef} {easyInit : Option EasyRef}
    {peerIp : Bytes} {requestHeaders : SpdyHeaderBlock} {requestBody : Bytes}
    (fetched : Fetched platform other ref easyInit peerIp requestHeaders requestBody state next)
    (differs : quicStream ≠ other) (absent : state.proxies ref = none) :
    SameTransfer quicStream state next := by
  cases fetched
  refine ⟨⟨Function.update_of_ne differs _ _, Function.update_of_ne differs _ _⟩, ?_⟩
  intro old proxy lives _
  have notNew : old ≠ ref := by
    rintro rfl
    cases absent.symm.trans lives
  exact ⟨proxy, (Function.update_of_ne notNew _ _).trans lives, rfl⟩

/-- Sockets are no part of a stream's transfer. -/
theorem OnlySockets.sameTransfer (same : OnlySockets state next) :
    SameTransfer quicStream state next := by
  refine ⟨⟨by rw [same.requested], by rw [same.streams]⟩, fun ref proxy lives _ => ?_⟩
  obtain ⟨fd, kept⟩ := same.proxies ref
  exact ⟨proxy.setSockfd fd, by rw [kept, lives, Option.map_some], rfl⟩

/-- An event the stream does not see leaves it alone, and the answers of its proxy. -/
theorem Outcome.sameTransfer {event : BackendEvent} (outcome : Outcome platform state event next)
    (intact : state.links.Intact) (enabled : state.Enabled event)
    (others : event.ownStream ≠ some quicStream)
    (unseen : observe quicStream state event = none) : SameTransfer quicStream state next := by
  have own {other : StreamRef} (isOther : event.ownStream = some other) :
      quicStream ≠ other := by
    rintro rfl
    exact others isOther
  -- what is for a transfer or a stream and is not seen is for another one
  have notSeen {served : Bool} {shown : ExchangeEvent}
      (hidden : (if served then some shown else none) = none) : served = false := by
    cases served with
    | false => rfl
    | true => cases hidden
  have notOwn {other : StreamRef} {shown : ExchangeEvent}
      (hidden : (if other = quicStream then some shown else none) = none) :
      quicStream ≠ other := by
    rintro rfl
    rw [if_pos rfl] at hidden
    cases hidden
  cases outcome with
  | openStream =>
      exact .of_proxies
        ⟨Function.update_of_ne (own rfl) _ _, Function.update_of_ne (own rfl) _ _⟩ rfl
  | fetch fetched => exact fetched.sameTransfer (own rfl) enabled.2.2.1
  | destroyStream closed =>
      have same := closed.sameTransfer intact (own rfl)
      refine ⟨⟨?_, ?_⟩, same.answers⟩
      · exact (Function.update_of_ne (own rfl) _ _).trans same.stream.requested
      · exact (Function.update_of_ne (own rfl) _ _).trans same.stream.stream
  | idle => exact .refl quicStream state
  | header inMulti called =>
      exact called.sameTransfer fun _ lives =>
        elsewhere_of_not_serves intact (notSeen unseen) inMulti lives
  | body inMulti called =>
      exact called.sameTransfer fun _ lives =>
        elsewhere_of_not_serves intact (notSeen unseen) inMulti lives
  | check checked =>
      rw [observe, Option.map_eq_none_iff, List.findSome?_eq_none_iff] at unseen
      exact checked.sameTransfer intact unseen
  | socket _ called => exact called.onlySockets.sameTransfer
  | acked acked =>
      cases acked with
      | attached => exact .refl quicStream state
      | apart => exact .of_proxies ⟨rfl, Function.update_of_ne (notOwn unseen) _ _⟩ rfl
  | finConsumed => exact .of_proxies ⟨rfl, Function.update_of_ne (notOwn unseen) _ _⟩ rfl

end BackendState

end QuicProxy
