import QuicProxy.Backend.Frames
import QuicProxy.Backend.Links

/-!
# Pointers between streams and proxies

Whatever an event does to a state, to the links of the state it does what an operation of
`Links` does. So it keeps them intact (`Outcome.intact`), and they are in every run
(`intact_of_reachable`).
-/

namespace QuicProxy

namespace BackendState

/-- The links between the objects of a state. -/
def links (state : BackendState) : Links where
  streams := fun stream => (state.streams stream).map QuicProxyStream.quicProxyCurl
  proxies := fun ref => (state.proxies ref).map fun proxy => ⟨proxy.easy, proxy.quicStream⟩
  hash := state.proxyHttpHash
  dead := state.proxyHttpDeadList
  multi := fun easy => (state.multi easy).map EasyHandle.privateData
  requested := state.requested

/-! ## Reading the links -/

variable {platform : Platform} {state next : BackendState}

/-- Mapping the values of a table commutes with an update. -/
theorem map_update {α β γ : Type} [DecidableEq α] (f : β → γ) (table : α → Option β) (key : α)
    (value : Option β) :
    (fun other => (Function.update table key value other).map f) =
      Function.update (fun other => (table other).map f) key (value.map f) := by
  ext other : 1
  by_cases same : other = key <;> simp [same]

/-- Writing a proxy back changes that proxy's pointers. -/
theorem links_putProxy (state : BackendState) (ref : ProxyRef) (proxy : QuicProxyCurl) :
    (state.putProxy ref proxy).links =
      { state.links with
        proxies := Function.update state.links.proxies ref
          (some ⟨proxy.easy, proxy.quicStream⟩) } := by
  simp only [links, putProxy, map_update, Option.map_some]

/-- Writing a stream back changes that stream's pointer. -/
theorem links_putStream (state : BackendState) (ref : StreamRef) (stream : QuicProxyStream) :
    (state.putStream ref stream).links =
      { state.links with
        streams := Function.update state.links.streams ref (some stream.quicProxyCurl) } := by
  simp only [links, putStream, map_update, Option.map_some]

/-- Changing a proxy without touching its pointers changes no link. -/
theorem links_putProxy_same {ref : ProxyRef} {old proxy : QuicProxyCurl}
    (lives : state.proxies ref = some old) (easy : proxy.easy = old.easy)
    (quicStream : proxy.quicStream = old.quicStream) :
    (state.putProxy ref proxy).links = state.links := by
  have same : state.links.proxies ref = some ⟨proxy.easy, proxy.quicStream⟩ := by
    simp [links, lives, easy, quicStream]
  rw [links_putProxy, ← same, Function.update_eq_self]

/-- A stream written back with the pointer it had moves none. -/
theorem links_putStream_same {ref : StreamRef} {old stream : QuicProxyStream}
    (lives : state.streams ref = some old) (pointer : stream.quicProxyCurl = old.quicProxyCurl) :
    (state.putStream ref stream).links = state.links := by
  have same : state.links.streams ref = some stream.quicProxyCurl := by
    simp [links, lives, pointer]
  rw [links_putStream, ← same, Function.update_eq_self]

/-- The proxy of a stream, read off the objects. -/
theorem proxyOf_links (state : BackendState) (quicStream : StreamRef) :
    state.links.proxyOf quicStream =
      (state.streams quicStream).bind QuicProxyStream.quicProxyCurl := by
  simp only [Links.proxyOf, links]
  cases state.streams quicStream <;> rfl

/-- The stream of a proxy, read off the objects. -/
theorem streamOf_links (state : BackendState) (ref : ProxyRef) :
    state.links.streamOf ref = (state.proxies ref).bind QuicProxyCurl.quicStream := by
  simp only [Links.streamOf, links]
  cases state.proxies ref <;> rfl

/-- A stream that points at a proxy: the proxy exists and points back. -/
theorem proxy_of_pointer (intact : state.links.Intact) {quicStream : StreamRef}
    {stream : QuicProxyStream} {ref : ProxyRef} (lives : state.streams quicStream = some stream)
    (points : stream.quicProxyCurl = some ref) :
    ∃ proxy, state.proxies ref = some proxy ∧ proxy.quicStream = some quicStream := by
  have pointer : state.links.proxyOf quicStream = some ref := by
    rw [proxyOf_links, lives, Option.bind_some, points]
  have back := intact.streamOf_of_proxyOf pointer
  rw [streamOf_links] at back
  exact Option.bind_eq_some_iff.mp back

/-- A proxy that points at a stream: the stream exists and points back. -/
theorem stream_of_pointer (intact : state.links.Intact) {ref : ProxyRef} {proxy : QuicProxyCurl}
    {quicStream : StreamRef} (lives : state.proxies ref = some proxy)
    (points : proxy.quicStream = some quicStream) :
    ∃ stream, state.streams quicStream = some stream ∧ stream.quicProxyCurl = some ref := by
  have pointer : state.links.streamOf ref = some quicStream := by
    rw [streamOf_links, lives, Option.bind_some, points]
  have back := intact.proxyOf_of_streamOf pointer
  rw [proxyOf_links] at back
  exact Option.bind_eq_some_iff.mp back

/-- The proxy of a handle in the multi exists, and the hash has it. -/
theorem proxy_of_multi (intact : state.links.Intact) {easy : EasyRef} {handle : EasyHandle}
    (inMulti : state.multi easy = some handle) :
    state.proxyHttpHash easy = some handle.privateData ∧
      ∃ proxy, state.proxies handle.privateData = some proxy := by
  have held := intact.multi easy handle.privateData (by simp [links, inMulti])
  obtain ⟨proxy, lives, -⟩ := intact.held easy handle.privateData held
  obtain ⟨proxy, lives, -⟩ := Option.map_eq_some_iff.mp lives
  exact ⟨held, proxy, lives⟩

/-! ## What an event does to the links -/

/-- The creation of a stream on the pointers. -/
theorem links_openStream (state : BackendState) (quicStream : StreamRef) :
    (state.openStream quicStream).links = state.links.openStream quicStream := by
  simp only [links, openStream, putStream, Links.openStream, map_update]
  rfl

/-- The destruction of a stream on the pointers. -/
theorem links_dropStream (state : BackendState) (quicStream : StreamRef) :
    (state.dropStream quicStream).links = state.links.destroyStream quicStream := by
  simp only [links, dropStream, Links.destroyStream, map_update]
  rfl

/-- Proxy and stream let go of each other. -/
theorem links_letGo {ref : ProxyRef} {proxy : QuicProxyCurl} (quicStream : StreamRef)
    (stream : QuicProxyStream) (lives : state.proxies ref = some proxy) :
    ((state.putProxy ref (proxy.setStream none)).putStream quicStream
      (stream.setProxyCurl none)).links = state.links.detach quicStream ref := by
  have before : state.links.proxies ref = some ⟨proxy.easy, proxy.quicStream⟩ := by
    simp [links, lives]
  rw [links_putStream, links_putProxy, Links.detach, before]
  rfl

/-- Where the hash has the proxy of the handle, leaving both is `Links.retire`. -/
theorem links_retire {easy : EasyRef} {ref : ProxyRef}
    (held : state.proxyHttpHash easy = some ref) :
    ((state.multiRemoveHandle easy).moveToDeadList easy).links = state.links.retire easy ref := by
  simp only [moveToDeadList, multiRemoveHandle, held, links, Links.retire, map_update]
  rfl

/-- The destruction of the dead proxies on the pointers. -/
theorem links_clearDeadList (state : BackendState) :
    state.clearDeadList.links = state.links.clearDead := by
  unfold clearDeadList links Links.clearDead
  congr 1
  ext ref : 1
  by_cases dead : ref ∈ state.proxyHttpDeadList <;> simp [dead]

/-- A stream that has been closed points nowhere. -/
theorem Closed.intact {quicStream : StreamRef} (closed : Closed quicStream state next)
    (intact : state.links.Intact) :
    next.links.Intact ∧ next.links.proxyOf quicStream = none := by
  cases closed with
  | apart lives nowhere => exact ⟨intact, by rw [proxyOf_links, lives, Option.bind_some, nowhere]⟩
  | @letGo stream ref proxy lives points proxyLives =>
      have pointer : state.links.proxyOf quicStream = some ref := by
        rw [proxyOf_links, lives, Option.bind_some, points]
      rw [links_letGo quicStream _ proxyLives]
      exact ⟨intact.detach pointer, by rw [Links.proxyOf_detach, Function.update_self]⟩

/-- The links after the end of a transfer. -/
theorem Finished.links {easy : EasyRef} (finished : Finished easy state next)
    (intact : state.links.Intact) :
    next.links = state.links ∨ ∃ ref, state.links.hash easy = some ref ∧
      ((state.links.streamOf ref = none ∧ next.links = state.links.retire easy ref) ∨
        ∃ quicStream, state.links.proxyOf quicStream = some ref ∧
          next.links = (state.links.detach quicStream ref).retire easy ref) := by
  cases finished with
  | unknown => exact .inl rfl
  | @alone handle proxy inMulti lives nowhere =>
      obtain ⟨held, -⟩ := proxy_of_multi intact inMulti
      refine .inr ⟨handle.privateData, held, .inl ⟨?_, links_retire held⟩⟩
      rw [streamOf_links, lives, Option.bind_some, nowhere]
  | @letGo handle proxy quicStream stream inMulti lives points streamLives =>
      obtain ⟨held, -⟩ := proxy_of_multi intact inMulti
      refine .inr ⟨handle.privateData, held, .inr ⟨quicStream, ?_, ?_⟩⟩
      · refine intact.proxyOf_of_streamOf ?_
        rw [streamOf_links, lives, Option.bind_some, points]
      · have stillHeld : ((state.putProxy handle.privateData (proxy.setStream none)).putStream
            quicStream (stream.setProxyCurl none)).proxyHttpHash easy = some handle.privateData :=
          held
        rw [links_retire stillHeld, links_letGo quicStream stream lives]

/-- The end of a transfer keeps the pointers intact. -/
theorem Finished.intact {easy : EasyRef} (finished : Finished easy state next)
    (intact : state.links.Intact) : next.links.Intact := by
  rcases finished.links intact with
    same | ⟨ref, held, ⟨nowhere, links⟩ | ⟨quicStream, points, links⟩⟩
  · exact same ▸ intact
  · rw [links]
    exact intact.retire held nowhere
  · rw [links]
    refine (intact.detach points).retire held ?_
    rw [Links.streamOf_detach, Function.update_self]

/-- Reading the messages keeps the pointers intact. -/
theorem Checked.intact {messages : List CurlMsg} (checked : Checked messages state next)
    (intact : state.links.Intact) : next.links.Intact := by
  cases checked with
  | cleared =>
      rw [links_clearDeadList]
      exact intact.clearDead
  | read reads =>
      exact reads.keeps intact fun easy result here there _ here finished => finished.intact here

/-- A callback's effects touch no pointer. -/
theorem Called.links {callback : QuicProxyCurl → Option CallbackResult} {ref : ProxyRef}
    (called : Called callback ref state next) (responds : QuicProxyCurl.OnlyResponds callback) :
    next.links = state.links := by
  obtain ⟨lives, called, accepted⟩ := called
  have kept := responds _ _ called
  have same := links_putProxy_same lives kept.easy kept.quicStream
  cases accepted with
  | silent => exact same
  | calls _ _ streamLives =>
      refine Eq.trans (links_putStream_same streamLives ?_) same
      rfl

/-- An acknowledgement moves no pointer. -/
theorem Acked.links {quicStream : StreamRef} {bufferedDataBytes : Nat}
    (acked : Acked quicStream bufferedDataBytes state next) : next.links = state.links := by
  cases acked with
  | attached => rfl
  | apart lives =>
      exact links_putStream_same lives (QuicProxyStream.quicProxyCurl_onStreamFrameAcked _ _)

/-- Sockets are no part of the pointers. -/
theorem OnlySockets.links (same : OnlySockets state next) : next.links = state.links := by
  have proxies : next.links.proxies = state.links.proxies := by
    ext ref : 1
    obtain ⟨fd, kept⟩ := same.proxies ref
    simp only [BackendState.links, kept, Option.map_map]
    rfl
  ext1
  · simp only [BackendState.links, same.streams]
  · exact proxies
  · exact same.hash
  · exact same.dead
  · simp only [BackendState.links, same.multi]
  · exact same.requested

/-- The method of a request; a missing one counts as empty. -/
def methodOf (requestHeaders : SpdyHeaderBlock) : Bytes :=
  (requestHeaders.find (ascii ":method")).getD []

/-- What `StartHttp` makes of a proxy: its pointers stay, and it has options if and only if
the method is a token. -/
theorem startHttp_spec (platform : Platform) (proxy : QuicProxyCurl) (peerIp : Bytes)
    (requestHeaders : SpdyHeaderBlock) (requestBody : Bytes) :
    (proxy.startHttp platform peerIp requestHeaders requestBody).1.easy = proxy.easy ∧
      (proxy.startHttp platform peerIp requestHeaders requestBody).1.quicStream =
        proxy.quicStream ∧
      (proxy.startHttp platform peerIp requestHeaders requestBody).2.isSome =
        platform.isValidHeaderName (methodOf requestHeaders) := by
  simp only [QuicProxyCurl.startHttp, methodOf]
  split
  · next invalid => exact ⟨rfl, rfl, invalid.symm⟩
  · next valid =>
      rw [Bool.not_eq_false] at valid
      split <;> exact ⟨rfl, rfl, valid.symm⟩

/-- The start of a request on the pointers. -/
theorem links_attached (quicStream : StreamRef) (stream : QuicProxyStream) (ref : ProxyRef)
    {easy : EasyRef} {started : QuicProxyCurl × Option EasyOptions}
    (owns : started.1.easy = some easy) (points : started.1.quicStream = some quicStream) :
    (state.attached quicStream stream ref easy started).links =
      state.links.attach quicStream ref easy started.2.isSome := by
  obtain ⟨proxy, options⟩ := started
  have pointers : (ProxyLinks.mk proxy.easy proxy.quicStream) = ⟨some easy, some quicStream⟩ :=
    congrArg₂ ProxyLinks.mk owns points
  cases options with
  | none =>
      simp only [links, attached, map_update, Option.map_some, pointers]
      rfl
  | some options =>
      simp only [links, attached, map_update, Option.map_some, pointers, Option.elim_some]
      rfl

/-- A request that is started attaches a new proxy, with its handle in the multi if the method
is a token. -/
theorem Fetched.links {quicStream : StreamRef} {ref : ProxyRef} {easyInit : Option EasyRef}
    {peerIp : Bytes} {requestHeaders : SpdyHeaderBlock} {requestBody : Bytes}
    (fetched : Fetched platform quicStream ref easyInit peerIp requestHeaders requestBody state
      next) :
    ∃ easy, easyInit = some easy ∧ next.links = state.links.attach quicStream ref easy
      (platform.isValidHeaderName (methodOf requestHeaders)) := by
  cases fetched with
  | @intro easy path stream given found lives =>
      obtain ⟨owns, points, configured⟩ := startHttp_spec platform
        (state.newProxy quicStream easy path) peerIp requestHeaders requestBody
      refine ⟨easy, given, ?_⟩
      rw [← configured]
      exact links_attached quicStream stream ref owns points

/-- One event keeps the links intact. -/
theorem Outcome.intact {event : BackendEvent} (outcome : Outcome platform state event next)
    (intact : state.links.Intact) (enabled : state.Enabled event) : next.links.Intact := by
  cases outcome with
  | openStream =>
      have absent : state.streams _ = none := enabled
      rw [links_openStream]
      exact intact.openStream (by simp [BackendState.links, absent])
  | fetch fetched =>
      obtain ⟨-, unasked, absent, fresh⟩ := enabled
      obtain ⟨easy, given, links⟩ := fetched.links
      have noProxy : state.links.proxies _ = none := congrArg (Option.map _) absent
      rw [links]
      refine intact.attach (intact.unasked _ unasked) noProxy fun other proxy proxyLives => ?_
      obtain ⟨object, objectLives, rfl⟩ := Option.map_eq_some_iff.mp proxyLives
      exact fresh easy given other object objectLives
  | destroyStream closed =>
      obtain ⟨closedIntact, nowhere⟩ := closed.intact intact
      rw [links_dropStream]
      exact closedIntact.destroyStream nowhere
  | idle => exact intact
  | header _ called =>
      rw [called.links (QuicProxyCurl.httpHeaderCallback_onlyResponds platform _)]
      exact intact
  | body _ called =>
      rw [called.links (QuicProxyCurl.writeQuicCallback_onlyResponds _)]
      exact intact
  | check checked => exact checked.intact intact
  | socket _ called =>
      rw [called.onlySockets.links]
      exact intact
  | acked acked =>
      rw [acked.links]
      exact intact
  | finConsumed lives =>
      rw [links_putStream_same lives (QuicProxyStream.quicProxyCurl_finConsumed _)]
      exact intact

/-- The pointers are intact in every run. -/
theorem intact_of_reachable {backendUrl : Bytes}
    (reachable : (system platform backendUrl).Reachable state) : state.links.Intact := by
  refine LabelledSystem.Invariant.of_reachable
    ⟨fun state => state.links.Intact, ?_, ?_⟩ reachable
  · rintro _ rfl
    exact Links.Intact.empty
  · rintro here event there intact ⟨enabled, stepped⟩
    exact (step_iff.mp stepped).intact intact enabled

end BackendState

end QuicProxy
