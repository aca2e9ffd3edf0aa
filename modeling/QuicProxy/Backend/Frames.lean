import QuicProxy.Backend.Outcomes

/-!
# What an event leaves alone

`SameTables` says that the tables of the backend, of libcurl and of the epoll server
stay as they are, `SameSockets` that the sockets do. Streams and callbacks keep the
tables, starting and finishing transfers the sockets: `Outcome.sameSockets` is about
every event that is not a socket callback. `SameProxies` is about the objects: they
stay, under their handles and with their sockets, until the dead list is cleared.
`OnlySockets` is what a socket callback leaves alone.
-/

namespace QuicProxy

/-- The event starts no transfer and finishes none, and is no socket callback. -/
def BackendEvent.isQuiet : BackendEvent → Bool
  | .fetch _ _ _ _ _ _ | .check _ | .socket _ _ _ => false
  | .openStream _ | .destroyStream _ | .header _ _ | .body _ _ | .acked _ _ | .finConsumed _ => true

/-- The event starts a request. -/
def BackendEvent.isFetch : BackendEvent → Bool
  | .fetch _ _ _ _ _ _ => true
  | _ => false

/-- What a request that starts looks like. -/
theorem BackendEvent.fetch_of_isFetch {event : BackendEvent} (starts : event.isFetch = true) :
    ∃ quicStream ref easyInit peerIp requestHeaders requestBody,
      event = .fetch quicStream ref easyInit peerIp requestHeaders requestBody := by
  cases event with
  | fetch quicStream ref easyInit peerIp requestHeaders requestBody =>
      exact ⟨quicStream, ref, easyInit, peerIp, requestHeaders, requestBody, rfl⟩
  | _ => cases starts

namespace BackendState

variable {platform : Platform} {state next : BackendState}

/-! ## Tables -/

/-- The objects may have changed, the tables have not. -/
structure SameTables (state next : BackendState) : Prop where
  hash : next.proxyHttpHash = state.proxyHttpHash
  dead : next.proxyHttpDeadList = state.proxyHttpDeadList
  multi : next.multi = state.multi
  sockets : next.sockets = state.sockets
  epoll : next.epoll = state.epoll

/-- An event that does nothing. -/
theorem SameTables.refl (state : BackendState) : SameTables state state :=
  ⟨rfl, rfl, rfl, rfl, rfl⟩

/-- Closing a response leaves the tables. -/
theorem Closed.sameTables {quicStream : StreamRef} (closed : Closed quicStream state next) :
    SameTables state next := by
  cases closed with
  | apart => exact .refl state
  | letGo => exact ⟨rfl, rfl, rfl, rfl, rfl⟩

/-- The calls of a callback leave the tables. -/
theorem Accepted.sameTables {ref : ProxyRef} {target : Option StreamRef}
    {result : CallbackResult} (accepted : Accepted ref target result state next) :
    SameTables state next := by
  cases accepted with
  | silent => exact ⟨rfl, rfl, rfl, rfl, rfl⟩
  | calls => exact ⟨rfl, rfl, rfl, rfl, rfl⟩

/-- A callback of libcurl leaves the tables. -/
theorem Called.sameTables {callback : QuicProxyCurl → Option CallbackResult} {ref : ProxyRef}
    (called : Called callback ref state next) : SameTables state next := by
  obtain ⟨-, -, accepted⟩ := called
  exact accepted.sameTables

/-- An acknowledgement at most closes the response. -/
theorem Acked.sameTables {quicStream : StreamRef} {bufferedDataBytes : Nat}
    (acked : Acked quicStream bufferedDataBytes state next) : SameTables state next := by
  cases acked with
  | attached => exact .refl state
  | apart => exact ⟨rfl, rfl, rfl, rfl, rfl⟩

/-- Only the other events change a table. -/
theorem Outcome.sameTables {event : BackendEvent} (outcome : Outcome platform state event next)
    (quiet : event.isQuiet = true) : SameTables state next := by
  cases outcome with
  | openStream => exact ⟨rfl, rfl, rfl, rfl, rfl⟩
  | fetch => cases quiet
  | destroyStream closed =>
      have same := closed.sameTables
      exact ⟨same.hash, same.dead, same.multi, same.sockets, same.epoll⟩
  | idle => exact .refl state
  | header _ called => exact called.sameTables
  | body _ called => exact called.sameTables
  | check => cases quiet
  | socket => cases quiet
  | acked acked => exact acked.sameTables
  | finConsumed => exact ⟨rfl, rfl, rfl, rfl, rfl⟩

/-! ## Sockets -/

/-- The sockets and what epoll knows of them are as before. -/
structure SameSockets (state next : BackendState) : Prop where
  sockets : next.sockets = state.sockets
  epoll : next.epoll = state.epoll

/-- The end of a transfer leaves the sockets to libcurl. -/
theorem Finished.sameSockets {easy : EasyRef} (finished : Finished easy state next) :
    SameSockets state next := by
  have moved (here : BackendState) : SameSockets here (here.moveToDeadList easy) := by
    obtain ⟨hash, dead, moved⟩ := moveToDeadList_eq here easy
    rw [moved]
    exact ⟨rfl, rfl⟩
  cases finished with
  | unknown => exact ⟨rfl, rfl⟩
  | alone => exact ⟨(moved _).sockets, (moved _).epoll⟩
  | letGo => exact ⟨(moved _).sockets, (moved _).epoll⟩

/-- Reading the messages leaves the sockets to libcurl. -/
theorem Checked.sameSockets {messages : List CurlMsg} (checked : Checked messages state next) :
    SameSockets state next := by
  cases checked with
  | cleared => exact ⟨rfl, rfl⟩
  | read reads =>
      refine reads.keeps ⟨rfl, rfl⟩ fun easy result here there _ same finished => ?_
      exact ⟨finished.sameSockets.sockets.trans same.sockets,
        finished.sameSockets.epoll.trans same.epoll⟩

/-- Only socket callbacks change what is known of sockets. -/
theorem Outcome.sameSockets {event : BackendEvent} (outcome : Outcome platform state event next)
    (notSocket : event.isSocket = false) : SameSockets state next := by
  cases isQuiet : event.isQuiet with
  | true =>
      have same := outcome.sameTables isQuiet
      exact ⟨same.sockets, same.epoll⟩
  | false =>
      cases outcome with
      | fetch fetched =>
          cases fetched
          exact ⟨rfl, rfl⟩
      | check checked => exact checked.sameSockets
      | idle => exact ⟨rfl, rfl⟩
      | socket => cases notSocket
      | _ => cases isQuiet

/-- What callbacks about sockets leave alone: a proxy changes in its socket at most. -/
structure OnlySockets (state next : BackendState) : Prop where
  backendUrl : next.backendUrl = state.backendUrl
  hash : next.proxyHttpHash = state.proxyHttpHash
  dead : next.proxyHttpDeadList = state.proxyHttpDeadList
  multi : next.multi = state.multi
  streams : next.streams = state.streams
  requested : next.requested = state.requested
  proxies : ∀ ref, ∃ fd, next.proxies ref = (state.proxies ref).map fun proxy => proxy.setSockfd fd

/-- Everything but the sockets is named once. -/
theorem OnlySockets.of_objects (backendUrl : next.backendUrl = state.backendUrl)
    (tables : next.proxyHttpHash = state.proxyHttpHash ∧
      next.proxyHttpDeadList = state.proxyHttpDeadList ∧ next.multi = state.multi)
    (streams : next.streams = state.streams) (requested : next.requested = state.requested)
    (proxies : next.proxies = state.proxies) : OnlySockets state next := by
  refine ⟨backendUrl, tables.1, tables.2.1, tables.2.2, streams, requested, fun ref => ?_⟩
  rw [proxies]
  cases state.proxies ref with
  | none => exact ⟨-1, rfl⟩
  | some proxy => exact ⟨proxy.sockfd, rfl⟩

/-- libcurl's socket callback changes sockets only. -/
theorem SockCalled.onlySockets {e : EasyRef} {s : Socket} {what : CurlPoll}
    {sockp : Option ProxyRef} (called : SockCalled e s state what sockp next) :
    OnlySockets state next := by
  cases called with
  | @added _ ref proxy _ _ lives =>
      refine ⟨rfl, rfl, rfl, rfl, rfl, rfl, fun other => ?_⟩
      by_cases isRef : other = ref
      · subst isRef
        exact ⟨s, (Function.update_self ..).trans (by rw [lives]; rfl)⟩
      · have same : OnlySockets state state :=
          .of_objects rfl ⟨rfl, rfl, rfl⟩ rfl rfl rfl
        obtain ⟨fd, kept⟩ := same.proxies other
        exact ⟨fd, (Function.update_of_ne isRef _ _).trans kept⟩
  | _ => exact .of_objects rfl ⟨rfl, rfl, rfl⟩ rfl rfl rfl

/-- An event on a socket changes sockets only. -/
theorem SocketCalled.onlySockets {e : EasyRef} {ref : ProxyRef} {s : Socket} {what : CurlPoll}
    (called : SocketCalled e ref s what state next) : OnlySockets state next := by
  cases called with
  | forgotten _ _ called =>
      have same := called.onlySockets
      exact ⟨same.backendUrl, same.hash, same.dead, same.multi, same.streams, same.requested,
        same.proxies⟩
  | known _ _ called =>
      have same := called.onlySockets
      exact ⟨same.backendUrl, same.hash, same.dead, same.multi, same.streams, same.requested,
        same.proxies⟩

/-! ## Proxies -/

/-- The proxies that exist still do, with the same handle and socket. -/
def SameProxies (state next : BackendState) : Prop :=
  ∀ ref proxy, state.proxies ref = some proxy →
    ∃ kept, next.proxies ref = some kept ∧ kept.easy = proxy.easy ∧ kept.sockfd = proxy.sockfd

/-- No proxy is touched. -/
theorem SameProxies.of_eq (same : next.proxies = state.proxies) : SameProxies state next := by
  intro ref proxy lives
  exact ⟨proxy, by rw [same, lives], rfl, rfl⟩

/-- Each event's change of the proxies adds up. -/
theorem SameProxies.trans {middle last : BackendState} (first : SameProxies state middle)
    (second : SameProxies middle last) : SameProxies state last := by
  intro ref proxy lives
  obtain ⟨kept, keptLives, easy, sockfd⟩ := first ref proxy lives
  obtain ⟨other, otherLives, otherEasy, otherSockfd⟩ := second ref kept keptLives
  exact ⟨other, otherLives, otherEasy.trans easy, otherSockfd.trans sockfd⟩

/-- One proxy is written, and keeps its handle and its socket. -/
theorem SameProxies.of_put {ref : ProxyRef} {old proxy : QuicProxyCurl}
    (lives : state.proxies ref = some old)
    (proxies : next.proxies = Function.update state.proxies ref (some proxy))
    (easy : proxy.easy = old.easy) (sockfd : proxy.sockfd = old.sockfd) :
    SameProxies state next := by
  intro other found foundLives
  rw [proxies]
  by_cases isRef : other = ref
  · subst isRef
    obtain rfl := Option.some.inj (lives.symm.trans foundLives)
    exact ⟨proxy, Function.update_self .., easy, sockfd⟩
  · exact ⟨found, (Function.update_of_ne isRef _ _).trans foundLives, rfl, rfl⟩

/-- Closing a response detaches its proxy at most. -/
theorem Closed.sameProxies {quicStream : StreamRef} (closed : Closed quicStream state next) :
    SameProxies state next := by
  cases closed with
  | apart => exact .of_eq rfl
  | letGo _ _ lives => exact .of_put lives rfl rfl rfl

/-- The proxy a callback returns takes the place of the one called. -/
theorem Accepted.proxies {ref : ProxyRef} {target : Option StreamRef} {result : CallbackResult}
    (accepted : Accepted ref target result state next) :
    next.proxies = Function.update state.proxies ref (some result.proxy) := by
  cases accepted with
  | silent => rfl
  | calls => rfl

/-- A callback keeps every handle. -/
theorem Called.sameProxies {callback : QuicProxyCurl → Option CallbackResult} {ref : ProxyRef}
    (called : Called callback ref state next) (responds : QuicProxyCurl.OnlyResponds callback) :
    SameProxies state next := by
  obtain ⟨lives, called, accepted⟩ := called
  have same := responds _ _ called
  exact .of_put lives accepted.proxies same.easy same.sockfd

/-- The end of a transfer at most detaches its proxy. -/
theorem Finished.sameProxies {easy : EasyRef} (finished : Finished easy state next) :
    SameProxies state next := by
  cases finished with
  | unknown => exact .of_eq rfl
  | alone => exact .of_eq (moveToDeadList_proxies _ _)
  | letGo _ lives => exact .of_put lives (moveToDeadList_proxies _ _) rfl rfl

/-- The start of a request writes the new proxy only. -/
theorem Fetched.otherProxies {quicStream : StreamRef} {ref : ProxyRef}
    {easyInit : Option EasyRef} {peerIp : Bytes} {requestHeaders : SpdyHeaderBlock}
    {requestBody : Bytes} (fetched : Fetched platform quicStream ref easyInit peerIp
      requestHeaders requestBody state next) {other : ProxyRef} (differs : other ≠ ref) :
    next.proxies other = state.proxies other := by
  cases fetched
  exact Function.update_of_ne differs _ _

/-- Another handle that was fresh still is. -/
theorem Fetched.freshEasy {quicStream : StreamRef} {ref : ProxyRef} {own other : EasyRef}
    {peerIp : Bytes} {requestHeaders : SpdyHeaderBlock} {requestBody : Bytes}
    (fetched : Fetched platform quicStream ref (some own) peerIp requestHeaders requestBody state
      next) (differs : other ≠ own) (fresh : state.FreshEasy other) : next.FreshEasy other := by
  intro found proxy lives
  by_cases isNew : found = ref
  · subst isNew
    obtain @⟨easy, path, stream, given, -, -⟩ := fetched
    obtain rfl := Option.some.inj given
    rw [attached_proxies, Function.update_self] at lives
    obtain rfl := Option.some.inj lives
    intro owns
    rw [started, easy_startHttp] at owns
    exact differs (Option.some.inj owns).symm
  · exact fresh found proxy ((fetched.otherProxies isNew).symm.trans lives)

/-- No event destroys a proxy or changes its handle or socket, apart from the clearing
of the dead list and socket callbacks. -/
theorem Outcome.sameProxies {event : BackendEvent} (outcome : Outcome platform state event next)
    (enabled : state.Enabled event) (notSocket : event.isSocket = false)
    (notClearing : event ≠ .check []) : SameProxies state next := by
  cases outcome with
  | openStream => exact .of_eq rfl
  | fetch fetched =>
      intro other proxy lives
      refine ⟨proxy, (fetched.otherProxies ?_).trans lives, rfl, rfl⟩
      rintro rfl
      cases enabled.2.2.1.symm.trans lives
  | destroyStream closed => exact closed.sameProxies
  | idle => exact .of_eq rfl
  | header _ called =>
      exact called.sameProxies (QuicProxyCurl.httpHeaderCallback_onlyResponds platform _)
  | body _ called => exact called.sameProxies (QuicProxyCurl.writeQuicCallback_onlyResponds _)
  | check checked =>
      cases checked with
      | cleared => exact absurd rfl notClearing
      | read reads =>
          exact reads.keeps (.of_eq rfl) fun easy result here there _ same finished =>
            same.trans finished.sameProxies
  | socket => cases notSocket
  | acked acked =>
      cases acked with
      | attached => exact .of_eq rfl
      | apart => exact .of_eq rfl
  | finConsumed => exact .of_eq rfl

end BackendState

end QuicProxy
