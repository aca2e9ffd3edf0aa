import QuicProxy.Backend.Safety

/-!
# Starting a request

Starting a request registers a new proxy in the hash, in the multi and with its
stream. `all_or_nothing_iff` says when a call does all of that or none of it, and
that a run whose requests all meet the condition keeps hash and multi in step.
-/

namespace QuicProxy

namespace Links

/-- The hash and the multi have the same handles, for the same proxies. -/
def Registered (links : Links) : Prop := links.hash = links.multi

/-- A request whose handle joins the multi is registered everywhere. -/
theorem Registered.attach {links : Links} (registered : Registered links)
    (stream : StreamRef) (ref : ProxyRef) (easy : EasyRef) :
    Registered (links.attach stream ref easy true) := by
  change Function.update links.hash easy (some ref) = Function.update links.multi easy (some ref)
  rw [show links.hash = links.multi from registered]

/-- The end of a transfer takes it from the hash and from the multi. -/
theorem Registered.retire {links : Links} (registered : Registered links) (easy : EasyRef)
    (ref : ProxyRef) : Registered (links.retire easy ref) := by
  change Function.update links.hash easy none = Function.update links.multi easy none
  rw [show links.hash = links.multi from registered]

end Links

namespace BackendState

variable {state : BackendState}

/-- The proxy is in the hash under its handle, the handle is in the multi, and
stream and proxy point at each other. -/
structure Started (next : BackendState) (quicStream : StreamRef) (ref : ProxyRef)
    (easy : EasyRef) : Prop where
  inHash : next.proxyHttpHash easy = some ref
  inMulti : (next.multi easy).map EasyHandle.privateData = some ref
  streamPoints : (next.streams quicStream).bind QuicProxyStream.quicProxyCurl = some ref
  proxyPoints : (next.proxies ref).bind QuicProxyCurl.quicStream = some quicStream

/-- Nothing is registered, and the stream has been given an end. -/
structure Rejected (state next : BackendState) (quicStream : StreamRef) : Prop where
  hash : next.proxyHttpHash = state.proxyHttpHash
  multi : next.multi = state.multi
  pointer : (next.streams quicStream).bind QuicProxyStream.quicProxyCurl =
    (state.streams quicStream).bind QuicProxyStream.quicProxyCurl
  ended : ∃ stream, next.streams quicStream = some stream ∧
    (stream.finHanded ∨ .reset ∈ stream.calls)

/-- The call returns, having done everything or nothing. -/
def AllOrNothing (platform : Platform) (state : BackendState) (quicStream : StreamRef)
    (ref : ProxyRef) (easyInit : Option EasyRef) (peerIp : Bytes)
    (requestHeaders : SpdyHeaderBlock) (requestBody : Bytes) : Prop :=
  ∃ next, state.step platform
      (.fetch quicStream ref easyInit peerIp requestHeaders requestBody) = .ok next ∧
    ((∃ easy, easyInit = some easy ∧ next.Started quicStream ref easy) ∨
      Rejected state next quicStream)

/-- Requests come with a handle and a method that is a token. -/
def StartsWell (platform : Platform) (_state : BackendState) : BackendEvent → Prop
  | .fetch _ _ easyInit _ requestHeaders _ =>
      easyInit.isSome ∧ platform.isValidHeaderName (methodOf requestHeaders) = true
  | _ => True

/-- Each entry of the hash has its handle in the multi, and each handle in the multi
has its entry. -/
def Registered (state : BackendState) : Prop :=
  ∀ easy ref, state.proxyHttpHash easy = some ref ↔
    (state.multi easy).map EasyHandle.privateData = some ref

/-! ## One call -/

/-- A request that ties its stream to the new proxy has started. -/
theorem started_of_links {next : BackendState} {links : Links} {quicStream : StreamRef}
    {ref : ProxyRef} {easy : EasyRef}
    (attached : next.links = links.attach quicStream ref easy true) :
    next.Started quicStream ref easy := by
  have hash : next.proxyHttpHash = Function.update links.hash easy (some ref) :=
    congrArg Links.hash attached
  have multi : next.links.multi easy = some ref := by
    rw [attached]
    exact Function.update_self ..
  constructor
  · rw [hash, Function.update_self]
  · exact multi
  · rw [← proxyOf_links, attached, Links.proxyOf_attach, Function.update_self]
  · rw [← streamOf_links, attached, Links.streamOf_attach, Function.update_self]

/-- A new handle is not in the hash, so not in the multi either. -/
theorem unknown_of_fresh (intact : state.links.Intact) {easy : EasyRef}
    (fresh : state.FreshEasy easy) :
    state.proxyHttpHash easy = none ∧ state.links.multi easy = none := by
  have hash : state.proxyHttpHash easy = none := by
    refine intact.hash_of_fresh fun ref proxy lives => ?_
    obtain ⟨object, objectLives, rfl⟩ := Option.map_eq_some_iff.mp lives
    exact fresh ref object objectLives
  refine ⟨hash, ?_⟩
  cases inMulti : state.links.multi easy with
  | none => rfl
  | some other =>
      have held : state.proxyHttpHash easy = some other := intact.multi easy other inMulti
      rw [hash] at held
      cases held

/-- One request, in any state whose pointers are intact. -/
theorem allOrNothing_iff (platform : Platform) (intact : state.links.Intact)
    {quicStream : StreamRef} {ref : ProxyRef} {easyInit : Option EasyRef} {peerIp : Bytes}
    {requestHeaders : SpdyHeaderBlock} {requestBody : Bytes}
    (enabled : state.Enabled (.fetch quicStream ref easyInit peerIp requestHeaders requestBody))
    (hasPath : (requestHeaders.find (ascii ":path")).isSome) :
    AllOrNothing platform state quicStream ref easyInit peerIp requestHeaders requestBody ↔
      StartsWell platform state
        (.fetch quicStream ref easyInit peerIp requestHeaders requestBody) := by
  obtain ⟨lives, -, -, fresh⟩ := enabled
  obtain ⟨path, found⟩ := Option.isSome_iff_exists.mp hasPath
  rcases fetch_returns_or_fails platform lives ref easyInit peerIp requestHeaders requestBody with
    ⟨next, fetched⟩ | ⟨missing, -⟩ | ⟨rfl, failed⟩
  · obtain ⟨easy, rfl, links⟩ := fetched.links
    have stepped : state.step platform
        (.fetch quicStream ref (some easy) peerIp requestHeaders requestBody) = .ok next :=
      step_iff.mpr (.fetch fetched)
    obtain ⟨hashFree, multiFree⟩ := unknown_of_fresh intact (fresh easy rfl)
    constructor
    · rintro ⟨other, otherStepped, outcome⟩
      obtain rfl := Except.ok.inj (stepped.symm.trans otherStepped)
      refine ⟨rfl, ?_⟩
      by_contra invalid
      rw [Bool.not_eq_true] at invalid
      rw [invalid] at links
      rcases outcome with ⟨handle, same, started⟩ | rejected
      · obtain rfl := Option.some.inj same
        have inMulti : next.links.multi easy = some ref := started.inMulti
        rw [links] at inMulti
        exact absurd (multiFree.symm.trans inMulti) (by simp)
      · have inHash : next.proxyHttpHash easy = some ref := by
          rw [show next.proxyHttpHash = _ from congrArg Links.hash links]
          exact Function.update_self ..
        rw [rejected.hash, hashFree] at inHash
        cases inHash
    · rintro ⟨-, valid⟩
      rw [valid] at links
      exact ⟨next, stepped, .inl ⟨easy, rfl, started_of_links links⟩⟩
  · cases missing.symm.trans found
  · -- the null proxy is used before anything is registered or undone
    constructor
    · rintro ⟨next, stepped, -⟩
      cases failed.symm.trans stepped
    · rintro ⟨handle, -⟩
      cases handle

/-! ## Every run -/

/-- What is registered, read off the objects. -/
theorem registered_of_links (registered : state.links.Registered) : state.Registered := by
  intro easy ref
  have same : state.proxyHttpHash easy = (state.multi easy).map EasyHandle.privateData :=
    congrFun registered easy
  rw [same]

/-- Events that leave the tables leave what is registered. -/
theorem SameTables.registered {next : BackendState} (same : SameTables state next)
    (registered : state.links.Registered) : next.links.Registered := by
  have hash : next.links.hash = state.links.hash := same.hash
  have multi : next.links.multi = state.links.multi := by
    simp only [links, same.multi]
  exact hash.trans (registered.trans multi.symm)

/-- The end of a transfer leaves the others registered. -/
theorem Finished.registered {easy : EasyRef} {next : BackendState}
    (finished : Finished easy state next) (intact : state.links.Intact)
    (registered : state.links.Registered) : next.links.Registered := by
  rcases finished.links intact with same | ⟨ref, -, ⟨-, links⟩ | ⟨quicStream, -, links⟩⟩
  · exact same ▸ registered
  · rw [links]
    exact registered.retire easy ref
  · rw [links]
    exact Links.Registered.retire registered easy ref

/-- An event keeps everything registered if the request it starts is. -/
theorem Outcome.registered {platform : Platform} {event : BackendEvent} {next : BackendState}
    (outcome : Outcome platform state event next) (intact : state.links.Intact)
    (registered : state.links.Registered) (startsWell : StartsWell platform state event) :
    next.links.Registered := by
  cases isQuiet : event.isQuiet with
  | true => exact (outcome.sameTables isQuiet).registered registered
  | false =>
      cases outcome with
      | fetch fetched =>
          obtain ⟨easy, -, attached⟩ := fetched.links
          rw [attached, startsWell.2]
          exact registered.attach _ _ easy
      | check checked =>
          cases checked with
          | cleared =>
              rw [links_clearDeadList]
              exact registered
          | read reads =>
              let holds (here : BackendState) : Prop := here.links.Intact ∧ here.links.Registered
              have kept : holds next := reads.keeps ⟨intact, registered⟩
                fun easy result here there _ inv finished =>
                  ⟨finished.intact inv.1, finished.registered inv.1 inv.2⟩
              exact kept.2
      | socket _ called =>
          rw [called.onlySockets.links]
          exact registered
      | idle => exact registered
      | _ => cases isQuiet

/-- In a run whose requests all start well, whatever the hash holds is in the multi. -/
theorem registered_of_guarded {platform : Platform} {backendUrl : Bytes}
    (reachable : ((system platform backendUrl).guarded (StartsWell platform)).Reachable state) :
    state.links.Intact ∧ state.links.Registered := by
  refine LabelledSystem.Invariant.of_reachable
    ⟨fun state => state.links.Intact ∧ state.links.Registered, ?_, ?_⟩ reachable
  · rintro _ rfl
    exact ⟨Links.Intact.empty, rfl⟩
  · rintro here event there ⟨intact, registered⟩ ⟨startsWell, enabled, stepped⟩
    have outcome := step_iff.mp stepped
    exact ⟨outcome.intact intact enabled, outcome.registered intact registered startsWell⟩

/-- A request starts wholly or not at all exactly where there is a handle and the method is a
token; and a run of such requests never leaves a half-started one behind. -/
theorem all_or_nothing_iff (platform : Platform) (backendUrl : Bytes) :
    (∀ state, (system platform backendUrl).Reachable state →
      ∀ quicStream ref easyInit peerIp requestHeaders requestBody,
        state.Enabled (.fetch quicStream ref easyInit peerIp requestHeaders requestBody) →
        (requestHeaders.find (ascii ":path")).isSome →
          (AllOrNothing platform state quicStream ref easyInit peerIp requestHeaders
              requestBody ↔
            easyInit.isSome ∧ platform.isValidHeaderName (methodOf requestHeaders) = true)) ∧
    ∀ state, ((system platform backendUrl).guarded (StartsWell platform)).Reachable state →
      state.Registered := by
  constructor
  · intro state reachable quicStream ref easyInit peerIp requestHeaders requestBody enabled hasPath
    exact allOrNothing_iff platform (intact_of_reachable reachable) enabled hasPath
  · intro state reachable
    exact registered_of_links (registered_of_guarded reachable).2

/-- The request of the example starts. -/
theorem all_or_nothing_oneTransfer :
    AllOrNothing Platform.chromium oneStream 0 0 (some 0) (ascii "192.0.2.7") getRequest [] ∧
      oneTransfer.Registered := by
  have startsWell : StartsWell Platform.chromium oneStream oneFetch := ⟨rfl, by decide +kernel⟩
  constructor
  · exact ((all_or_nothing_iff Platform.chromium (ascii "http://localhost/")).1 oneStream
      oneStream_reachable 0 0 (some 0) (ascii "192.0.2.7") getRequest [] oneFetch_enabled
      (by decide +kernel)).mpr startsWell
  · exact (all_or_nothing_iff Platform.chromium (ascii "http://localhost/")).2 oneTransfer
      (oneTransfer_guarded trivial startsWell)

/-- A request without a method. -/
def noMethod : SpdyHeaderBlock := SpdyHeaderBlock.empty.set (ascii ":path") (ascii "/")

/-- Without a `:method` the proxy stays in the hash, and its handle never joins the multi. -/
theorem noMethod_half_started :
    ¬ AllOrNothing Platform.chromium oneStream 0 0 (some 0) (ascii "192.0.2.7") noMethod [] := by
  rintro ⟨next, stepped, outcome⟩
  have same : oneStream.step Platform.chromium
      (.fetch 0 0 (some 0) (ascii "192.0.2.7") noMethod []) =
      .ok (oneStream.take Platform.chromium
        (.fetch 0 0 (some 0) (ascii "192.0.2.7") noMethod [])) := rfl
  obtain rfl := Except.ok.inj (same.symm.trans stepped)
  rcases outcome with ⟨easy, isEasy, started⟩ | rejected
  · obtain rfl := Option.some.inj isEasy
    have inMulti := started.inMulti
    revert inMulti
    decide +kernel
  · have hash := congrFun rejected.hash 0
    revert hash
    decide +kernel

end BackendState

end QuicProxy
