import QuicProxy.Backend.Pointers

/-!
# No destroyed object is used

While the links are intact an object that is read exists. So an event that is no callback about
a socket returns, unless a request comes without what it needs or a header line is too short
(`step_fails`), and `pointers_never_dangle` puts this together for every run.
-/

namespace QuicProxy

/-- Events that fail nowhere. -/
def BackendEvent.neverFails : BackendEvent → Bool
  | .openStream _ | .destroyStream _ | .body _ _ | .check _ | .acked _ _ | .finConsumed _ => true
  | .fetch _ _ _ _ _ _ | .header _ _ | .socket _ _ _ => false

namespace BackendState

variable {platform : Platform} {state : BackendState}

/-! ## What returns -/

/-- A response can be closed. -/
theorem exists_closed (intact : state.links.Intact) {quicStream : StreamRef}
    (lives : (state.streams quicStream).isSome) : ∃ next, Closed quicStream state next := by
  obtain ⟨stream, lives⟩ := Option.isSome_iff_exists.mp lives
  cases points : stream.quicProxyCurl with
  | none => exact ⟨state, .apart lives points⟩
  | some ref =>
      obtain ⟨proxy, proxyLives, -⟩ := proxy_of_pointer intact lives points
      exact ⟨_, .letGo lives points proxyLives⟩

/-- Data can be acknowledged. -/
theorem exists_acked (intact : state.links.Intact) {quicStream : StreamRef}
    (lives : (state.streams quicStream).isSome) (bufferedDataBytes : Nat) :
    ∃ next, Acked quicStream bufferedDataBytes state next := by
  obtain ⟨stream, lives⟩ := Option.isSome_iff_exists.mp lives
  cases points : stream.quicProxyCurl with
  | none => exact ⟨_, .apart lives points⟩
  | some ref =>
      obtain ⟨proxy, proxyLives, -⟩ := proxy_of_pointer intact lives points
      exact ⟨state, .attached lives points proxyLives⟩

/-- The stream of a proxy is there for the calls of a callback. -/
theorem exists_called (intact : state.links.Intact)
    (callback : QuicProxyCurl → Option CallbackResult) {ref : ProxyRef} {proxy : QuicProxyCurl}
    (lives : state.proxies ref = some proxy) {result : CallbackResult}
    (called : callback proxy = some result) : ∃ next, Called callback ref state next := by
  by_cases nothing : proxy.quicStream = none ∨ result.calls = []
  · exact ⟨_, lives, called, .silent nothing⟩
  · obtain ⟨attached, speaks⟩ := not_or.mp nothing
    obtain ⟨quicStream, points⟩ := Option.ne_none_iff_exists'.mp attached
    obtain ⟨stream, streamLives, -⟩ := stream_of_pointer intact lives points
    exact ⟨_, lives, called, .calls points speaks streamLives⟩

/-- A transfer can be reported done. -/
theorem exists_finished (intact : state.links.Intact) (easy : EasyRef) :
    ∃ next, Finished easy state next := by
  cases inMulti : state.multi easy with
  | none => exact ⟨state, .unknown inMulti⟩
  | some handle =>
      obtain ⟨-, proxy, lives⟩ := proxy_of_multi intact inMulti
      cases points : proxy.quicStream with
      | none => exact ⟨_, .alone inMulti lives points⟩
      | some quicStream =>
          obtain ⟨stream, streamLives, -⟩ := stream_of_pointer intact lives points
          exact ⟨_, .letGo inMulti lives points streamLives⟩

/-- Any messages can be read. -/
theorem exists_reads (intact : state.links.Intact) (messages : List CurlMsg) :
    ∃ next, Reads messages state next := by
  induction messages generalizing state with
  | nil => exact ⟨state, .nil⟩
  | cons message messages ih =>
      cases message with
      | done easy result =>
          obtain ⟨middle, finished⟩ := exists_finished intact easy
          obtain ⟨next, reads⟩ := ih (finished.intact intact)
          exact ⟨next, .done finished reads⟩
      | other =>
          obtain ⟨next, reads⟩ := ih intact
          exact ⟨next, .other reads⟩

/-- The multi can be checked. -/
theorem exists_checked (intact : state.links.Intact) (messages : List CurlMsg) :
    ∃ next, Checked messages state next := by
  cases messages with
  | nil => exact ⟨_, .cleared⟩
  | cons message messages =>
      obtain ⟨next, reads⟩ := exists_reads intact (message :: messages)
      exact ⟨next, .read reads⟩

/-- Most events return whatever the state. -/
theorem exists_outcome (platform : Platform) (intact : state.links.Intact) {event : BackendEvent}
    (enabled : state.Enabled event) (neverFails : event.neverFails = true) :
    ∃ next, Outcome platform state event next := by
  cases event with
  | openStream quicStream => exact ⟨_, .openStream⟩
  | destroyStream quicStream =>
      obtain ⟨middle, closed⟩ := exists_closed intact enabled
      exact ⟨_, .destroyStream closed⟩
  | body easy chunk =>
      obtain ⟨handle, inMulti⟩ := Option.isSome_iff_exists.mp enabled
      obtain ⟨-, proxy, lives⟩ := proxy_of_multi intact inMulti
      obtain ⟨next, called⟩ := exists_called intact
        (fun proxy => some (proxy.writeQuicCallback chunk)) lives rfl
      exact ⟨next, .body inMulti called⟩
  | check messages =>
      obtain ⟨next, checked⟩ := exists_checked intact messages
      exact ⟨next, .check checked⟩
  | acked quicStream bufferedDataBytes =>
      obtain ⟨next, acked⟩ := exists_acked intact enabled bufferedDataBytes
      exact ⟨next, .acked acked⟩
  | finConsumed quicStream =>
      obtain ⟨stream, lives⟩ := Option.isSome_iff_exists.mp enabled
      exact ⟨_, .finConsumed lives⟩
  | _ => cases neverFails

/-! ## What fails -/

/-- The start of a request: a `:path` is needed, and a handle. -/
theorem fetch_returns_or_fails (platform : Platform) {quicStream : StreamRef}
    (lives : (state.streams quicStream).isSome) (ref : ProxyRef) (easyInit : Option EasyRef)
    (peerIp : Bytes) (requestHeaders : SpdyHeaderBlock) (requestBody : Bytes) :
    (∃ next, Fetched platform quicStream ref easyInit peerIp requestHeaders requestBody state
      next) ∨
    (requestHeaders.find (ascii ":path") = none ∧ state.step platform
      (.fetch quicStream ref easyInit peerIp requestHeaders requestBody) = .error .missingPath) ∨
    (easyInit = none ∧ state.step platform
      (.fetch quicStream ref easyInit peerIp requestHeaders requestBody) =
        .error .absentProxy) := by
  obtain ⟨stream, lives⟩ := Option.isSome_iff_exists.mp lives
  cases path : requestHeaders.find (ascii ":path") with
  | none => exact .inr (.inl ⟨rfl, by simp only [step, fetchResponseFromBackend, path]⟩)
  | some found =>
      cases easyInit with
      | none =>
          refine .inr (.inr ⟨rfl, ?_⟩)
          simp [step, fetchResponseFromBackend, path, createProxyCurl, BackendState.stream, lives,
            bind, Except.bind]
      | some easy => exact .inl ⟨_, rfl, path, lives⟩

/-- A header line: the callback must not read outside the line. -/
theorem header_returns_or_fails (platform : Platform) (intact : state.links.Intact)
    {easy : EasyRef} {handle : EasyHandle} (inMulti : state.multi easy = some handle)
    {proxy : QuicProxyCurl} (lives : state.proxies handle.privateData = some proxy)
    (line : Bytes) :
    (proxy.httpHeaderCallback platform line ≠ none ∧
        ∃ next, state.step platform (.header easy line) = .ok next) ∨
      (proxy.httpHeaderCallback platform line = none ∧
        state.step platform (.header easy line) = .error .outOfBounds) := by
  cases called : proxy.httpHeaderCallback platform line with
  | none =>
      refine .inr ⟨rfl, ?_⟩
      simp [step, forTransfer, inMulti, httpHeaderCallback, BackendState.proxy, lives, called,
        bind, Except.bind]
  | some result =>
      obtain ⟨next, returned⟩ := exists_called intact
        (fun proxy => proxy.httpHeaderCallback platform line) lives called
      exact .inl ⟨Option.some_ne_none result, next, step_iff.mpr (.header inMulti returned)⟩

/-- No event but a callback about a socket uses an object that has been destroyed. -/
theorem step_fails (intact : state.links.Intact) {event : BackendEvent}
    (enabled : state.Enabled event) (notSocket : event.isSocket = false) {fault : Fault}
    (failed : state.step platform event = .error fault) : fault.isUseAfterFree = false := by
  have fails {next : BackendState} (outcome : Outcome platform state event next) : False := by
    cases (step_iff.mpr outcome).symm.trans failed
  cases neverFails : event.neverFails with
  | true =>
      obtain ⟨next, outcome⟩ := exists_outcome platform intact enabled neverFails
      exact (fails outcome).elim
  | false =>
      cases event with
      | fetch quicStream ref easyInit peerIp requestHeaders requestBody =>
          rcases fetch_returns_or_fails platform enabled.1 ref easyInit peerIp requestHeaders
            requestBody with ⟨next, fetched⟩ | ⟨-, missing⟩ | ⟨-, absent⟩
          · exact (fails (.fetch fetched)).elim
          · cases missing.symm.trans failed
            rfl
          · cases absent.symm.trans failed
            rfl
      | header easy line =>
          obtain ⟨handle, inMulti⟩ := Option.isSome_iff_exists.mp enabled
          obtain ⟨-, proxy, lives⟩ := proxy_of_multi intact inMulti
          rcases header_returns_or_fails platform intact inMulti lives line with
            ⟨-, next, returned⟩ | ⟨-, short⟩
          · exact (fails (step_iff.mp returned)).elim
          · cases short.symm.trans failed
            rfl
      | socket easy s what => cases notSocket
      | _ => cases neverFails

/-! ## Every run -/

/-- Streams and proxies that exist point at each other, and only at what exists. -/
structure PointersAgree (state : BackendState) : Prop where
  agree : ∀ quicStream stream ref proxy, state.streams quicStream = some stream →
    state.proxies ref = some proxy →
      (stream.quicProxyCurl = some ref ↔ proxy.quicStream = some quicStream)
  streamExists : ∀ ref proxy quicStream, state.proxies ref = some proxy →
    proxy.quicStream = some quicStream → (state.streams quicStream).isSome
  proxyHeld : ∀ quicStream stream ref, state.streams quicStream = some stream →
    stream.quicProxyCurl = some ref →
      (state.proxies ref).isSome ∧ ∃ easy, state.proxyHttpHash easy = some ref
  deadLetGo : ∀ ref ∈ state.proxyHttpDeadList,
    ∃ proxy, state.proxies ref = some proxy ∧ proxy.quicStream = none

/-- Intact pointers agree at both ends. -/
theorem pointersAgree_of_intact (intact : state.links.Intact) : state.PointersAgree := by
  have proxyOf (quicStream : StreamRef) (stream : QuicProxyStream)
      (lives : state.streams quicStream = some stream) :
      state.links.proxyOf quicStream = stream.quicProxyCurl := by
    rw [proxyOf_links, lives, Option.bind_some]
  have streamOf (ref : ProxyRef) (proxy : QuicProxyCurl)
      (lives : state.proxies ref = some proxy) :
      state.links.streamOf ref = proxy.quicStream := by
    rw [streamOf_links, lives, Option.bind_some]
  constructor
  · intro quicStream stream ref proxy streamLives proxyLives
    rw [← proxyOf quicStream stream streamLives, ← streamOf ref proxy proxyLives]
    exact intact.matched quicStream ref
  · intro ref proxy quicStream lives points
    obtain ⟨stream, streamLives, -⟩ := stream_of_pointer intact lives points
    rw [streamLives]
    rfl
  · intro quicStream stream ref lives points
    obtain ⟨proxy, proxyLives, -⟩ := proxy_of_pointer intact lives points
    refine ⟨by rw [proxyLives]; rfl, ?_⟩
    exact intact.held_of_proxyOf ((proxyOf quicStream stream lives).trans points)
  · intro ref member
    obtain ⟨⟨proxy, lives, nowhere⟩, -⟩ := intact.dead ref member
    obtain ⟨object, objectLives, rfl⟩ := Option.map_eq_some_iff.mp lives
    exact ⟨object, objectLives, nowhere⟩

/-- In every run streams and proxies agree on who points at whom, and no event but a callback
about a socket uses an object that has been destroyed. -/
theorem pointers_never_dangle {platform : Platform} {backendUrl : Bytes} {state : BackendState}
    (reachable : (system platform backendUrl).Reachable state) :
    state.PointersAgree ∧
      ∀ event fault, event.isSocket = false → state.Enabled event →
        state.step platform event = .error fault → fault.isUseAfterFree = false := by
  have intact := intact_of_reachable reachable
  exact ⟨pointersAgree_of_intact intact, fun event fault notSocket enabled failed =>
    step_fails intact enabled notSocket failed⟩

/-- Nothing dangles while a transfer runs. -/
theorem pointers_never_dangle_oneTransfer :
    oneTransfer.PointersAgree ∧
      ∀ event fault, event.isSocket = false → oneTransfer.Enabled event →
        oneTransfer.step Platform.chromium event = .error fault → fault.isUseAfterFree = false :=
  pointers_never_dangle oneTransfer_reachable

end BackendState

end QuicProxy
