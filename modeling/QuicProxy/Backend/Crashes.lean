import QuicProxy.Backend.Retirement

/-!
# What ends the process

An event fails where the code would run into undefined behaviour. `EndsProcess` lists the
events that do: a request without `:path`, a request for which `curl_easy_init` returns
nothing, and a header line of one byte for a proxy that has its stream. Under `OneSocket`
these are all there are, at every moment of every run of the loop (`LoopState.fails_iff`).
-/

namespace QuicProxy

/-- Events that run into undefined behaviour. -/
def BackendState.EndsProcess (state : BackendState) : BackendEvent → Prop
  | .fetch _ _ easyInit _ requestHeaders _ =>
      requestHeaders.find (ascii ":path") = none ∨ easyInit = none
  | .header easy line => line.length < 2 ∧ ∃ handle proxy, state.multi easy = some handle ∧
      state.proxies handle.privateData = some proxy ∧ proxy.quicStream ≠ none
  | .openStream _ | .destroyStream _ | .body _ _ | .check _ | .socket _ _ _ | .acked _ _
  | .finConsumed _ => False

/-- A line is read outside its buffer where it is shorter than CR LF. -/
theorem QuicProxyCurl.httpHeaderCallback_eq_none_iff (platform : Platform)
    (proxy : QuicProxyCurl) (contents : Bytes) :
    proxy.httpHeaderCallback platform contents = none ↔
      contents.length < 2 ∧ proxy.quicStream ≠ none := by
  unfold QuicProxyCurl.httpHeaderCallback
  constructor
  · intro failed
    split at failed
    · cases failed
    · next attached =>
        split at failed
        · cases failed
        · split at failed
          · next short => exact ⟨short, attached⟩
          · cases failed
  · rintro ⟨short, attached⟩
    have notBlank : contents ≠ crlf := by
      rintro rfl
      exact absurd short (by decide)
    rw [if_neg attached, if_neg notBlank, if_pos short]

namespace BackendState

variable {platform : Platform} {state : BackendState}

/-- Without a `:path` or a handle the start of a request ends the process, and only then. -/
theorem fetch_fails_iff {quicStream : StreamRef} {ref : ProxyRef} {easyInit : Option EasyRef}
    {peerIp : Bytes} {requestHeaders : SpdyHeaderBlock} {requestBody : Bytes}
    (lives : (state.streams quicStream).isSome) :
    (∃ fault, state.step platform
        (.fetch quicStream ref easyInit peerIp requestHeaders requestBody) = .error fault) ↔
      requestHeaders.find (ascii ":path") = none ∨ easyInit = none := by
  rcases fetch_returns_or_fails platform lives ref easyInit peerIp requestHeaders requestBody with
    ⟨next, fetched⟩ | ⟨missing, failed⟩ | ⟨absent, failed⟩
  · have stepped := step_iff.mpr (.fetch fetched)
    obtain ⟨given, found, -⟩ := fetched
    constructor
    · rintro ⟨fault, failed⟩
      cases failed.symm.trans stepped
    · rintro (missing | absent)
      · cases missing.symm.trans found
      · cases absent.symm.trans given
  · exact ⟨fun _ => .inl missing, fun _ => ⟨_, failed⟩⟩
  · exact ⟨fun _ => .inr absent, fun _ => ⟨_, failed⟩⟩

/-- A header line ends the process where `HttpHeaderCallback` does. -/
theorem header_fails_iff (intact : state.links.Intact) {easy : EasyRef} {line : Bytes}
    (inMulti : (state.multi easy).isSome) :
    (∃ fault, state.step platform (.header easy line) = .error fault) ↔
      state.EndsProcess (.header easy line) := by
  obtain ⟨handle, isHandle⟩ := Option.isSome_iff_exists.mp inMulti
  obtain ⟨-, proxy, lives⟩ := proxy_of_multi intact isHandle
  have ends : state.EndsProcess (.header easy line) ↔
      line.length < 2 ∧ proxy.quicStream ≠ none := by
    constructor
    · rintro ⟨short, other, found, isOther, foundLives, attached⟩
      obtain rfl := Option.some.inj (isHandle.symm.trans isOther)
      obtain rfl := Option.some.inj (lives.symm.trans foundLives)
      exact ⟨short, attached⟩
    · rintro ⟨short, attached⟩
      exact ⟨short, handle, proxy, isHandle, lives, attached⟩
  rw [ends, ← QuicProxyCurl.httpHeaderCallback_eq_none_iff platform]
  rcases header_returns_or_fails platform intact isHandle lives line with
    ⟨called, next, stepped⟩ | ⟨short, failed⟩
  · refine ⟨?_, fun short => absurd short called⟩
    rintro ⟨fault, failed⟩
    cases failed.symm.trans stepped
  · exact ⟨fun _ => short, fun _ => ⟨_, failed⟩⟩

/-- An event fails if and only if it is one of those. -/
theorem step_fails_iff (settled : state.Settled) {event : BackendEvent}
    (enabled : state.Enabled event) (platform : Platform) :
    (∃ fault, state.step platform event = .error fault) ↔ state.EndsProcess event := by
  have intact := settled.mirrored.intact
  have succeeds {next : BackendState} (stepped : state.step platform event = .ok next)
      (safe : ¬ state.EndsProcess event) :
      (∃ fault, state.step platform event = .error fault) ↔ state.EndsProcess event := by
    refine ⟨?_, fun ends => absurd ends safe⟩
    rintro ⟨fault, failed⟩
    cases failed.symm.trans stepped
  cases neverFails : event.neverFails with
  | true =>
      obtain ⟨next, outcome⟩ := exists_outcome platform intact enabled neverFails
      refine succeeds (step_iff.mpr outcome) fun ends => ?_
      cases event with
      | fetch | header | socket => cases neverFails
      | openStream | destroyStream | body | check | acked | finConsumed => exact ends
  | false =>
      cases event with
      | fetch quicStream ref easyInit peerIp requestHeaders requestBody =>
          exact fetch_fails_iff enabled.1
      | header easy line => exact header_fails_iff intact enabled
      | socket easy s what =>
          obtain ⟨next, stepped, -⟩ :=
            settled.mirrored.socket platform enabled (settled.removesItsOwn enabled)
          exact succeeds stepped id
      | openStream | destroyStream | body | check | acked | finConsumed => cases neverFails

end BackendState

namespace LoopState

variable {platform : Platform} {state : LoopState}

/-- Within the discipline the backend's own two ways to end are the only ones. -/
theorem Retiring.step_fails_iff (retiring : Retiring state) {event : LoopEvent}
    (enabled : state.Enabled event) :
    (∃ fault, state.step platform event = .error fault) ↔
      ∃ onBackend, event.onBackend = some onBackend ∧ state.backend.EndsProcess onBackend := by
  have quiet (isQuiet : event.onBackend = none) {next : LoopState}
      (stepped : state.step platform event = .ok next) :
      (∃ fault, state.step platform event = .error fault) ↔
        ∃ onBackend, event.onBackend = some onBackend ∧
          state.backend.EndsProcess onBackend := by
    constructor
    · rintro ⟨fault, failed⟩
      cases failed.symm.trans stepped
    · rintro ⟨onBackend, isEvent, -⟩
      cases isQuiet.symm.trans isEvent
  cases event with
  | backend event =>
      have iff := BackendState.step_fails_iff retiring.settled enabled.2 platform
      constructor
      · rintro ⟨fault, failed⟩
        rcases bind_error failed with called | ⟨backend, -, ended⟩
        · exact ⟨event, rfl, iff.mp ⟨fault, called⟩⟩
        · cases ended
      · rintro ⟨onBackend, isEvent, ends⟩
        obtain rfl := Option.some.inj isEvent
        obtain ⟨fault, failed⟩ := iff.mpr ends
        refine ⟨fault, ?_⟩
        simp only [LoopState.step, failed]
        rfl
  | check messages =>
      obtain ⟨backend, checked⟩ :=
        BackendState.exists_checked retiring.settled.mirrored.intact messages
      obtain ⟨next, stepped, -⟩ :=
        retiring.check_ends enabled.2.1 (BackendState.checkCurlMultiInfo_iff.mpr checked)
      constructor
      · rintro ⟨fault, failed⟩
        cases failed.symm.trans stepped
      · rintro ⟨onBackend, isEvent, ends⟩
        obtain rfl := Option.some.inj isEvent
        exact ends.elim
  | socketReady s =>
      obtain ⟨entry, registered⟩ := Option.isSome_iff_exists.mp enabled.2
      obtain ⟨easy, proxy, -, lives⟩ := retiring.settled.registered registered
      have stepped : state.step platform (.socketReady s) =
          .ok { state with frame := .inAction (.proxy entry.callback) } := by
        simp only [LoopState.step, LoopState.socketReady, registered,
          BackendState.proxy_iff.mpr lives]
        rfl
      exact quiet rfl stepped
  | initializeCURLM => exact quiet rfl rfl
  | curlMultiTimer timeoutMs => exact quiet rfl rfl
  | transferEnds easy => exact quiet rfl rfl
  | timerExpires => exact quiet rfl rfl
  | timerReady readable => exact quiet rfl rfl
  | actionReturns => exact quiet rfl rfl

/-- In every run in which libcurl keeps to one socket for each transfer, an event that can
happen runs into undefined behaviour if and only if it is one of those: a request without
`:path`, one without a handle, a header line of one byte. -/
theorem fails_iff {backendUrl : Bytes}
    (reachable : ((system platform backendUrl).guarded OneSocket).Reachable state)
    {event : LoopEvent} (enabled : state.Enabled event) :
    (∃ fault, state.step platform event = .error fault) ↔
      ∃ onBackend, event.onBackend = some onBackend ∧ state.backend.EndsProcess onBackend :=
  (retiring_of_reachable reachable).step_fails_iff enabled

/-- The example keeps to one socket at a time. -/
theorem answering_oneSocket :
    ((system Platform.chromium (ascii "http://localhost/")).guarded OneSocket).Reachable
      answering := by
  refine answering_guarded ?_ ?_ ?_ ?_ ?_
  · exact oneSocket_quiet rfl
  · rintro onBackend ⟨⟩
    trivial
  · rintro onBackend ⟨⟩
    trivial
  · rintro onBackend ⟨⟩ - handle - other socket ⟨⟩
  · exact oneSocket_quiet rfl

/-- A blank line that comes as a bare LF, as the first line of a response. -/
theorem fails_iff_answering :
    (∃ fault, answering.step Platform.chromium (.backend (.header 0 [lf])) = .error fault) ↔
      ∃ onBackend, (LoopEvent.backend (.header 0 [lf])).onBackend = some onBackend ∧
        answering.backend.EndsProcess onBackend :=
  fails_iff answering_oneSocket ⟨trivial, rfl⟩

end LoopState

end QuicProxy
