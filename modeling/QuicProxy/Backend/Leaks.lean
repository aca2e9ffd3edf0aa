import QuicProxy.Backend.Forwarding
import QuicProxy.Backend.Registration
import QuicProxy.Backend.Retirement

/-!
# What is released, and what is not

A proxy whose handle is not in the multi will never be reported done. The request of a
client can bring that about: where its method is no token, `StartHttp` gives up after the
proxy has been registered. `Transfer.rejected_leaks` follows such a request: its stream is
sent nothing, and its proxy stays whatever happens later. `LoopState.all_released` is about the
runs without such requests: when libcurl has no transfer left, the next call of
`CheckCurlMultiInfo` that reads no message leaves nothing behind.
-/

namespace QuicProxy

namespace BackendState

variable {platform : Platform} {backendUrl : Bytes} {state next : BackendState}

/-- The hash has a proxy of which libcurl knows nothing. -/
structure Stranded (state : BackendState) (easy : EasyRef) (ref : ProxyRef) : Prop where
  held : state.proxyHttpHash easy = some ref
  unknown : state.multi easy = none

/-- A proxy of which libcurl knows nothing still exists. -/
theorem Stranded.lives {easy : EasyRef} {ref : ProxyRef} (stranded : state.Stranded easy ref)
    (intact : state.links.Intact) : (state.proxies ref).isSome := by
  obtain ⟨proxy, lives, -⟩ := lives_of_held intact stranded.held
  rw [lives, Option.isSome_some]

/-- A handle that no pointer is kept for is not in the multi. -/
theorem multi_of_links {easy : EasyRef} (unknown : state.links.multi easy = none) :
    state.multi easy = none :=
  Option.map_eq_none_iff.mp unknown

/-- No event gets it out of the hash. -/
theorem Stranded.step {easy : EasyRef} {ref : ProxyRef} (stranded : state.Stranded easy ref)
    (intact : state.links.Intact) {event : BackendEvent} (enabled : state.Enabled event)
    (stepped : state.step platform event = .ok next) : next.Stranded easy ref := by
  cases starts : event.isFetch with
  | true =>
      obtain ⟨quicStream, created, easyInit, peerIp, requestHeaders, requestBody, rfl⟩ :=
        BackendEvent.fetch_of_isFetch starts
      obtain ⟨new, added, rfl, links⟩ := fetch_attaches stepped
      have notNew : easy ≠ new := by
        rintro rfl
        obtain ⟨proxy, lives, owns⟩ := lives_of_held intact stranded.held
        exact enabled.2.2.2 easy rfl ref proxy lives owns
      have hash : next.proxyHttpHash = Function.update state.proxyHttpHash new (some created) :=
        congrArg Links.hash links
      refine ⟨by rw [hash, Function.update_of_ne notNew, stranded.held], multi_of_links ?_⟩
      have before : state.links.multi easy = none := Option.map_eq_none_iff.mpr stranded.unknown
      rw [links]
      cases added with
      | true => exact (Function.update_of_ne notNew _ _).trans before
      | false => exact before
  | false =>
      by_cases clearing : event = .check []
      · subst clearing
        cases stepped
        exact ⟨stranded.held, stranded.unknown⟩
      · have retires := (step_iff.mp stepped).retires intact enabled starts clearing
        have notFinished : easy ∉ event.finished := by
          intro done
          cases event with
          | check messages =>
              have inMulti := enabled.2 easy done
              rw [stranded.unknown] at inMulti
              cases inMulti
          | _ => cases done
        constructor
        · rcases retires.hash easy with same | ⟨done, -⟩
          · exact same.trans stranded.held
          · exact absurd done notFinished
        · have same := retires.multi easy notFinished
          rwa [stranded.unknown, Option.isSome_none, Option.isSome_eq_false_iff,
            Option.isNone_iff_eq_none] at same

/-- No run gets it out of the hash. -/
theorem Stranded.run {easy : EasyRef} {ref : ProxyRef} (stranded : state.Stranded easy ref)
    (intact : state.links.Intact) {history : List BackendEvent} {last : BackendState}
    (run : (system platform backendUrl).Run state history last) :
    last.links.Intact ∧ last.Stranded easy ref := by
  induction run with
  | nil => exact ⟨intact, stranded⟩
  | snoc _ latest ih =>
      obtain ⟨enabled, stepped⟩ := latest
      exact ⟨(step_iff.mp stepped).intact ih.1 enabled, ih.2.step ih.1 enabled stepped⟩

/-- libcurl calls back for no stream whose proxy is stranded. -/
theorem Stranded.not_serves {easy other : EasyRef} {ref : ProxyRef}
    (stranded : state.Stranded easy ref) (intact : state.links.Intact) {quicStream : StreamRef}
    (points : state.links.proxyOf quicStream = some ref) :
    state.links.serves other quicStream = false := by
  rw [Bool.eq_false_iff]
  intro serves
  obtain ⟨found, inMulti, pointer⟩ := serves_iff.mp serves
  obtain rfl := Option.some.inj (points.symm.trans pointer)
  obtain rfl := intact.hash_injective (intact.multi other ref inMulti) stranded.held
  rw [show state.links.multi other = none from Option.map_eq_none_iff.mpr stranded.unknown]
    at inMulti
  cases inMulti

/-- Nothing is called on the stream of a stranded proxy. -/
theorem Stranded.silent {quicStream : StreamRef} {easy : EasyRef} {ref : ProxyRef}
    {start : Exchange} (begins : Follows quicStream state start)
    (points : start.stream.quicProxyCurl = some ref) (stranded : state.Stranded easy ref)
    {history : List BackendEvent} {seen : List ExchangeEvent} {last : BackendState}
    (watched : ((system platform backendUrl).guarded
      fun _ event => event ≠ .destroyStream quicStream).ObservedRun (observe quicStream) state
        history seen last) :
    last.Stranded easy ref ∧ ∃ exchange, Follows quicStream last exchange ∧
      exchange.stream.quicProxyCurl = some ref ∧
        exchange.stream.calls = start.stream.calls := by
  induction watched with
  | nil => exact ⟨stranded, start, begins, points, rfl⟩
  | @snoc history seen here event there _ latest ih =>
      obtain ⟨strandedHere, exchange, follows, pointsHere, calls⟩ := ih
      obtain ⟨notDestroyed, enabled, stepped⟩ := latest
      have outcome := step_iff.mp stepped
      refine ⟨strandedHere.step follows.intact enabled stepped, ?_⟩
      cases saw : observe quicStream here event with
      | none =>
          have next := follows.step_hidden enabled outcome notDestroyed saw
          exact ⟨exchange, next, pointsHere, calls⟩
      | some shown =>
          obtain ⟨moved, takes, next⟩ := follows.step_shown outcome saw
          have notServes (other : EasyRef) : here.links.serves other quicStream = false :=
            strandedHere.not_serves follows.intact (follows.proxyOf.trans pointsHere)
          have transport := observe_fromTransport notServes saw
          refine ⟨moved, next, ?_⟩
          cases shown with
          | acked bufferedDataBytes =>
              obtain rfl := Option.some.inj takes
              exact ⟨(exchange.stream.quicProxyCurl_onStreamFrameAcked _).trans pointsHere,
                (exchange.stream.calls_onStreamFrameAcked _).trans calls⟩
          | finConsumed =>
              obtain rfl := Option.some.inj takes
              exact ⟨exchange.stream.quicProxyCurl_finConsumed.trans pointsHere,
                exchange.stream.calls_finConsumed.trans calls⟩
          | _ => cases transport

end BackendState

/-- A request whose method is not a token: as long as its stream exists nothing is called on
it, and its proxy is never destroyed, whatever happens to the stream or to other requests. -/
theorem Transfer.rejected_leaks {platform : Platform} {backendUrl : Bytes}
    (transfer : Transfer platform backendUrl)
    (notToken : platform.isValidHeaderName
      (BackendState.methodOf transfer.requestHeaders) = false) :
    (∃ stream, transfer.last.streams transfer.quicStream = some stream ∧
      stream.quicProxyCurl = some transfer.ref ∧ stream.calls = []) ∧
    ∀ history later, (BackendState.system platform backendUrl).Run transfer.last history later →
      (later.proxies transfer.ref).isSome ∧ ∃ easy, transfer.easyInit = some easy ∧
        later.Stranded easy transfer.ref := by
  have intact := BackendState.intact_of_reachable transfer.reachable
  obtain ⟨stream, -, -, ⟨-, nothing⟩, follows, -, -⟩ := transfer.followed []
  obtain ⟨easy, given, links⟩ := (BackendState.fetch_iff.mp transfer.begins).links
  have stranded : transfer.begun.Stranded easy transfer.ref := by
    obtain ⟨-, unknown⟩ := BackendState.unknown_of_fresh intact
      (transfer.enabled.2.2.2 easy given)
    have hash : transfer.begun.proxyHttpHash =
        Function.update transfer.before.proxyHttpHash easy (some transfer.ref) :=
      congrArg Links.hash links
    refine ⟨by rw [hash, Function.update_self], BackendState.multi_of_links ?_⟩
    rw [links, notToken]
    exact unknown
  obtain ⟨last, exchange, followsLast, points, calls⟩ :=
    stranded.silent follows rfl transfer.watched
  refine ⟨⟨exchange.stream, followsLast.stream, points, calls.trans nothing⟩, ?_⟩
  intro history later run
  obtain ⟨laterIntact, laterStranded⟩ := last.run followsLast.intact run
  exact ⟨laterStranded.lives laterIntact, easy, given, laterStranded⟩

namespace BackendState

/-- The request of the first stream has no method. -/
def halfStarted : BackendState :=
  oneStream.take Platform.chromium (.fetch 0 0 (some 0) (ascii "192.0.2.7") noMethod [])

/-- A second stream asks and has an answer, and the dead list is cleared. -/
def laterTraffic : List BackendEvent :=
  [.openStream 1, secondFetch, .header 1 (ascii "HTTP/1.1 200 OK" ++ crlf), .check []]

/-- What the stream sees of the later traffic: nothing. -/
theorem laterTraffic_watched :
    ((system Platform.chromium (ascii "http://localhost/")).guarded
      fun _ event => event ≠ .destroyStream 0).ObservedRun (observe 0) halfStarted laterTraffic []
        (laterTraffic.foldl (take Platform.chromium) halfStarted) := by
  have fetched : Fetched Platform.chromium 0 0 (some 0) (ascii "192.0.2.7") noMethod []
      oneStream halfStarted := fetch_iff.mp rfl
  have openEnabled : halfStarted.Enabled (.openStream 1) := rfl
  have fetchEnabled : (halfStarted.take Platform.chromium (.openStream 1)).Enabled
      secondFetch := by
    refine ⟨rfl, rfl, rfl, ?_⟩
    rintro easy ⟨⟩
    exact fetched.freshEasy (by decide) fun ref proxy lives => by cases lives
  have start : ((system Platform.chromium (ascii "http://localhost/")).guarded
      fun _ event => event ≠ .destroyStream 0).ObservedRun (observe 0) halfStarted [] []
        halfStarted := .nil
  have isOpen := watched_take start (by rintro ⟨⟩) openEnabled rfl
  have asked := watched_take isOpen (by rintro ⟨⟩) fetchEnabled rfl
  have lineEnabled : ((halfStarted.take Platform.chromium (.openStream 1)).take
      Platform.chromium secondFetch).Enabled
        (.header 1 (ascii "HTTP/1.1 200 OK" ++ crlf)) := rfl
  have answered := watched_take asked (by rintro ⟨⟩) lineEnabled rfl
  exact watched_take answered (by rintro ⟨⟩) ⟨List.nodup_nil, by rintro _ ⟨⟩⟩ rfl

end BackendState

/-- A request without a `:method`, and what happens after it. -/
def methodless : Transfer Platform.chromium (ascii "http://localhost/") where
  quicStream := 0
  ref := 0
  easyInit := some 0
  peerIp := ascii "192.0.2.7"
  requestHeaders := BackendState.noMethod
  requestBody := []
  before := BackendState.oneStream
  begun := BackendState.halfStarted
  last := BackendState.laterTraffic.foldl (BackendState.take Platform.chromium)
    BackendState.halfStarted
  events := BackendState.laterTraffic
  seen := []
  reachable := BackendState.oneStream_reachable
  enabled := BackendState.oneFetch_enabled
  begins := rfl
  watched := BackendState.laterTraffic_watched

/-- Whatever follows, the proxy of the example stays. -/
theorem Transfer.rejected_leaks_methodless :
    (∃ stream, methodless.last.streams 0 = some stream ∧ stream.quicProxyCurl = some 0 ∧
      stream.calls = []) ∧
    ∀ history later, (BackendState.system Platform.chromium
        (ascii "http://localhost/")).Run methodless.last history later →
      (later.proxies 0).isSome ∧ ∃ easy, some 0 = some easy ∧ later.Stranded easy 0 :=
  methodless.rejected_leaks (by decide +kernel)

namespace LoopState

variable {platform : Platform} {backendUrl : Bytes} {state next : LoopState}

/-! ## Runs without such requests -/

/-- Besides `OneSocket`: requests come with a handle and a method that is a token. -/
def WellBehaved (platform : Platform) (state : LoopState) (event : LoopEvent) : Prop :=
  state.OneSocket event ∧ ∀ onBackend, event.onBackend = some onBackend →
    BackendState.StartsWell platform state.backend onBackend

/-- Well-behaved runs keep to one socket for each transfer, and start every request. -/
theorem registered_of_wellBehaved
    (reachable : ((system platform backendUrl).guarded (WellBehaved platform)).Reachable state) :
    Retiring state ∧ state.backend.links.Registered := by
  refine LabelledSystem.Invariant.of_reachable
    ⟨fun state => Retiring state ∧ state.backend.links.Registered, ?_, ?_⟩ reachable
  · rintro _ rfl
    have start : ((system platform backendUrl).guarded OneSocket).Reachable
        (initial backendUrl) := .start rfl
    exact ⟨retiring_of_reachable start, rfl⟩
  · rintro here event there ⟨retiring, registered⟩ ⟨⟨single, startsWell⟩, enabled, stepped⟩
    refine ⟨retiring.step enabled single stepped, ?_⟩
    rcases step_backend enabled stepped with ⟨-, same⟩ | ⟨onBackend, isEvent, allowed, moved⟩
    · rw [same]
      exact registered
    · exact (BackendState.step_iff.mp moved).registered retiring.settled.mirrored.intact
        registered (startsWell onBackend isEvent)

/-- Nothing is left of any transfer. -/
structure Released (state : BackendState) : Prop where
  proxies : ∀ ref, state.proxies ref = none
  hash : ∀ easy, state.proxyHttpHash easy = none
  dead : state.proxyHttpDeadList = []
  sockets : ∀ s, state.sockets s = none
  epoll : ∀ s, state.epoll s = none
  streams : ∀ quicStream stream, state.streams quicStream = some stream →
    stream.quicProxyCurl = none

/-- Whenever libcurl has no transfer left, a call of `CheckCurlMultiInfo` that reads no
message leaves no proxy, no entry of the hash and no registered socket behind. -/
theorem all_released
    (reachable : ((system platform backendUrl).guarded (WellBehaved platform)).Reachable state)
    (idle : ∀ easy, state.backend.multi easy = none) (enabled : state.Enabled (.check [])) :
    ∃ next, state.step platform (.check []) = .ok next ∧ Released next.backend := by
  obtain ⟨retiring, registered⟩ := registered_of_wellBehaved reachable
  have settled := retiring.settled
  have intact := settled.mirrored.intact
  have noHash (easy : EasyRef) : state.backend.proxyHttpHash easy = none := by
    have unknown : state.backend.links.multi easy = none := Option.map_eq_none_iff.mpr (idle easy)
    exact (congrFun registered easy).trans unknown
  have noSocket (s : Socket) : state.backend.sockets s = none := by
    cases known : state.backend.sockets s with
    | none => rfl
    | some socket =>
        obtain ⟨easy, proxy, held, -⟩ := settled.owned s socket known
        cases (noHash easy).symm.trans held
  have noEntry (s : Socket) : state.backend.epoll s = none := by
    cases registered : state.backend.epoll s with
    | none => rfl
    | some entry =>
        obtain ⟨easy, proxy, held, -⟩ := settled.registered registered
        cases (noHash easy).symm.trans held
  obtain ⟨next, stepped, cleared⟩ := retiring.check_ends enabled.2.1 rfl
  refine ⟨next, stepped, ?_⟩
  rw [cleared]
  refine ⟨fun ref => ?_, noHash, rfl, noSocket, noEntry, fun quicStream stream lives => ?_⟩
  · by_cases dead : ref ∈ state.backend.proxyHttpDeadList
    · exact if_pos dead
    · refine (if_neg dead).trans ?_
      obtain ⟨stage, is⟩ := BackendState.exists_stage intact ref
      cases stage with
      | absent => exact is
      | held =>
          obtain ⟨easy, held⟩ := is
          cases (noHash easy).symm.trans held
      | dead => exact absurd is dead
  · cases points : stream.quicProxyCurl with
    | none => rfl
    | some ref =>
        obtain ⟨-, easy, held⟩ := (BackendState.pointersAgree_of_intact intact).proxyHeld
          quicStream stream ref lives points
        cases (noHash easy).symm.trans held

/-- An event that is none of the backend's is well-behaved. -/
theorem wellBehaved_quiet {event : LoopEvent} (quiet : event.onBackend = none) :
    state.WellBehaved platform event := by
  refine ⟨oneSocket_quiet quiet, fun onBackend isEvent => ?_⟩
  cases quiet.symm.trans isEvent

/-- libcurl is done with the transfer in a call of the timer, -/
def timedOut : LoopState :=
  ((fetched.take Platform.chromium (.timerReady true)).take Platform.chromium
    (.transferEnds 0)).take Platform.chromium .actionReturns

/-- the message is read, -/
def reported : LoopState := timedOut.take Platform.chromium (.check [.done 0 (.failed 28)])

/-- and the timer calls once more. -/
def calledAgain : LoopState :=
  (reported.take Platform.chromium (.timerReady true)).take Platform.chromium .actionReturns

/-- The example is well-behaved up to its request. -/
theorem fetched_wellBehaved :
    ((system Platform.chromium (ascii "http://localhost/")).guarded
      (WellBehaved Platform.chromium)).Reachable fetched := by
  have openEnabled : initialised.Enabled (.backend (.openStream 0)) := ⟨trivial, rfl⟩
  have fetchEnabled : opened.Enabled (.backend BackendState.oneFetch) :=
    ⟨fun caller => Frame.noConfusion, BackendState.oneFetch_enabled⟩
  have openBehaves : initialised.WellBehaved Platform.chromium (.backend (.openStream 0)) := by
    constructor
    · rintro onBackend ⟨⟩
      trivial
    · rintro onBackend ⟨⟩
      trivial
  have fetchBehaves : opened.WellBehaved Platform.chromium (.backend BackendState.oneFetch) := by
    constructor
    · rintro onBackend ⟨⟩
      trivial
    · rintro onBackend ⟨⟩
      exact ⟨rfl, by decide +kernel⟩
  have start : ((system Platform.chromium (ascii "http://localhost/")).guarded
      (WellBehaved Platform.chromium)).Reachable (initial (ascii "http://localhost/")) :=
    .start rfl
  have initEnabled : (initial (ascii "http://localhost/")).Enabled .initializeCURLM := rfl
  have up := guarded_take start (wellBehaved_quiet rfl) initEnabled rfl
  have isOpen := guarded_take up openBehaves openEnabled rfl
  exact guarded_take isOpen fetchBehaves fetchEnabled rfl

/-- The example is well-behaved to its end. -/
theorem calledAgain_wellBehaved :
    ((system Platform.chromium (ascii "http://localhost/")).guarded
      (WellBehaved Platform.chromium)).Reachable calledAgain := by
  let ticked := fetched.take Platform.chromium (.timerReady true)
  let done := ticked.take Platform.chromium (.transferEnds 0)
  have tickEnabled : fetched.Enabled (.timerReady true) := ⟨rfl, rfl⟩
  have endEnabled : ticked.Enabled (.transferEnds 0) := by
    change 0 ∈ ticked.running
    decide +kernel
  have returnEnabled : done.Enabled .actionReturns := ⟨.curlTimer, rfl⟩
  have checkEnabled : timedOut.Enabled (.check [.done 0 (.failed 28)]) := by
    refine ⟨⟨.curlTimer, rfl⟩, ⟨by decide, ?_⟩, ?_⟩
    · intro easy member
      obtain rfl := List.mem_singleton.mp member
      rfl
    · intro easy _
      have none : timedOut.running = ∅ := by decide +kernel
      simp [none]
  have checkBehaves : timedOut.WellBehaved Platform.chromium
      (.check [.done 0 (.failed 28)]) := by
    constructor
    · rintro onBackend ⟨⟩ easy - handle - s socket ⟨⟩
    · rintro onBackend ⟨⟩
      trivial
  have againEnabled : reported.Enabled (.timerReady true) := ⟨rfl, rfl⟩
  have backEnabled : (reported.take Platform.chromium (.timerReady true)).Enabled
      .actionReturns := ⟨.curlTimer, rfl⟩
  have isTicked := guarded_take fetched_wellBehaved (wellBehaved_quiet rfl) tickEnabled rfl
  have isDone := guarded_take isTicked (wellBehaved_quiet rfl) endEnabled rfl
  have hasReturned := guarded_take isDone (wellBehaved_quiet rfl) returnEnabled rfl
  have isReported := guarded_take hasReturned checkBehaves checkEnabled rfl
  have isAgain := guarded_take isReported (wellBehaved_quiet rfl) againEnabled rfl
  exact guarded_take isAgain (wellBehaved_quiet rfl) backEnabled rfl

/-- The check at the end of the example leaves nothing behind. -/
theorem all_released_calledAgain :
    calledAgain.backend.proxyHttpDeadList = [0] ∧
      ∃ next, calledAgain.step Platform.chromium (.check []) = .ok next ∧
        Released next.backend := by
  have idle (easy : EasyRef) : calledAgain.backend.multi easy = none := by
    have multi : ∃ handle, calledAgain.backend.multi =
        Function.update (Function.update (fun _ => none) 0 (some handle)) 0 none := ⟨_, rfl⟩
    obtain ⟨handle, multi⟩ := multi
    rw [multi, Function.update_idem, Function.update_eq_self_iff.mpr rfl]
  refine ⟨rfl, all_released calledAgain_wellBehaved idle ⟨⟨.curlTimer, rfl⟩, ⟨?_, ?_⟩, ?_⟩⟩
  · exact List.nodup_nil
  · rintro easy ⟨⟩
  · rintro easy ⟨⟩

end LoopState

end QuicProxy
