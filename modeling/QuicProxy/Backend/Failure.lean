import QuicProxy.Backend.Bystanders

/-!
# Failed transfers

`CheckCurlMultiInfo` lets go of the stream of a finished transfer whatever the
result was. `LetGo` is a stream without a proxy that cannot get another;
`run_letGo` says that no event but its own destruction changes what was called on
it, and `failure_never_reported` that its client is never told.
-/

namespace QuicProxy

/-- The stream is ended so that the client can tell: by an error response with fin
where nothing had been called on it, by a reset otherwise. -/
def TellsOfFailure (before added : List StreamCall) : Prop :=
  if before = [] then
    added.any StreamCall.carriesFin ∧ ∃ block fin, .writeHeaders block fin ∈ added ∧
      ∃ status, block.find (ascii ":status") = some status ∧
        (status.head? = some 52 ∨ status.head? = some 53)
  else .reset ∈ added

namespace BackendState

variable {platform : Platform} {state next : BackendState} {quicStream : StreamRef}

/-- At some moment after the messages were read, the stream still existing, its
client has been told of the failure. -/
def FailureReported (platform : Platform) (backendUrl : Bytes) (state : BackendState)
    (messages : List CurlMsg) (quicStream : StreamRef) : Prop :=
  ∃ stream next history last later, state.streams quicStream = some stream ∧
    state.step platform (.check messages) = .ok next ∧
    (system platform backendUrl).Run next history last ∧
    .destroyStream quicStream ∉ history ∧ last.streams quicStream = some later ∧
    ∃ added, later.calls = stream.calls ++ added ∧ TellsOfFailure stream.calls added

/-- The stream has no proxy and has had its one. -/
structure LetGo (quicStream : StreamRef) (calls : List StreamCall) (state : BackendState) :
    Prop where
  intact : state.links.Intact
  asked : state.requested quicStream = true
  left : ∃ stream, state.streams quicStream = some stream ∧ stream.quicProxyCurl = none ∧
    stream.calls = calls

/-! ## A stream that was let go -/

variable {calls : List StreamCall}

/-- A stream that nothing touches stays without a proxy. -/
theorem LetGo.same (letGo : LetGo quicStream calls state) (intact : next.links.Intact)
    (same : SameStream quicStream state next) : LetGo quicStream calls next :=
  ⟨intact, same.requested.trans letGo.asked, same.stream ▸ letGo.left⟩

/-- The stream points nowhere. -/
theorem LetGo.nowhere (letGo : LetGo quicStream calls state) :
    state.links.proxyOf quicStream = none := by
  obtain ⟨stream, lives, nowhere, -⟩ := letGo.left
  rw [proxyOf_links, lives, Option.bind_some, nowhere]

/-- No message is about the stream's transfer. -/
theorem LetGo.others (letGo : LetGo quicStream calls state) (message : CurlMsg) :
    message.resultFor state.links quicStream = none := by
  cases message with
  | done easy result =>
      rw [CurlMsg.resultFor, not_serves_of_proxyOf letGo.nowhere]
      rfl
  | other => rfl

/-- No message reaches the stream. -/
theorem LetGo.reads {messages : List CurlMsg} (letGo : LetGo quicStream calls state)
    (reads : Reads messages state next) : LetGo quicStream calls next := by
  have past := reads.readPast letGo.intact fun message _ => letGo.others message
  exact letGo.same past.intact past.same.stream

/-- What the transport does to the stream itself. -/
theorem LetGo.putStream (letGo : LetGo quicStream calls state) {stream changed : QuicProxyStream}
    (lives : state.streams quicStream = some stream)
    (pointer : changed.quicProxyCurl = stream.quicProxyCurl) (same : changed.calls = stream.calls) :
    LetGo quicStream calls (state.putStream quicStream changed) := by
  obtain ⟨other, otherLives, nowhere, isCalls⟩ := letGo.left
  obtain rfl := Option.some.inj (lives.symm.trans otherLives)
  refine ⟨?_, letGo.asked, changed, Function.update_self .., pointer.trans nowhere,
    same.trans isCalls⟩
  rw [links_putStream_same lives pointer]
  exact letGo.intact

/-- The stream sees nothing of the backend, but its transport. -/
theorem LetGo.observe_cases (letGo : LetGo quicStream calls state) (event : BackendEvent) :
    observe quicStream state event = none ∨
      (∃ bufferedDataBytes, event = .acked quicStream bufferedDataBytes) ∨
        event = .finConsumed quicStream := by
  have notServes := not_serves_of_proxyOf letGo.nowhere
  cases event with
  | header easy line => exact .inl (by rw [observe, notServes]; rfl)
  | body easy chunk => exact .inl (by rw [observe, notServes]; rfl)
  | check messages =>
      refine .inl ?_
      rw [observe, Option.map_eq_none_iff, List.findSome?_eq_none_iff]
      exact fun message _ => letGo.others message
  | acked other bufferedDataBytes =>
      by_cases same : other = quicStream
      · exact .inr (.inl ⟨bufferedDataBytes, by rw [same]⟩)
      · exact .inl (if_neg same)
  | finConsumed other =>
      by_cases same : other = quicStream
      · exact .inr (.inr (by rw [same]))
      · exact .inl (if_neg same)
  | _ => exact .inl rfl

/-- No event but its destruction changes what was called on the stream. -/
theorem LetGo.step (letGo : LetGo quicStream calls state) {event : BackendEvent}
    (outcome : Outcome platform state event next) (enabled : state.Enabled event)
    (kept : event ≠ .destroyStream quicStream) : LetGo quicStream calls next := by
  have intact := outcome.intact letGo.intact enabled
  obtain ⟨stream, lives, -⟩ := letGo.left
  rcases letGo.observe_cases event with unseen | ⟨bufferedDataBytes, rfl⟩ | rfl
  · have others : event.ownStream ≠ some quicStream := by
      intro own
      cases event with
      | openStream other =>
          obtain rfl := Option.some.inj own
          cases lives.symm.trans enabled
      | fetch other =>
          obtain rfl := Option.some.inj own
          cases letGo.asked.symm.trans enabled.2.1
      | destroyStream other =>
          obtain rfl := Option.some.inj own
          exact kept rfl
      | _ => cases own
    exact letGo.same intact (outcome.sameTransfer letGo.intact enabled others unseen).stream
  · cases outcome with
    | acked acked =>
        cases acked with
        | attached => exact letGo
        | apart lives =>
            exact letGo.putStream lives (QuicProxyStream.quicProxyCurl_onStreamFrameAcked _ _)
              (QuicProxyStream.calls_onStreamFrameAcked _ _)
    | idle transfer => cases transfer
  · cases outcome with
    | finConsumed lives =>
        exact letGo.putStream lives (QuicProxyStream.quicProxyCurl_finConsumed _)
          (QuicProxyStream.calls_finConsumed _)
    | idle transfer => cases transfer

/-- Once it is let go nothing more is called on the stream, in any run. -/
theorem run_letGo {backendUrl : Bytes} {last : BackendState} {history : List BackendEvent}
    (letGo : LetGo quicStream calls state)
    (run : (system platform backendUrl).Run state history last)
    (kept : .destroyStream quicStream ∉ history) : LetGo quicStream calls last := by
  induction run with
  | nil => exact letGo
  | snoc earlier latest ih =>
      rw [List.mem_append, List.mem_singleton, not_or] at kept
      exact (ih kept.1).step (step_iff.mp latest.2) latest.1 (Ne.symm kept.2)

/-! ## The end of a failed transfer -/

/-- The stream is attached to the transfer of a handle. -/
structure Attached (easy : EasyRef) (ref : ProxyRef) (quicStream : StreamRef)
    (stream : QuicProxyStream) (state : BackendState) : Prop where
  intact : state.links.Intact
  inMulti : (state.multi easy).map EasyHandle.privateData = some ref
  lives : state.streams quicStream = some stream
  points : stream.quicProxyCurl = some ref

/-- The handle serves the stream, and no other does. -/
theorem Attached.serves_iff {easy other : EasyRef} {ref : ProxyRef} {stream : QuicProxyStream}
    (attached : Attached easy ref quicStream stream state) :
    state.links.serves other quicStream = true ↔ other = easy := by
  have pointer : state.links.proxyOf quicStream = some ref := by
    rw [proxyOf_links, attached.lives, Option.bind_some, attached.points]
  rw [BackendState.serves_iff]
  constructor
  · rintro ⟨found, inMulti, isFound⟩
    obtain rfl := Option.some.inj (pointer.symm.trans isFound)
    exact attached.intact.hash_injective (attached.intact.multi other _ inMulti)
      (attached.intact.multi easy _ attached.inMulti)
  · rintro rfl
    exact ⟨ref, attached.inMulti, pointer⟩

/-- The end of another transfer leaves it attached. -/
theorem Attached.other {easy other : EasyRef} {ref : ProxyRef} {stream : QuicProxyStream}
    (attached : Attached easy ref quicStream stream state) (differs : other ≠ easy)
    (finished : Finished other state next) : Attached easy ref quicStream stream next := by
  have notServes : state.links.serves other quicStream = false := by
    rw [Bool.eq_false_iff]
    exact fun serves => differs (attached.serves_iff.mp serves)
  have same := (finished.sameTransfer attached.intact notServes).stream
  refine ⟨finished.intact attached.intact, ?_, same.stream.trans attached.lives, attached.points⟩
  rw [finished.multi, Function.update_of_ne (Ne.symm differs), attached.inMulti]

/-- Its own end lets it go, with nothing called on it. -/
theorem Attached.letGo {easy : EasyRef} {ref : ProxyRef} {stream : QuicProxyStream}
    (attached : Attached easy ref quicStream stream state) (finished : Finished easy state next) :
    LetGo quicStream stream.calls next ∧
      next.streams quicStream = some (stream.setProxyCurl none) := by
  obtain ⟨intact, inMulti, lives, points⟩ := attached
  have asked : state.requested quicStream = true := by
    by_contra unasked
    have nowhere := intact.unasked quicStream (Bool.eq_false_iff.mpr unasked)
    rw [proxyOf_links, lives, Option.bind_some, points] at nowhere
    cases nowhere
  obtain ⟨proxy, proxyLives, back⟩ := proxy_of_pointer intact lives points
  have nextIntact := finished.intact intact
  cases finished with
  | unknown absent =>
      rw [absent] at inMulti
      cases inMulti
  | alone isHandle found nowhere =>
      rw [isHandle] at inMulti
      obtain rfl := Option.some.inj inMulti
      obtain rfl := Option.some.inj (proxyLives.symm.trans found)
      cases nowhere.symm.trans back
  | letGo isHandle found isTarget streamLives =>
      rw [isHandle] at inMulti
      obtain rfl := Option.some.inj inMulti
      obtain rfl := Option.some.inj (proxyLives.symm.trans found)
      obtain rfl := Option.some.inj (back.symm.trans isTarget)
      obtain rfl := Option.some.inj (lives.symm.trans streamLives)
      have moved (here : BackendState) := moveToDeadList_sameStream quicStream here easy
      refine ⟨⟨nextIntact, (moved _).requested.trans asked, stream.setProxyCurl none,
        (moved _).stream.trans ?_, rfl, rfl⟩, (moved _).stream.trans ?_⟩
      · exact Function.update_self ..
      · exact Function.update_self ..

/-- A call that reads the end of its transfer lets the stream go. -/
theorem Attached.check {easy : EasyRef} {ref : ProxyRef} {stream : QuicProxyStream}
    (attached : Attached easy ref quicStream stream state) {messages : List CurlMsg}
    (once : (messages.filterMap CurlMsg.easyHandle?).Nodup) {result : CurlCode}
    (reported : .done easy result ∈ messages) (checked : Checked messages state next) :
    LetGo quicStream stream.calls next := by
  cases checked with
  | cleared => cases reported
  | read reads =>
      obtain ⟨before, after, split⟩ := List.append_of_mem reported
      rw [split] at once reads
      have notBefore : ∀ other code, CurlMsg.done other code ∈ before → other ≠ easy := by
        rintro other code member rfl
        rw [List.filterMap_append, List.nodup_append] at once
        exact once.2.2 other (List.mem_filterMap.mpr ⟨_, member, rfl⟩) other
          (List.mem_filterMap.mpr ⟨.done other result, by simp, rfl⟩) rfl
      obtain ⟨here, readBefore, rest⟩ := reads_append_iff.mp reads
      have stillAttached := readBefore.keeps attached
        fun other code _ _ member attachedHere finished =>
          attachedHere.other (notBefore other code member) finished
      cases rest with
      | done finished readAfter => exact (stillAttached.letGo finished).1.reads readAfter

/-- A stream that is let go as it was is never told of anything. -/
theorem not_reported_of_letGo {platform : Platform} {backendUrl : Bytes}
    {messages : List CurlMsg} {quicStream : StreamRef} {stream : QuicProxyStream}
    (lives : state.streams quicStream = some stream)
    (letsGo : ∀ next, state.step platform (.check messages) = .ok next →
      LetGo quicStream stream.calls next) :
    ¬ FailureReported platform backendUrl state messages quicStream := by
  rintro ⟨found, next, history, last, later, foundLives, stepped, run, kept, laterLives,
    added, calls, told⟩
  obtain rfl := Option.some.inj (lives.symm.trans foundLives)
  obtain ⟨-, -, same, sameLives, -, sameCalls⟩ := run_letGo (letsGo next stepped) run kept
  obtain rfl := Option.some.inj (laterLives.symm.trans sameLives)
  have nothing : added = [] := by
    rw [sameCalls] at calls
    exact List.append_right_eq_self.mp calls.symm
  subst nothing
  unfold TellsOfFailure at told
  split at told
  · simp at told
  · simp at told

/-- However much was forwarded, the client of a failed transfer is never told. -/
theorem failure_never_reported {platform : Platform} {backendUrl : Bytes}
    {messages : List CurlMsg} {easy : EasyRef} {code : Nat} {handle : EasyHandle}
    {proxy : QuicProxyCurl} {quicStream : StreamRef}
    (reachable : (system platform backendUrl).Reachable state)
    (enabled : state.Enabled (.check messages))
    (failed : .done easy (.failed code) ∈ messages) (inMulti : state.multi easy = some handle)
    (lives : state.proxies handle.privateData = some proxy)
    (attached : proxy.quicStream = some quicStream) :
    ¬ FailureReported platform backendUrl state messages quicStream := by
  have intact := intact_of_reachable reachable
  obtain ⟨stream, streamLives, points⟩ := stream_of_pointer intact lives attached
  have isAttached : Attached easy handle.privateData quicStream stream state :=
    ⟨intact, by rw [inMulti]; rfl, streamLives, points⟩
  refine not_reported_of_letGo streamLives fun next stepped => ?_
  cases step_iff.mp stepped with
  | check checked => exact isAttached.check enabled.1 failed checked
  | idle transfer => cases transfer

/-- libcurl may report any transfer that is in the multi. -/
theorem enabled_done {easy : EasyRef} (inMulti : (state.multi easy).isSome)
    (result : CurlCode) : state.Enabled (.check [.done easy result]) := by
  refine ⟨List.nodup_singleton easy, fun other member => ?_⟩
  obtain rfl := List.mem_singleton.mp member
  exact inMulti

/-- A refused connection: the client is told nothing, ever. -/
theorem refused_connection_never_reported :
    ¬ FailureReported Platform.chromium (ascii "http://localhost/") oneTransfer
      [.done 0 (.failed 7)] 0 :=
  failure_never_reported oneTransfer_reachable (enabled_done rfl (.failed 7))
    (List.mem_singleton.mpr rfl) rfl rfl rfl

/-- The response so far: a length of 9, and 4 bytes of the body. -/
def statusRead : BackendState :=
  oneTransfer.take Platform.chromium (.header 0 (ascii "HTTP/1.1 200 OK" ++ crlf))

/-- The response has announced nine bytes. -/
def lengthRead : BackendState :=
  statusRead.take Platform.chromium (.header 0 (ascii "Content-Length: 9" ++ crlf))

/-- Its headers are forwarded. -/
def headersForwarded : BackendState := lengthRead.take Platform.chromium (.header 0 crlf)

/-- So are the first four bytes of the body. -/
def partlyForwarded : BackendState :=
  headersForwarded.take Platform.chromium (.body 0 (ascii "part"))

/-- The run of the example so far. -/
theorem partlyForwarded_reachable :
    (system Platform.chromium (ascii "http://localhost/")).Reachable partlyForwarded := by
  have first : oneTransfer.Enabled (.header 0 (ascii "HTTP/1.1 200 OK" ++ crlf)) := rfl
  have second : statusRead.Enabled (.header 0 (ascii "Content-Length: 9" ++ crlf)) := rfl
  have third : lengthRead.Enabled (.header 0 crlf) := rfl
  have fourth : headersForwarded.Enabled (.body 0 (ascii "part")) := rfl
  have statusReached := reachable_take oneTransfer_reachable first rfl
  have lengthReached := reachable_take statusReached second rfl
  have headersReached := reachable_take lengthReached third rfl
  exact reachable_take headersReached fourth rfl

/-- The connection breaks in the body. The stream is let go as it was, and the next
acknowledgement closes it as if the response were complete. -/
theorem cut_short_never_reported :
    (system Platform.chromium (ascii "http://localhost/")).Reachable partlyForwarded ∧
      ¬ FailureReported Platform.chromium (ascii "http://localhost/") partlyForwarded
        [.done 0 (.failed 18)] 0 ∧
      (((partlyForwarded.take Platform.chromium (.check [.done 0 (.failed 18)])).take
        Platform.chromium (.acked 0 0)).streams 0).map (fun stream =>
          (stream.finSent, stream.writeSideClosed, stream.finHanded)) =
        some (true, true, false) := by
  refine ⟨partlyForwarded_reachable, ?_, by decide +kernel⟩
  have stepped : partlyForwarded.step Platform.chromium (.check [.done 0 (.failed 18)]) =
      .ok (partlyForwarded.take Platform.chromium (.check [.done 0 (.failed 18)])) := rfl
  have reached := reachable_take partlyForwarded_reachable (enabled_done rfl (.failed 18)) stepped
  refine not_reported_of_letGo rfl fun next nextStepped => ?_
  obtain rfl := Except.ok.inj (stepped.symm.trans nextStepped)
  exact ⟨intact_of_reachable reached, rfl, _, rfl, rfl, rfl⟩

end BackendState

end QuicProxy
