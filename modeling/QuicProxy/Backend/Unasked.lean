import QuicProxy.Backend.Isolation

/-!
# Streams that have not asked

Nothing serves a stream until it asks for its response, so it sees of the backend only what
its transport does (`observe_fromTransport`), and until then nothing is called on it
(`silent_of_reachable`).
-/

namespace QuicProxy

namespace BackendState

variable {platform : Platform} {backendUrl : Bytes} {state next : BackendState}
  {quicStream : StreamRef}

/-! ## What the transport does -/

/-- What is seen of a stream that no handle serves comes from the transport. -/
theorem observe_fromTransport
    (notServes : ∀ easy, state.links.serves easy quicStream = false)
    {event : BackendEvent} {saw : ExchangeEvent}
    (seen : observe quicStream state event = some saw) : saw.fromTransport := by
  cases event with
  | header easy line => simp [observe, notServes] at seen
  | body easy chunk => simp [observe, notServes] at seen
  | check messages =>
      obtain ⟨result, reported, -⟩ := Option.map_eq_some_iff.mp seen
      obtain ⟨message, -, own⟩ := List.exists_of_findSome?_eq_some reported
      cases message with
      | done easy code => simp [CurlMsg.resultFor, notServes] at own
      | other => cases own
  | acked stream bufferedDataBytes =>
      obtain ⟨-, shown⟩ := Option.ite_none_right_eq_some.mp seen
      obtain rfl := Option.some.inj shown
      rfl
  | finConsumed stream =>
      obtain ⟨-, shown⟩ := Option.ite_none_right_eq_some.mp seen
      obtain rfl := Option.some.inj shown
      rfl
  | _ => cases seen

/-- What comes from the transport comes to the stream itself. -/
theorem event_of_transport {event : BackendEvent} {saw : ExchangeEvent}
    (seen : observe quicStream state event = some saw) (transport : saw.fromTransport) :
    (∃ bufferedDataBytes, event = .acked quicStream bufferedDataBytes) ∨
      event = .finConsumed quicStream := by
  cases event with
  | acked stream bufferedDataBytes =>
      obtain ⟨rfl, -⟩ := Option.ite_none_right_eq_some.mp seen
      exact .inl ⟨bufferedDataBytes, rfl⟩
  | finConsumed stream =>
      obtain ⟨rfl, -⟩ := Option.ite_none_right_eq_some.mp seen
      exact .inr rfl
  | header easy line =>
      obtain ⟨-, shown⟩ := Option.ite_none_right_eq_some.mp seen
      obtain rfl := Option.some.inj shown
      cases transport
  | body easy chunk =>
      obtain ⟨-, shown⟩ := Option.ite_none_right_eq_some.mp seen
      obtain rfl := Option.some.inj shown
      cases transport
  | check messages =>
      obtain ⟨result, -, rfl⟩ := Option.map_eq_some_iff.mp seen
      cases transport
  | _ => cases seen

/-- What a stream sees it sees while it exists. -/
theorem lives_of_observe {event : BackendEvent} (enabled : state.Enabled event)
    {saw : ExchangeEvent} (seen : observe quicStream state event = some saw) :
    ∃ stream, state.streams quicStream = some stream := by
  cases pointer : state.links.proxyOf quicStream with
  | some ref =>
      rw [proxyOf_links] at pointer
      obtain ⟨stream, lives, -⟩ := Option.bind_eq_some_iff.mp pointer
      exact ⟨stream, lives⟩
  | none =>
      rcases event_of_transport seen
        (observe_fromTransport (not_serves_of_proxyOf pointer) seen) with
        ⟨bufferedDataBytes, rfl⟩ | rfl
      · exact Option.isSome_iff_exists.mp enabled
      · exact Option.isSome_iff_exists.mp enabled

/-- A stream that has asked is that of some exchange. -/
theorem exists_follows (intact : state.links.Intact) (asked : state.requested quicStream = true)
    {stream : QuicProxyStream} (lives : state.streams quicStream = some stream) :
    ∃ exchange, Follows quicStream state exchange := by
  cases points : stream.quicProxyCurl with
  | none =>
      refine ⟨⟨.create [] quicStream, stream⟩, intact, asked, lives, fun ref pointer => ?_⟩
      cases points.symm.trans pointer
  | some ref =>
      obtain ⟨proxy, proxyLives, -⟩ := proxy_of_pointer intact lives points
      refine ⟨⟨proxy, stream⟩, intact, asked, lives, fun other pointer => ?_⟩
      obtain rfl := Option.some.inj (points.symm.trans pointer)
      exact ⟨proxy, proxyLives, rfl⟩

/-- The transport calls nothing on a stream without a proxy. -/
theorem calls_of_transport {stream after : QuicProxyStream}
    (lives : state.streams quicStream = some stream) (detached : stream.quicProxyCurl = none)
    {event : BackendEvent} {saw : ExchangeEvent}
    (seen : observe quicStream state event = some saw)
    (outcome : Outcome platform state event next)
    (livesAfter : next.streams quicStream = some after) : after.calls = stream.calls := by
  have nowhere : state.links.proxyOf quicStream = none := by
    rw [proxyOf_links, lives, Option.bind_some, detached]
  have written (changed : QuicProxyStream) :
      (state.putStream quicStream changed).streams quicStream = some changed :=
    Function.update_self ..
  rcases event_of_transport seen
      (observe_fromTransport (not_serves_of_proxyOf nowhere) seen) with
    ⟨bufferedDataBytes, rfl⟩ | rfl
  · cases outcome with
    | acked acked =>
        cases acked with
        | attached found points =>
            obtain rfl := Option.some.inj (lives.symm.trans found)
            cases detached.symm.trans points
        | apart found =>
            obtain rfl := Option.some.inj (lives.symm.trans found)
            obtain rfl := Option.some.inj ((written _).symm.trans livesAfter)
            exact stream.calls_onStreamFrameAcked bufferedDataBytes
    | idle transfer => cases transfer
  · cases outcome with
    | finConsumed found =>
        obtain rfl := Option.some.inj (lives.symm.trans found)
        obtain rfl := Option.some.inj ((written _).symm.trans livesAfter)
        exact stream.calls_finConsumed
    | idle transfer => cases transfer

/-! ## Streams that have not asked -/

/-- A stream that has not asked for its response has no proxy, and nothing was called on it. -/
def Silent (state : BackendState) : Prop :=
  ∀ quicStream stream, state.streams quicStream = some stream →
    state.requested quicStream = false → stream.quicProxyCurl = none ∧ stream.calls = []

/-- An event of the stream's own calls nothing on it as long as it has not asked. -/
theorem Outcome.calls_of_own {event : BackendEvent} (outcome : Outcome platform state event next)
    (own : event.ownStream = some quicStream) (unasked : next.requested quicStream = false)
    {stream : QuicProxyStream} (lives : next.streams quicStream = some stream) :
    stream.calls = [] := by
  cases outcome with
  | @openStream other =>
      obtain rfl := Option.some.inj own
      have created : (state.openStream other).streams other = some .create :=
        Function.update_self ..
      obtain rfl := Option.some.inj (created.symm.trans lives)
      rfl
  | fetch fetched =>
      obtain rfl := Option.some.inj own
      cases fetched
      cases (Function.update_self ..).symm.trans unasked
  | destroyStream closed =>
      obtain rfl := Option.some.inj own
      cases (Function.update_self ..).symm.trans lives
  | idle transfer =>
      cases event with
      | header easy line | body easy chunk | socket easy s what => cases own
      | _ => cases transfer
  | header | body | check | socket | acked | finConsumed => cases own

/-- Every event keeps the streams that have not asked silent. -/
theorem Silent.step (silent : state.Silent) (intact : state.links.Intact) {event : BackendEvent}
    (enabled : state.Enabled event) (outcome : Outcome platform state event next) :
    next.Silent := by
  intro quicStream stream lives unasked
  have nowhere : stream.quicProxyCurl = none := by
    have none := (outcome.intact intact enabled).unasked quicStream unasked
    rwa [proxyOf_links, lives, Option.bind_some] at none
  refine ⟨nowhere, ?_⟩
  by_cases own : event.ownStream = some quicStream
  · exact outcome.calls_of_own own unasked lives
  cases saw : observe quicStream state event with
  | none =>
      have same := (outcome.sameTransfer intact enabled own saw).stream
      exact (silent quicStream stream (same.stream.symm.trans lives)
        (same.requested.symm.trans unasked)).2
  | some shown =>
      obtain ⟨old, oldLives⟩ := lives_of_observe enabled saw
      cases asked : state.requested quicStream with
      | true =>
          obtain ⟨exchange, follows⟩ := exists_follows intact asked oldLives
          obtain ⟨moved, -, followsNext⟩ := follows.step_shown outcome saw
          cases unasked.symm.trans followsNext.asked
      | false =>
          obtain ⟨detached, nothing⟩ := silent quicStream old oldLives asked
          exact nothing ▸ calls_of_transport oldLives detached saw outcome lives

/-- In every run: what has not asked is not answered. -/
theorem silent_of_reachable (reachable : (system platform backendUrl).Reachable state) :
    state.Silent := by
  suffices state.Silent ∧ state.links.Intact from this.1
  refine LabelledSystem.Invariant.of_reachable
    ⟨fun state => state.Silent ∧ state.links.Intact, ?_, ?_⟩ reachable
  · rintro _ rfl
    refine ⟨?_, Links.Intact.empty⟩
    rintro quicStream stream ⟨⟩
  · rintro here event there ⟨silent, intact⟩ ⟨enabled, stepped⟩
    have outcome := step_iff.mp stepped
    exact ⟨silent.step intact enabled outcome, outcome.intact intact enabled⟩

end BackendState

end QuicProxy
