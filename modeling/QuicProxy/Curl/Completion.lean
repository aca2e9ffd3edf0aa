import QuicProxy.Curl.ResponseEnd

/-!
# Completed transfers

A transfer that libcurl reports done, with what the transport does to its stream
meanwhile and later. Neither the report nor an acknowledgement makes a call on the
stream (`run_observed`, `run_later`), so the FIN must be among the calls of the
callbacks; `markedRightly_run` is about the flags of the stream.
-/

namespace QuicProxy

namespace ExchangeEvent

/-- The callback an event is, if it is one. -/
def callback? : ExchangeEvent → Option Callback
  | .callback received => some received
  | .done _ | .acked _ | .finConsumed => none

/-- libcurl reports the transfer done. -/
def isReport : ExchangeEvent → Bool
  | .done _ => true
  | .callback _ | .acked _ | .finConsumed => false

/-- What the transport does to the stream. -/
def fromTransport : ExchangeEvent → Bool
  | .acked _ | .finConsumed => true
  | .callback _ | .done _ => false

end ExchangeEvent

/-- The events of a transfer reported done with `CURLE_OK`. -/
structure Completion (responses : Responses) where
  during : List ExchangeEvent
  later : List ExchangeEvent
  callbacks : during.filterMap ExchangeEvent.callback? = responses.callbacks
  running : ∀ event ∈ during, event.isReport = false
  finished : ∀ event ∈ later, event.fromTransport

/-- All that happens to the exchange, with the report in its place. -/
def Completion.events {responses : Responses} (completion : Completion responses) :
    List ExchangeEvent :=
  completion.during ++ .done .ok :: completion.later

namespace Exchange

variable (platform : Platform)

/-- The exchange after a sequence of events. -/
def run (exchange : Exchange) (events : List ExchangeEvent) : Option Exchange :=
  events.foldlM (step platform) exchange

@[simp] theorem run_nil (exchange : Exchange) : exchange.run platform [] = some exchange := rfl

/-- A run event by event. -/
theorem run_cons (exchange : Exchange) (event : ExchangeEvent) (rest : List ExchangeEvent) :
    exchange.run platform (event :: rest) =
      (exchange.step platform event).bind fun next => next.run platform rest := by
  simp [run]

/-- A run in two parts. -/
theorem run_append (exchange : Exchange) (first second : List ExchangeEvent) :
    exchange.run platform (first ++ second) =
      (exchange.run platform first).bind fun next => next.run platform second := by
  simp [run, List.foldlM_append]

/-! ## The calls of a run -/

/-- What the callbacks depend on and change. -/
def observed (exchange : Exchange) : QuicProxyCurl × List StreamCall :=
  (exchange.proxy, exchange.stream.calls)

/-- A callback does to the observed part what depends on the observed part only. -/
theorem callback_observed (exchange other : Exchange) (received : Callback)
    (same : exchange.observed = other.observed) :
    (exchange.callback platform received).map observed =
      (other.callback platform received).map observed := by
  obtain ⟨proxy, calls⟩ := Prod.mk.inj same
  cases received with
  | header line =>
      simp only [callback, proxy, Option.map_map]
      congr 1
      funext result
      simp [observed, accept, QuicProxyStream.call, calls]
  | body chunk =>
      simp [callback, observed, accept, QuicProxyStream.call, proxy, calls]

/-- The transport changes nothing observed. -/
theorem step_fromTransport (exchange : Exchange) (event : ExchangeEvent)
    (transport : event.fromTransport) :
    ∃ next, exchange.step platform event = some next ∧ next.observed = exchange.observed := by
  cases event with
  | callback received => cases transport
  | done result => cases transport
  | acked bufferedDataBytes => exact ⟨_, rfl, by simp [observed]⟩
  | finConsumed => exact ⟨_, rfl, by simp [observed]⟩

/-- Acknowledgements change nothing that the callbacks read. -/
theorem run_observed (exchange other : Exchange) (events : List ExchangeEvent)
    (same : exchange.observed = other.observed)
    (running : ∀ event ∈ events, event.isReport = false) :
    (exchange.run platform events).map observed =
      (other.deliver platform (events.filterMap ExchangeEvent.callback?)).map observed := by
  induction events generalizing exchange other with
  | nil => simpa using same
  | cons event rest ih =>
      obtain ⟨first, others⟩ := List.forall_mem_cons.mp running
      have transport (isTransport : event.fromTransport) :
          (exchange.run platform (event :: rest)).map observed =
            (other.deliver platform (rest.filterMap ExchangeEvent.callback?)).map observed := by
        obtain ⟨next, stepped, kept⟩ := step_fromTransport platform exchange event isTransport
        rw [run_cons, stepped]
        exact ih next other (kept.trans same) others
      cases event with
      | callback received =>
          have step := callback_observed platform exchange other received same
          have callbacks : (ExchangeEvent.callback received :: rest).filterMap
              ExchangeEvent.callback? = received :: rest.filterMap ExchangeEvent.callback? := rfl
          rw [run_cons, callbacks, deliver_cons]
          change ((exchange.callback platform received).bind _).map _ = _
          cases left : exchange.callback platform received with
          | none =>
              cases right : other.callback platform received with
              | none => rfl
              | some next => simp [left, right] at step
          | some next =>
              cases right : other.callback platform received with
              | none => simp [left, right] at step
              | some nextOther =>
                  rw [left, right] at step
                  exact ih next nextOther (Option.some.inj step) others
      | done result => cases first
      | acked bufferedDataBytes => exact transport rfl
      | finConsumed => exact transport rfl

/-- After the report only flags of the stream change. -/
theorem run_later (exchange : Exchange) (events : List ExchangeEvent)
    (finished : ∀ event ∈ events, event.fromTransport) :
    ∃ last, exchange.run platform events = some last ∧
      last.observed = exchange.observed := by
  induction events generalizing exchange with
  | nil => exact ⟨exchange, rfl, rfl⟩
  | cons event rest ih =>
      obtain ⟨first, finished⟩ := List.forall_mem_cons.mp finished
      obtain ⟨next, stepped, same⟩ := step_fromTransport platform exchange event first
      obtain ⟨last, ran, kept⟩ := ih next finished
      exact ⟨last, by rw [run_cons, stepped]; exact ran, kept.trans same⟩

/-- The report sends nothing. -/
theorem done_calls (exchange : Exchange) (result : CurlCode) :
    (exchange.done result).stream.calls = exchange.stream.calls := by
  unfold done
  split <;> rfl

/-- Up to the report the calls are those of the callbacks. -/
theorem run_during (exchange : Exchange) {responses : Responses}
    (completion : Completion responses) :
    (exchange.run platform completion.during).map observed =
      (exchange.deliver platform responses.callbacks).map observed := by
  have during := run_observed platform exchange exchange completion.during rfl
    completion.running
  rwa [completion.callbacks] at during

/-- The report and the transport add none. -/
theorem run_completion (exchange : Exchange) {responses : Responses}
    (completion : Completion responses) :
    (exchange.run platform completion.events).map (fun last => last.stream.calls) =
      (exchange.run platform completion.during).map (fun before => before.stream.calls) := by
  rw [Completion.events, run_append]
  cases exchange.run platform completion.during with
  | none => rfl
  | some before =>
      obtain ⟨last, finished, same⟩ := run_later platform (before.done .ok) completion.later
        completion.finished
      have kept : last.stream.calls = before.stream.calls :=
        (Prod.mk.inj same).2.trans (done_calls before .ok)
      rw [Option.bind_some, run_cons]
      change ((before.done .ok).run platform completion.later).map _ = _
      rw [finished, Option.map_some, Option.map_some, kept]

/-! ## The flags of the stream -/

/-- The stream is marked as ended only with a FIN handed to the transport. -/
def MarkedRightly (exchange : Exchange) : Prop :=
  exchange.stream.finSent ∧ exchange.stream.writeSideClosed → exchange.stream.finHanded

/-- Before the report the stream has its proxy, after it a FIN. -/
structure Signalling (exchange : Exchange) : Prop where
  marked : exchange.stream.finSent → exchange.stream.finHanded
  ended : exchange.stream.quicProxyCurl = none → exchange.stream.finHanded

/-- A new stream has its proxy, and no FIN is called for. -/
theorem Signalling.start (proxyRef : ProxyRef) (streamRef : StreamRef) (requestUrl : Bytes) :
    Signalling (Exchange.start proxyRef streamRef requestUrl) := by
  constructor <;>
    simp [Exchange.start, QuicProxyStream.create, QuicProxyStream.setProxyCurl]

/-- A FIN once handed over stays so when calls are added. -/
theorem finHanded_call (stream : QuicProxyStream) (calls : List StreamCall)
    (handed : stream.finHanded) : (stream.call calls).finHanded := by
  simp only [QuicProxyStream.finHanded, QuicProxyStream.call, List.any_append,
    Bool.or_eq_true] at handed ⊢
  exact .inl handed

/-- The calls of a callback take no FIN back. -/
theorem Signalling.accept {exchange : Exchange} (signalling : Signalling exchange)
    (result : CallbackResult) : Signalling (exchange.accept result) :=
  ⟨fun sent => finHanded_call _ _ (signalling.marked sent),
    fun detached => finHanded_call _ _ (signalling.ended detached)⟩

/-- Every event keeps the flags right if the report comes after a FIN. -/
theorem Signalling.step {exchange next : Exchange} (signalling : Signalling exchange)
    (event : ExchangeEvent) (stepped : exchange.step platform event = some next)
    (reported : event.isReport → exchange.stream.finHanded) : Signalling next := by
  cases event with
  | callback received =>
      cases received with
      | header line =>
          obtain ⟨result, -, rfl⟩ := Option.map_eq_some_iff.mp stepped
          exact signalling.accept result
      | body chunk =>
          cases stepped
          exact signalling.accept _
  | done result =>
      cases stepped
      have handed := reported rfl
      unfold Exchange.done
      split
      · exact ⟨fun _ => handed, fun _ => handed⟩
      · exact signalling
  | acked bufferedDataBytes =>
      cases stepped
      unfold QuicProxyStream.onStreamFrameAcked
      split
      · exact signalling
      · next detached =>
          have handed := signalling.ended (by simpa using detached)
          split
          · exact ⟨fun _ => handed, fun _ => handed⟩
          · exact signalling
  | finConsumed =>
      cases stepped
      unfold QuicProxyStream.finConsumed
      split
      · next handed => exact ⟨fun _ => handed, fun _ => handed⟩
      · exact signalling

/-- Without a report in it a run keeps `Signalling`. -/
theorem Signalling.run {exchange last : Exchange} (signalling : Signalling exchange)
    (events : List ExchangeEvent) (ran : exchange.run platform events = some last)
    (running : ∀ event ∈ events, event.isReport = false) : Signalling last := by
  induction events generalizing exchange with
  | nil =>
      cases ran
      exact signalling
  | cons event rest ih =>
      obtain ⟨first, others⟩ := List.forall_mem_cons.mp running
      rw [run_cons] at ran
      obtain ⟨next, stepped, ran⟩ := Option.bind_eq_some_iff.mp ran
      have nextSignalling := signalling.step platform event stepped (by simp [first])
      exact ih nextSignalling ran others

/-- Every moment of a completed transfer keeps `Signalling` if the calls made
before the report carry a FIN. -/
theorem markedRightly_run {exchange last : Exchange} (signalling : Signalling exchange)
    {responses : Responses} (completion : Completion responses)
    (handed : ∀ before, exchange.run platform completion.during = some before →
      before.stream.finHanded)
    (past : List ExchangeEvent) (isPrefix : past <+: completion.events)
    (ran : exchange.run platform past = some last) : last.MarkedRightly := by
  suffices Signalling last from fun marked => this.marked marked.1
  rcases List.prefix_or_prefix_of_prefix isPrefix (List.prefix_append _ _) with inside | beyond
  · exact signalling.run platform past ran
      (fun event member => completion.running event (inside.subset member))
  · obtain ⟨rest, rfl⟩ := beyond
    have restPrefix := (List.prefix_append_right_inj _).mp isPrefix
    rw [run_append] at ran
    obtain ⟨before, ranDuring, ran⟩ := Option.bind_eq_some_iff.mp ran
    have beforeSignalling := signalling.run platform _ ranDuring completion.running
    cases rest with
    | nil =>
        cases ran
        exact beforeSignalling
    | cons event rest =>
        obtain ⟨rfl, laterPrefix⟩ := List.cons_prefix_cons.mp restPrefix
        rw [run_cons] at ran
        obtain ⟨next, stepped, ran⟩ := Option.bind_eq_some_iff.mp ran
        have reported := beforeSignalling.step platform _ stepped
          (fun _ => handed before ranDuring)
        refine reported.run platform rest ran fun event member => ?_
        have transport := completion.finished event (laterPrefix.subset member)
        cases event <;> first | rfl | cases transport

end Exchange

/-! ## The end is signalled -/

/-- A response that ends once has its FIN handed over. -/
theorem finHanded_of_endsOnce (stream : QuicProxyStream) (ends : EndsOnce stream.calls) :
    stream.finHanded := by
  have positive : 0 < stream.calls.countP StreamCall.carriesFin := by
    rw [ends.once]
    exact Nat.one_pos
  obtain ⟨call, member, carries⟩ := List.countP_pos_iff.mp positive
  exact List.any_eq_true.mpr ⟨call, member, carries⟩

section Signalled

variable (platform : Platform)

/-- The transfer goes through, its stream is ended once and after its last byte,
and at no moment is the stream marked as ended without a FIN. -/
def EndIsSignalled (proxyRef : ProxyRef) (streamRef : StreamRef) (requestUrl : Bytes)
    {responses : Responses} (completion : Completion responses) : Prop :=
  (∃ exchange, (Exchange.start proxyRef streamRef requestUrl).run platform
      completion.events = some exchange ∧ EndsOnce exchange.stream.calls) ∧
    ∀ past, past <+: completion.events → ∀ exchange,
      (Exchange.start proxyRef streamRef requestUrl).run platform past = some exchange →
        exchange.MarkedRightly

/-- The transfers whose end is signalled. -/
structure EndsWithBody (responses : Responses) : Prop where
  /-- libcurl passes every blank line on as CR LF. -/
  blanks : ∀ head ∈ responses.heads, head.blank = crlf
  /-- No interim response or redirect has length 0 in force without being a 200,
  a 100 or exactly `chunked`. -/
  earlierOpen : AllOpen platform 0 responses.earlier
  /-- The final response is such a one and comes without a body, or its body has
  the length in force and no shorter part of it has. -/
  finalEnds :
    if responses.final.Closes platform (responses.lengthInForce platform) then
      responses.chunks = []
    else
      ∃ before last, responses.chunks = before ++ [last] ∧
        totalSize responses.chunks = responses.lengthInForce platform ∧
        AtEachPlace (fun earlier chunk _ =>
          totalSize (earlier ++ [chunk]) ≠ responses.lengthInForce platform) before

/-- For every order of acknowledgements: the end is signalled exactly where the callbacks
alone send one FIN, with the last part of the body or with the headers of a response without
one. -/
theorem end_is_signalled_iff (proxyRef : ProxyRef) (streamRef : StreamRef)
    (requestUrl : Bytes) {responses : Responses} (completion : Completion responses) :
    EndIsSignalled platform proxyRef streamRef requestUrl completion ↔
      EndsWithBody platform responses := by
  let start := Exchange.start proxyRef streamRef requestUrl
  have during := Exchange.run_during platform start completion
  have whole := Exchange.run_completion platform start completion
  constructor
  · rintro ⟨⟨exchange, ran, ends⟩, -⟩
    rw [ran, Option.map_some] at whole
    obtain ⟨before, ranDuring, calls⟩ := Option.map_eq_some_iff.mp whole.symm
    rw [ranDuring, Option.map_some] at during
    obtain ⟨delivered, deliver, same⟩ := Option.map_eq_some_iff.mp during.symm
    obtain ⟨blanks, rfl⟩ := (Exchange.start_deliver _ _ _ _ _ _).mp deliver
    have deliveredCalls := (Prod.mk.inj same).2
    rw [Exchange.start_withResponses_calls, calls] at deliveredCalls
    rw [← deliveredCalls, endsOnce_calls] at ends
    exact ⟨blanks, ends.1, ends.2⟩
  · rintro ⟨blanks, earlier, final⟩
    have ends := (endsOnce_calls platform responses).mpr ⟨earlier, final⟩
    have deliver := (Exchange.start_deliver platform proxyRef streamRef requestUrl responses
      _).mpr ⟨blanks, rfl⟩
    rw [deliver, Option.map_some] at during
    obtain ⟨before, ranDuring, same⟩ := Option.map_eq_some_iff.mp during
    have beforeCalls := (Prod.mk.inj same).2
    rw [Exchange.start_withResponses_calls] at beforeCalls
    rw [ranDuring, Option.map_some, beforeCalls] at whole
    obtain ⟨exchange, ran, calls⟩ := Option.map_eq_some_iff.mp whole
    refine ⟨⟨exchange, ran, calls ▸ ends⟩, fun past isPrefix last ranPast => ?_⟩
    refine Exchange.markedRightly_run platform (.start proxyRef streamRef requestUrl) completion
      (fun other ranOther => ?_) past isPrefix ranPast
    obtain rfl := Option.some.inj (ranDuring.symm.trans ranOther)
    exact finHanded_of_endsOnce before.stream (beforeCalls ▸ ends)

/-- A 200 with a chunked body. -/
def chunkedOk : Responses where
  earlier := []
  final := .ofLines
    [⟨ascii "HTTP/1.1 200 OK" ++ crlf, by decide, by decide, by decide⟩,
      ⟨ascii "Transfer-Encoding: chunked" ++ crlf, by decide, by decide, by decide⟩]
  chunks := [ascii "welcome"]
  trailer := []

/-- After the report everything sent is acknowledged. -/
def chunkedOk_acked : Completion chunkedOk where
  during := chunkedOk.callbacks.map .callback
  later := [.acked 0]
  callbacks := by rfl
  running := by decide
  finished := by decide

/-- A chunked 200 never ends: the stream is marked as ended, and no FIN was sent. -/
theorem chunkedOk_never_ends :
    ¬ EndIsSignalled Platform.chromium 0 0 (ascii "http://localhost/") chunkedOk_acked := by
  rintro ⟨⟨exchange, ran, ends⟩, -⟩
  have counted : ((Exchange.start 0 0 (ascii "http://localhost/")).run Platform.chromium
      chunkedOk_acked.events).map (fun last => (last.stream.calls.countP StreamCall.carriesFin,
        last.stream.finSent, last.stream.writeSideClosed)) = some (0, true, true) := by
    decide +kernel
  rw [ran, Option.map_some, ends.once] at counted
  cases counted

end Signalled

end QuicProxy
