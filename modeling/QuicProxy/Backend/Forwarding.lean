import QuicProxy.Backend.Transfers

/-!
# Responses reach the stream that asked

What libcurl has delivered for a transfer is on its stream, in order and with nothing of
another transfer between (`Transfer.response_forwarded`), at every moment of a run and also
after the transfer has been reported done. The report is the last a stream sees of its
transfer (`Transfer.seen_once`).
-/

namespace QuicProxy

namespace StreamCall

/-- The header block a call writes. -/
def block? : StreamCall → Option SpdyHeaderBlock
  | .writeHeaders block _ => some block
  | .writeOrBufferBody _ _ | .reset => none

/-- The piece of the body a call writes. -/
def body? : StreamCall → Option Bytes
  | .writeOrBufferBody body _ => some body
  | .writeHeaders _ _ | .reset => none

end StreamCall

section Calls

variable (platform : Platform)

/-- The sections go to the client one by one. -/
theorem headerCalls_blocks (length : UInt64) (heads : List ResponseHead) :
    (headerCalls platform length heads).filterMap StreamCall.block? =
      heads.map (ResponseHead.fields platform) := by
  induction heads generalizing length with
  | nil => rfl
  | cons head rest ih => simp [headerCalls, StreamCall.block?, ih]

/-- A header section has no piece of the body. -/
theorem headerCalls_bodies (length : UInt64) (heads : List ResponseHead) :
    (headerCalls platform length heads).filterMap StreamCall.body? = [] := by
  induction heads generalizing length with
  | nil => rfl
  | cons head rest ih => exact ih _

/-- A body has no header block. -/
theorem bodyCalls_blocks (length sent : UInt64) (chunks : List Bytes) :
    (bodyCalls length sent chunks).filterMap StreamCall.block? = [] := by
  induction chunks generalizing sent with
  | nil => rfl
  | cons chunk rest ih => exact ih _

/-- The pieces go to the client one by one, unchanged. -/
theorem bodyCalls_bodies (length sent : UInt64) (chunks : List Bytes) :
    (bodyCalls length sent chunks).filterMap StreamCall.body? = chunks := by
  induction chunks generalizing sent with
  | nil => rfl
  | cons chunk rest ih => simp [bodyCalls, StreamCall.body?, ih]

/-- The blocks of a whole delivery. -/
theorem calls_blocks (responses : Responses) :
    (responses.calls platform).filterMap StreamCall.block? =
      responses.heads.map (ResponseHead.fields platform) := by
  rw [Responses.calls, List.filterMap_append, headerCalls_blocks, bodyCalls_blocks,
    List.append_nil]

/-- The body of a whole delivery. -/
theorem calls_bodies (responses : Responses) :
    (responses.calls platform).filterMap StreamCall.body? = responses.chunks := by
  rw [Responses.calls, List.filterMap_append, headerCalls_bodies, bodyCalls_bodies,
    List.nil_append]

end Calls

namespace Exchange

variable (platform : Platform)

/-- A callback takes nothing back. -/
theorem callback_calls {exchange next : Exchange} {received : Callback}
    (called : exchange.callback platform received = some next) :
    exchange.stream.calls <+: next.stream.calls := by
  cases received with
  | header line =>
      obtain ⟨result, -, rfl⟩ := Option.map_eq_some_iff.mp called
      exact List.prefix_append _ _
  | body chunk =>
      cases called
      exact List.prefix_append _ _

/-- Callbacks only add to what the stream was sent. -/
theorem deliver_calls {exchange last : Exchange} {callbacks : List Callback}
    (delivered : exchange.deliver platform callbacks = some last) :
    exchange.stream.calls <+: last.stream.calls := by
  induction callbacks generalizing exchange with
  | nil =>
      cases delivered
      exact List.prefix_rfl
  | cons received rest ih =>
      rw [deliver_cons] at delivered
      obtain ⟨next, called, delivered⟩ := Option.bind_eq_some_iff.mp delivered
      exact (callback_calls platform called).trans (ih delivered)

end Exchange

/-! ## The report is the last of a transfer -/

/-- No report is seen. -/
def Running (seen : List ExchangeEvent) : Prop := ∀ event ∈ seen, event.isReport = false

/-- One report is seen, and after it only what the transport does. -/
def Ended (seen : List ExchangeEvent) : Prop :=
  ∃ during result later, seen = during ++ .done result :: later ∧ Running during ∧
    ∀ event ∈ later, event.fromTransport

namespace BackendState

variable {platform : Platform} {backendUrl : Bytes} {state next : BackendState}
  {quicStream : StreamRef} {exchange : Exchange}

/-- What is seen of a run ends with one report at most, which leaves the stream without a
proxy. -/
theorem seen_once {origin : BackendState} {history : List BackendEvent}
    {seen : List ExchangeEvent} {start : Exchange} (begins : Follows quicStream origin start)
    (watched : ((system platform backendUrl).guarded
      fun _ event => event ≠ .destroyStream quicStream).ObservedRun (observe quicStream) origin
        history seen state) :
    ∃ exchange, Follows quicStream state exchange ∧
      (Running seen ∨ Ended seen ∧ exchange.stream.quicProxyCurl = none) := by
  induction watched with
  | nil =>
      refine ⟨start, begins, .inl ?_⟩
      rintro event ⟨⟩
  | @snoc history seen here event there _ last ih =>
      obtain ⟨exchange, follows, sofar⟩ := ih
      obtain ⟨notDestroyed, enabled, stepped⟩ := last
      cases saw : observe quicStream here event with
      | none =>
          refine ⟨exchange, follows.step_hidden enabled (step_iff.mp stepped) notDestroyed saw, ?_⟩
          rwa [Option.toList_none, List.append_nil]
      | some shown =>
          obtain ⟨moved, takes, followsNext⟩ := follows.step_shown (step_iff.mp stepped) saw
          refine ⟨moved, followsNext, ?_⟩
          rw [Option.toList_some]
          rcases sofar with running | ⟨⟨during, result, later, rfl, before, after⟩, detached⟩
          · cases report : shown.isReport with
            | false =>
                exact .inl (List.forall_mem_append.mpr
                  ⟨running, List.forall_mem_singleton.mpr report⟩)
            | true =>
                obtain ⟨result, rfl⟩ : ∃ result, shown = .done result := by
                  cases shown with
                  | done result => exact ⟨result, rfl⟩
                  | _ => cases report
                obtain rfl := Option.some.inj takes
                refine .inr ⟨⟨seen, result, [], rfl, running, ?_⟩, follows.detached_done result⟩
                rintro event ⟨⟩
          · have transport := observe_fromTransport
              (not_serves_of_proxyOf (follows.proxyOf.trans detached)) saw
            refine .inr ⟨⟨during, result, later ++ [shown], by simp, before,
              List.forall_mem_append.mpr ⟨after, List.forall_mem_singleton.mpr transport⟩⟩, ?_⟩
            cases shown with
            | acked bufferedDataBytes =>
                obtain rfl := Option.some.inj takes
                exact (exchange.stream.quicProxyCurl_onStreamFrameAcked _).trans detached
            | finConsumed =>
                obtain rfl := Option.some.inj takes
                exact exchange.stream.quicProxyCurl_finConsumed.trans detached
            | _ => cases transport

end BackendState

namespace Exchange

variable (platform : Platform)

/-- A whole response to a proxy that has answered nothing yet. -/
theorem deliver_fresh (requestUrl : Bytes) (quicStream : StreamRef) {stream : QuicProxyStream}
    (nothing : stream.calls = []) {responses : Responses}
    (blanks : ∀ head ∈ responses.heads, head.blank = crlf) :
    ∃ last, deliver platform ⟨.create requestUrl quicStream, stream⟩ responses.callbacks =
        some last ∧ last.stream.calls = responses.calls platform := by
  refine ⟨_, deliver_responses platform _ responses (Option.some_ne_none quicStream) rfl blanks,
    ?_⟩
  simp [withResponses, withLines, withChunks, withHeads, QuicProxyCurl.create,
    QuicProxyStream.call, Responses.calls, Responses.lengthInForce, nothing]

/-- The calls are those of the callbacks seen, before the report and after it. -/
theorem run_calls {exchange last : Exchange} {seen : List ExchangeEvent}
    (once : Running seen ∨ Ended seen) (ran : exchange.run platform seen = some last) :
    ∃ delivered, exchange.deliver platform (seen.filterMap ExchangeEvent.callback?) =
      some delivered ∧ delivered.stream.calls = last.stream.calls := by
  rcases once with running | ⟨during, result, later, rfl, running, after⟩
  · have same := run_observed platform exchange exchange seen rfl running
    rw [ran, Option.map_some] at same
    obtain ⟨delivered, isDelivered, observed⟩ := Option.map_eq_some_iff.mp same.symm
    exact ⟨delivered, isDelivered, (Prod.mk.inj observed).2⟩
  · rw [run_append] at ran
    obtain ⟨before, ranDuring, ran⟩ := Option.bind_eq_some_iff.mp ran
    rw [run_cons] at ran
    obtain ⟨reported, isReported, ran⟩ := Option.bind_eq_some_iff.mp ran
    obtain rfl := Option.some.inj isReported
    obtain ⟨finished, ranLater, kept⟩ := run_later platform (before.done result) later after
    obtain rfl := Option.some.inj (ranLater.symm.trans ran)
    have same := run_observed platform exchange exchange during rfl running
    rw [ranDuring, Option.map_some] at same
    obtain ⟨delivered, isDelivered, observed⟩ := Option.map_eq_some_iff.mp same.symm
    have noCallback : later.filterMap ExchangeEvent.callback? = [] := by
      rw [List.filterMap_eq_nil_iff]
      intro event member
      have transport := after event member
      cases event with
      | callback received => cases transport
      | _ => rfl
    refine ⟨delivered, ?_, ?_⟩
    · rw [List.filterMap_append, List.filterMap_cons_none rfl, noCallback, List.append_nil]
      exact isDelivered
    · exact (Prod.mk.inj observed).2.trans
        ((Prod.mk.inj kept).2.trans (done_calls before result)).symm

end Exchange

/-- Of a response that is delivered as `responses`, and of which `seen` has come so far, the
stream has what has come. -/
structure Responded (platform : Platform) (responses : Responses) (seen : List ExchangeEvent)
    (stream : QuicProxyStream) : Prop where
  calls : stream.calls <+: responses.calls platform
  blocks : stream.calls.filterMap StreamCall.block? <+:
    responses.heads.map (ResponseHead.fields platform)
  bodies : stream.calls.filterMap StreamCall.body? <+: responses.chunks
  whole : seen.filterMap ExchangeEvent.callback? = responses.callbacks →
    stream.calls = responses.calls platform

namespace Transfer

variable {platform : Platform} {backendUrl : Bytes}

/-- Where libcurl has made the callbacks of some responses, what the stream was sent is the
beginning of theirs. -/
theorem exists_responded (transfer : Transfer platform backendUrl) {responses : Responses}
    (blanks : ∀ head ∈ responses.heads, head.blank = crlf)
    (delivered : transfer.seen.filterMap ExchangeEvent.callback? <+: responses.callbacks) :
    ∃ stream, transfer.last.streams transfer.quicStream = some stream ∧
      Responded platform responses transfer.seen stream := by
  obtain ⟨stream, exchange, -, ⟨-, nothing⟩, follows, ran, last⟩ := transfer.followed []
  obtain ⟨_, -, sofar⟩ := BackendState.seen_once follows transfer.watched
  have once : Running transfer.seen ∨ Ended transfer.seen := Or.imp_right And.left sofar
  obtain ⟨served, isServed, calls⟩ := Exchange.run_calls platform once ran
  have attachedNothing : (stream.setProxyCurl (some transfer.ref)).calls = [] := nothing
  obtain ⟨full, isFull, fullCalls⟩ := Exchange.deliver_fresh platform [] transfer.quicStream
    attachedNothing blanks
  have begins : exchange.stream.calls <+: responses.calls platform := by
    obtain ⟨rest, split⟩ := delivered
    rw [← split, Exchange.deliver_append, isServed, Option.bind_some] at isFull
    have grows := Exchange.deliver_calls platform isFull
    rwa [fullCalls, calls] at grows
  refine ⟨exchange.stream, last.stream, begins, ?_, ?_, fun all => ?_⟩
  · rw [← calls_blocks]
    exact begins.filterMap _
  · rw [← calls_bodies platform]
    exact begins.filterMap _
  · rw [all, isFull] at isServed
    obtain rfl := Option.some.inj isServed
    rw [← calls, fullCalls]

/-- Of a response that is delivered as `responses` the stream has at every moment what has
been delivered so far, in order: a beginning of its calls, hence of its header blocks and of
the pieces of its body, and all of them once everything is delivered. -/
theorem response_forwarded (transfer : Transfer platform backendUrl) {responses : Responses}
    (blanks : ∀ head ∈ responses.heads, head.blank = crlf)
    (delivered : transfer.seen.filterMap ExchangeEvent.callback? <+: responses.callbacks) :
    ∃ stream, transfer.last.streams transfer.quicStream = some stream ∧
      stream.calls <+: responses.calls platform ∧
      stream.calls.filterMap StreamCall.block? <+:
        responses.heads.map (ResponseHead.fields platform) ∧
      stream.calls.filterMap StreamCall.body? <+: responses.chunks ∧
      (transfer.seen.filterMap ExchangeEvent.callback? = responses.callbacks →
        stream.calls = responses.calls platform) := by
  obtain ⟨stream, lives, responded⟩ := transfer.exists_responded blanks delivered
  exact ⟨stream, lives, responded.calls, responded.blocks, responded.bodies, responded.whole⟩

/-- The second of two streams has all of its response, which came between that to the first. -/
theorem response_forwarded_beside :
    ∃ stream, chunkedBeside.last.streams 1 = some stream ∧
      stream.calls = chunkedOk.calls Platform.chromium ∧
      stream.calls.filterMap StreamCall.block? <+:
        chunkedOk.heads.map (ResponseHead.fields Platform.chromium) ∧
      stream.calls.filterMap StreamCall.body? <+: chunkedOk.chunks := by
  have blanks : ∀ head ∈ chunkedOk.heads, head.blank = crlf := by
    intro head member
    obtain rfl := List.mem_singleton.mp member
    rfl
  obtain ⟨stream, lives, -, blocks, bodies, all⟩ :=
    chunkedBeside.response_forwarded blanks List.prefix_rfl
  exact ⟨stream, lives, all rfl, blocks, bodies⟩

end Transfer

end QuicProxy
