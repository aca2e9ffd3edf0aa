import QuicProxy.Semantics.Execution
import QuicProxy.Server.ReadLoop

/-!
# The socket among arrivals

`CreateUDPSocketAndListen` registers the socket edge-triggered, so epoll reports an arrival
once, and `OnEvent` must not return while it leaves datagrams it has been told of. Here
datagrams also arrive between two rounds of its read loop. Without arrivals a call is
`QuicProxyServer.onEvent` (`run_of_onEvent`).

Assumed of epoll: it reports what is ready when the socket is registered, and after that
every arrival and every time the socket becomes writable; the epoll server calls `OnEvent`
with all that epoll has to report and all that the last call has left in `out_ready_mask`.
Assumed of the dispatcher: it buffers a CHLO only while it processes a packet.
-/

namespace QuicProxy

variable {Ip Peer : Type} {utils : SocketUtils Ip Peer}

namespace EventMask

/-- The events of both. -/
def join (one other : EventMask) : EventMask :=
  ⟨one.epollIn || other.epollIn, one.epollOut || other.epollOut⟩

/-- Every event of the one is in the other. -/
structure Within (one other : EventMask) : Prop where
  epollIn : one.epollIn = true → other.epollIn = true
  epollOut : one.epollOut = true → other.epollOut = true

/-- A mask that has both has each. -/
theorem Within.of_join {one other mask : EventMask} (all : (one.join other).Within mask) :
    one.Within mask ∧ other.Within mask := by
  have either := all.epollIn
  have eitherOut := all.epollOut
  simp only [join, Bool.or_eq_true] at either eitherOut
  exact ⟨⟨fun is => either (.inl is), fun is => eitherOut (.inl is)⟩,
    ⟨fun is => either (.inr is), fun is => eitherOut (.inr is)⟩⟩

end EventMask

/-- How far a call of `OnEvent` has come: in its read loop, with what `EPOLLOUT` will be, or
behind it. -/
inductive OnEventStage where
  | idle
  | reading (epollOut : Bool)
  | answering (inEvents : EventMask)
deriving DecidableEq

/-- The packet a call hands over. -/
def DispatcherCall.packet : DispatcherCall Ip Peer → Option (ProcessPacket Ip Peer)
  | .processPacket call => some call
  | .processBufferedChlos _ | .onCanWrite => none

/-- The server on its socket. -/
structure SocketLoop (utils : SocketUtils Ip Peer) where
  server : QuicProxyServer utils
  stage : OnEventStage
  /-- What epoll has still to report. -/
  toReport : EventMask
  /-- The `out_ready_mask` of the last call. -/
  outReady : EventMask
  chlosBuffered : Bool
  /-- The socket has become writable since the last `OnCanWrite`. -/
  writable : Bool

/-- The environment's events, and the three parts of a call of `OnEvent`. What the dispatcher
will answer next is left open where it has just been called. -/
inductive SocketLoopEvent where
  | arrives (datagram : Datagram)
  | becomesWritable
  | chlosExpire
  | onEvent (inEvents : EventMask)
  | reads (clock : QuicClock) (chlosBuffered : Bool)
  | returns (hasPendingWrites : Bool)

namespace SocketLoopEvent

/-- The datagram that arrives with an event. -/
def arrival : SocketLoopEvent → Option Datagram
  | .arrives datagram => some datagram
  | _ => none

/-- A call of `OnEvent` that reads. -/
def isReadable : SocketLoopEvent → Bool
  | .onEvent inEvents => inEvents.epollIn
  | _ => false

/-- A call of `recvmmsg`. -/
def isRound : SocketLoopEvent → Bool
  | .reads _ _ => true
  | _ => false

end SocketLoopEvent

namespace SocketLoop

/-- What the next call will be made for. -/
def due (loop : SocketLoop utils) : EventMask := loop.toReport.join loop.outReady

/-- The server after the last part of `OnEvent`. -/
def answered (loop : SocketLoop utils) (inEvents : EventMask) (hasPendingWrites : Bool) :
    SocketLoop utils :=
  { loop with
    server := if inEvents.epollOut then loop.server.call [.onCanWrite] else loop.server
    stage := .idle
    outReady := ⟨inEvents.epollIn && loop.chlosBuffered, inEvents.epollOut && hasPendingWrites⟩
    writable := loop.writable && !inEvents.epollOut }

/-- What an event does to the server and its socket. -/
def step (whenEmpty : Int) (loop : SocketLoop utils) : SocketLoopEvent → SocketLoop utils
  | .arrives datagram =>
      { loop with
        server := { loop.server with socket := loop.server.socket ++ [datagram] }
        toReport := { loop.toReport with epollIn := true } }
  | .becomesWritable =>
      { loop with toReport := { loop.toReport with epollOut := true }, writable := true }
  | .chlosExpire => { loop with chlosBuffered := false }
  | .onEvent inEvents =>
      let called := { loop with toReport := ⟨false, false⟩, outReady := ⟨false, false⟩ }
      if inEvents.epollIn then
        { called with
          server := loop.server.call [.processBufferedChlos kNumSessionsToCreatePerSocketEvent]
          stage := .reading inEvents.epollOut }
      else { called with stage := .answering inEvents }
  | .reads clock chlosBuffered =>
      match loop.stage with
      | .reading epollOut =>
          let (moreToRead, server) := loop.server.readOnce whenEmpty clock
          { loop with
            server := server
            stage := if moreToRead then .reading epollOut else .answering ⟨true, epollOut⟩
            chlosBuffered := chlosBuffered }
      | _ => loop
  | .returns hasPendingWrites =>
      match loop.stage with
      | .answering inEvents => loop.answered inEvents hasPendingWrites
      | _ => loop

/-- The event can happen: epoll has reported it, or the call stands where it is made. -/
def Enabled (loop : SocketLoop utils) : SocketLoopEvent → Prop
  | .arrives datagram => datagram.Addressed utils
  | .becomesWritable | .chlosExpire => True
  | .onEvent inEvents => loop.stage = .idle ∧ loop.due.Within inEvents
  | .reads _ _ => ∃ epollOut, loop.stage = .reading epollOut
  | .returns _ => ∃ inEvents, loop.stage = .answering inEvents

/-- The socket has just been registered, and may have been bound long enough for datagrams to
wait on it. -/
structure Initial (loop : SocketLoop utils) : Prop where
  calls : loop.server.calls = []
  addressed : ∀ datagram ∈ loop.server.socket, datagram.Addressed utils
  stage : loop.stage = .idle
  reported : loop.server.socket ≠ [] → loop.toReport.epollIn = true
  chlosBuffered : loop.chlosBuffered = false
  writable : loop.writable = true → loop.toReport.epollOut = true

/-- The server on its socket, with the parts of `OnEvent` as steps. -/
def system (utils : SocketUtils Ip Peer) (whenEmpty : Int) :
    LabelledSystem (SocketLoop utils) SocketLoopEvent :=
  .functional Initial Enabled (step whenEmpty)

variable {loop : SocketLoop utils} {whenEmpty : Int}

/-! ## A call that nothing interrupts -/

/-- A round of the read loop is a step. -/
theorem takes_reads {epollOut : Bool} (reading : loop.stage = .reading epollOut)
    (clock : QuicClock) (chlosBuffered : Bool) :
    (system utils whenEmpty).Step loop (.reads clock chlosBuffered)
      { loop with
        server := (loop.server.readOnce whenEmpty clock).2
        stage := if (loop.server.readOnce whenEmpty clock).1 then .reading epollOut
          else .answering ⟨true, epollOut⟩
        chlosBuffered := chlosBuffered } := by
  refine ⟨⟨epollOut, reading⟩, ?_⟩
  simp only [step, reading]

/-- The return is a step. -/
theorem takes_returns {inEvents : EventMask} (answering : loop.stage = .answering inEvents)
    (hasPendingWrites : Bool) :
    (system utils whenEmpty).Step loop (.returns hasPendingWrites)
      (loop.answered inEvents hasPendingWrites) := by
  refine ⟨⟨inEvents, answering⟩, ?_⟩
  simp only [step, answering]

/-- The arrivals of a run, up to its last event. -/
theorem arrivals_snoc (events : List SocketLoopEvent) (event : SocketLoopEvent) :
    (events ++ [event]).filterMap SocketLoopEvent.arrival =
      events.filterMap SocketLoopEvent.arrival ++ event.arrival.toList := by
  rw [List.filterMap_append]
  cases arrival : event.arrival with
  | none => rw [List.filterMap_cons_none arrival, List.filterMap_nil, Option.toList_none]
  | some datagram => rw [List.filterMap_cons_some arrival, List.filterMap_nil, Option.toList_some]

/-- The rounds of the read loop, all with the same answer to `HasChlosBuffered`. -/
theorem run_of_readLoop (loop : SocketLoop utils) (chlosBuffered : Bool) {epollOut : Bool}
    {fuel : Nat} {clocks : Nat → QuicClock} {final : QuicProxyServer utils}
    (ended : loop.server.readLoop whenEmpty fuel clocks = some final)
    (reading : loop.stage = .reading epollOut) :
    ∃ rounds : List SocketLoopEvent, rounds.filterMap SocketLoopEvent.arrival = [] ∧
      (system utils whenEmpty).Run loop rounds
        { loop with
          server := final
          stage := .answering ⟨true, epollOut⟩
          chlosBuffered := chlosBuffered } := by
  induction fuel generalizing loop clocks with
  | zero => cases ended
  | succ fuel ih =>
      have once : (system utils whenEmpty).Step loop (.reads (clocks 0) chlosBuffered) _ :=
        takes_reads reading (clocks 0) chlosBuffered
      rw [QuicProxyServer.readLoop] at ended
      simp only at ended
      split at ended
      · next more =>
          rw [if_pos more] at once
          obtain ⟨rounds, quiet, run⟩ := ih
            { loop with
              server := (loop.server.readOnce whenEmpty (clocks 0)).2
              stage := .reading epollOut
              chlosBuffered := chlosBuffered } ended rfl
          refine ⟨.reads (clocks 0) chlosBuffered :: rounds, quiet, ?_⟩
          exact (LabelledSystem.Run.snoc .nil once).append run
      · next done =>
          rw [if_neg done, Option.some.inj ended] at once
          exact ⟨_, rfl, LabelledSystem.Run.snoc .nil once⟩

/-- What `QuicProxyServer.onEvent` does at once, its parts do one after the other when
nothing arrives between them. -/
theorem run_of_onEvent {fuel : Nat} {clocks : Nat → QuicClock} {answers : DispatcherAnswers}
    {inEvents outReady : EventMask} {final : QuicProxyServer utils}
    (ended : loop.server.onEvent whenEmpty fuel clocks answers inEvents = some (final, outReady))
    (idle : loop.stage = .idle) (all : loop.due.Within inEvents) :
    ∃ events last, (system utils whenEmpty).Run loop events last ∧
      events.filterMap SocketLoopEvent.arrival = [] ∧ last.stage = .idle ∧
      last.server = final ∧ last.outReady = outReady := by
  obtain ⟨epollIn, epollOut⟩ := inEvents
  have called : (system utils whenEmpty).Run loop [.onEvent ⟨epollIn, epollOut⟩]
      (loop.step whenEmpty (.onEvent ⟨epollIn, epollOut⟩)) := .snoc .nil ⟨⟨idle, all⟩, rfl⟩
  cases epollIn with
  | true =>
      cases read : (loop.server.call [.processBufferedChlos
          kNumSessionsToCreatePerSocketEvent]).readLoop whenEmpty fuel clocks with
      | none =>
          rw [QuicProxyServer.onEvent, if_pos rfl, read] at ended
          cases ended
      | some server =>
          rw [QuicProxyServer.onEvent, if_pos rfl, read] at ended
          cases ended
          obtain ⟨rounds, quiet, reading⟩ := run_of_readLoop
            (loop.step whenEmpty (.onEvent ⟨true, epollOut⟩)) answers.hasChlosBuffered read rfl
          refine ⟨_, _, .snoc (called.append reading)
            (takes_returns rfl answers.hasPendingWrites), ?_, rfl, rfl, rfl⟩
          rw [arrivals_snoc, List.filterMap_append, quiet]
          rfl
  | false =>
      rw [QuicProxyServer.onEvent, if_neg Bool.false_ne_true] at ended
      cases ended
      exact ⟨_, _, .snoc called (takes_returns rfl answers.hasPendingWrites), rfl, rfl, rfl, rfl⟩

/-- A server whose socket has just been registered. -/
def registered : SocketLoop QuicProxyServer.inet where
  server := { QuicProxyServer.fullBatch with socket := [] }
  stage := .idle
  toReport := ⟨false, true⟩
  outReady := ⟨false, false⟩
  chlosBuffered := false
  writable := true

/-- The socket has been registered. -/
theorem initial_registered : registered.Initial :=
  ⟨rfl, fun _ member => absurd member List.not_mem_nil, rfl, fun waits => absurd rfl waits, rfl,
    fun _ => rfl⟩

/-- One datagram has arrived. -/
def waiting : SocketLoop QuicProxyServer.inet :=
  registered.step (-1) (.arrives QuicProxyServer.hello)

/-- The call that finds a datagram on the socket, in one piece and in three. -/
theorem run_of_onEvent_waiting : ∃ events last final,
    (system QuicProxyServer.inet (-1)).Run waiting events last ∧ last.stage = .idle ∧
      waiting.server.onEvent (-1) 1 (fun _ => ⟨1, id⟩) ⟨false, false⟩ ⟨true, true⟩ =
        some (final, ⟨false, false⟩) ∧
      last.server = final ∧ last.outReady = ⟨false, false⟩ := by
  have ended : waiting.server.onEvent (-1) 1 (fun _ => ⟨1, id⟩) ⟨false, false⟩ ⟨true, true⟩ =
      some (_, ⟨false, false⟩) := rfl
  obtain ⟨events, last, run, -, idle, server, outReady⟩ :=
    run_of_onEvent ended rfl ⟨fun _ => rfl, fun _ => rfl⟩
  exact ⟨events, last, _, run, idle, ended, server, outReady⟩

/-! ## A call with arrivals -/

/-- One datagram arrives before the call, and one behind the only round of its loop. -/
def overlapping : List SocketLoopEvent :=
  [.arrives QuicProxyServer.hello, .onEvent ⟨true, true⟩, .reads ⟨1, id⟩ false,
    .arrives QuicProxyServer.hello, .returns false]

/-- The example is a run. -/
theorem run_overlapping : (system QuicProxyServer.inet (-1)).Run registered overlapping
    (overlapping.foldl (step (-1)) registered) :=
  LabelledSystem.functional_run
    ⟨QuicProxyServer.addressed_inet rfl, ⟨rfl, ⟨fun _ => rfl, fun _ => rfl⟩⟩, ⟨_, rfl⟩,
      QuicProxyServer.addressed_inet rfl, ⟨_, rfl⟩, trivial⟩

end SocketLoop

end QuicProxy
