import QuicProxy.Server.Wakeups

/-!
# What the read loop dispatches

In every run of `SocketLoop` each datagram is dispatched once and in order (`dispatched_once`),
also those that arrive between two rounds of the read loop, and only full batches cost more
rounds than one for each call (`rounds_bounded`).
-/

namespace QuicProxy

variable {Ip Peer : Type} {utils : SocketUtils Ip Peer}

namespace SocketLoop

variable {loop : SocketLoop utils} {whenEmpty : Int}

/-! ## Once and in order -/

/-- What has been dispatched and what the socket will lead to, apart from the times. -/
def accounted (server : QuicProxyServer utils) : List (ProcessPacket Ip Peer) :=
  (server.calls.filterMap DispatcherCall.packet).map ProcessPacket.untimed ++
    server.socket.filterMap (Datagram.dispatched utils server.port)

/-- The port is that of the listening socket. -/
theorem port_step (event : SocketLoopEvent) :
    (loop.step whenEmpty event).server.port = loop.server.port := by
  cases event with
  | arrives datagram => rfl
  | becomesWritable => rfl
  | chlosExpire => rfl
  | onEvent inEvents =>
      rw [step]
      split <;> rfl
  | reads clock chlosBuffered =>
      rw [step]
      split <;> rfl
  | returns hasPendingWrites =>
      rw [step]
      split
      · rw [answered]
        split <;> rfl
      · rfl

/-- Calls without a packet do not count. -/
theorem accounted_call (server : QuicProxyServer utils) {call : DispatcherCall Ip Peer}
    (other : call.packet = none) : accounted (server.call [call]) = accounted server := by
  simp only [accounted, QuicProxyServer.call, List.filterMap_append,
    List.filterMap_cons_none other, List.filterMap_nil, List.append_nil]

/-- The packets of calls that all have one. -/
theorem packets_made (calls : List (ProcessPacket Ip Peer)) :
    (calls.map DispatcherCall.processPacket).filterMap DispatcherCall.packet = calls := by
  rw [List.filterMap_map]
  exact List.filterMap_some

/-- A round of the read loop moves datagrams from the socket to the dispatcher. -/
theorem accounted_readOnce (nonPositive : whenEmpty ≤ 0) (server : QuicProxyServer utils)
    (addressed : ∀ datagram ∈ server.socket, datagram.Addressed utils) (clock : QuicClock) :
    accounted (server.readOnce whenEmpty clock).2 = accounted server := by
  obtain ⟨-, port, socket, calls, made, batch⟩ :=
    QuicProxyServer.readOnce_spec whenEmpty nonPositive clock server addressed
  simp only [accounted, made, socket, port, List.filterMap_append, List.map_append, packets_made,
    batch]
  rw [List.append_assoc, ← List.filterMap_append, List.take_append_drop]

/-- Only an arrival adds to the account. -/
theorem accounted_step (nonPositive : whenEmpty ≤ 0) (addressed : loop.AllAddressed)
    {event : SocketLoopEvent} (enabled : loop.Enabled event) :
    accounted (loop.step whenEmpty event).server = accounted loop.server ++
      event.arrival.toList.filterMap (Datagram.dispatched utils loop.server.port) := by
  cases event with
  | arrives datagram =>
      change _ ++ (loop.server.socket ++ [datagram]).filterMap _ = _
      rw [List.filterMap_append, ← List.append_assoc]
      rfl
  | becomesWritable => exact (List.append_nil _).symm
  | chlosExpire => exact (List.append_nil _).symm
  | onEvent inEvents =>
      refine Eq.trans ?_ (List.append_nil _).symm
      rw [step]
      split
      · apply accounted_call loop.server
        rfl
      · rfl
  | reads clock chlosBuffered =>
      obtain ⟨epollOut, reading⟩ := enabled
      refine Eq.trans ?_ (List.append_nil _).symm
      rw [step, reading]
      exact accounted_readOnce nonPositive loop.server addressed clock
  | returns hasPendingWrites =>
      obtain ⟨inEvents, answering⟩ := enabled
      refine Eq.trans ?_ (List.append_nil _).symm
      rw [step, answering]
      simp only [answered]
      split
      · exact accounted_call loop.server rfl
      · rfl

/-- In every run: what the dispatcher has been given is, in order, what the datagrams that
have arrived lead to by themselves, except for those still on the socket. None is lost,
repeated or overtaken, though they share sixteen buffers and arrive between the rounds of
the read loop. -/
theorem dispatched_once (nonPositive : whenEmpty ≤ 0) {origin : SocketLoop utils}
    (initial : origin.Initial) {events : List SocketLoopEvent}
    (run : (system utils whenEmpty).Run origin events loop) :
    (loop.server.calls.filterMap DispatcherCall.packet).map ProcessPacket.untimed ++
        loop.server.socket.filterMap (Datagram.dispatched utils origin.server.port) =
      (origin.server.socket ++ events.filterMap SocketLoopEvent.arrival).filterMap
        (Datagram.dispatched utils origin.server.port) := by
  have always : loop.server.port = origin.server.port ∧ accounted loop.server =
      (origin.server.socket ++ events.filterMap SocketLoopEvent.arrival).filterMap
        (Datagram.dispatched utils origin.server.port) := by
    induction run with
    | nil =>
        refine ⟨rfl, ?_⟩
        rw [accounted, initial.calls, List.filterMap_nil, List.filterMap_nil, List.append_nil,
          List.map_nil, List.nil_append]
    | snoc earlier last ih =>
        obtain ⟨enabled, rfl⟩ := last
        obtain ⟨port, before⟩ := ih
        have addressed := (earlier.keeps (watching nonPositive)
          ⟨initial.addressed, initial.watched⟩).1
        refine ⟨(port_step _).trans port, ?_⟩
        rw [accounted_step nonPositive addressed enabled, before, port, ← List.filterMap_append,
          List.append_assoc, arrivals_snoc]
  rw [← always.2, accounted, always.1]

/-- Both datagrams, one of which arrives during the call. -/
theorem dispatched_once_overlapping :
    let loop := overlapping.foldl (step (-1)) registered
    (loop.server.calls.filterMap DispatcherCall.packet).map ProcessPacket.untimed ++
        [QuicProxyServer.hello].filterMap (Datagram.dispatched QuicProxyServer.inet 6121) =
      [QuicProxyServer.hello, QuicProxyServer.hello].filterMap
        (Datagram.dispatched QuicProxyServer.inet 6121) :=
  dispatched_once (by decide) initial_registered run_overlapping

/-! ## How often it reads -/

/-- The round that a call that reads still has to make. -/
def openRound (loop : SocketLoop utils) : Nat :=
  match loop.stage with
  | .reading _ => 1
  | _ => 0

/-- A round either takes sixteen datagrams or is the last one of its call. -/
theorem rounds_step (nonPositive : whenEmpty ≤ 0) (addressed : loop.AllAddressed)
    {event : SocketLoopEvent} (enabled : loop.Enabled event) :
    16 * ([event].countP SocketLoopEvent.isRound + (loop.step whenEmpty event).openRound) +
        (loop.step whenEmpty event).server.socket.length ≤
      16 * ([event].countP SocketLoopEvent.isReadable + loop.openRound) +
        loop.server.socket.length + event.arrival.toList.length := by
  cases event with
  | arrives datagram =>
      change 16 * (0 + loop.openRound) + (loop.server.socket ++ [datagram]).length ≤
        16 * (0 + loop.openRound) + loop.server.socket.length + 1
      rw [List.length_append, List.length_singleton]
      omega
  | becomesWritable => exact Nat.le_refl _
  | chlosExpire => exact Nat.le_refl _
  | onEvent inEvents =>
      have closed : loop.openRound = 0 := by rw [openRound, enabled.1]
      rw [closed, step, List.countP_singleton, List.countP_singleton]
      by_cases reads : inEvents.epollIn = true
      · rw [if_pos reads]
        simp [SocketLoopEvent.isRound, SocketLoopEvent.isReadable, reads, openRound,
          QuicProxyServer.call]
      · rw [if_neg reads]
        simp [SocketLoopEvent.isRound, SocketLoopEvent.isReadable, reads, openRound]
  | reads clock chlosBuffered =>
      obtain ⟨epollOut, reading⟩ := enabled
      obtain ⟨more, -, socket, -⟩ :=
        QuicProxyServer.readOnce_spec whenEmpty nonPositive clock loop.server addressed
      have opened : loop.openRound = 1 := by rw [openRound, reading]
      have counted : [SocketLoopEvent.reads clock chlosBuffered].countP
          SocketLoopEvent.isRound = 1 := rfl
      rw [opened, counted, step, reading]
      simp only [more, socket, List.length_drop]
      by_cases full : kNumPacketsPerReadMmsgCall ≤ loop.server.socket.length
      · rw [decide_eq_true full, if_pos rfl]
        simp only [openRound, kNumPacketsPerReadMmsgCall] at full ⊢
        omega
      · rw [decide_eq_false full, if_neg Bool.false_ne_true]
        simp only [openRound, kNumPacketsPerReadMmsgCall] at full ⊢
        omega
  | returns hasPendingWrites =>
      obtain ⟨inEvents, answering⟩ := enabled
      have after : (loop.step whenEmpty (.returns hasPendingWrites)) =
          loop.answered inEvents hasPendingWrites := by rw [step, answering]
      rw [after, answered_socket]
      exact Nat.add_le_add_right (Nat.mul_le_mul_left 16 (Nat.zero_le _)) _

/-- In every run: `recvmmsg` has been called at most once for each call of `OnEvent` that
reads, and once more for every sixteen datagrams that have arrived. -/
theorem rounds_bounded (nonPositive : whenEmpty ≤ 0) {origin : SocketLoop utils}
    (initial : origin.Initial) {events : List SocketLoopEvent}
    (run : (system utils whenEmpty).Run origin events loop) :
    events.countP SocketLoopEvent.isRound ≤ events.countP SocketLoopEvent.isReadable +
      (origin.server.socket ++ events.filterMap SocketLoopEvent.arrival).length / 16 := by
  have balance : 16 * (events.countP SocketLoopEvent.isRound + loop.openRound) +
      loop.server.socket.length ≤ 16 * events.countP SocketLoopEvent.isReadable +
        (origin.server.socket ++ events.filterMap SocketLoopEvent.arrival).length := by
    induction run with
    | nil =>
        have closed : origin.openRound = 0 := by rw [openRound, initial.stage]
        rw [closed]
        simp
    | @snoc events _ event _ earlier last ih =>
        obtain ⟨enabled, rfl⟩ := last
        have addressed := (earlier.keeps (watching nonPositive)
          ⟨initial.addressed, initial.watched⟩).1
        have next := rounds_step nonPositive addressed enabled
        rw [arrivals_snoc, List.countP_append, List.countP_append]
        simp only [List.length_append] at ih next ⊢
        omega
  omega

/-- Two datagrams, and one round. -/
theorem rounds_bounded_overlapping : overlapping.countP SocketLoopEvent.isRound ≤ 1 + 2 / 16 :=
  rounds_bounded (by decide) initial_registered run_overlapping

end SocketLoop

end QuicProxy
