import QuicProxy.Server.SocketLoop

/-!
# Nothing is stranded on the socket

`OnEvent` is not called again for what it has been told of. `Watched` is the invariant: what
waits is in the hands of the call under way, or still to be reported, or left in
`out_ready_mask`. So whatever is left when `OnEvent` has returned will make epoll call it again
(`never_stranded`).
-/

namespace QuicProxy

variable {Ip Peer : Type} {utils : SocketUtils Ip Peer}

namespace SocketLoop

variable {loop : SocketLoop utils} {whenEmpty : Int}

/-- What the call under way will have looked at when it returns. -/
def underway (loop : SocketLoop utils) : EventMask :=
  match loop.stage with
  | .idle => ⟨false, false⟩
  | .reading epollOut => ⟨true, epollOut⟩
  | .answering inEvents => inEvents

/-- `OnEvent` is in its read loop. -/
def Reading (loop : SocketLoop utils) : Prop := ∃ epollOut, loop.stage = .reading epollOut

/-- An idle server reads nothing. -/
theorem not_reading (idle : loop.stage = .idle) : ¬ loop.Reading := by
  rintro ⟨epollOut, reading⟩
  rw [idle] at reading
  cases reading

/-- An idle server answers nothing. -/
theorem underway_idle (idle : loop.stage = .idle) : loop.underway = ⟨false, false⟩ := by
  rw [underway, idle]

@[simp] theorem answered_socket (inEvents : EventMask) (hasPendingWrites : Bool) :
    (loop.answered inEvents hasPendingWrites).server.socket = loop.server.socket := by
  rw [answered]
  split <;> rfl

/-- Whatever waits is in the hands of the call under way or will lead to the next one. -/
structure Watched (loop : SocketLoop utils) : Prop where
  socket : loop.server.socket ≠ [] → loop.toReport.epollIn = true ∨ loop.Reading
  chlos : loop.chlosBuffered = true →
    loop.stage = .idle ∧ loop.outReady.epollIn = true ∨ loop.underway.epollIn = true
  writable : loop.writable = true →
    loop.toReport.epollOut = true ∨ loop.underway.epollOut = true

/-- Nothing waits at first. -/
theorem Initial.watched (initial : loop.Initial) : loop.Watched := by
  constructor
  · exact fun waits => .inl (initial.reported waits)
  · intro buffered
    rw [initial.chlosBuffered] at buffered
    cases buffered
  · exact fun writable => .inl (initial.writable writable)

/-- A call is made for all that is due, so it will look at all that waits. -/
theorem Watched.onEvent (watched : loop.Watched) (idle : loop.stage = .idle)
    {inEvents : EventMask} (all : loop.due.Within inEvents) :
    (loop.step whenEmpty (.onEvent inEvents)).Watched := by
  obtain ⟨reported, ready⟩ := EventMask.Within.of_join all
  have nothing : loop.underway = ⟨false, false⟩ := underway_idle idle
  have socket : loop.server.socket ≠ [] → inEvents.epollIn = true := fun waits =>
    reported.epollIn ((watched.socket waits).resolve_right (not_reading idle))
  have chlos : loop.chlosBuffered = true → inEvents.epollIn = true := fun buffered =>
    ready.epollIn ((watched.chlos buffered).resolve_right (by simp [nothing])).2
  have writable : loop.writable = true → inEvents.epollOut = true := fun is =>
    reported.epollOut ((watched.writable is).resolve_right (by simp [nothing]))
  rw [step]
  by_cases reads : inEvents.epollIn = true
  · rw [if_pos reads]
    exact ⟨fun _ => .inr ⟨_, rfl⟩, fun _ => .inr rfl, fun is => .inr (writable is)⟩
  · rw [if_neg reads]
    exact ⟨fun waits => absurd (socket waits) reads, fun buffered => absurd (chlos buffered) reads,
      fun is => .inr (writable is)⟩

/-- The loop is left only when nothing was left on the socket. -/
theorem Watched.reads (nonPositive : whenEmpty ≤ 0) (watched : loop.Watched)
    (addressed : ∀ datagram ∈ loop.server.socket, datagram.Addressed utils)
    {epollOut : Bool} (reading : loop.stage = .reading epollOut) (clock : QuicClock)
    (chlosBuffered : Bool) : (loop.step whenEmpty (.reads clock chlosBuffered)).Watched := by
  obtain ⟨more, -, socket, -⟩ :=
    QuicProxyServer.readOnce_spec whenEmpty nonPositive clock loop.server addressed
  have writable : loop.writable = true → loop.toReport.epollOut = true ∨ epollOut = true := by
    have before := watched.writable
    rwa [underway, reading] at before
  rw [step, reading]
  simp only [more]
  by_cases full : kNumPacketsPerReadMmsgCall ≤ loop.server.socket.length
  · rw [decide_eq_true full, if_pos rfl]
    exact ⟨fun _ => .inr ⟨_, rfl⟩, fun _ => .inr rfl, writable⟩
  · rw [decide_eq_false full, if_neg Bool.false_ne_true]
    refine ⟨fun waits => absurd ?_ waits, fun _ => .inr rfl, writable⟩
    exact socket.trans (List.drop_eq_nil_of_le (by omega))

/-- What `OnEvent` leaves behind is reported again. -/
theorem Watched.answered (watched : loop.Watched) {inEvents : EventMask}
    (answering : loop.stage = .answering inEvents) (hasPendingWrites : Bool) :
    (loop.answered inEvents hasPendingWrites).Watched := by
  have under : loop.underway = inEvents := by rw [underway, answering]
  constructor
  · intro waits
    rw [answered_socket] at waits
    refine .inl ((watched.socket waits).resolve_right ?_)
    rintro ⟨epollOut, reading⟩
    rw [answering] at reading
    cases reading
  · intro buffered
    rcases watched.chlos buffered with ⟨idle, -⟩ | looked
    · rw [answering] at idle
      cases idle
    · rw [under] at looked
      have still : loop.chlosBuffered = true := buffered
      refine .inl ⟨rfl, ?_⟩
      change (inEvents.epollIn && loop.chlosBuffered) = true
      rw [looked, still]
      rfl
  · intro writable
    simp only [SocketLoop.answered, Bool.and_eq_true, Bool.not_eq_true'] at writable
    rcases watched.writable writable.1 with reported | looked
    · exact .inl reported
    · rw [under, writable.2] at looked
      cases looked

/-! ## Every run -/

/-- Part of the invariant of every run, kept by what arrives and what is read. -/
def AllAddressed (loop : SocketLoop utils) : Prop :=
  ∀ datagram ∈ loop.server.socket, datagram.Addressed utils

/-- What arrives has an address, and nothing else joins the socket. -/
theorem AllAddressed.step (nonPositive : whenEmpty ≤ 0) (addressed : loop.AllAddressed)
    {event : SocketLoopEvent} (enabled : loop.Enabled event) :
    (loop.step whenEmpty event).AllAddressed := by
  cases event with
  | arrives datagram =>
      intro other member
      rcases List.mem_append.mp member with waiting | new
      · exact addressed other waiting
      · rw [List.mem_singleton.mp new]
        exact enabled
  | becomesWritable => exact addressed
  | chlosExpire => exact addressed
  | onEvent inEvents =>
      rw [SocketLoop.step]
      split <;> exact addressed
  | reads clock chlosBuffered =>
      obtain ⟨epollOut, reading⟩ := enabled
      obtain ⟨-, -, socket, -⟩ :=
        QuicProxyServer.readOnce_spec whenEmpty nonPositive clock loop.server addressed
      rw [SocketLoop.step, reading]
      intro datagram member
      change datagram ∈ (loop.server.readOnce whenEmpty clock).2.socket at member
      rw [socket] at member
      exact addressed datagram (List.mem_of_mem_drop member)
  | returns hasPendingWrites =>
      obtain ⟨inEvents, answering⟩ := enabled
      rw [SocketLoop.step, answering, AllAddressed, answered_socket]
      exact addressed

/-- Every event leaves the waiting datagrams watched. -/
theorem Watched.step (nonPositive : whenEmpty ≤ 0) (watched : loop.Watched)
    (addressed : loop.AllAddressed) {event : SocketLoopEvent} (enabled : loop.Enabled event) :
    (loop.step whenEmpty event).Watched := by
  cases event with
  | arrives datagram => exact ⟨fun _ => .inl rfl, watched.chlos, watched.writable⟩
  | becomesWritable => exact ⟨watched.socket, watched.chlos, fun _ => .inl rfl⟩
  | chlosExpire => exact ⟨watched.socket, fun buffered => (by cases buffered), watched.writable⟩
  | onEvent inEvents => exact watched.onEvent enabled.1 enabled.2
  | reads clock chlosBuffered =>
      obtain ⟨epollOut, reading⟩ := enabled
      exact watched.reads nonPositive addressed reading clock chlosBuffered
  | returns hasPendingWrites =>
      obtain ⟨inEvents, answering⟩ := enabled
      rw [SocketLoop.step, answering]
      exact watched.answered answering hasPendingWrites

/-- Nothing waits unnoticed in any run. -/
def watching (nonPositive : whenEmpty ≤ 0) :
    LabelledSystem.Invariant (system utils whenEmpty) where
  Holds loop := loop.AllAddressed ∧ loop.Watched
  initial initial := ⟨initial.addressed, initial.watched⟩
  preserved := by
    rintro here event _ ⟨addressed, watched⟩ ⟨enabled, rfl⟩
    exact ⟨addressed.step nonPositive enabled, watched.step nonPositive addressed enabled⟩

/-- Whenever no call is under way and datagrams wait on the socket, or CHLOs at the
dispatcher, or writers for a socket that has become writable, the epoll server is due to
call `OnEvent` with the event they wait for. -/
theorem never_stranded (nonPositive : whenEmpty ≤ 0)
    (reachable : (system utils whenEmpty).Reachable loop) (idle : loop.stage = .idle) :
    (loop.server.socket ≠ [] ∨ loop.chlosBuffered = true → loop.due.epollIn = true) ∧
      (loop.writable = true → loop.due.epollOut = true) := by
  have watched := ((watching nonPositive).of_reachable reachable).2
  have nothing : loop.underway = ⟨false, false⟩ := underway_idle idle
  simp only [due, EventMask.join, Bool.or_eq_true]
  constructor
  · rintro (waits | buffered)
    · exact .inl ((watched.socket waits).resolve_right (not_reading idle))
    · exact .inr ((watched.chlos buffered).resolve_right (by simp [nothing])).2
  · intro writable
    exact .inl ((watched.writable writable).resolve_right (by simp [nothing]))

/-- A datagram that arrives during the call is reported after it. -/
theorem never_stranded_overlapping : ∃ loop : SocketLoop QuicProxyServer.inet,
    loop.server.socket = [QuicProxyServer.hello] ∧ loop.due.epollIn = true :=
  ⟨_, rfl, (never_stranded (by decide) ⟨_, _, initial_registered, run_overlapping⟩ rfl).1
    (.inl (List.cons_ne_nil _ _))⟩

end SocketLoop

end QuicProxy
