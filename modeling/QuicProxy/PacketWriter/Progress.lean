import QuicProxy.PacketWriter.Flushing

/-!
# How long a packet waits

A packet leaves the writer once everything in front of it has left, and a flush that the
kernel takes anything of hands over one packet at least. So the packet with `k` others in
front of it is on its way after `k + 1` such flushes, however many packets are written
meanwhile (`waits_in_turn`); after 32 of them everything is that waited at first.
-/

namespace QuicProxy

variable {Self Peer : Type}

/-- The kernel has taken some of the batch. -/
def FlushCall.takesSome (call : FlushCall Self Peer) : Bool := !call.outcome.handed.isEmpty

namespace WriterTrace

open QuicProxyPacketWriter

/-- A call takes nothing back that was accepted. -/
theorem enqueued_step (trace : WriterTrace Self Peer) (event : WriterEvent Self Peer) :
    trace.enqueued <+: (trace.step event).enqueued := by
  cases event with
  | writePacket packet before after => exact List.prefix_append _ _
  | flush kernel => exact List.prefix_append _ _
  | timer readWouldBlock kernel => exact List.prefix_append _ _
  | setWritable => exact List.prefix_rfl

/-- A run takes nothing back that was accepted. -/
theorem enqueued_foldl (trace : WriterTrace Self Peer) (events : List (WriterEvent Self Peer)) :
    trace.enqueued <+: (events.foldl step trace).enqueued := by
  induction events generalizing trace with
  | nil => exact List.prefix_rfl
  | cons event rest ih => exact (enqueued_step trace event).trans (ih (trace.step event))

/-- Each flush of which the kernel takes some hands over one packet at least. -/
theorem takesSome_le_handed (calls : List (FlushCall Self Peer)) :
    calls.countP FlushCall.takesSome ≤ (calls.flatMap fun call => call.outcome.handed).length := by
  induction calls with
  | nil => exact Nat.le_refl 0
  | cons call rest ih =>
      rw [List.countP_cons, List.flatMap_cons, List.length_append]
      cases taken : call.outcome.handed with
      | nil =>
          have none : call.takesSome = false := by simp [FlushCall.takesSome, taken]
          rw [none, List.length_nil]
          simp only [Bool.false_eq_true, if_false]
          omega
      | cons packet others =>
          have some : call.takesSome = true := by simp [FlushCall.takesSome, taken]
          rw [some, List.length_cons]
          simp only [if_true]
          omega

/-- From any state on, in any run: once the kernel has taken some of `count` flushes, the
first `count` packets that were waiting have gone to the socket, in order and before
anything written later; with 32 such flushes all of them have. -/
theorem waits_in_turn {trace last : WriterTrace Self Peer} (reachable : system.Reachable trace)
    {events : List (WriterEvent Self Peer)} (run : system.Run trace events last) :
    let count := (flushesAlong trace events).countP FlushCall.takesSome
    trace.handed ++ trace.writer.queued.take count <+: last.handed ∧
      (maxCacheBufferWriteSize ≤ count → trace.enqueued <+: last.handed) := by
  intro count
  have balanced : trace.handed ++ trace.writer.queued = trace.enqueued :=
    Fifo.conserved (refines_fifo reachable)
  have laterBalanced : last.handed ++ last.writer.queued = last.enqueued :=
    Fifo.conserved (refines_fifo (reachable.run run))
  obtain rfl := LabelledSystem.foldl_of_functional_run run
  obtain ⟨more, accepted⟩ := enqueued_foldl trace events
  have served : trace.toFifo.handed ++ trace.toFifo.waiting.take count <+:
      (events.foldl step trace).toFifo.handed :=
    Fifo.served_in_turn balanced laterBalanced (handed_foldl trace events) accepted.symm
      (takesSome_le_handed _)
  have first : trace.handed ++ trace.writer.queued.take count <+:
      (events.foldl step trace).handed := served
  refine ⟨first, fun enough => ?_⟩
  obtain ⟨start, intact⟩ := (soundness.of_reachable reachable).ring
  have bounded : trace.writer.queued.length ≤ count := by
    rw [length_queued]
    exact intact.bounded.trans enough
  rwa [List.take_of_length_le bounded, balanced] at first

/-- Two packets wait; while a third is written the timer flushes twice, and the kernel takes
one packet each time. -/
def oneByOne : List (WriterEvent Unit Unit) :=
  [.timer false fun _ => .accepted 0,
   .writePacket (probe 3) (fun _ => .again) (fun _ => .again),
   .timer false fun _ => .accepted 0]

/-- Two packets wait, and the kernel takes them one by one. -/
theorem waits_in_turn_oneByOne :
    let trace := ((twoQueued 0).take 2).foldl step (create fun _ _ => 0)
    let last := oneByOne.foldl step trace
    (flushesAlong trace oneByOne).countP FlushCall.takesSome = 2 ∧
      trace.handed ++ trace.writer.queued.take 2 <+: last.handed := by
  intro trace last
  have reachable : system.Reachable trace :=
    ⟨_, (twoQueued 0).take 2, ⟨fun _ _ => 0, rfl⟩,
      LabelledSystem.functional_run ⟨trivial, trivial, trivial⟩⟩
  have run : system.Run trace oneByOne last :=
    LabelledSystem.functional_run ⟨trivial, trivial, trivial, trivial⟩
  have count : (flushesAlong trace oneByOne).countP FlushCall.takesSome = 2 := by
    decide +kernel
  have turn := (waits_in_turn reachable run).1
  rw [count] at turn
  exact ⟨count, turn⟩

end WriterTrace

end QuicProxy
