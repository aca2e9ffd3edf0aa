import QuicProxy.PacketWriter.Delivery
import Mathlib.Data.List.Perm.Basic

/-!
# Connections that resubmit blocked packets

A connection keeps a packet answered `WRITE_STATUS_BLOCKED` and submits it again
once the writer is writable. That is right where the writer refused the packet,
and wrong where it kept it: the flush after the copy reports the kernel's
`EAGAIN` for a packet that is already queued. `FillsAndBlocks` is exactly that
case (`answer_honest_iff`), and without it every packet reaches the socket at
most once (`blocked_not_buffered_iff`).
-/

namespace QuicProxy

variable {Self Peer : Type}

/-- The packets still queued when `WritePacket` comes to its copy: a full queue
has first been offered to the kernel. -/
def queueJoined (queue : List (Packet Self Peer)) (before : Kernel Self Peer) :
    List (Packet Self Peer) :=
  if maxCacheBufferWriteSize ≤ queue.length then
    queue.drop (writeMultiplePackets queue (before queue)).2
  else queue

/-- The packet takes the last free row and the kernel then blocks. -/
def FillsAndBlocks (queue : List (Packet Self Peer)) (packet : Packet Self Peer)
    (before after : Kernel Self Peer) : Prop :=
  (queueJoined queue before).length + 1 = maxCacheBufferWriteSize ∧
    after (queueJoined queue before ++ [packet]) = .again

instance (queue : List (Packet Self Peer)) (packet : Packet Self Peer)
    (before after : Kernel Self Peer) : Decidable (FillsAndBlocks queue packet before after) :=
  inferInstanceAs (Decidable (_ ∧ _))

namespace QuicProxyPacketWriter

/-- What a caller may conclude from the answer: a blocked packet is not in the
queue and was not sent, an accepted one was queued once. -/
def AnswerHonest (writer : QuicProxyPacketWriter Self Peer) (packet : Packet Self Peer)
    (before after : Kernel Self Peer) : Prop :=
  let outcome := writer.writePacket packet before after
  (outcome.result.status = .blocked →
    outcome.handed ++ outcome.writer.queued = writer.queued) ∧
  (outcome.result.status = .ok →
    outcome.handed ++ outcome.writer.queued = writer.queued ++ [packet])

/-- A full queue is not empty. -/
theorem occupied_of_full {writer : QuicProxyPacketWriter Self Peer} (isFull : writer.full) :
    writer.bufferedWrites ≠ [] := by
  intro empty
  have bound : maxCacheBufferWriteSize ≤ writer.bufferedWrites.length := isFull
  simp [empty, maxCacheBufferWriteSize] at bound

/-- What is queued after the first flush is what the packet joins. -/
theorem queued_firstFlush (writer : QuicProxyPacketWriter Self Peer)
    (before : Kernel Self Peer) :
    (writer.firstFlush before).writer.queued = queueJoined writer.queued before := by
  unfold firstFlush queueJoined
  by_cases isFull : writer.full
  · rw [if_pos isFull, if_pos (full_iff.mp isFull)]
    simp [flush, occupied_of_full isFull]
  · rw [if_neg isFull, if_neg (full_iff.not.mp isFull)]

/-- The answer to a packet that was copied is the kernel's only where the queue
became full and the kernel blocked. -/
theorem finishWrite_status (writer : QuicProxyPacketWriter Self Peer)
    (packet : Packet Self Peer) (after : Kernel Self Peer) (handed : List (Packet Self Peer))
    (row : Nat) :
    let status := (writer.finishWrite packet after handed row).result.status
    (writer.full ∧ after writer.queued = .again → status = .blocked) ∧
      (¬(writer.full ∧ after writer.queued = .again) → status = .ok) := by
  unfold finishWrite
  by_cases isFull : writer.full
  · have occupied := occupied_of_full isFull
    cases reply : after writer.queued <;>
      simp [isFull, flush, occupied, reply, writeMultiplePackets, isWriteBlockedStatus]
  · simp [isFull]

/-- Where there is room after the first flush, the copied packet meets a full
queue and a blocked kernel exactly where `FillsAndBlocks`. -/
theorem copied_blocks_iff {writer : QuicProxyPacketWriter Self Peer} {first : Nat}
    {packet : Packet Self Peer} {before after : Kernel Self Peer}
    (intact : (writer.firstFlush before).writer.RingIntact first)
    (room : ¬(writer.firstFlush before).writer.full) :
    (((writer.firstFlush before).writer.enqueue packet).full ∧
        after ((writer.firstFlush before).writer.enqueue packet).queued = .again) ↔
      FillsAndBlocks writer.queued packet before after := by
  have bound := full_iff.not.mp room
  rw [full_iff, intact.queued_enqueue room packet, FillsAndBlocks,
    ← queued_firstFlush writer before, List.length_append, List.length_singleton]
  exact and_congr_left fun _ => by omega

/-- A packet is either refused with `WRITE_STATUS_BLOCKED` and left out, or
accepted, and then the answer is blocked exactly where `FillsAndBlocks`. -/
theorem writePacket_answer {writer : QuicProxyPacketWriter Self Peer} {first : Nat}
    (intact : writer.RingIntact first) (packet : Packet Self Peer)
    (before after : Kernel Self Peer) :
    let outcome := writer.writePacket packet before after
    (outcome.result.status = .blocked ∧ outcome.overwritten = none ∧
        ¬FillsAndBlocks writer.queued packet before after ∧
        outcome.handed ++ outcome.writer.queued = writer.queued) ∨
      (outcome.overwritten.isSome ∧
        outcome.handed ++ outcome.writer.queued = writer.queued ++ [packet] ∧
        (FillsAndBlocks writer.queued packet before after →
          outcome.result.status = .blocked) ∧
        (¬FillsAndBlocks writer.queued packet before after →
          outcome.result.status = .ok)) := by
  obtain ⟨sent, writerEq, ⟨stuck, outcome⟩ | ⟨room, more, blocked, handed, after', row⟩⟩ :=
    writePacket_cases writer packet before after
  · refine .inl ⟨by rw [outcome], by rw [outcome], ?_, by simp [outcome]⟩
    rintro ⟨length, -⟩
    have bound := full_iff.mp stuck
    rw [← writerEq, queued_firstFlush] at bound
    omega
  · obtain ⟨_, erased⟩ := intact.eraseFront sent
    have queue := erased.queued_enqueue room packet
    have grown : (writer.writePacket packet before after).handed ++
        (writer.writePacket packet before after).writer.queued =
          writer.queued ++ [packet] := by
      rw [handed, after', queued_setWriteBlocked, queued_eraseFront, List.append_assoc,
        List.take_append_drop, queue, queued_eraseFront, ← List.append_assoc,
        List.take_append_drop]
    have notFull : ¬(writer.firstFlush before).writer.full := by rwa [writerEq]
    have unfolded : writer.writePacket packet before after =
        ((writer.firstFlush before).writer.enqueue packet).finishWrite packet after
          (writer.firstFlush before).handed (writer.firstFlush before).writer.nextRow := by
      simp only [writePacket, if_neg notFull]
    have status := finishWrite_status ((writer.firstFlush before).writer.enqueue packet)
      packet after (writer.firstFlush before).handed (writer.firstFlush before).writer.nextRow
    rw [← unfolded, copied_blocks_iff (writerEq ▸ erased) notFull] at status
    exact .inr ⟨by rw [row]; rfl, grown, status.1, status.2⟩

/-- The answer is honest exactly where the packet does not fill the ring against
a blocked socket. -/
theorem answer_honest_iff {writer : QuicProxyPacketWriter Self Peer} {first : Nat}
    (intact : writer.RingIntact first) (packet : Packet Self Peer)
    (before after : Kernel Self Peer) :
    writer.AnswerHonest packet before after ↔
      ¬FillsAndBlocks writer.queued packet before after := by
  rcases writePacket_answer intact packet before after with
    ⟨blocked, -, otherwise, kept⟩ | ⟨-, grown, fills, others⟩
  · refine iff_of_true ⟨fun _ => kept, ?_⟩ otherwise
    intro ok
    rw [blocked] at ok
    cases ok
  · constructor
    · intro honest bad
      have same := (honest.1 (fills bad)).symm.trans grown
      have lengths := congrArg List.length same
      simp at lengths
    · intro good
      refine ⟨?_, fun _ => grown⟩
      intro blocked
      rw [others good] at blocked
      cases blocked

end QuicProxyPacketWriter

/-! ## The connections -/

/-- The writer, the packets its connections ever made, and those they still have
to submit again. -/
structure Callers (Self Peer : Type) where
  trace : WriterTrace Self Peer
  originated : List (Packet Self Peer)
  blocked : List (Packet Self Peer)

/-- What the callers of the writer do. -/
inductive CallersEvent (Self Peer : Type) where
  | submit (packet : Packet Self Peer) (before after : Kernel Self Peer)
  | resubmit (packet : Packet Self Peer) (before after : Kernel Self Peer)
  | flush (kernel : Kernel Self Peer)
  | timer (readWouldBlock : Bool) (kernel : Kernel Self Peer)
  | setWritable

namespace Callers

open QuicProxyPacketWriter

variable [DecidableEq Self] [DecidableEq Peer]

/-- Nobody has written yet. -/
def create (writesCache : Nat → Nat → UInt8) : Callers Self Peer :=
  ⟨.create writesCache, [], []⟩

/-- A connection writes and keeps the packet where the answer is
`WRITE_STATUS_BLOCKED`. -/
def write (callers : Callers Self Peer) (packet : Packet Self Peer)
    (before after : Kernel Self Peer) : Callers Self Peer where
  trace := callers.trace.step (.writePacket packet before after)
  originated := callers.originated
  blocked :=
    if (callers.trace.writer.writePacket packet before after).result.status = .blocked then
      callers.blocked ++ [packet]
    else callers.blocked

/-- What a call does to the callers' account. -/
def step (callers : Callers Self Peer) : CallersEvent Self Peer → Callers Self Peer
  | .submit packet before after =>
      { callers with originated := callers.originated ++ [packet] }.write packet before after
  | .resubmit packet before after =>
      { callers with blocked := callers.blocked.erase packet }.write packet before after
  | .flush kernel => { callers with trace := callers.trace.step (.flush kernel) }
  | .timer readWouldBlock kernel =>
      { callers with trace := callers.trace.step (.timer readWouldBlock kernel) }
  | .setWritable => { callers with trace := callers.trace.step .setWritable }

/-- Only a blocked packet is submitted again, once the writer is writable. -/
def Enabled (callers : Callers Self Peer) : CallersEvent Self Peer → Prop
  | .resubmit packet _ _ => packet ∈ callers.blocked ∧ callers.trace.writer.writeBlocked = false
  | _ => True

instance (callers : Callers Self Peer) (event : CallersEvent Self Peer) :
    Decidable (callers.Enabled event) := by
  cases event <;> unfold Enabled <;> infer_instance

/-- The callers on their writer. -/
def system : LabelledSystem (Callers Self Peer) (CallersEvent Self Peer) :=
  .functional (fun callers => ∃ writesCache, callers = create writesCache) Enabled step

/-- The step does not fill the ring against a blocked socket. -/
def RoomToBlock (callers : Callers Self Peer) : CallersEvent Self Peer → Prop
  | .submit packet before after | .resubmit packet before after =>
      ¬FillsAndBlocks callers.trace.writer.queued packet before after
  | _ => True

instance (callers : Callers Self Peer) (event : CallersEvent Self Peer) :
    Decidable (callers.RoomToBlock event) := by
  cases event <;> unfold RoomToBlock <;> infer_instance

/-- Every packet made is in the writer's history or waits to be submitted again,
and in one of these places only. -/
structure Accounted (callers : Callers Self Peer) : Prop where
  sound : callers.trace.Sound
  balance : (callers.trace.enqueued ++ callers.blocked).Perm callers.originated

omit [DecidableEq Self] [DecidableEq Peer] in
/-- A write that does not fill the ring against a blocked socket puts its packet
in exactly one place. -/
theorem write_balance (callers : Callers Self Peer) {packet : Packet Self Peer}
    {before after : Kernel Self Peer} (sound : callers.trace.Sound)
    (room : ¬FillsAndBlocks callers.trace.writer.queued packet before after) :
    ((callers.write packet before after).trace.enqueued ++
        (callers.write packet before after).blocked).Perm
      (packet :: (callers.trace.enqueued ++ callers.blocked)) := by
  obtain ⟨first, intact⟩ := sound.ring
  rcases writePacket_answer intact packet before after with
    ⟨blocked, refused, -, -⟩ | ⟨taken, -, -, ok⟩
  · simp only [write, WriterTrace.step, WriterTrace.record, blocked, refused, if_true,
      Option.isSome_none, Bool.false_eq_true, if_false, List.append_nil]
    rw [← List.append_assoc]
    exact List.perm_append_comm
  · simp only [write, WriterTrace.step, WriterTrace.record, ok room, taken, if_true,
      reduceCtorEq, if_false]
    exact List.Perm.append_right _ List.perm_append_comm

/-- A call with room for its packet keeps every packet in one place. -/
theorem Accounted.step {callers : Callers Self Peer} (accounted : callers.Accounted)
    {event : CallersEvent Self Peer} (enabled : callers.Enabled event)
    (room : callers.RoomToBlock event) : (callers.step event).Accounted := by
  cases event with
  | submit packet before after =>
      let made := { callers with originated := callers.originated ++ [packet] }
      refine ⟨accounted.sound.step (.writePacket packet before after), ?_⟩
      refine (write_balance made accounted.sound room).trans ?_
      exact (accounted.balance.cons packet).trans (List.perm_append_singleton _ _).symm
  | resubmit packet before after =>
      let retried := { callers with blocked := callers.blocked.erase packet }
      refine ⟨accounted.sound.step (.writePacket packet before after), ?_⟩
      refine (write_balance retried accounted.sound room).trans ?_
      refine List.Perm.trans ?_ accounted.balance
      refine List.perm_middle.symm.trans ?_
      exact List.Perm.append_left _ (List.perm_cons_erase enabled.1).symm
  | flush kernel =>
      refine ⟨accounted.sound.step (.flush kernel), ?_⟩
      simpa [Callers.step, WriterTrace.step, WriterTrace.record] using accounted.balance
  | timer readWouldBlock kernel =>
      refine ⟨accounted.sound.step (.timer readWouldBlock kernel), ?_⟩
      simpa [Callers.step, WriterTrace.step, WriterTrace.record] using accounted.balance
  | setWritable => exact ⟨accounted.sound.step .setWritable, accounted.balance⟩

/-- Accounting holds along every run whose steps leave room to block. -/
def accounting : ((@system Self Peer _ _).guarded RoomToBlock).Invariant where
  Holds := Accounted
  initial := by
    rintro _ ⟨writesCache, rfl⟩
    exact ⟨WriterTrace.soundness.initial ⟨writesCache, rfl⟩, .refl _⟩
  preserved := by
    rintro callers event _ accounted ⟨room, enabled, rfl⟩
    exact accounted.step enabled room

/-- In every reachable state the writer's answer is honest exactly where the
packet does not fill the ring against a blocked socket; and in every run all of
whose steps keep to that, no packet is handed to the socket more often than a
connection made it. -/
theorem blocked_not_buffered_iff :
    (∀ trace : WriterTrace Self Peer, WriterTrace.system.Reachable trace →
      ∀ packet before after, trace.writer.AnswerHonest packet before after ↔
        ¬FillsAndBlocks trace.writer.queued packet before after) ∧
    ∀ callers : Callers Self Peer, (system.guarded RoomToBlock).Reachable callers →
      ∀ packet, callers.trace.handed.count packet ≤ callers.originated.count packet := by
  constructor
  · intro trace reachable packet before after
    obtain ⟨_, intact⟩ := (WriterTrace.soundness.of_reachable reachable).ring
    exact answer_honest_iff intact packet before after
  · intro callers reachable packet
    have accounted := accounting.of_reachable reachable
    have enqueued : callers.trace.handed ++ callers.trace.writer.queued =
        callers.trace.enqueued := Fifo.conserved accounted.sound.fifo
    have total := accounted.balance.count_eq packet
    rw [← enqueued] at total
    simp only [List.count_append] at total
    omega

/-- A full ring refuses a packet, which is submitted again after the socket has
taken the others. -/
def refusedRun : List (CallersEvent Unit Unit) :=
  let broken : Kernel Unit Unit := fun _ => .failed 22
  let again : Kernel Unit Unit := fun _ => .again
  let all : Kernel Unit Unit := fun _ => .accepted 31
  (List.replicate 32 (.submit (WriterTrace.probe 0) broken broken)) ++
    [.submit (WriterTrace.probe 1) again again, .setWritable,
     .resubmit (WriterTrace.probe 1) all again, .flush all]

/-- The packet that was refused reaches the socket once. -/
theorem blocked_not_buffered_refusedRun :
    let callers := refusedRun.foldl step (create fun _ _ => 0)
    WriterTrace.probe 1 ∈ callers.trace.handed ∧
      callers.trace.handed.count (WriterTrace.probe 1) ≤
        callers.originated.count (WriterTrace.probe 1) :=
  ⟨by decide +kernel,
    (@blocked_not_buffered_iff Unit Unit _ _).2 _
      ⟨_, refusedRun, ⟨fun _ _ => 0, rfl⟩,
        LabelledSystem.guarded_functional_run (by decide +kernel)⟩ (WriterTrace.probe 1)⟩

/-- The ring filled by one write too many while the socket is blocked. -/
def duplicatingRun : List (CallersEvent Unit Unit) :=
  let again : Kernel Unit Unit := fun _ => .again
  let all : Kernel Unit Unit := fun _ => .accepted 31
  (List.replicate 31 (.submit (WriterTrace.probe 0) again again)) ++
    [.submit (WriterTrace.probe 1) again again, .setWritable,
     .resubmit (WriterTrace.probe 1) all again, .flush all]

/-- The last of 32 packets is answered blocked though it is queued, and reaches
the socket twice. -/
theorem blocked_packet_sent_twice :
    ∃ callers : Callers Unit Unit, system.Reachable callers ∧
      callers.originated.count (WriterTrace.probe 1) = 1 ∧
      callers.trace.handed.count (WriterTrace.probe 1) = 2 :=
  ⟨duplicatingRun.foldl step (create fun _ _ => 0),
    ⟨_, duplicatingRun, ⟨_, rfl⟩, LabelledSystem.functional_run (by decide +kernel)⟩,
    by decide +kernel, by decide +kernel⟩

end Callers

end QuicProxy
