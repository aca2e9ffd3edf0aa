import QuicProxy.PacketWriter.Ring

/-!
# Every accepted packet leaves once and in order

`WriterTrace` adds to the writer what it has accepted and what it has handed to
the socket since it was made. Its abstraction is a first-in first-out outbox
whose waiting items are read from the ring, and every call of the writer is a
few moves of that outbox (`WriterTrace.refines_fifo`).
-/

namespace QuicProxy

variable {Self Peer : Type}

/-- A call made on the writer, with the answers the kernel gives it: by a
connection, by the dispatcher when the socket is writable, or by the timer. -/
inductive WriterEvent (Self Peer : Type) where
  | writePacket (packet : Packet Self Peer) (before after : Kernel Self Peer)
  | flush (kernel : Kernel Self Peer)
  | timer (readWouldBlock : Bool) (kernel : Kernel Self Peer)
  | setWritable

/-- The writer and its history. -/
structure WriterTrace (Self Peer : Type) where
  writer : QuicProxyPacketWriter Self Peer
  enqueued : List (Packet Self Peer)
  handed : List (Packet Self Peer)

namespace WriterTrace

open QuicProxyPacketWriter

/-- A new writer has accepted nothing. -/
def create (writesCache : Nat → Nat → UInt8) : WriterTrace Self Peer :=
  ⟨.create writesCache, [], []⟩

/-- The history after a call that accepted `packets`. -/
def record (trace : WriterTrace Self Peer) (packets : List (Packet Self Peer))
    (outcome : Outcome Self Peer) : WriterTrace Self Peer :=
  ⟨outcome.writer, trace.enqueued ++ packets, trace.handed ++ outcome.handed⟩

/-- A write has accepted its packet exactly where it copied it into a row. -/
def step (trace : WriterTrace Self Peer) : WriterEvent Self Peer → WriterTrace Self Peer
  | .writePacket packet before after =>
      let outcome := trace.writer.writePacket packet before after
      trace.record (if outcome.overwritten.isSome then [packet] else []) outcome
  | .flush kernel => trace.record [] (trace.writer.flush kernel)
  | .timer readWouldBlock kernel =>
      trace.record [] (SendMMsgTimer.onEvent readWouldBlock kernel trace.writer)
  | .setWritable => { trace with writer := trace.writer.setWritable }

/-- Any calls in any order, the kernel answering as it likes. -/
def system : LabelledSystem (WriterTrace Self Peer) (WriterEvent Self Peer) :=
  .functional (fun trace => ∃ writesCache, trace = create writesCache) (fun _ _ => True) step

/-- The outbox the writer stands for. -/
def toFifo (trace : WriterTrace Self Peer) : Fifo (Packet Self Peer) :=
  ⟨trace.enqueued, trace.handed, trace.writer.queued⟩

/-- What holds between two calls. -/
structure Sound (trace : WriterTrace Self Peer) : Prop where
  ring : ∃ first, trace.writer.RingIntact first
  fifo : Fifo.system.Reachable trace.toFifo

/-- Handing over a prefix and erasing it is a move of the outbox. -/
theorem Sound.sent {trace : WriterTrace Self Peer} (sound : trace.Sound)
    {outcome : Outcome Self Peer} (sent : Nat) (blocked : Bool)
    (handed : outcome.handed = trace.writer.queued.take sent)
    (writer : outcome.writer = (trace.writer.eraseFront sent).setWriteBlocked blocked) :
    (trace.record [] outcome).Sound := by
  obtain ⟨first, intact⟩ := sound.ring
  obtain ⟨first', erased⟩ := intact.eraseFront sent
  refine ⟨⟨first', ?_⟩, ?_⟩
  · simpa [record, writer] using erased.setWriteBlocked blocked
  · have moved := Fifo.reachable_send sound.fifo sent
    simpa [toFifo, record, handed, writer, Fifo.send] using moved

/-- A write that finds room is a push between two sends. -/
theorem Sound.accepted {trace : WriterTrace Self Peer} (sound : trace.Sound)
    {packet : Packet Self Peer} {outcome : Outcome Self Peer} {sent more : Nat}
    {blocked : Bool} (room : ¬(trace.writer.eraseFront sent).full)
    (handed : outcome.handed = trace.writer.queued.take sent ++
      ((trace.writer.eraseFront sent).enqueue packet).queued.take more)
    (writer : outcome.writer =
      (((trace.writer.eraseFront sent).enqueue packet).eraseFront more).setWriteBlocked
        blocked) :
    (trace.record [packet] outcome).Sound := by
  obtain ⟨first, intact⟩ := sound.ring
  obtain ⟨middle, erased⟩ := intact.eraseFront sent
  obtain ⟨last, final⟩ := (erased.enqueue room packet).eraseFront more
  refine ⟨⟨last, ?_⟩, ?_⟩
  · simpa [record, writer] using final.setWriteBlocked blocked
  · have queue := erased.queued_enqueue room packet
    have moved := Fifo.reachable_send
      (Fifo.reachable_push (Fifo.reachable_send sound.fifo sent) packet) more
    simpa [toFifo, record, handed, writer, Fifo.send, Fifo.push, queue] using moved

/-- Every call keeps the queue in step with the record. -/
theorem Sound.step {trace : WriterTrace Self Peer} (sound : trace.Sound)
    (event : WriterEvent Self Peer) : (trace.step event).Sound := by
  cases event with
  | writePacket packet before after =>
      obtain ⟨sent, -, ⟨-, outcome⟩ | ⟨room, more, blocked, handed, writer, row⟩⟩ :=
        writePacket_cases trace.writer packet before after
      · simp only [WriterTrace.step, outcome, Option.isSome_none, Bool.false_eq_true, if_false]
        exact sound.sent sent true rfl rfl
      · simp only [WriterTrace.step, row, Option.isSome_some, if_true]
        exact sound.accepted room handed writer
  | flush kernel =>
      obtain ⟨sent, handed, writer⟩ := flush_cases trace.writer kernel
      exact sound.sent sent trace.writer.writeBlocked handed (by rw [writer]; rfl)
  | timer readWouldBlock kernel =>
      cases readWouldBlock with
      | true => exact sound.sent 0 trace.writer.writeBlocked rfl rfl
      | false =>
          obtain ⟨sent, handed, writer⟩ := flush_cases trace.writer kernel
          refine sound.sent sent trace.writer.writeBlocked handed ?_
          simp only [SendMMsgTimer.onEvent, Bool.false_eq_true, if_false, writer]
          rfl
  | setWritable =>
      obtain ⟨first, intact⟩ := sound.ring
      exact ⟨⟨first, intact.setWriteBlocked false⟩, sound.fifo⟩

/-- `Sound` holds along every run. -/
def soundness : (@system Self Peer).Invariant where
  Holds := Sound
  initial := by
    rintro _ ⟨writesCache, rfl⟩
    exact ⟨⟨0, RingIntact.create writesCache⟩, .start rfl⟩
  preserved := by
    rintro trace event _ sound ⟨-, rfl⟩
    exact sound.step event

/-- Whatever the writer does is something a first-in first-out outbox may do. -/
theorem refines_fifo {trace : WriterTrace Self Peer} (reachable : system.Reachable trace) :
    Fifo.system.Reachable trace.toFifo :=
  (soundness.of_reachable reachable).fifo

/-- In every reachable state the queue fits the ring, its entries lie in distinct
rows of it, the row at the write position is nobody's while there is room, a
packet is only ever copied into a row that no entry queued at that moment points
at, and what was handed over followed by what the ring still holds is what was
accepted. -/
theorem ring_integrity {trace : WriterTrace Self Peer} (reachable : system.Reachable trace) :
    trace.writer.bufferedWrites.length ≤ maxCacheBufferWriteSize ∧
      trace.writer.rows.Nodup ∧
      (∀ row ∈ trace.writer.rows, row < maxCacheBufferWriteSize) ∧
      (¬trace.writer.full → trace.writer.nextRow ∉ trace.writer.rows) ∧
      (∀ packet before after row,
        (trace.writer.writePacket packet before after).overwritten = some row →
          row ∉ (trace.writer.firstFlush before).writer.rows) ∧
      trace.handed ++ trace.writer.queued = trace.enqueued := by
  obtain ⟨first, intact⟩ := (soundness.of_reachable reachable).ring
  refine ⟨intact.bounded, intact.rows_nodup, ?_, intact.nextRow_free, ?_,
    Fifo.conserved (refines_fifo reachable)⟩
  · intro row member
    rw [intact.rows] at member
    exact Ring.lt_of_mem_window (by decide) member
  · intro packet before after row copied
    obtain ⟨sent, writerEq, ⟨-, outcome⟩ | ⟨room, -, -, -, -, target⟩⟩ :=
      writePacket_cases trace.writer packet before after
    · rw [outcome] at copied
      cases copied
    · obtain ⟨_, erased⟩ := intact.eraseFront sent
      rw [target] at copied
      rw [writerEq, ← Option.some.inj copied]
      exact erased.nextRow_free room

/-- A one-byte packet, for concrete runs. -/
def probe (byte : UInt8) : Packet Unit Unit := ⟨[byte], (), (), by simp [kEthernetMTU]⟩

/-- Two packets accepted, one of them sent by the timer. -/
def partlySent : List (WriterEvent Unit Unit) :=
  [.writePacket (probe 1) (fun _ => .again) (fun _ => .again),
   .writePacket (probe 2) (fun _ => .again) (fun _ => .again),
   .timer false fun _ => .accepted 0]

/-- After a flush that was sent in part. -/
theorem ring_integrity_partlySent :
    let trace := partlySent.foldl step (create fun _ _ => 0)
    trace.handed = [probe 1] ∧ trace.writer.queued = [probe 2] ∧
      trace.handed ++ trace.writer.queued = trace.enqueued :=
  ⟨by decide, by decide,
    (ring_integrity ⟨_, partlySent, ⟨fun _ _ => 0, rfl⟩,
      LabelledSystem.functional_run (by decide)⟩).2.2.2.2.2⟩

end WriterTrace

end QuicProxy
