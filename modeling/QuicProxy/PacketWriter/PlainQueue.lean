import QuicProxy.PacketWriter.Delivery

/-!
# The ring does not show

`PlainWriter` is what `QuicProxyPacketWriter` would be if its queue held the packets
themselves: no ring, no rows and no write position. The ring saves the allocation and is not
to be noticed otherwise. `call_plain` says so of one call, `plain_answers` of every run: the
results, what goes to the socket and `IsWriteBlocked` are the same throughout.
-/

namespace QuicProxy

variable {Self Peer : Type}

/-- A writer that queues packets. -/
structure PlainWriter (Self Peer : Type) where
  waiting : List (Packet Self Peer)
  writeBlocked : Bool

namespace PlainWriter

/-- What one call did. -/
structure Outcome (Self Peer : Type) where
  result : WriteResult
  handed : List (Packet Self Peer)
  writer : PlainWriter Self Peer

/-- Nothing waits. -/
def create : PlainWriter Self Peer := ⟨[], false⟩

/-- The front of the queue goes to the kernel, as far as it takes it. -/
def flush (kernel : Kernel Self Peer) (writer : PlainWriter Self Peer) : Outcome Self Peer :=
  if writer.waiting = [] then
    ⟨⟨.ok, 0⟩, [], writer⟩
  else
    let (result, sent) := writeMultiplePackets writer.waiting (kernel writer.waiting)
    ⟨result, writer.waiting.take sent, { writer with waiting := writer.waiting.drop sent }⟩

/-- The queue has reached the size of the cache. -/
def full (writer : PlainWriter Self Peer) : Prop :=
  maxCacheBufferWriteSize ≤ writer.waiting.length

instance (writer : PlainWriter Self Peer) : Decidable writer.full :=
  inferInstanceAs (Decidable (_ ≤ _))

/-- A full queue is flushed before a packet joins it. -/
def firstFlush (kernel : Kernel Self Peer) (writer : PlainWriter Self Peer) :
    Outcome Self Peer :=
  if writer.full then writer.flush kernel else ⟨⟨.ok, 0⟩, [], writer⟩

/-- A queue that has become full is sent at once. -/
def finishWrite (packet : Packet Self Peer) (kernel : Kernel Self Peer)
    (handed : List (Packet Self Peer)) (writer : PlainWriter Self Peer) : Outcome Self Peer :=
  if writer.full then
    let sent := writer.flush kernel
    if isWriteBlockedStatus sent.result.status then
      ⟨sent.result, handed ++ sent.handed, { sent.writer with writeBlocked := true }⟩
    else
      ⟨⟨.ok, packet.buffer.length⟩, handed ++ sent.handed, sent.writer⟩
  else
    ⟨⟨.ok, packet.buffer.length⟩, handed, writer⟩

/-- A packet joins the queue, unless that stays full. -/
def writePacket (packet : Packet Self Peer) (before after : Kernel Self Peer)
    (writer : PlainWriter Self Peer) : Outcome Self Peer :=
  let first := writer.firstFlush before
  if first.writer.full then
    ⟨⟨.blocked, eagain⟩, first.handed, { first.writer with writeBlocked := true }⟩
  else
    { first.writer with waiting := first.writer.waiting ++ [packet] }.finishWrite packet after
      first.handed

/-- A call; one that returns nothing counts as ok. -/
def call (writer : PlainWriter Self Peer) : WriterEvent Self Peer → Outcome Self Peer
  | .writePacket packet before after => writer.writePacket packet before after
  | .flush kernel => writer.flush kernel
  | .timer readWouldBlock kernel =>
      if readWouldBlock then ⟨⟨.ok, 0⟩, [], writer⟩ else writer.flush kernel
  | .setWritable => ⟨⟨.ok, 0⟩, [], { writer with writeBlocked := false }⟩

end PlainWriter

/-- What can be noticed of a call: what it returns, what goes to the socket, and whether the
writer counts as blocked afterwards. -/
structure Answer (Self Peer : Type) where
  result : WriteResult
  handed : List (Packet Self Peer)
  isWriteBlocked : Bool

/-- The answers of a run. -/
def PlainWriter.answers (writer : PlainWriter Self Peer) :
    List (WriterEvent Self Peer) → List (Answer Self Peer)
  | [] => []
  | event :: rest =>
      let outcome := writer.call event
      ⟨outcome.result, outcome.handed, outcome.writer.writeBlocked⟩ ::
        outcome.writer.answers rest

namespace QuicProxyPacketWriter

/-- A call of the writer. -/
def call (writer : QuicProxyPacketWriter Self Peer) : WriterEvent Self Peer → Outcome Self Peer
  | .writePacket packet before after => writer.writePacket packet before after
  | .flush kernel => writer.flush kernel
  | .timer readWouldBlock kernel => SendMMsgTimer.onEvent readWouldBlock kernel writer
  | .setWritable => ⟨⟨.ok, 0⟩, [], none, writer.setWritable⟩

/-- The answers of a run of the writer in `src/`. -/
def answers (writer : QuicProxyPacketWriter Self Peer) :
    List (WriterEvent Self Peer) → List (Answer Self Peer)
  | [] => []
  | event :: rest =>
      let outcome := writer.call event
      ⟨outcome.result, outcome.handed, outcome.writer.writeBlocked⟩ ::
        outcome.writer.answers rest

/-- The writer without its ring. -/
def plain (writer : QuicProxyPacketWriter Self Peer) : PlainWriter Self Peer :=
  ⟨writer.queued, writer.writeBlocked⟩

/-- An outcome without the ring. -/
def Outcome.plain (outcome : Outcome Self Peer) : PlainWriter.Outcome Self Peer :=
  ⟨outcome.result, outcome.handed, outcome.writer.plain⟩

variable {writer : QuicProxyPacketWriter Self Peer} {first : Nat}

/-! ## One call -/

/-- The ring is full exactly when the queue is. -/
theorem full_plain (writer : QuicProxyPacketWriter Self Peer) :
    writer.plain.full ↔ writer.full :=
  full_iff.symm

/-- A flush of the ring is a flush of the queue. -/
theorem flush_plain (writer : QuicProxyPacketWriter Self Peer) (kernel : Kernel Self Peer) :
    (writer.flush kernel).plain = writer.plain.flush kernel := by
  have empty : writer.bufferedWrites = [] ↔ writer.plain.waiting = [] := by
    rw [plain, queued, List.map_eq_nil_iff]
  unfold flush PlainWriter.flush
  simp only [empty]
  split
  · rfl
  · simp only [Outcome.plain, plain, queued_eraseFront]
    rfl

/-- The first flush is the same. -/
theorem firstFlush_plain (writer : QuicProxyPacketWriter Self Peer)
    (kernel : Kernel Self Peer) :
    (writer.firstFlush kernel).plain = writer.plain.firstFlush kernel := by
  unfold firstFlush PlainWriter.firstFlush
  simp only [full_plain]
  split
  · exact flush_plain writer kernel
  · rfl

/-- What follows the copy is the same. -/
theorem finishWrite_plain (writer : QuicProxyPacketWriter Self Peer)
    (packet : Packet Self Peer) (kernel : Kernel Self Peer) (handed : List (Packet Self Peer))
    (row : Nat) :
    (writer.finishWrite packet kernel handed row).plain =
      writer.plain.finishWrite packet kernel handed := by
  have status : (writer.flush kernel).plain.result = (writer.flush kernel).result := rfl
  unfold finishWrite PlainWriter.finishWrite
  simp only [full_plain, ← flush_plain, status]
  split
  · split
    · rfl
    · rfl
  · rfl

/-- A copied packet joins the queue; the ring keeps those before it. -/
theorem RingIntact.plain_enqueue (intact : writer.RingIntact first) (room : ¬ writer.full)
    (packet : Packet Self Peer) :
    (writer.enqueue packet).plain =
      { writer.plain with waiting := writer.plain.waiting ++ [packet] } := by
  simp only [plain, intact.queued_enqueue room packet]
  rfl

/-- A write into an intact ring is a write to the queue. -/
theorem writePacket_plain (intact : writer.RingIntact first) (packet : Packet Self Peer)
    (before after : Kernel Self Peer) :
    (writer.writePacket packet before after).plain =
      writer.plain.writePacket packet before after := by
  have flushed := firstFlush_plain writer before
  obtain ⟨sent, -, erased⟩ := firstFlush_cases writer before
  obtain ⟨start, intactFirst⟩ := intact.eraseFront sent
  rw [← erased] at intactFirst
  have handed : (writer.firstFlush before).plain.handed = (writer.firstFlush before).handed := rfl
  have left : (writer.firstFlush before).plain.writer =
      (writer.firstFlush before).writer.plain := rfl
  unfold writePacket PlainWriter.writePacket
  simp only [← flushed, handed, left, full_plain]
  split
  · rfl
  · next room => rw [finishWrite_plain, intactFirst.plain_enqueue room]

/-- A call returns, sends and leaves what it does with a plain queue. -/
theorem call_plain (intact : writer.RingIntact first) (event : WriterEvent Self Peer) :
    (writer.call event).plain = writer.plain.call event := by
  cases event with
  | writePacket packet before after => exact writePacket_plain intact packet before after
  | flush kernel => exact flush_plain writer kernel
  | timer readWouldBlock kernel =>
      cases readWouldBlock with
      | true => rfl
      | false => exact flush_plain writer kernel
  | setWritable => rfl

/-! ## Every run -/

/-- Every call keeps the ring intact. -/
theorem call_intact (intact : writer.RingIntact first) (event : WriterEvent Self Peer) :
    ∃ first', (writer.call event).writer.RingIntact first' := by
  have flushed (kernel : Kernel Self Peer) :
      ∃ first', (writer.flush kernel).writer.RingIntact first' := by
    obtain ⟨sent, -, erased⟩ := flush_cases writer kernel
    rw [erased]
    exact intact.eraseFront sent
  cases event with
  | writePacket packet before after =>
      obtain ⟨sent, -, ⟨-, outcome⟩ | ⟨room, more, blocked, -, left, -⟩⟩ :=
        writePacket_cases writer packet before after
      · obtain ⟨first', erased⟩ := intact.eraseFront sent
        rw [call, outcome]
        exact ⟨first', erased.setWriteBlocked true⟩
      · obtain ⟨middle, erased⟩ := intact.eraseFront sent
        obtain ⟨last, final⟩ := (erased.enqueue room packet).eraseFront more
        rw [call, left]
        exact ⟨last, final.setWriteBlocked blocked⟩
  | flush kernel => exact flushed kernel
  | timer readWouldBlock kernel =>
      cases readWouldBlock with
      | true => exact ⟨first, intact⟩
      | false => exact flushed kernel
  | setWritable => exact ⟨first, intact.setWriteBlocked false⟩

/-- As long as the ring is intact, both answer alike. -/
theorem RingIntact.same_answers (intact : writer.RingIntact first)
    (events : List (WriterEvent Self Peer)) :
    writer.answers events = writer.plain.answers events := by
  induction events generalizing writer first with
  | nil => rfl
  | cons event rest ih =>
      obtain ⟨first', next⟩ := call_intact intact event
      have same := call_plain intact event
      rw [answers, PlainWriter.answers, ← same]
      exact congrArg (List.cons _) (ih next)

/-- A writer that has just been made, whatever its ring holds, answers every sequence of
calls and kernel replies as one with a plain queue. -/
theorem plain_answers (writesCache : Nat → Nat → UInt8)
    (events : List (WriterEvent Self Peer)) :
    (create writesCache : QuicProxyPacketWriter Self Peer).answers events =
      PlainWriter.create.answers events :=
  (RingIntact.create writesCache).same_answers events

end QuicProxyPacketWriter

end QuicProxy
