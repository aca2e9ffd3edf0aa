import QuicProxy.PacketWriter.Resubmission
import Mathlib.Data.List.DropRight
import Mathlib.Data.List.TakeWhile

/-!
# A socket that refuses some packets for good

One writer serves every connection, so a packet the kernel refuses with a hard
error stands in the way of everybody's. What the writer does under such a socket
is said on the queued packets alone: `offered` is what a flush leaves of them and
`afterWrite` what a write makes of them.
-/

namespace QuicProxy

variable {Self Peer : Type}

section Refusing

variable (refused : Packet Self Peer → Bool) (errno : Nat)

/-- The kernel sends the batch up to the first refused packet and reports the
error where that is the first of the batch. -/
def refusing : Kernel Self Peer := fun batch =>
  match (batch.takeWhile fun packet => !refused packet).length with
  | 0 => .failed errno
  | taken + 1 => .accepted taken

/-- What a flush leaves queued. -/
def offered (queue : List (Packet Self Peer)) : List (Packet Self Peer) :=
  queue.dropWhile fun packet => !refused packet

/-- The queue a packet joins: a full one is offered to the kernel first. -/
def joins (queue : List (Packet Self Peer)) : List (Packet Self Peer) :=
  if maxCacheBufferWriteSize ≤ queue.length then offered refused queue else queue

/-- What a write makes of the queue. -/
def afterWrite (queue : List (Packet Self Peer)) (packet : Packet Self Peer) :
    List (Packet Self Peer) :=
  if maxCacheBufferWriteSize ≤ (joins refused queue).length then joins refused queue
  else if maxCacheBufferWriteSize ≤ (joins refused queue ++ [packet]).length then
    offered refused (joins refused queue ++ [packet])
  else joins refused queue ++ [packet]

variable {refused} {errno}

/-- A refused packet leads the queue. -/
def HeadRefused (refused : Packet Self Peer → Bool) (queue : List (Packet Self Peer)) : Prop :=
  ∃ packet rest, queue = packet :: rest ∧ refused packet = true

/-- A flush leaves a queue with a refused head as it is. -/
theorem HeadRefused.offered {queue : List (Packet Self Peer)} (head : HeadRefused refused queue) :
    offered refused queue = queue := by
  obtain ⟨packet, rest, rfl, bad⟩ := head
  simp [QuicProxy.offered, bad]

/-- Packets join behind a refused head. -/
theorem HeadRefused.append {queue : List (Packet Self Peer)} (head : HeadRefused refused queue)
    (packet : Packet Self Peer) : HeadRefused refused (queue ++ [packet]) := by
  obtain ⟨first, rest, rfl, bad⟩ := head
  exact ⟨first, rest ++ [packet], rfl, bad⟩

/-- A flush clears a queue without refused packets. -/
theorem offered_eq_nil {queue : List (Packet Self Peer)}
    (clean : ∀ packet ∈ queue, refused packet = false) : offered refused queue = [] := by
  simpa [offered, List.dropWhile_eq_nil_iff] using clean

/-- A flush stops at the first refused packet there is. -/
theorem headRefused_offered {queue : List (Packet Self Peer)} {packet : Packet Self Peer}
    (member : packet ∈ queue) (bad : refused packet = true) :
    HeadRefused refused (offered refused queue) := by
  induction queue with
  | nil => cases member
  | cons first rest ih =>
      by_cases firstBad : refused first
      · exact ⟨first, rest, by simp [offered, firstBad], firstBad⟩
      · have inRest : packet ∈ rest := by
          rcases List.mem_cons.mp member with rfl | inRest
          · exact absurd bad firstBad
          · exact inRest
        simpa [offered, firstBad] using ih inRest

/-- What a flush leaves, the next one leaves too and sends nothing of. -/
theorem flush_again (queue : List (Packet Self Peer)) :
    offered refused (offered refused queue) = offered refused queue ∧
      (offered refused queue).takeWhile (fun packet => !refused packet) = [] := by
  refine ⟨List.dropWhile_idempotent _ queue, ?_⟩
  induction queue with
  | nil => rfl
  | cons first rest ih =>
      by_cases bad : refused first
      · simp [offered, bad]
      · simpa [offered, bad] using ih

/-- A refused head keeps a full queue full. -/
theorem HeadRefused.joins {queue : List (Packet Self Peer)} (head : HeadRefused refused queue) :
    joins refused queue = queue := by
  rw [QuicProxy.joins, head.offered, ite_self]

/-- Behind a refused head a write only appends, and only while there is room. -/
theorem HeadRefused.afterWrite {queue : List (Packet Self Peer)}
    (head : HeadRefused refused queue) (packet : Packet Self Peer) :
    afterWrite refused queue packet =
      if maxCacheBufferWriteSize ≤ queue.length then queue else queue ++ [packet] := by
  rw [QuicProxy.afterWrite, head.joins, (head.append packet).offered, ite_self]

/-- What a flush leaves was queued before. -/
theorem mem_of_mem_offered {queue : List (Packet Self Peer)} {packet : Packet Self Peer}
    (member : packet ∈ offered refused queue) : packet ∈ queue :=
  (List.dropWhile_sublist _).subset member

/-- What a packet joins was queued before. -/
theorem mem_of_mem_joins {queue : List (Packet Self Peer)} {packet : Packet Self Peer}
    (member : packet ∈ joins refused queue) : packet ∈ queue := by
  unfold joins at member
  split at member
  · exact mem_of_mem_offered member
  · exact member

/-- A write brings nothing into the queue but its packet. -/
theorem mem_afterWrite {queue : List (Packet Self Peer)} {packet other : Packet Self Peer}
    (member : other ∈ afterWrite refused queue packet) : other ∈ queue ∨ other = packet := by
  unfold afterWrite at member
  split at member
  · exact .inl (mem_of_mem_joins member)
  · have grown : other ∈ joins refused queue ++ [packet] := by
      split at member
      · exact mem_of_mem_offered member
      · exact member
    rcases List.mem_append.mp grown with old | new
    · exact .inl (mem_of_mem_joins old)
    · exact .inr (List.mem_singleton.mp new)

/-! ## The writer under such a socket -/

namespace QuicProxyPacketWriter

/-- The kernel takes exactly the packets before the first refused one. -/
theorem sent_refusing (batch : List (Packet Self Peer)) :
    (writeMultiplePackets batch (refusing refused errno batch)).2 =
      (batch.takeWhile fun packet => !refused packet).length := by
  have shorter : (batch.takeWhile fun packet => !refused packet).length ≤ batch.length :=
    (List.takeWhile_sublist _).length_le
  unfold refusing
  split
  · next none => simp [writeMultiplePackets, none]
  · next taken some =>
      simp only [writeMultiplePackets, some]
      omega

/-- The kernel takes the packets before the first refused one. -/
theorem take_sent_refusing (batch : List (Packet Self Peer)) :
    batch.take (writeMultiplePackets batch (refusing refused errno batch)).2 =
      batch.takeWhile fun packet => !refused packet := by
  rw [sent_refusing]
  exact (List.prefix_iff_eq_take.mp (List.takeWhile_prefix _)).symm

/-- Dropping what the kernel took is dropping up to the first refused packet. -/
theorem drop_sent_refusing (batch : List (Packet Self Peer)) :
    batch.drop (writeMultiplePackets batch (refusing refused errno batch)).2 =
      offered refused batch := by
  have whole : batch.takeWhile (fun packet => !refused packet) ++
      batch.drop (writeMultiplePackets batch (refusing refused errno batch)).2 =
        batch.takeWhile (fun packet => !refused packet) ++ offered refused batch := by
    conv_lhs => rw [← @take_sent_refusing _ _ refused errno]
    rw [List.take_append_drop]
    exact List.takeWhile_append_dropWhile.symm
  exact List.append_cancel_left whole

/-- A flush hands over the packets before the first refused one and keeps the others. -/
theorem flush_refusing (writer : QuicProxyPacketWriter Self Peer) :
    (writer.flush (refusing refused errno)).writer.queued = offered refused writer.queued ∧
      (writer.flush (refusing refused errno)).handed =
        writer.queued.takeWhile fun packet => !refused packet := by
  unfold flush
  by_cases empty : writer.bufferedWrites = []
  · simp [empty, queued, offered]
  · simp only [empty, if_false, queued_eraseFront]
    exact ⟨drop_sent_refusing _, take_sent_refusing _⟩

/-- A full queue is flushed before the packet joins. -/
theorem queueJoined_refusing (queue : List (Packet Self Peer)) :
    queueJoined queue (refusing refused errno) = joins refused queue := by
  rw [queueJoined, drop_sent_refusing, joins]

/-- A refusal is no blocking, so no write fills the queue and then blocks. -/
theorem not_fillsAndBlocks_refusing (queue : List (Packet Self Peer))
    (packet : Packet Self Peer) (before : Kernel Self Peer) :
    ¬FillsAndBlocks queue packet before (refusing refused errno) := by
  rintro ⟨-, blocks⟩
  unfold refusing at blocks
  split at blocks <;> cases blocks

/-- After the copy, a queue that has become full is offered to the kernel. -/
theorem queued_finishWrite_refusing (writer : QuicProxyPacketWriter Self Peer)
    (packet : Packet Self Peer) (handed : List (Packet Self Peer)) (row : Nat) :
    (writer.finishWrite packet (refusing refused errno) handed row).writer.queued =
      if maxCacheBufferWriteSize ≤ writer.queued.length then offered refused writer.queued
      else writer.queued := by
  unfold finishWrite
  by_cases isFull : writer.full
  · rw [if_pos isFull, if_pos (full_iff.mp isFull)]
    simp only
    split
    · exact (flush_refusing writer).1
    · exact (flush_refusing writer).1
  · rw [if_neg isFull, if_neg (full_iff.not.mp isFull)]

/-- A write does to the queue what `afterWrite` says and is blocked exactly where
the queue it would join is full. -/
theorem writePacket_refusing {writer : QuicProxyPacketWriter Self Peer} {first : Nat}
    (intact : writer.RingIntact first) (packet : Packet Self Peer) :
    let outcome := writer.writePacket packet (refusing refused errno) (refusing refused errno)
    outcome.writer.queued = afterWrite refused writer.queued packet ∧
      (outcome.result.status = .blocked ↔
        maxCacheBufferWriteSize ≤ (joins refused writer.queued).length) := by
  have joined : (writer.firstFlush (refusing refused errno)).writer.queued =
      joins refused writer.queued := by
    rw [queued_firstFlush, queueJoined_refusing]
  obtain ⟨sent, -, writerEq⟩ := firstFlush_cases writer (refusing refused errno)
  obtain ⟨_, erased⟩ := intact.eraseFront sent
  rw [← writerEq] at erased
  unfold writePacket afterWrite
  rw [← joined]
  by_cases stuck : (writer.firstFlush (refusing refused errno)).writer.full
  · simp only [if_pos stuck, full_iff.mp stuck, queued_setWriteBlocked, if_true, and_self]
  · have room := full_iff.not.mp stuck
    have status := (finishWrite_status
      ((writer.firstFlush (refusing refused errno)).writer.enqueue packet) packet
      (refusing refused errno) (writer.firstFlush (refusing refused errno)).handed
      (writer.firstFlush (refusing refused errno)).writer.nextRow).2
    rw [copied_blocks_iff erased stuck] at status
    simp only [if_neg stuck, room, queued_finishWrite_refusing, if_false, reduceCtorEq,
      erased.queued_enqueue stuck packet, status (not_fillsAndBlocks_refusing _ _ _), and_self]

end QuicProxyPacketWriter

end Refusing

end QuicProxy
