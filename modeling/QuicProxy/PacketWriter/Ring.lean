import QuicProxy.PacketWriter.Writer
import QuicProxy.Std.Fifo
import QuicProxy.Std.RingWindow

/-!
# The ring of the packet writer

Queue entries point into a ring whose free rows nobody records. What keeps them
apart is that the queue always holds the latest copies: `RingIntact` says its
rows are a window that ends at the write position. Copying a packet (`enqueue`)
and erasing from the front (`eraseFront`) are the only two things a call does to
the queue, each keeps the window, and so the writer refines the first-in
first-out outbox of `QuicProxy.Std.Fifo` (`WriterTrace.refines_fifo`).
-/

namespace QuicProxy

variable {Self Peer : Type}

namespace QuicProxyPacketWriter

/-- The row each queue entry points at. -/
def rows (writer : QuicProxyPacketWriter Self Peer) : List Nat :=
  writer.bufferedWrites.map BufferedWrite.buffer

/-- The queue holds the copies numbered from `first` up to the write position. -/
structure RingIntact (writer : QuicProxyPacketWriter Self Peer) (first : Nat) : Prop where
  rows : writer.rows =
    Ring.window maxCacheBufferWriteSize first writer.bufferedWrites.length
  pos : writer.writesCachePos = (first + writer.bufferedWrites.length) % sizeTModulus
  bounded : writer.bufferedWrites.length ≤ maxCacheBufferWriteSize

/-! ## The two queue operations -/

@[simp] theorem bufferedWrites_eraseFront (writer : QuicProxyPacketWriter Self Peer) (sent : Nat) :
    (writer.eraseFront sent).bufferedWrites = writer.bufferedWrites.drop sent := rfl

@[simp] theorem queued_eraseFront (writer : QuicProxyPacketWriter Self Peer) (sent : Nat) :
    (writer.eraseFront sent).queued = writer.queued.drop sent := by
  simp only [queued, bufferedWrites_eraseFront, List.map_drop]
  rfl

@[simp] theorem queued_setWriteBlocked (writer : QuicProxyPacketWriter Self Peer)
    (blocked : Bool) : (writer.setWriteBlocked blocked).queued = writer.queued := rfl

@[simp] theorem length_queued (writer : QuicProxyPacketWriter Self Peer) :
    writer.queued.length = writer.bufferedWrites.length := by
  simp [queued]

@[simp] theorem length_enqueue (writer : QuicProxyPacketWriter Self Peer)
    (packet : Packet Self Peer) :
    (writer.enqueue packet).bufferedWrites.length = writer.bufferedWrites.length + 1 := by
  simp [enqueue]

/-- The queue has reached the size of the cache. -/
theorem full_iff {writer : QuicProxyPacketWriter Self Peer} :
    writer.full ↔ maxCacheBufferWriteSize ≤ writer.queued.length := by
  rw [length_queued]
  rfl

/-- An empty ring is intact. -/
theorem RingIntact.create (writesCache : Nat → Nat → UInt8) :
    (create writesCache : QuicProxyPacketWriter Self Peer).RingIntact 0 :=
  ⟨rfl, rfl, Nat.zero_le _⟩

/-- The flag is no part of the ring. -/
theorem RingIntact.setWriteBlocked {writer : QuicProxyPacketWriter Self Peer} {first : Nat}
    (intact : writer.RingIntact first) (blocked : Bool) :
    (writer.setWriteBlocked blocked).RingIntact first :=
  ⟨intact.rows, intact.pos, intact.bounded⟩

/-- Erasing at most what is queued keeps the window; more erases nothing more. -/
theorem RingIntact.eraseFront {writer : QuicProxyPacketWriter Self Peer} {first : Nat}
    (intact : writer.RingIntact first) (sent : Nat) :
    ∃ first', (writer.eraseFront sent).RingIntact first' := by
  have bounded := intact.bounded
  let gone := min sent writer.bufferedWrites.length
  have sameDrop : writer.bufferedWrites.drop sent = writer.bufferedWrites.drop gone := by
    rcases Nat.le_total sent writer.bufferedWrites.length with le | le
    · simp [gone, Nat.min_eq_left le]
    · simp [gone, Nat.min_eq_right le, List.drop_eq_nil_of_le le]
  have within : gone ≤ writer.bufferedWrites.length := Nat.min_le_right _ _
  refine ⟨first + gone, ?_, ?_, ?_⟩
  · have rows := intact.rows
    simp only [QuicProxyPacketWriter.rows] at rows ⊢
    rw [bufferedWrites_eraseFront, sameDrop, List.map_drop, rows, Ring.drop_window,
      List.length_drop]
  · rw [bufferedWrites_eraseFront, sameDrop, List.length_drop]
    have total : first + gone + (writer.bufferedWrites.length - gone) =
        first + writer.bufferedWrites.length := by omega
    rw [total]
    exact intact.pos
  · rw [bufferedWrites_eraseFront, List.length_drop]
    omega

/-- The row of the write position is the slot that follows the window, also once
the `size_t` has wrapped. -/
theorem RingIntact.nextRow_eq {writer : QuicProxyPacketWriter Self Peer} {first : Nat}
    (intact : writer.RingIntact first) :
    writer.nextRow = (first + writer.bufferedWrites.length) % maxCacheBufferWriteSize := by
  have divides : maxCacheBufferWriteSize ∣ sizeTModulus := by decide
  rw [nextRow, intact.pos, Ring.wrapped_slot divides]

/-- No two queued packets share a row. -/
theorem RingIntact.rows_nodup {writer : QuicProxyPacketWriter Self Peer} {first : Nat}
    (intact : writer.RingIntact first) : writer.rows.Nodup := by
  rw [intact.rows]
  exact Ring.window_nodup intact.bounded

/-- While there is room, the row about to be overwritten is nobody's. -/
theorem RingIntact.nextRow_free {writer : QuicProxyPacketWriter Self Peer} {first : Nat}
    (intact : writer.RingIntact first) (room : ¬writer.full) :
    writer.nextRow ∉ writer.rows := by
  rw [intact.nextRow_eq, intact.rows]
  exact Ring.next_not_mem_window (Nat.lt_of_not_le room)

/-- A packet goes to a free row. -/
theorem RingIntact.enqueue {writer : QuicProxyPacketWriter Self Peer} {first : Nat}
    (intact : writer.RingIntact first) (room : ¬writer.full) (packet : Packet Self Peer) :
    (writer.enqueue packet).RingIntact first := by
  refine ⟨?_, ?_, ?_⟩
  · have rows := intact.rows
    simp only [QuicProxyPacketWriter.rows] at rows
    rw [length_enqueue, ← Ring.window_append_next, ← rows, ← intact.nextRow_eq]
    simp [QuicProxyPacketWriter.rows, QuicProxyPacketWriter.enqueue]
  · have advanced : (writer.enqueue packet).writesCachePos =
        (writer.writesCachePos + 1) % sizeTModulus := rfl
    rw [advanced, length_enqueue, intact.pos, Nat.mod_add_mod, Nat.add_assoc]
  · rw [length_enqueue]
    exact Nat.lt_of_not_le room

/-- Reading a row back gives the packet that was copied into it. -/
theorem read_copied (writer : QuicProxyPacketWriter Self Peer) (packet : Packet Self Peer) :
    (writer.enqueue packet).read
      ⟨writer.nextRow, packet.buffer.length, packet.selfAddress, packet.peerAddress,
        packet.fits⟩ = packet := by
  have bytes : (List.range packet.buffer.length).map
      ((writer.enqueue packet).writesCache writer.nextRow) = packet.buffer := by
    apply List.ext_getElem
    · simp
    · intro column inRange inBuffer
      simp [QuicProxyPacketWriter.enqueue, List.getElem?_eq_getElem inBuffer]
  cases packet
  simp only [read, Packet.mk.injEq, and_true]
  exact bytes

/-- Copying a packet changes no other row. -/
theorem read_enqueue_of_ne {writer : QuicProxyPacketWriter Self Peer}
    {entry : BufferedWrite Self Peer} (other : entry.buffer ≠ writer.nextRow)
    (packet : Packet Self Peer) : (writer.enqueue packet).read entry = writer.read entry := by
  simp [read, QuicProxyPacketWriter.enqueue, other]

/-- With room in the ring, copying a packet appends it to what is queued and
changes nothing that is. -/
theorem RingIntact.queued_enqueue {writer : QuicProxyPacketWriter Self Peer} {first : Nat}
    (intact : writer.RingIntact first) (room : ¬writer.full) (packet : Packet Self Peer) :
    (writer.enqueue packet).queued = writer.queued ++ [packet] := by
  have free := intact.nextRow_free room
  have kept : writer.bufferedWrites.map (writer.enqueue packet).read = writer.queued := by
    refine List.map_congr_left fun entry member => ?_
    refine read_enqueue_of_ne (fun same => free ?_) packet
    exact same ▸ List.mem_map_of_mem member
  calc (writer.enqueue packet).queued
      = writer.bufferedWrites.map (writer.enqueue packet).read ++
          [(writer.enqueue packet).read ⟨writer.nextRow, packet.buffer.length,
            packet.selfAddress, packet.peerAddress, packet.fits⟩] := by
        simp [queued, QuicProxyPacketWriter.enqueue]
    _ = writer.queued ++ [packet] := by rw [kept, read_copied]

/-! ## What one call can do -/

/-- `Flush` hands over a prefix of the queue, erases it and does nothing else. -/
theorem flush_cases (writer : QuicProxyPacketWriter Self Peer) (kernel : Kernel Self Peer) :
    ∃ sent, (writer.flush kernel).handed = writer.queued.take sent ∧
      (writer.flush kernel).writer = writer.eraseFront sent := by
  unfold flush
  split
  · exact ⟨0, by simp, rfl⟩
  · exact ⟨_, rfl, rfl⟩

/-- What the first flush can do: it sends a front of the queue, or nothing. -/
theorem firstFlush_cases (writer : QuicProxyPacketWriter Self Peer)
    (kernel : Kernel Self Peer) :
    ∃ sent, (writer.firstFlush kernel).handed = writer.queued.take sent ∧
      (writer.firstFlush kernel).writer = writer.eraseFront sent := by
  unfold firstFlush
  split
  · exact flush_cases writer kernel
  · exact ⟨0, by simp, rfl⟩

/-- What a write can do behind the copy. -/
theorem finishWrite_cases (writer : QuicProxyPacketWriter Self Peer)
    (packet : Packet Self Peer) (kernel : Kernel Self Peer) (handed : List (Packet Self Peer))
    (row : Nat) :
    ∃ sent blocked,
      (writer.finishWrite packet kernel handed row).handed =
        handed ++ writer.queued.take sent ∧
      (writer.finishWrite packet kernel handed row).writer =
        (writer.eraseFront sent).setWriteBlocked blocked ∧
      (writer.finishWrite packet kernel handed row).overwritten = some row := by
  unfold finishWrite
  split
  · obtain ⟨sent, handedEq, writerEq⟩ := flush_cases writer kernel
    simp only
    split
    · exact ⟨sent, true, by rw [handedEq], by rw [writerEq], rfl⟩
    · exact ⟨sent, writer.writeBlocked, by rw [handedEq], by rw [writerEq]; rfl, rfl⟩
  · exact ⟨0, writer.writeBlocked, by simp, rfl, rfl⟩

/-- Either the queue stayed full and the packet was refused, or there was room,
the packet was copied into the free row and at most one more prefix was sent. -/
theorem writePacket_cases (writer : QuicProxyPacketWriter Self Peer)
    (packet : Packet Self Peer) (before after : Kernel Self Peer) :
    ∃ sent, (writer.firstFlush before).writer = writer.eraseFront sent ∧
      (((writer.eraseFront sent).full ∧
          writer.writePacket packet before after =
            ⟨⟨.blocked, eagain⟩, writer.queued.take sent, none,
              (writer.eraseFront sent).setWriteBlocked true⟩) ∨
        (¬(writer.eraseFront sent).full ∧ ∃ more blocked,
          (writer.writePacket packet before after).handed = writer.queued.take sent ++
            ((writer.eraseFront sent).enqueue packet).queued.take more ∧
          (writer.writePacket packet before after).writer =
            (((writer.eraseFront sent).enqueue packet).eraseFront more).setWriteBlocked
              blocked ∧
          (writer.writePacket packet before after).overwritten =
            some (writer.eraseFront sent).nextRow)) := by
  obtain ⟨sent, handedEq, writerEq⟩ := firstFlush_cases writer before
  refine ⟨sent, writerEq, ?_⟩
  unfold writePacket
  simp only [handedEq, writerEq]
  by_cases stuck : (writer.eraseFront sent).full
  · exact .inl ⟨stuck, by simp only [if_pos stuck]⟩
  · refine .inr ⟨stuck, ?_⟩
    simp only [if_neg stuck]
    exact finishWrite_cases _ packet after _ _

end QuicProxyPacketWriter

end QuicProxy
