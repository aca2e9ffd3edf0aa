import QuicProxy.PacketWriter.Refusal

/-!
# What a refused packet does to the others

`Flush` leaves a refused head where it is and a full queue behind it refuses every write, so
the others get through exactly where no refused packet is queued (`refusal_isolated_iff`).
-/

namespace QuicProxy

variable {Self Peer : Type}

namespace WriterTrace

open QuicProxyPacketWriter

variable (refused : Packet Self Peer → Bool) (errno : Nat)

/-- A write and a flush that meet the refusing socket. -/
def writeEvent (packet : Packet Self Peer) : WriterEvent Self Peer :=
  .writePacket packet (refusing refused errno) (refusing refused errno)

/-- A flush that meets the refusing socket. -/
def flushEvent : WriterEvent Self Peer := .flush (refusing refused errno)

/-- As many flushes as packets are queued. -/
def drained (trace : WriterTrace Self Peer) : WriterTrace Self Peer :=
  (List.replicate trace.writer.queued.length (flushEvent refused errno)).foldl step trace

/-- Whatever is written from now on is answered `WRITE_STATUS_BLOCKED`. -/
def Stuck (trace : WriterTrace Self Peer) : Prop :=
  ∀ (packets : List (Packet Self Peer)) (packet : Packet Self Peer),
    (((packets.map (writeEvent refused errno)).foldl step trace).writer.writePacket packet
      (refusing refused errno) (refusing refused errno)).result.status = .blocked

/-- The packets the socket takes get through: the flushes hand over each of those
queued, and writing more of them, with flushes in between, never ends in a state
where everything is blocked. -/
def RefusalIsolated (trace : WriterTrace Self Peer) : Prop :=
  (∃ newly, (trace.drained refused errno).handed = trace.handed ++ newly ∧
    (trace.writer.queued.filter fun packet => !refused packet).Sublist newly) ∧
  ∀ later : List (WriterEvent Self Peer),
    (∀ event ∈ later, event = flushEvent refused errno ∨
      ∃ packet, refused packet = false ∧ event = writeEvent refused errno packet) →
    ¬(later.foldl step (trace.drained refused errno)).Stuck refused errno

variable {refused} {errno} {trace : WriterTrace Self Peer}

/-- A flush leaves the queue from its first refused packet on. -/
theorem queued_flushEvent :
    (trace.step (flushEvent refused errno)).writer.queued =
      offered refused trace.writer.queued :=
  (flush_refusing trace.writer).1

/-- A flush hands over what stands before the first refused packet. -/
theorem handed_flushEvent :
    (trace.step (flushEvent refused errno)).handed =
      trace.handed ++ trace.writer.queued.takeWhile fun packet => !refused packet := by
  rw [← (@flush_refusing _ _ refused errno trace.writer).2]
  rfl

/-- A write joins the queue the refusals leave. -/
theorem Sound.queued_writeEvent (sound : trace.Sound) (packet : Packet Self Peer) :
    (trace.step (writeEvent refused errno packet)).writer.queued =
      afterWrite refused trace.writer.queued packet := by
  obtain ⟨_, intact⟩ := sound.ring
  exact (writePacket_refusing intact packet).1

/-- A write is blocked exactly if the queue is still full then. -/
theorem Sound.blocked_iff (sound : trace.Sound) (packet : Packet Self Peer) :
    (trace.writer.writePacket packet (refusing refused errno)
        (refusing refused errno)).result.status = .blocked ↔
      maxCacheBufferWriteSize ≤ (joins refused trace.writer.queued).length := by
  obtain ⟨_, intact⟩ := sound.ring
  exact (writePacket_refusing intact packet).2

/-- Any run keeps the queue in step with the record. -/
theorem Sound.foldl (sound : trace.Sound) (events : List (WriterEvent Self Peer)) :
    (events.foldl WriterTrace.step trace).Sound := by
  induction events generalizing trace with
  | nil => exact sound
  | cons event rest ih => exact ih (sound.step event)

/-- Repeating a flush hands over nothing more. -/
theorem flushes_again (count : Nat) :
    let flushed := trace.step (flushEvent refused errno)
    let again := (List.replicate count (flushEvent refused errno)).foldl step flushed
    again.writer.queued = flushed.writer.queued ∧ again.handed = flushed.handed := by
  induction count with
  | zero => exact ⟨rfl, rfl⟩
  | succ count ih =>
      obtain ⟨queued, handed⟩ := ih
      have idle := @flush_again _ _ refused trace.writer.queued
      simp only [List.replicate_succ', List.foldl_append, List.foldl_cons, List.foldl_nil]
      rw [queued_flushEvent, handed_flushEvent, queued, handed, queued_flushEvent]
      exact ⟨idle.1, by rw [idle.2, List.append_nil]⟩

/-- All the flushes together do what the first one does. -/
theorem drained_eq :
    (trace.drained refused errno).writer.queued = offered refused trace.writer.queued ∧
      (trace.drained refused errno).handed =
        trace.handed ++ trace.writer.queued.takeWhile fun packet => !refused packet := by
  unfold drained
  cases queue : trace.writer.queued with
  | nil => simp [queue, offered]
  | cons first rest =>
      have again := @flushes_again _ _ refused errno trace rest.length
      rw [List.length_cons, List.replicate_succ, List.foldl_cons, again.1, again.2,
        queued_flushEvent, handed_flushEvent, queue]
      exact ⟨rfl, rfl⟩

/-! ### Where refused packets are queued -/

/-- A full queue behind a refused packet never moves again. -/
theorem Sound.stuck (sound : trace.Sound) (head : HeadRefused refused trace.writer.queued)
    (fullQueue : maxCacheBufferWriteSize ≤ trace.writer.queued.length) :
    trace.Stuck refused errno := by
  intro packets packet
  induction packets generalizing trace with
  | nil => rwa [List.map_nil, List.foldl_nil, sound.blocked_iff, head.joins]
  | cons next rest ih =>
      have same : (trace.step (writeEvent refused errno next)).writer.queued =
          trace.writer.queued := by
        rw [sound.queued_writeEvent, head.afterWrite, if_pos fullQueue]
      exact ih (sound.step _) (by rwa [same]) (by rwa [same])

/-- Behind a refused packet the queue grows with every write until it is full. -/
theorem Sound.grows (sound : trace.Sound) (head : HeadRefused refused trace.writer.queued)
    (packet : Packet Self Peer) (count : Nat) :
    let grown :=
      (List.replicate count (writeEvent refused errno packet)).foldl WriterTrace.step trace
    HeadRefused refused grown.writer.queued ∧
      min (trace.writer.queued.length + count) maxCacheBufferWriteSize ≤
        grown.writer.queued.length := by
  induction count generalizing trace with
  | zero => exact ⟨head, Nat.min_le_left _ _⟩
  | succ count ih =>
      have written := @Sound.queued_writeEvent _ _ refused errno _ sound packet
      rw [head.afterWrite] at written
      have headAfter : HeadRefused refused
          (trace.step (writeEvent refused errno packet)).writer.queued := by
        rw [written]
        split
        · exact head
        · exact head.append packet
      obtain ⟨stillHead, length⟩ := ih (sound.step _) headAfter
      refine ⟨stillHead, Nat.le_trans ?_ length⟩
      rw [written]
      split
      · omega
      · rw [List.length_append, List.length_singleton]
        omega

/-! ### Where none is -/

/-- Writing packets the socket takes leaves no refused one in the queue. -/
theorem clean_later (sound : trace.Sound) (later : List (WriterEvent Self Peer))
    (continued : ∀ event ∈ later, event = flushEvent refused errno ∨
      ∃ packet, refused packet = false ∧ event = writeEvent refused errno packet)
    (clean : ∀ packet ∈ trace.writer.queued, refused packet = false) :
    ∀ packet ∈ (later.foldl step trace).writer.queued, refused packet = false := by
  induction later generalizing trace with
  | nil => exact clean
  | cons event rest ih =>
      refine ih (sound.step event)
        (fun other member => continued other (List.mem_cons_of_mem _ member)) ?_
      intro packet member
      rcases continued event List.mem_cons_self with rfl | ⟨written, good, rfl⟩
      · rw [queued_flushEvent] at member
        exact clean packet (mem_of_mem_offered member)
      · rw [sound.queued_writeEvent] at member
        rcases mem_afterWrite member with old | rfl
        · exact clean packet old
        · exact good

/-- Where no packet is taken at all, the only continuation is to flush. -/
theorem short_later (later : List (WriterEvent Self Peer))
    (continued : ∀ event ∈ later, event = flushEvent refused errno)
    (short : trace.writer.queued.length < maxCacheBufferWriteSize) :
    (later.foldl step trace).writer.queued.length < maxCacheBufferWriteSize := by
  induction later generalizing trace with
  | nil => exact short
  | cons event rest ih =>
      refine ih
        (fun other member => continued other (List.mem_cons_of_mem _ member)) ?_
      rw [continued event List.mem_cons_self, queued_flushEvent]
      exact Nat.lt_of_le_of_lt (List.dropWhile_sublist _).length_le short

/-- A queue that is not full, or that a flush would clear, takes the next packet. -/
theorem Sound.not_stuck [Inhabited Self] [Inhabited Peer] (sound : trace.Sound)
    (room : (joins refused trace.writer.queued).length < maxCacheBufferWriteSize) :
    ¬trace.Stuck refused errno := by
  intro stuck
  have blocked := stuck [] ⟨[], default, default, Nat.zero_le _⟩
  rw [List.map_nil, List.foldl_nil, sound.blocked_iff] at blocked
  omega

/-- Without a refused packet there is room after the flush. -/
theorem joins_length_of_clean {queue : List (Packet Self Peer)}
    (clean : ∀ packet ∈ queue, refused packet = false) :
    (joins refused queue).length < maxCacheBufferWriteSize := by
  unfold joins
  split
  · rw [offered_eq_nil clean, List.length_nil]
    decide
  · omega

/-- In every reachable state and for every set of packets the socket refuses for
good, the others get through exactly where none of the refused is queued, or
where the socket takes no packet at all and the queue is not full. -/
theorem refusal_isolated_iff [Inhabited Self] [Inhabited Peer]
    (reachable : system.Reachable trace) (refused : Packet Self Peer → Bool) (errno : Nat) :
    trace.RefusalIsolated refused errno ↔
      (∀ packet ∈ trace.writer.queued, refused packet = false) ∨
      ((∀ packet, refused packet = true) ∧
        trace.writer.queued.length < maxCacheBufferWriteSize) := by
  have sound : trace.Sound := soundness.of_reachable reachable
  have soundDrained : (trace.drained refused errno).Sound := sound.foldl _
  obtain ⟨queued, handed⟩ := @drained_eq _ _ refused errno trace
  constructor
  · rintro ⟨-, unstuck⟩
    by_cases clean : ∀ packet ∈ trace.writer.queued, refused packet = false
    · exact .inl clean
    · simp only [not_forall, Bool.not_eq_false] at clean
      obtain ⟨bad, member, isBad⟩ := clean
      have head : HeadRefused refused (trace.drained refused errno).writer.queued := by
        rw [queued]
        exact headRefused_offered member isBad
      have allBad : ∀ packet, refused packet = true := by
        intro packet
        by_contra taken
        -- enough packets the socket would take fill the ring behind the refused one
        obtain ⟨stillHead, length⟩ := @Sound.grows _ _ refused errno _ soundDrained head packet
          maxCacheBufferWriteSize
        refine unstuck (List.replicate maxCacheBufferWriteSize (writeEvent refused errno packet))
          (fun event among => .inr ⟨packet, by simpa using taken, List.eq_of_mem_replicate among⟩)
          ((soundDrained.foldl _).stuck stillHead ?_)
        omega
      refine .inr ⟨allBad, ?_⟩
      by_contra long
      have headNow : HeadRefused refused trace.writer.queued := by
        cases queue : trace.writer.queued with
        | nil => simp [queue] at member
        | cons first rest => exact ⟨first, rest, rfl, allBad first⟩
      rw [headNow.offered] at queued
      exact unstuck [] (fun _ none => by cases none)
        (soundDrained.stuck head (by rw [queued]; omega))
  · rintro (clean | ⟨allBad, short⟩)
    · refine ⟨⟨_, handed, ?_⟩, fun later continued => ?_⟩
      · rw [List.takeWhile_eq_self_iff.mpr (by simpa using clean)]
        exact List.filter_sublist
      · have empty : (trace.drained refused errno).writer.queued = [] := by
          rw [queued, offered_eq_nil clean]
        have cleanLater := clean_later soundDrained later continued (by simp [empty])
        exact (soundDrained.foldl later).not_stuck (joins_length_of_clean cleanLater)
    · refine ⟨⟨_, handed, ?_⟩, fun later continued => ?_⟩
      · have none : trace.writer.queued.filter (fun packet => !refused packet) = [] := by
          simp [allBad]
        rw [none]
        exact List.nil_sublist _
      · have flushes : ∀ event ∈ later, event = flushEvent refused errno := by
          intro event member
          rcases continued event member with isFlush | ⟨packet, good, -⟩
          · exact isFlush
          · rw [allBad packet] at good
            cases good
        have shortDrained : (trace.drained refused errno).writer.queued.length <
            maxCacheBufferWriteSize := by
          rw [queued]
          exact Nat.lt_of_le_of_lt (List.dropWhile_sublist _).length_le short
        have shortLater := short_later later flushes shortDrained
        refine (soundDrained.foldl later).not_stuck ?_
        rwa [joins, if_neg (Nat.not_le_of_lt shortLater)]

/-- `ENETUNREACH` -/
def enetunreach : Nat := 101

/-- One of the two packets queued is refused. -/
theorem refusal_isolated_partlySent :
    (partlySent.foldl step (create fun _ _ => 0)).RefusalIsolated
      (fun packet => packet.buffer == [9]) enetunreach :=
  (refusal_isolated_iff ⟨_, partlySent, ⟨fun _ _ => 0, rfl⟩,
    LabelledSystem.functional_run (by decide)⟩ _ _).mpr (.inl (by decide))

/-- A packet to an unreachable destination, queued ahead of another one. -/
def unreachableFirst : List (WriterEvent Unit Unit) :=
  [.writePacket (probe 9) (fun _ => .again) (fun _ => .again),
   .writePacket (probe 2) (fun _ => .again) (fun _ => .again)]

/-- The second packet is never sent: every flush fails on the first. -/
theorem refused_head_blocks_others :
    ∃ trace : WriterTrace Unit Unit, system.Reachable trace ∧
      probe 2 ∈ trace.writer.queued ∧
      ¬trace.RefusalIsolated (fun packet => packet.buffer == [9]) enetunreach := by
  refine ⟨unreachableFirst.foldl step (create fun _ _ => 0),
    ⟨_, unreachableFirst, ⟨_, rfl⟩, LabelledSystem.functional_run (by decide)⟩, by decide, ?_⟩
  rintro ⟨⟨newly, handed, sublist⟩, -⟩
  have nothing : ((unreachableFirst.foldl step (create fun _ _ => 0)).drained
      (fun packet => packet.buffer == [9]) enetunreach).handed = [] := by decide
  have noneNew : newly = [] := (List.append_eq_nil_iff.mp (handed.symm.trans nothing)).2
  rw [noneNew] at sublist
  exact absurd sublist (by decide)

end WriterTrace

end QuicProxy
