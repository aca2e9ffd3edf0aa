import QuicProxy.PacketWriter.Delivery

/-!
# What a flush reports

`Flush` makes one `sendmmsg` call, erases what the kernel took and returns the answer of
that call. `flushCalls` lists the flushes that one call of the writer makes, by which
alone packets leave it (`handed_step`). Each of them keeps the contract of
`QuicPacketWriter::Flush` exactly where the kernel does not take the batch in part
(`flush_reports_iff`, for every run).
-/

namespace QuicProxy

variable {Self Peer : Type}

/-- A call of `Flush`, with the kernel that answers it. -/
structure FlushCall (Self Peer : Type) where
  writer : QuicProxyPacketWriter Self Peer
  kernel : Kernel Self Peer

namespace FlushCall

open QuicProxyPacketWriter

/-- What the flush comes to. -/
def outcome (call : FlushCall Self Peer) : Outcome Self Peer := call.writer.flush call.kernel

/-- The contract of a flush: it is `WRITE_STATUS_OK` with the bytes that were sent only
where nothing is left. -/
structure Reports (call : FlushCall Self Peer) : Prop where
  drained : call.outcome.result.status = .ok → call.outcome.writer.bufferedWrites = []
  counted : call.outcome.result.status = .ok →
    call.outcome.result.value = (call.outcome.handed.flatMap Packet.buffer).length
  refused : call.outcome.writer.bufferedWrites ≠ [] →
    isWriteBlockedStatus call.outcome.result.status = true ∨
      call.outcome.result.status = .error

/-- The kernel takes some packets of the batch and not all. -/
def TakenInPart (call : FlushCall Self Peer) : Prop :=
  ∃ more, call.kernel call.writer.queued = .accepted more ∧
    more + 1 < call.writer.queued.length

variable {call : FlushCall Self Peer}

/-- A queue that is not empty is offered, and the kernel takes the front of it or refuses
it all. -/
theorem outcome_cases (call : FlushCall Self Peer) :
    (call.writer.bufferedWrites = [] ∧ call.outcome = ⟨⟨.ok, 0⟩, [], none, call.writer⟩) ∨
      (∃ more, call.kernel call.writer.queued = .accepted more ∧
        let sent := min (more + 1) call.writer.queued.length
        call.outcome = ⟨⟨.ok, ((call.writer.queued.take sent).flatMap Packet.buffer).length⟩,
          call.writer.queued.take sent, none, call.writer.eraseFront sent⟩) ∨
      ((∀ more, call.kernel call.writer.queued ≠ .accepted more) ∧
        call.outcome.result.status ≠ .ok ∧
        (isWriteBlockedStatus call.outcome.result.status = true ∨
          call.outcome.result.status = .error)) := by
  by_cases empty : call.writer.bufferedWrites = []
  · exact .inl ⟨empty, if_pos empty⟩
  · right
    simp only [outcome, flush, if_neg empty]
    cases reply : call.kernel call.writer.queued with
    | accepted more => exact .inl ⟨more, rfl, rfl⟩
    | again =>
        refine .inr ⟨fun more => SendReply.noConfusion, ?_, .inl rfl⟩
        exact WriteStatus.noConfusion
    | failed errno =>
        refine .inr ⟨fun more => SendReply.noConfusion, ?_, .inr rfl⟩
        exact WriteStatus.noConfusion

/-- An ok answer counts the bytes of what was sent, whether that is all or not. -/
theorem counted_of_ok (ok : call.outcome.result.status = .ok) :
    call.outcome.result.value = (call.outcome.handed.flatMap Packet.buffer).length := by
  rcases call.outcome_cases with ⟨-, nothing⟩ | ⟨more, -, sent⟩ | ⟨-, notOk, -⟩
  · rw [nothing]
    rfl
  · rw [sent]
  · exact absurd ok notOk

/-- A batch that is taken in part is reported as sent. -/
theorem TakenInPart.not_reports (inPart : call.TakenInPart) : ¬ call.Reports := by
  obtain ⟨taken, reply, fewer⟩ := inPart
  intro reports
  rcases call.outcome_cases with ⟨empty, -⟩ | ⟨more, isReply, sent⟩ | ⟨refused, -, -⟩
  · rw [length_queued, empty] at fewer
    cases fewer
  · rw [reply] at isReply
    obtain rfl := SendReply.accepted.inj isReply
    have drained := reports.drained
    rw [sent] at drained
    have left := drained rfl
    rw [bufferedWrites_eraseFront, List.drop_eq_nil_iff, ← length_queued] at left
    omega
  · exact refused taken reply

/-- Any other flush reports what it did. -/
theorem reports_of_not_takenInPart (whole : ¬ call.TakenInPart) : call.Reports := by
  rcases call.outcome_cases with ⟨empty, nothing⟩ | ⟨more, reply, sent⟩ | ⟨-, notOk, refused⟩
  · have drained : call.outcome.writer.bufferedWrites = [] := by rw [nothing, empty]
    exact ⟨fun _ => drained, counted_of_ok, fun left => absurd drained left⟩
  · have all : call.writer.queued.length ≤ more + 1 := by
      apply Nat.le_of_not_lt
      intro fewer
      exact whole ⟨more, reply, fewer⟩
    have drained : call.outcome.writer.bufferedWrites = [] := by
      rw [sent, bufferedWrites_eraseFront, Nat.min_eq_right all, length_queued, List.drop_length]
    exact ⟨fun _ => drained, counted_of_ok, fun left => absurd drained left⟩
  · exact ⟨fun ok => absurd ok notOk, counted_of_ok, fun _ => refused⟩

end FlushCall

namespace WriterTrace

open QuicProxyPacketWriter

/-- The flushes one call of the writer makes, in order. `WritePacket` flushes a full queue
before it copies, and a queue that its packet has filled after it. -/
def flushCalls (writer : QuicProxyPacketWriter Self Peer) :
    WriterEvent Self Peer → List (FlushCall Self Peer)
  | .writePacket packet before after =>
      let first := writer.firstFlush before
      let copied := first.writer.enqueue packet
      (if writer.full then [⟨writer, before⟩] else []) ++
        (if ¬ first.writer.full ∧ copied.full then [⟨copied, after⟩] else [])
  | .flush kernel => [⟨writer, kernel⟩]
  | .timer readWouldBlock kernel => if readWouldBlock then [] else [⟨writer, kernel⟩]
  | .setWritable => []

/-- The first flush of a write hands over what it is recorded with. -/
theorem handed_firstFlush (writer : QuicProxyPacketWriter Self Peer)
    (before : Kernel Self Peer) :
    (writer.firstFlush before).handed =
      (if writer.full then [⟨writer, before⟩] else []).flatMap
        fun call : FlushCall Self Peer => call.outcome.handed := by
  unfold firstFlush
  split
  · simp [FlushCall.outcome]
  · rfl

/-- The second flush of a write, of the queue its packet has filled, does so too. -/
theorem handed_finishWrite (writer : QuicProxyPacketWriter Self Peer)
    (packet : Packet Self Peer) (after : Kernel Self Peer) (handed : List (Packet Self Peer))
    (row : Nat) :
    (writer.finishWrite packet after handed row).handed =
      handed ++ (if writer.full then [⟨writer, after⟩] else []).flatMap
        fun call : FlushCall Self Peer => call.outcome.handed := by
  unfold finishWrite
  split
  · simp only [List.flatMap_singleton, FlushCall.outcome]
    split
    · rfl
    · rfl
  · simp

/-- Packets leave the writer by these flushes and in no other way. -/
theorem handed_step (trace : WriterTrace Self Peer) (event : WriterEvent Self Peer) :
    (trace.step event).handed = trace.handed ++
      (flushCalls trace.writer event).flatMap fun call => call.outcome.handed := by
  cases event with
  | writePacket packet before after =>
      simp only [step, record, flushCalls, List.flatMap_append, writePacket,
        ← handed_firstFlush]
      by_cases stuck : (trace.writer.firstFlush before).writer.full
      · simp [stuck]
      · simp only [stuck, not_false_eq_true, true_and, if_false, handed_finishWrite]
  | flush kernel => simp [step, record, flushCalls, FlushCall.outcome]
  | timer readWouldBlock kernel =>
      cases readWouldBlock with
      | true => simp [step, record, flushCalls, SendMMsgTimer.onEvent]
      | false => simp [step, record, flushCalls, SendMMsgTimer.onEvent, FlushCall.outcome]
  | setWritable => simp [step, flushCalls]

/-- The flushes made along a run. -/
def flushesAlong : WriterTrace Self Peer → List (WriterEvent Self Peer) →
    List (FlushCall Self Peer)
  | _, [] => []
  | trace, event :: rest => flushCalls trace.writer event ++ flushesAlong (trace.step event) rest

/-- Whatever a run hands over, its flushes do. -/
theorem handed_foldl (trace : WriterTrace Self Peer) (events : List (WriterEvent Self Peer)) :
    (events.foldl step trace).handed = trace.handed ++
      (flushesAlong trace events).flatMap fun call => call.outcome.handed := by
  induction events generalizing trace with
  | nil => simp [flushesAlong]
  | cons event rest ih =>
      rw [List.foldl_cons, ih, handed_step, flushesAlong, List.flatMap_append, List.append_assoc]

/-- In every run: what was sent was sent by its flushes, and each of them keeps the contract
exactly where the kernel does not take its batch in part. -/
theorem flush_reports_iff {origin trace : WriterTrace Self Peer}
    {events : List (WriterEvent Self Peer)} (starts : system.Initial origin)
    (run : system.Run origin events trace) :
    (trace.handed = (flushesAlong origin events).flatMap fun call => call.outcome.handed) ∧
      ∀ call ∈ flushesAlong origin events, call.Reports ↔ ¬ call.TakenInPart := by
  constructor
  · obtain ⟨writesCache, rfl⟩ := starts
    rw [LabelledSystem.foldl_of_functional_run run, handed_foldl]
    rfl
  · intro call _
    constructor
    · intro reports inPart
      exact inPart.not_reports reports
    · exact FlushCall.reports_of_not_takenInPart

/-- Two packets are queued while nothing can be sent; then the timer flushes, and the kernel
takes `more + 1`. -/
def twoQueued (more : Nat) : List (WriterEvent Unit Unit) :=
  [.writePacket (probe 1) (fun _ => .again) (fun _ => .again),
   .writePacket (probe 2) (fun _ => .again) (fun _ => .again),
   .timer false fun _ => .accepted more]

/-- Two packets are queued and flushed. -/
theorem twoQueued_run (more : Nat) :
    system.Run (create fun _ _ => 0) (twoQueued more)
      ((twoQueued more).foldl step (create fun _ _ => 0)) :=
  LabelledSystem.functional_run ⟨trivial, trivial, trivial, trivial⟩

/-- The flush of the timer in that run. -/
def tick (more : Nat) : FlushCall Unit Unit :=
  ⟨(((twoQueued more).take 2).foldl step (create fun _ _ => 0)).writer, fun _ => .accepted more⟩

/-- The batch of the second flush is taken whole. -/
theorem flush_reports_iff_tick : (tick 1).Reports := by
  refine ((flush_reports_iff ⟨_, rfl⟩ (twoQueued_run 1)).2 (tick 1) List.mem_cons_self).mpr ?_
  rintro ⟨more, reply, fewer⟩
  cases reply
  revert fewer
  decide

/-- The kernel takes the first of the two: the flush is ok and the second one is still
queued. -/
theorem ok_with_packet_left :
    ∃ trace, system.Run (create fun _ _ => 0) (twoQueued 0) trace ∧
      ∃ call ∈ flushesAlong (create fun _ _ => 0) (twoQueued 0),
        call.outcome.result.status = .ok ∧ call.outcome.writer.queued = [probe 2] ∧
          ¬ call.Reports := by
  refine ⟨_, twoQueued_run 0, tick 0, List.mem_cons_self, rfl, by decide, ?_⟩
  apply FlushCall.TakenInPart.not_reports
  exact ⟨0, rfl, by decide⟩

end WriterTrace

end QuicProxy
