import QuicProxy.PacketWriter.Progress
import QuicProxy.Server.FlushTimer

/-!
# The queue behind its timer

The connections write without a look at the timer, and the timer flushes without a look at
them. `roundMade` is an `OnEvent` of the timer that has expired, whose flush the kernel takes
some of. Each of these sends one packet at least while any wait, so that in every run the
packet with `k` others in front of it is sent after `k + 1` of them (`sent_by_timer`),
whatever is written meanwhile; and with an interval the kernel takes, there is always a
next one. Without the timer the writer sends a full queue only (`sent_when_full`).
-/

namespace QuicProxy

namespace SendReply

/-- The kernel takes some of the batch. -/
def accepts : SendReply → Bool
  | accepted _ => true
  | again | failed _ => false

end SendReply

namespace FlushLoop

open QuicProxyPacketWriter

variable {Self Peer : Type} {loop : FlushLoop Self Peer}

/-- The timer has expired and its flush finds the socket ready. -/
def roundMade (loop : FlushLoop Self Peer) : FlushLoopEvent Self Peer → Bool
  | .onEvent kernel => loop.expired && (kernel loop.trace.writer.queued).accepts
  | .call _ | .timerExpires => false

/-- How many rounds there are in a run. -/
def rounds : FlushLoop Self Peer → List (FlushLoopEvent Self Peer) → Nat
  | _, [] => 0
  | loop, event :: rest => (loop.roundMade event).toNat + (loop.step event).rounds rest

/-! ## The writer of the loop -/

/-- An event does to the writer nothing or what one of its calls does. -/
theorem trace_step (loop : FlushLoop Self Peer) (event : FlushLoopEvent Self Peer) :
    (loop.step event).trace = loop.trace ∨
      ∃ call, (loop.step event).trace = loop.trace.step call := by
  cases event with
  | call event => exact .inr ⟨event, rfl⟩
  | timerExpires => exact .inl rfl
  | onEvent kernel => exact .inr ⟨.timer (!loop.expired) kernel, rfl⟩

/-- The writer's part of a run is a run of the writer. -/
theorem trace_reachable {now : Timespec} {interval : Int32}
    (reachable : (system now interval).Reachable loop) :
    WriterTrace.system.Reachable loop.trace := by
  refine LabelledSystem.Invariant.of_reachable
    ⟨fun loop => WriterTrace.system.Reachable loop.trace, ?_, ?_⟩ reachable
  · rintro _ ⟨writesCache, rfl⟩
    exact .start ⟨writesCache, rfl⟩
  · rintro here event _ reachable ⟨-, rfl⟩
    rcases trace_step here event with same | ⟨call, moved⟩
    · rw [same]
      exact reachable
    · rw [moved]
      exact reachable.next ⟨trivial, rfl⟩

/-- A flush accepts nothing, and takes nothing back. -/
theorem enqueued_step (loop : FlushLoop Self Peer) (event : FlushLoopEvent Self Peer) :
    loop.trace.enqueued <+: (loop.step event).trace.enqueued := by
  rcases trace_step loop event with same | ⟨call, moved⟩
  · rw [same]
  · rw [moved]
    exact WriterTrace.enqueued_step loop.trace call

/-- What is sent stays sent. -/
theorem handed_step (loop : FlushLoop Self Peer) (event : FlushLoopEvent Self Peer) :
    loop.trace.handed <+: (loop.step event).trace.handed := by
  rcases trace_step loop event with same | ⟨call, moved⟩
  · rw [same]
  · rw [moved, WriterTrace.handed_step]
    exact List.prefix_append _ _

/-- A flush that the kernel takes some of sends one packet at least if any wait. -/
theorem flush_sends {writer : QuicProxyPacketWriter Self Peer} {kernel : Kernel Self Peer}
    (accepts : (kernel writer.queued).accepts = true) (waits : writer.queued ≠ []) :
    0 < (writer.flush kernel).handed.length := by
  have occupied : writer.bufferedWrites ≠ [] := by
    intro none
    exact waits (by rw [queued, none, List.map_nil])
  have positive := List.length_pos_of_ne_nil waits
  cases reply : kernel writer.queued with
  | accepted more =>
      rw [flush, if_neg occupied]
      simp only [reply, writeMultiplePackets, List.length_take]
      omega
  | again =>
      rw [reply] at accepts
      cases accepts
  | failed errno =>
      rw [reply] at accepts
      cases accepts

/-- A round that is made sends something. -/
theorem roundMade_sends {event : FlushLoopEvent Self Peer}
    (made : loop.roundMade event = true) (waits : loop.trace.writer.queued ≠ []) :
    loop.trace.handed.length < (loop.step event).trace.handed.length := by
  cases event with
  | call event => cases made
  | timerExpires => cases made
  | onEvent kernel =>
      obtain ⟨expired, accepts⟩ := Bool.and_eq_true_iff.mp made
      have sent := flush_sends accepts waits
      have flushed : (loop.step (.onEvent kernel)).trace.handed =
          loop.trace.handed ++ (loop.trace.writer.flush kernel).handed := by
        simp only [step, expired, Bool.not_true, WriterTrace.step, WriterTrace.record,
          SendMMsgTimer.onEvent, Bool.false_eq_true, if_false]
      rw [flushed, List.length_append]
      omega

/-! ## Along a run -/

section Runs

variable {now : Timespec} {interval : Int32}

/-- What waits and what is sent make up what has been accepted. -/
theorem balanced (reachable : (system now interval).Reachable loop) :
    loop.trace.handed ++ loop.trace.writer.queued = loop.trace.enqueued :=
  Fifo.conserved (WriterTrace.refines_fifo (trace_reachable reachable))

/-- What has been accepted and what has been handed to the socket only grow. -/
theorem grows_along {last : FlushLoop Self Peer} {events : List (FlushLoopEvent Self Peer)}
    (run : (system now interval).Run loop events last) :
    loop.trace.enqueued <+: last.trace.enqueued ∧ loop.trace.handed <+: last.trace.handed := by
  induction run with
  | nil => exact ⟨List.prefix_rfl, List.prefix_rfl⟩
  | snoc _ latest ih =>
      obtain ⟨-, rfl⟩ := latest
      exact ⟨ih.1.trans (enqueued_step _ _), ih.2.trans (handed_step _ _)⟩

/-- The rounds of a run, up to its last event. -/
theorem rounds_snoc (loop : FlushLoop Self Peer) (events : List (FlushLoopEvent Self Peer))
    (event : FlushLoopEvent Self Peer) :
    loop.rounds (events ++ [event]) =
      loop.rounds events + ((events.foldl step loop).roundMade event).toNat := by
  induction events generalizing loop with
  | nil => simp [rounds]
  | cons first rest ih =>
      rw [List.cons_append, rounds, rounds, ih, List.foldl_cons]
      omega

/-- Each round sends one packet more, as long as one is left of those that waited. -/
theorem rounds_le (reachable : (system now interval).Reachable loop)
    {last : FlushLoop Self Peer} {events : List (FlushLoopEvent Self Peer)}
    (run : (system now interval).Run loop events last) :
    loop.trace.handed.length + min (loop.rounds events) loop.trace.writer.queued.length ≤
      last.trace.handed.length := by
  induction run with
  | nil => simp [rounds]
  | @snoc events here event _ earlier latest ih =>
      obtain ⟨-, rfl⟩ := latest
      have sofar := LabelledSystem.foldl_of_functional_run earlier
      have first := congrArg List.length (balanced reachable)
      have second := congrArg List.length (balanced (reachable.run earlier))
      have accepted := (grows_along earlier).1.length_le
      have sent := (handed_step here event).length_le
      rw [rounds_snoc, ← sofar]
      rw [List.length_append] at first second
      cases made : here.roundMade event with
      | false =>
          rw [Bool.toNat_false]
          omega
      | true =>
          rw [Bool.toNat_true]
          by_cases waits : here.trace.writer.queued = []
          · -- Whatever waited at first has been sent by now.
            rw [waits, List.length_nil] at second
            omega
          · have more := roundMade_sends made waits
            omega

/-- In every run in which the interval is shorter than a second: the timer can expire again,
and the first packets that were waiting, as many as there have been rounds, have been sent,
in order and before anything written later; after 32 rounds all of them have. -/
theorem sent_by_timer (positive : 0 < interval) (short : interval.toInt < 1000000000)
    (reachable : (system now interval).Reachable loop)
    {last : FlushLoop Self Peer} {events : List (FlushLoopEvent Self Peer)}
    (run : (system now interval).Run loop events last) :
    last.Enabled .timerExpires ∧
      loop.trace.handed ++ loop.trace.writer.queued.take (loop.rounds events) <+:
        last.trace.handed ∧
      (maxCacheBufferWriteSize ≤ loop.rounds events →
        loop.trace.enqueued <+: last.trace.handed) := by
  have runs : last.TimerRuns interval :=
    timerRuns_of_reachable positive (createWriter_timerRuns now positive short)
      (reachable.run run)
  obtain ⟨setting, timer, armed, -⟩ := runs
  have total := balanced reachable
  have later := balanced (reachable.run run)
  have enough := rounds_le reachable run
  have inOrder : loop.trace.handed ++ loop.trace.writer.queued.take (loop.rounds events) <+:
      last.trace.handed := by
    have front : loop.trace.handed ++ loop.trace.writer.queued.take (loop.rounds events) <+:
        last.trace.enqueued := by
      refine List.IsPrefix.trans ?_ (grows_along run).1
      rw [← total]
      exact (List.prefix_append_right_inj _).mpr (List.take_prefix _ _)
    have sent : last.trace.handed <+: last.trace.enqueued := ⟨_, later⟩
    apply List.prefix_of_prefix_length_le front sent
    rw [List.length_append, List.length_take]
    exact enough
  refine ⟨⟨setting, timer, armed⟩, inOrder, fun all => ?_⟩
  obtain ⟨start, intact⟩ :=
    (WriterTrace.soundness.of_reachable (trace_reachable reachable)).ring
  have bounded : loop.trace.writer.queued.length ≤ loop.rounds events := by
    rw [length_queued]
    exact intact.bounded.trans all
  rwa [List.take_of_length_le bounded, total] at inOrder

end Runs

/-- Two packets wait when the timer has been made. -/
def twoWait : FlushLoop Unit Unit :=
  [FlushLoopEvent.call (.writePacket (WriterTrace.probe 1) (fun _ => .again) (fun _ => .again)),
    .call (.writePacket (WriterTrace.probe 2) (fun _ => .again) (fun _ => .again))].foldl step
      (createWriter .zero 40000000 fun _ _ => 0)

/-- The kernel takes one packet at each of two expiries, and a third is written between. -/
def twoExpiries : List (FlushLoopEvent Unit Unit) :=
  [.timerExpires, .onEvent fun _ => .accepted 0,
    .call (.writePacket (WriterTrace.probe 3) (fun _ => .again) (fun _ => .again)),
    .timerExpires, .onEvent fun _ => .accepted 0]

/-- Two expiries send two packets. -/
theorem sent_by_timer_twoExpiries :
    twoWait.rounds twoExpiries = 2 ∧
      [WriterTrace.probe 1, WriterTrace.probe 2] <+:
        (twoExpiries.foldl step twoWait).trace.handed := by
  have reachable : (system .zero 40000000).Reachable twoWait :=
    ⟨createWriter .zero 40000000 fun _ _ => 0, _, ⟨_, rfl⟩,
      LabelledSystem.functional_run ⟨trivial, trivial, trivial⟩⟩
  have run : (system .zero 40000000).Run twoWait twoExpiries (twoExpiries.foldl step twoWait) :=
    LabelledSystem.functional_run
      ⟨⟨_, rfl, by decide⟩, trivial, trivial, ⟨_, rfl, by decide⟩, trivial, trivial⟩
  have made : twoWait.rounds twoExpiries = 2 := by decide +kernel
  have sent := (sent_by_timer (by decide) (by decide) reachable run).2.1
  rw [made] at sent
  exact ⟨made, sent⟩

/-! ## Without the timer -/

/-- No caller flushes. -/
def Unflushed : FlushLoopEvent Self Peer → Prop
  | .call (.flush _) => False
  | .call _ | .timerExpires | .onEvent _ => True

/-- The timer does not run. -/
structure Untimed (loop : FlushLoop Self Peer) : Prop where
  disarmed : loop.timerFd = some .disarmed
  unexpired : loop.expired = false

/-- An interval that is refused leaves the writer without a timer. -/
theorem createWriter_untimed (now : Timespec) {interval : Int32}
    (outside : interval.toInt ≤ 0 ∨ 1000000000 ≤ interval.toInt)
    (writesCache : Nat → Nat → UInt8) :
    Untimed (createWriter now interval writesCache : FlushLoop Self Peer) := by
  refine ⟨(createWriter_timerFd now interval writesCache).trans (congrArg some ?_), rfl⟩
  by_cases valid : (flushTimerSetting interval).IsValid
  · have zero : interval.toInt = 0 := by
      simp only [Itimerspec.IsValid, flushTimerSetting, Timespec.IsValid] at valid
      omega
    have unset : flushTimerSetting interval = .disarmed := by
      rw [flushTimerSetting, zero]
      rfl
    rw [unset, Itimerspec.settimeAbs, if_pos Itimerspec.disarmed_valid,
      if_neg Itimerspec.not_armed_disarmed]
  · exact Itimerspec.settimeAbs_invalid now _ valid

/-- No event sets the timer. -/
theorem Untimed.step (untimed : loop.Untimed) {event : FlushLoopEvent Self Peer}
    (enabled : loop.Enabled event) : (loop.step event).Untimed := by
  cases event with
  | call event => exact ⟨untimed.disarmed, untimed.unexpired⟩
  | timerExpires =>
      obtain ⟨setting, timer, armed⟩ := enabled
      rw [untimed.disarmed, Option.some_inj] at timer
      subst timer
      exact absurd armed Itimerspec.not_armed_disarmed
  | onEvent kernel => exact ⟨untimed.disarmed, rfl⟩

/-- There is no timer in any run. -/
theorem untimed_of_reachable {now : Timespec} {interval : Int32}
    (outside : interval.toInt ≤ 0 ∨ 1000000000 ≤ interval.toInt)
    (reachable : (system now interval).Reachable loop) : loop.Untimed := by
  refine LabelledSystem.Invariant.of_reachable ⟨Untimed, ?_, ?_⟩ reachable
  · rintro _ ⟨writesCache, rfl⟩
    exact createWriter_untimed now outside writesCache
  · rintro here event _ untimed ⟨enabled, rfl⟩
    exact untimed.step enabled

/-- A write sends nothing unless the queue is full or its packet fills it. -/
theorem writePacket_waits (trace : WriterTrace Self Peer) (packet : Packet Self Peer)
    (before after : Kernel Self Peer) :
    (trace.step (.writePacket packet before after)).handed = trace.handed ∨
      maxCacheBufferWriteSize ≤ trace.writer.queued.length +
        ((trace.step (.writePacket packet before after)).enqueued.length -
          trace.enqueued.length) := by
  by_cases isFull : trace.writer.full
  · right
    rw [length_queued]
    exact Nat.le_trans isFull (Nat.le_add_right _ _)
  · have first : trace.writer.firstFlush before = ⟨⟨.ok, 0⟩, [], none, trace.writer⟩ :=
      if_neg isFull
    by_cases fills : (trace.writer.enqueue packet).full
    · right
      have copied : (trace.writer.writePacket packet before after).overwritten =
          some trace.writer.nextRow := by
        simp only [QuicProxyPacketWriter.writePacket, first, if_neg isFull,
          QuicProxyPacketWriter.finishWrite, if_pos fills]
        split <;> rfl
      have accepted : (trace.step (.writePacket packet before after)).enqueued =
          trace.enqueued ++ [packet] := by
        simp only [WriterTrace.step, WriterTrace.record, copied, Option.isSome_some, if_true]
      rw [QuicProxyPacketWriter.full, length_enqueue] at fills
      rw [accepted, List.length_append, List.length_singleton, length_queued]
      omega
    · left
      have calls : WriterTrace.flushCalls trace.writer (.writePacket packet before after) = [] := by
        simp only [WriterTrace.flushCalls, first, if_neg isFull, List.nil_append]
        exact if_neg fun both => fills both.2
      rw [WriterTrace.handed_step, calls, List.flatMap_nil, List.append_nil]

/-- Without a timer nothing is sent until the queue is full. -/
theorem Untimed.waits (untimed : loop.Untimed) {event : FlushLoopEvent Self Peer}
    (enabled : loop.Enabled event) (unflushed : Unflushed event) :
    (loop.step event).trace.handed = loop.trace.handed ∨
      maxCacheBufferWriteSize ≤ loop.trace.writer.queued.length +
        ((loop.step event).trace.enqueued.length - loop.trace.enqueued.length) := by
  cases event with
  | call event =>
      cases event with
      | writePacket packet before after => exact writePacket_waits loop.trace packet before after
      | flush kernel => exact unflushed.elim
      | timer readWouldBlock kernel => exact enabled.elim
      | setWritable => exact .inl rfl
  | timerExpires => exact .inl rfl
  | onEvent kernel =>
      left
      have polled : (loop.step (.onEvent kernel)).trace =
          loop.trace.step (.timer (!loop.expired) kernel) := rfl
      rw [polled, untimed.unexpired]
      exact List.append_nil _

/-- With an interval that does not arm the timer, nothing leaves the writer until it is full:
in every run without a flush by a caller in which those waiting at first and those accepted
since are fewer than 32, none is sent. -/
theorem sent_when_full {now : Timespec} {interval : Int32}
    (outside : interval.toInt ≤ 0 ∨ 1000000000 ≤ interval.toInt)
    (reachable : (system now interval).Reachable loop)
    {last : FlushLoop Self Peer} {events : List (FlushLoopEvent Self Peer)}
    (run : ((system now interval).guarded fun _ => Unflushed).Run loop events last)
    (few : loop.trace.writer.queued.length +
      (last.trace.enqueued.length - loop.trace.enqueued.length) < maxCacheBufferWriteSize) :
    last.trace.handed = loop.trace.handed := by
  induction run with
  | nil => rfl
  | @snoc events here event _ earlier latest ih =>
      obtain ⟨unflushed, enabled, rfl⟩ := latest
      have plain : (system now interval).Run loop events here := earlier.mono And.right
      have grown := (grows_along plain).1.length_le
      have more := (enqueued_step here event).length_le
      have sofar := ih (by omega)
      have first := congrArg List.length (balanced reachable)
      have second := congrArg List.length (balanced (reachable.run plain))
      rw [List.length_append] at first second
      have untimed := untimed_of_reachable outside (reachable.run plain)
      rcases untimed.waits enabled unflushed with same | isFull
      · exact same.trans sofar
      · have length := congrArg List.length sofar
        omega

/-- A second packet joins the one that waits behind a timer of one second. -/
def untimedEvents : List (FlushLoopEvent Unit Unit) :=
  [.onEvent fun _ => .accepted 0,
    .call (.writePacket (WriterTrace.probe 2) (fun _ => .again) fun _ => .again)]

/-- With an interval of one second neither packet is sent. -/
theorem sent_when_full_oneSecond :
    (untimedEvents.foldl step oneSecond).trace.handed = oneSecond.trace.handed := by
  have reachable : (system .zero 1000000000).Reachable oneSecond :=
    reachable_firstWrite _ _ _ _ _ _
  have run : ((system .zero 1000000000).guarded fun _ => Unflushed).Run oneSecond untimedEvents
      (untimedEvents.foldl step oneSecond) :=
    LabelledSystem.guarded_functional_run
      ⟨⟨trivial, trivial⟩, ⟨trivial, trivial⟩, trivial⟩
  exact sent_when_full (.inr (by decide)) reachable run (by decide +kernel)

end FlushLoop

end QuicProxy
