import QuicProxy.PacketWriter.Flushing
import QuicProxy.Backend.CurlTimer

/-!
# The flush timer

`CreateWriter` makes the writer with its `SendMMsgTimer`, whose interval comes from the
command line in nanoseconds. `InitializeTimer` puts all of it into `tv_nsec`, which the
kernel takes up to 999999999 only, where `CurlMultiTimerCB` splits its timeout. A larger
interval leaves the timer disarmed, and what the writer queues then waits for the next
write (`timers_armed_iff`).

The first expiry is set with `TIMER_ABSTIME`, as a time of the clock, and so comes at once
on a clock past it; the ones after it come with the interval. The timer is created without
failure.
-/

namespace QuicProxy

/-- The setting `InitializeTimer` makes of an interval. -/
def flushTimerSetting (interval : Int32) : Itimerspec :=
  ⟨⟨0, interval.toInt⟩, ⟨0, interval.toInt⟩⟩

/-- The writer with its history, and its timer. -/
structure FlushLoop (Self Peer : Type) where
  trace : WriterTrace Self Peer
  /-- The timer behind `timer_fd_`, which is -1 before `InitializeTimer`. -/
  timerFd : Option Itimerspec
  /-- It has expired since it was read last. -/
  expired : Bool

/-- A call of the writer by a connection or the dispatcher, an expiry of the timer, or its
`OnEvent`. -/
inductive FlushLoopEvent (Self Peer : Type) where
  | call (event : WriterEvent Self Peer)
  | timerExpires
  | onEvent (kernel : Kernel Self Peer)

namespace FlushLoop

variable {Self Peer : Type}

/-- `SendMMsgTimer::InitializeTimer`, when the clock reads `now`. -/
def initializeTimer (now : Timespec) (interval : Int32) (loop : FlushLoop Self Peer) :
    FlushLoop Self Peer :=
  match loop.timerFd with
  | none =>
      { loop with
        timerFd := some (Itimerspec.disarmed.settimeAbs now (flushTimerSetting interval)) }
  | some _ => loop

/-- `QuicProxyServer::CreateWriter` -/
def createWriter (now : Timespec) (interval : Int32) (writesCache : Nat → Nat → UInt8) :
    FlushLoop Self Peer :=
  initializeTimer now interval ⟨.create writesCache, none, false⟩

/-- Reading the timer blocks unless it has expired. -/
def step (loop : FlushLoop Self Peer) : FlushLoopEvent Self Peer → FlushLoop Self Peer
  | .call event => { loop with trace := loop.trace.step event }
  | .timerExpires =>
      { loop with timerFd := loop.timerFd.map Itimerspec.expire, expired := true }
  | .onEvent kernel =>
      { loop with trace := loop.trace.step (.timer (!loop.expired) kernel), expired := false }

/-- Only an armed timer expires, and the timer flushes in its `OnEvent` only. -/
def Enabled (loop : FlushLoop Self Peer) : FlushLoopEvent Self Peer → Prop
  | .call (.timer _ _) => False
  | .call _ | .onEvent _ => True
  | .timerExpires => ∃ setting, loop.timerFd = some setting ∧ setting.Armed

/-- The writer with its timer, set when it is created. -/
def system (now : Timespec) (interval : Int32) :
    LabelledSystem (FlushLoop Self Peer) (FlushLoopEvent Self Peer) :=
  .functional (fun loop => ∃ writesCache, loop = createWriter now interval writesCache) Enabled step

/-- The timer will expire, and again and again with the interval after that. -/
def TimerRuns (interval : Int32) (loop : FlushLoop Self Peer) : Prop :=
  ∃ setting, loop.timerFd = some setting ∧ setting.Armed ∧
    setting.itInterval.nanoseconds = interval.toInt

/-- No packet is ever queued without a timer that will flush it. -/
def NeverStranded (Self Peer : Type) (interval : Int32) : Prop :=
  ∀ (now : Timespec) (loop : FlushLoop Self Peer), (system now interval).Reachable loop →
    loop.trace.writer.queued ≠ [] → loop.TimerRuns interval

variable {loop : FlushLoop Self Peer} {interval : Int32}

/-- A positive flag is a positive number. -/
theorem toInt_pos (positive : 0 < interval) : 0 < interval.toInt := by
  simpa [Int32.lt_iff_toInt_lt] using positive

/-! ## A timer that runs -/

/-- No event stops the timer. -/
theorem TimerRuns.step (runs : loop.TimerRuns interval) (positive : 0 < interval)
    (event : FlushLoopEvent Self Peer) : (loop.step event).TimerRuns interval := by
  obtain ⟨setting, timer, armed, requested⟩ := runs
  cases event with
  | call event => exact ⟨setting, timer, armed, requested⟩
  | timerExpires =>
      have periodic : setting.itInterval ≠ .zero := by
        apply Timespec.ne_zero_of_pos
        rw [requested]
        exact toInt_pos positive
      refine ⟨setting.expire, ?_, ?_, requested⟩
      · simp only [FlushLoop.step, timer, Option.map_some]
      · exact Itimerspec.Periodic.armed_expire (fun _ => periodic) armed
  | onEvent kernel => exact ⟨setting, timer, armed, requested⟩

/-- When it expires, its `OnEvent` flushes what is queued. -/
theorem TimerRuns.flushes (runs : loop.TimerRuns interval) (kernel : Kernel Self Peer) :
    loop.Enabled .timerExpires ∧
      ((loop.step .timerExpires).step (.onEvent kernel)).trace =
        loop.trace.step (.flush kernel) := by
  obtain ⟨setting, timer, armed, -⟩ := runs
  exact ⟨⟨setting, timer, armed⟩, rfl⟩

/-- The timer runs in every run. -/
theorem timerRuns_of_reachable {now : Timespec} (positive : 0 < interval)
    (begins : ∀ writesCache,
      (createWriter now interval writesCache : FlushLoop Self Peer).TimerRuns interval)
    (reachable : (system now interval).Reachable loop) : loop.TimerRuns interval := by
  refine LabelledSystem.Invariant.of_reachable ⟨TimerRuns interval, ?_, ?_⟩ reachable
  · rintro _ ⟨writesCache, rfl⟩
    exact begins writesCache
  · rintro here event _ runs ⟨-, rfl⟩
    exact runs.step positive event

/-! ## The interval -/

/-- What `Initialize` does to the timer. -/
theorem createWriter_timerFd (now : Timespec) (interval : Int32)
    (writesCache : Nat → Nat → UInt8) :
    (createWriter now interval writesCache : FlushLoop Self Peer).timerFd =
      some (Itimerspec.disarmed.settimeAbs now (flushTimerSetting interval)) := rfl

/-- The kernel takes an interval below a second. -/
theorem flushTimerSetting_valid_iff (positive : 0 < interval) :
    (flushTimerSetting interval).IsValid ↔ interval.toInt < 1000000000 := by
  have above := toInt_pos positive
  simp only [Itimerspec.IsValid, flushTimerSetting, Timespec.IsValid]
  omega

/-- The setting denotes the interval, whether the kernel takes it or not. -/
theorem flushTimerSetting_nanoseconds (interval : Int32) :
    (flushTimerSetting interval).itValue.nanoseconds = interval.toInt ∧
      (flushTimerSetting interval).itInterval.nanoseconds = interval.toInt := by
  simp [flushTimerSetting, Timespec.nanoseconds]

/-- A positive interval arms the timer. -/
theorem flushTimerSetting_armed (positive : 0 < interval) :
    (flushTimerSetting interval).Armed := by
  apply Timespec.ne_zero_of_pos
  rw [(flushTimerSetting_nanoseconds interval).1]
  exact toInt_pos positive

/-- An interval the kernel takes sets the timer running. -/
theorem createWriter_timerRuns (now : Timespec) (positive : 0 < interval)
    (short : interval.toInt < 1000000000) (writesCache : Nat → Nat → UInt8) :
    (createWriter now interval writesCache : FlushLoop Self Peer).TimerRuns interval := by
  have valid := (flushTimerSetting_valid_iff positive).mpr short
  obtain ⟨armed, kept⟩ :=
    Itimerspec.disarmed.settimeAbs_valid now valid (flushTimerSetting_armed positive)
  refine ⟨_, createWriter_timerFd now interval writesCache, armed, ?_⟩
  rw [kept]
  exact (flushTimerSetting_nanoseconds interval).2

/-- The kernel rejects a longer interval, and the timer stays as it was created. -/
theorem createWriter_disarmed (now : Timespec) (positive : 0 < interval)
    (long : ¬ interval.toInt < 1000000000) (writesCache : Nat → Nat → UInt8) :
    (createWriter now interval writesCache : FlushLoop Self Peer).timerFd = some .disarmed := by
  have invalid := (flushTimerSetting_valid_iff positive).not.mpr long
  rw [createWriter_timerFd, Itimerspec.settimeAbs_invalid now _ invalid]

/-- A disarmed timer does not run. -/
theorem not_timerRuns_of_disarmed (disarmed : loop.timerFd = some .disarmed) :
    ¬ loop.TimerRuns interval := by
  rintro ⟨setting, timer, armed, -⟩
  rw [disarmed, Option.some_inj] at timer
  subst timer
  exact Itimerspec.not_armed_disarmed armed

/-- A packet written to a new writer waits in its queue. -/
theorem queued_write (writesCache : Nat → Nat → UInt8) (packet : Packet Self Peer)
    (before after : Kernel Self Peer) :
    ((WriterTrace.create writesCache).step (.writePacket packet before after)).writer.queued =
      [packet] := by
  let new : QuicProxyPacketWriter Self Peer := .create writesCache
  have intact : new.RingIntact 0 := QuicProxyPacketWriter.RingIntact.create writesCache
  have room : ¬ new.full := by
    simp [new, QuicProxyPacketWriter.full, QuicProxyPacketWriter.create, maxCacheBufferWriteSize]
  have more : ¬ (new.enqueue packet).full := by
    simp [new, QuicProxyPacketWriter.full, QuicProxyPacketWriter.create, maxCacheBufferWriteSize]
  have first : new.firstFlush before = ⟨⟨.ok, 0⟩, [], none, new⟩ := if_neg room
  have written : (new.writePacket packet before after).writer = new.enqueue packet := by
    simp only [QuicProxyPacketWriter.writePacket, first, if_neg room,
      QuicProxyPacketWriter.finishWrite, if_neg more]
  calc (new.writePacket packet before after).writer.queued
      = new.queued ++ [packet] := by rw [written, intact.queued_enqueue room]
    _ = [packet] := rfl

/-- A writer that has been written to. -/
theorem reachable_firstWrite (now : Timespec) (interval : Int32)
    (writesCache : Nat → Nat → UInt8) (packet : Packet Self Peer)
    (before after : Kernel Self Peer) :
    (system now interval).Reachable
      ((createWriter now interval writesCache).step
        (.call (.writePacket packet before after))) := by
  let made : FlushLoop Self Peer := createWriter now interval writesCache
  have start : (system now interval).Reachable made := .start ⟨writesCache, rfl⟩
  have enabled : made.Enabled (.call (.writePacket packet before after)) := trivial
  exact start.next ⟨enabled, rfl⟩

/-! ## Every interval -/

/-- The kernel accepts the setting, which arms the timer, and `it_value` denotes `duration`
nanoseconds: a time from now for a relative setting, one of the clock with `TFD_TIMER_ABSTIME`. -/
structure Requests (setting : Itimerspec) (duration : Int) : Prop where
  valid : setting.IsValid
  armed : setting.Armed
  first : setting.itValue.nanoseconds = duration

/-- The nanoseconds a timeout stands for: a timer of zero would be disarmed. -/
def timeoutNanoseconds (timeoutMs : Int) : Int :=
  if timeoutMs = 0 then 1 else timeoutMs * 1000000

/-- A timeout becomes a first expiry of as many nanoseconds. -/
theorem curlTimerSetting_requests {timeoutMs : Int} (notNegative : 0 ≤ timeoutMs) :
    Requests (curlTimerSetting timeoutMs) (timeoutNanoseconds timeoutMs) := by
  refine ⟨curlTimerSetting_valid timeoutMs, curlTimerSetting_armed notNegative, ?_⟩
  unfold timeoutNanoseconds
  split
  · next zero =>
      subst zero
      decide
  · next notZero =>
      rw [curlTimerSetting_pos (by omega)]
      simp only [Timespec.nanoseconds]
      omega

/-- No packet is stranded exactly if the interval is below a second. -/
theorem neverStranded_iff [Inhabited Self] [Inhabited Peer] (positive : 0 < interval) :
    NeverStranded Self Peer interval ↔ interval.toInt < 1000000000 := by
  constructor
  · intro never
    by_contra long
    let packet : Packet Self Peer := ⟨[], default, default, Nat.zero_le _⟩
    let kernel : Kernel Self Peer := fun _ => .again
    let made : FlushLoop Self Peer := createWriter .zero interval fun _ _ => 0
    have disarmed : made.timerFd = some .disarmed :=
      createWriter_disarmed .zero positive long fun _ _ => 0
    have still : (made.step (.call (.writePacket packet kernel kernel))).timerFd =
        some .disarmed := disarmed
    have reachable := reachable_firstWrite .zero interval (fun _ _ => 0) packet kernel kernel
    have waits := queued_write (fun _ _ => 0) packet kernel kernel
    have occupied := ne_of_eq_of_ne waits (List.cons_ne_nil packet [])
    exact not_timerRuns_of_disarmed still (never .zero _ reachable occupied)
  · intro short now loop reachable _
    exact timerRuns_of_reachable positive (createWriter_timerRuns now positive short) reachable

/-- Every timeout of libcurl is asked for as it should be. An interval of the flush timer
is, the timer then runs, and no packet is ever left without it, exactly where the interval
is shorter than a second. -/
theorem timers_armed_iff [Inhabited Self] [Inhabited Peer] :
    (∀ timeoutMs : Int, 0 ≤ timeoutMs →
      Requests (curlTimerSetting timeoutMs) (timeoutNanoseconds timeoutMs)) ∧
    ∀ interval : Int32, 0 < interval →
      (Requests (flushTimerSetting interval) interval.toInt ↔ interval.toInt < 1000000000) ∧
      ((∀ now writesCache,
          (createWriter now interval writesCache : FlushLoop Self Peer).TimerRuns interval) ↔
        interval.toInt < 1000000000) ∧
      (NeverStranded Self Peer interval ↔ interval.toInt < 1000000000) := by
  refine ⟨fun timeoutMs => curlTimerSetting_requests, fun interval positive => ⟨?_, ?_, ?_⟩⟩
  · constructor
    · intro requests
      exact (flushTimerSetting_valid_iff positive).mp requests.valid
    · intro short
      exact ⟨(flushTimerSetting_valid_iff positive).mpr short, flushTimerSetting_armed positive,
        (flushTimerSetting_nanoseconds interval).1⟩
  · constructor
    · intro runs
      by_contra long
      exact not_timerRuns_of_disarmed
        (createWriter_disarmed .zero positive long fun _ _ => 0) (runs .zero fun _ _ => 0)
    · intro short now writesCache
      exact createWriter_timerRuns now positive short writesCache
  · exact neverStranded_iff positive

/-- The default interval, and a timeout of a second and a half. -/
theorem timers_armed_iff_default :
    Requests (curlTimerSetting 1500) (timeoutNanoseconds 1500) ∧
      NeverStranded Unit Unit 40000000 :=
  have ⟨timeouts, intervals⟩ := @timers_armed_iff Unit Unit _ _
  ⟨timeouts 1500 (by decide), (intervals 40000000 (by decide)).2.2.mpr (by decide)⟩

/-- An interval of one second. -/
def oneSecond : FlushLoop Unit Unit :=
  (createWriter .zero 1000000000 fun _ _ => 0).step
    (.call (.writePacket (WriterTrace.probe 1) (fun _ => .again) (fun _ => .again)))

/-- The kernel rejects it, and a packet waits in the queue of a writer whose timer is not
armed. -/
theorem oneSecond_stranded :
    ¬ (flushTimerSetting 1000000000).IsValid ∧
      (system .zero 1000000000).Reachable oneSecond ∧
      oneSecond.timerFd = some .disarmed ∧
      oneSecond.trace.writer.queued = [WriterTrace.probe 1] ∧
      ¬ NeverStranded Unit Unit 1000000000 := by
  have reachable : (system .zero 1000000000).Reachable oneSecond :=
    reachable_firstWrite _ _ _ _ _ _
  have disarmed : oneSecond.timerFd = some .disarmed := rfl
  have waits : oneSecond.trace.writer.queued = [WriterTrace.probe 1] := by decide
  refine ⟨by decide, reachable, disarmed, waits, fun never => ?_⟩
  have runs := never .zero oneSecond reachable (by simp [waits])
  exact not_timerRuns_of_disarmed disarmed runs

end FlushLoop

end QuicProxy
