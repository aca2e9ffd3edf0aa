import QuicProxy.Backend.EventLoop

/-!
# Timeouts of libcurl

The timer is written by its initialisation, by libcurl's callback, by a proxy's `OnEvent`
that finds nothing running, and by its own interval. `Awake` is the invariant that keeps
the four together: in particular the count that guards the disarming is never too low
when it is read.
-/

namespace QuicProxy

/-- A timeout of libcurl's becomes the first expiry, and a second the interval. -/
theorem curlTimerSetting_pos {timeoutMs : Int} (positive : 0 < timeoutMs) :
    curlTimerSetting timeoutMs =
      ⟨⟨1, 0⟩, ⟨timeoutMs / 1000, timeoutMs % 1000 * 1000 * 1000⟩⟩ :=
  if_pos positive

/-- A negative timeout deletes the timer. -/
theorem curlTimerSetting_neg {timeoutMs : Int} (negative : timeoutMs < 0) :
    curlTimerSetting timeoutMs = .disarmed := by
  have notPositive : ¬ 0 < timeoutMs := by omega
  have notZero : timeoutMs ≠ 0 := by omega
  rw [curlTimerSetting, if_neg notPositive, if_neg notZero]

/-- The kernel accepts every setting `CurlMultiTimerCB` makes. -/
theorem curlTimerSetting_valid (timeoutMs : Int) : (curlTimerSetting timeoutMs).IsValid := by
  rcases Int.lt_trichotomy timeoutMs 0 with negative | rfl | positive
  · rw [curlTimerSetting_neg negative]
    exact Itimerspec.disarmed_valid
  · decide
  · rw [curlTimerSetting_pos positive]
    have interval : (⟨1, 0⟩ : Timespec).IsValid := by decide
    refine ⟨interval, ?_⟩
    simp only [Timespec.IsValid]
    omega

/-- Any other timeout arms it. -/
theorem curlTimerSetting_armed {timeoutMs : Int} (notNegative : 0 ≤ timeoutMs) :
    (curlTimerSetting timeoutMs).Armed := by
  rcases Int.lt_or_eq_of_le notNegative with positive | rfl
  · rw [curlTimerSetting_pos positive]
    intro zero
    simp only [Timespec.zero, Timespec.mk.injEq] at zero
    omega
  · decide

/-- A timer that is armed fires again. -/
theorem curlTimerSetting_periodic (timeoutMs : Int) : (curlTimerSetting timeoutMs).Periodic := by
  rcases Int.lt_trichotomy timeoutMs 0 with negative | rfl | positive
  · rw [curlTimerSetting_neg negative]
    intro armed
    exact absurd armed Itimerspec.not_armed_disarmed
  · intro _
    decide
  · rw [curlTimerSetting_pos positive]
    intro _
    change (⟨1, 0⟩ : Timespec) ≠ .zero
    decide

namespace LoopState

variable {state : LoopState}

/-- A transfer runs, and the last timeout libcurl passed was not negative. -/
def WaitsForTimeout (state : LoopState) : Prop :=
  state.running.Nonempty ∧ ∀ timeoutMs, state.lastTimeout = some timeoutMs → 0 ≤ timeoutMs

/-- The timer is armed when it has to be, and the count is right when it is read. -/
structure Awake (state : LoopState) : Prop where
  periodic : ∀ setting, state.timerFd = some setting → setting.Periodic
  armed : ∀ setting, state.timerFd = some setting → state.WaitsForTimeout → setting.Armed
  /-- After its return, `curl_multi_socket_action` has counted what still runs. -/
  counted : ∀ caller, state.frame = .returned caller →
    (state.running.card : Int) ≤ state.stillRunning

/-! ## The timer is set -/

/-- What was set is what the timer holds. -/
theorem timerFd_settime {new setting : Itimerspec} (valid : new.IsValid)
    (isSet : (state.settime new).timerFd = some setting) : setting = new := by
  obtain ⟨old, -, rfl⟩ := Option.map_eq_some_iff.mp isSet
  exact old.settime_valid valid

/-- Setting the timer, if a setting that waits is one that is armed. -/
theorem awake_settime {new : Itimerspec} (valid : new.IsValid) (periodic : new.Periodic)
    (armed : state.WaitsForTimeout → new.Armed)
    (counted : ∀ caller, state.frame = .returned caller →
      (state.running.card : Int) ≤ state.stillRunning) :
    Awake (state.settime new) := by
  constructor
  · intro setting isSet
    obtain rfl := timerFd_settime valid isSet
    exact periodic
  · intro setting isSet waits
    obtain rfl := timerFd_settime valid isSet
    exact armed waits
  · exact counted

/-- The initial setting is periodic and armed. -/
theorem Awake.initializeCurlTimer (awake : Awake state) : Awake state.initializeCurlTimer := by
  unfold LoopState.initializeCurlTimer
  split
  · apply awake_settime
    · decide
    · intro _
      decide
    · intro _
      decide
    · exact awake.counted
  · exact awake

/-- The callback arms the timer whenever it is to be armed, whatever it was before. -/
theorem awake_curlMultiTimerCB (timeoutMs : Int)
    (counted : ∀ caller, state.frame = .returned caller →
      (state.running.card : Int) ≤ state.stillRunning) :
    Awake (state.curlMultiTimerCB timeoutMs) := by
  apply awake_settime (curlTimerSetting_valid timeoutMs) (curlTimerSetting_periodic timeoutMs)
  · rintro ⟨-, notNegative⟩
    exact curlTimerSetting_armed (notNegative timeoutMs rfl)
  · exact counted

/-- A transfer that is added has the timer armed for it. -/
theorem awake_transferAdded (easy : EasyRef) (counting : ∀ caller, state.frame ≠ .returned caller) :
    Awake (state.transferAdded easy) := by
  have counted : ∀ caller, state.frame = .returned caller →
      ((insert easy state.running).card : Int) ≤ state.stillRunning := fun caller isReturned =>
    absurd isReturned (counting caller)
  unfold LoopState.transferAdded
  cases timer : state.timerFd with
  | none =>
      constructor
      · rintro setting ⟨⟩
      · rintro setting ⟨⟩
      · exact counted
  | some setting =>
      apply awake_curlMultiTimerCB
      exact counted

/-- A backend event keeps the timer awake, and so does the timeout of a transfer it adds. -/
theorem Awake.afterBackend (awake : Awake state) {event : BackendEvent}
    (admits : state.frame.Admits event) : Awake (state.afterBackend event) := by
  cases event with
  | fetch quicStream ref easyInit peerIp requestHeaders requestBody =>
      cases easyInit with
      | none => exact awake
      | some easy =>
          simp only [LoopState.afterBackend]
          by_cases added : (state.backend.multi easy).isSome = true
          · rw [if_pos added]
            exact awake_transferAdded easy admits
          · rw [if_neg added]
            exact awake
  | openStream quicStream => exact awake
  | destroyStream quicStream => exact awake
  | header easy line => exact awake
  | body easy chunk => exact awake
  | check messages => exact awake
  | socket easy s what => exact awake
  | acked quicStream bufferedDataBytes => exact awake
  | finConsumed quicStream => exact awake

/-! ## The timer runs -/

/-- A periodic timer stays armed when it expires. -/
theorem Awake.timerExpires (awake : Awake state)
    (armed : ∃ setting, state.timerFd = some setting ∧ setting.Armed) :
    Awake { state with timerFd := state.timerFd.map Itimerspec.expire } := by
  obtain ⟨setting, timer, armed⟩ := armed
  have expired : ∀ new, state.timerFd.map Itimerspec.expire = some new →
      new = setting.expire := by
    intro new isNew
    rw [timer, Option.map_some] at isNew
    exact (Option.some.inj isNew).symm
  constructor
  · intro new isNew
    obtain rfl := expired new isNew
    exact setting.periodic_expire
  · intro new isNew _
    obtain rfl := expired new isNew
    exact (awake.periodic setting timer).armed_expire armed
  · exact awake.counted

/-- With one transfer less the count is still high enough. -/
theorem Awake.transferEnds (awake : Awake state) (easy : EasyRef) :
    Awake { state with running := state.running.erase easy } := by
  constructor
  · exact awake.periodic
  · rintro setting timer ⟨⟨other, member⟩, notNegative⟩
    exact awake.armed setting timer ⟨⟨other, Finset.mem_of_mem_erase member⟩, notNegative⟩
  · intro caller isReturned
    have counted := awake.counted caller isReturned
    have fewer : (state.running.erase easy).card ≤ state.running.card :=
      Finset.card_erase_le
    change ((state.running.erase easy).card : Int) ≤ state.stillRunning
    omega

/-! ## A call of `OnEvent` -/

/-- Entering a frame other than that of a return asks for nothing. -/
theorem Awake.enters (awake : Awake state) {frame : Frame}
    (notReturned : ∀ caller, frame ≠ .returned caller) :
    Awake { state with frame := frame } :=
  ⟨awake.periodic, awake.armed, fun caller isReturned => absurd isReturned (notReturned caller)⟩

/-- The call on a socket leaves the timer. -/
theorem Awake.socketReady (awake : Awake state) {s : Socket} {next : LoopState}
    (called : state.socketReady s = .ok next) : Awake next := by
  rcases socketReady_cases called with rfl | ⟨entry, -, rfl⟩
  · exact awake
  · exact awake.enters fun caller => Frame.noConfusion

/-- The call on the timer leaves its setting. -/
theorem Awake.timerReady (awake : Awake state) (readable : Bool) :
    Awake (state.timerReady readable) := by
  cases readable with
  | false => exact awake
  | true => exact awake.enters fun caller => Frame.noConfusion

/-- The return counts what still runs. -/
theorem Awake.actionReturns (awake : Awake state) : Awake state.actionReturns := by
  unfold LoopState.actionReturns
  split
  · exact ⟨awake.periodic, awake.armed, fun _ _ => Int.le_refl _⟩
  · exact awake
  · exact awake

/-- It disarms the timer only where nothing runs. -/
theorem Awake.idle_of_disarmed (awake : Awake state) {ref : ProxyRef}
    (isReturned : state.frame = .returned (.proxy ref)) (nothing : state.stillRunning ≤ 0) :
    state.running = ∅ := by
  have counted := awake.counted (.proxy ref) isReturned
  have none : state.running.card = 0 := by omega
  exact Finset.card_eq_zero.mp none

/-- `OnEvent` disarms the timer only when nothing runs. -/
theorem Awake.onEventEnds (awake : Awake state) {next : LoopState}
    (ended : state.onEventEnds = .ok next) : Awake next := by
  rcases onEventEnds_cases ended with rfl | ⟨ref, isReturned, nothing, rfl⟩
  · exact awake.enters fun caller => Frame.noConfusion
  · have empty := awake.idle_of_disarmed isReturned nothing
    -- leaving the frame and setting the timer may be done in either order
    change Awake ({ state with frame := .idle }.settime .disarmed)
    apply awake_settime Itimerspec.disarmed_valid
    · intro armed
      exact absurd armed Itimerspec.not_armed_disarmed
    · rintro ⟨⟨easy, member⟩, -⟩
      have absent : easy ∉ state.running := by simp [empty]
      exact absurd member absent
    · rintro caller ⟨⟩

/-- The backend moves on its own. -/
theorem Awake.moves (awake : Awake state) (backend : BackendState) :
    Awake { state with backend := backend } :=
  ⟨awake.periodic, awake.armed, awake.counted⟩

end LoopState

end QuicProxy
