import QuicProxy.Backend.CurlTimer
import QuicProxy.Backend.Clearings

/-!
# No timeout of libcurl is lost

`running_inMulti` says what libcurl counts, and `timeout_not_lost` is the result for every
run: the timer is armed whenever a transfer waits for a timeout.
-/

namespace QuicProxy

namespace LoopState

variable {state : LoopState}

/-! ## What runs -/

/-- Every transfer that libcurl counts is in the multi. -/
structure Counted (state : LoopState) : Prop where
  intact : state.backend.links.Intact
  inMulti : ∀ easy ∈ state.running, (state.backend.multi easy).isSome

/-- What a backend event adds to the running transfers is in the multi. -/
theorem running_afterBackend (state : LoopState) (event : BackendEvent) {easy : EasyRef}
    (runs : easy ∈ (state.afterBackend event).running) :
    easy ∈ state.running ∨ (state.backend.multi easy).isSome := by
  unfold LoopState.afterBackend at runs
  split at runs
  · next new _ _ _ =>
      split at runs
      · next added =>
          have member : easy ∈ insert new state.running := by
            unfold LoopState.transferAdded at runs
            simp only at runs
            split at runs
            · exact runs
            · exact runs
          rcases Finset.mem_insert.mp member with rfl | before
          · exact .inr added
          · exact .inl before
      · exact .inl runs
  · exact .inl runs

/-- What an event adds to the running transfers is in the multi. -/
theorem running_step {platform : Platform} {event : LoopEvent} {next : LoopState}
    (stepped : state.step platform event = .ok next) {easy : EasyRef}
    (runs : easy ∈ next.running) :
    easy ∈ state.running ∨ (next.backend.multi easy).isSome := by
  cases event with
  | initializeCURLM =>
      cases stepped
      unfold LoopState.initializeCurlTimer at runs
      split at runs
      · exact .inl runs
      · exact .inl runs
  | backend event =>
      obtain ⟨backend, -, moved⟩ := bind_ok stepped
      cases moved
      rw [(afterBackend_sameCourse { state with backend := backend } event).backend]
      exact running_afterBackend _ event runs
  | curlMultiTimer timeoutMs =>
      cases stepped
      exact .inl runs
  | transferEnds ended =>
      cases stepped
      exact .inl (Finset.mem_of_mem_erase runs)
  | timerExpires =>
      cases stepped
      exact .inl runs
  | socketReady s =>
      rcases socketReady_cases stepped with rfl | ⟨entry, -, rfl⟩
      · exact .inl runs
      · exact .inl runs
  | timerReady readable =>
      cases stepped
      cases readable with
      | false => exact .inl runs
      | true => exact .inl runs
  | actionReturns =>
      cases stepped
      unfold LoopState.actionReturns at runs
      split at runs
      · exact .inl runs
      · exact .inl runs
      · exact .inl runs
  | check messages =>
      obtain ⟨backend, -, ended⟩ := bind_ok stepped
      rcases onEventEnds_cases ended with rfl | ⟨ref, -, -, rfl⟩
      · exact .inl runs
      · exact .inl runs

/-- No message is for a transfer that runs. -/
theorem notDone_of_running {event : LoopEvent} (enabled : state.Enabled event)
    {onBackend : BackendEvent} (isEvent : event.onBackend = some onBackend) {easy : EasyRef}
    (runs : easy ∈ state.running) : easy ∉ onBackend.finished := by
  cases event with
  | backend event =>
      cases isEvent
      cases onBackend with
      | check messages => exact enabled.1.elim
      | _ => nofun
  | check messages =>
      cases isEvent
      exact fun reported => enabled.2.2 easy reported runs
  | _ => cases isEvent

/-- Transfers leave the multi only when they are reported done, and then no longer run. -/
theorem Counted.step {platform : Platform} (counted : Counted state) {event : LoopEvent}
    {next : LoopState} (enabled : state.Enabled event)
    (stepped : state.step platform event = .ok next) : Counted next := by
  rcases step_backend enabled stepped with ⟨-, same⟩ | ⟨onBackend, isEvent, allowed, moved⟩
  · refine ⟨same ▸ counted.intact, fun easy runs => ?_⟩
    rcases running_step stepped runs with before | inMulti
    · rw [same]
      exact counted.inMulti easy before
    · exact inMulti
  · refine ⟨(BackendState.step_iff.mp moved).intact counted.intact allowed,
      fun easy runs => ?_⟩
    rcases running_step stepped runs with before | inMulti
    · have notDone := notDone_of_running enabled isEvent before
      have wasInMulti := counted.inMulti easy before
      exact BackendState.inMulti_step counted.intact allowed moved notDone wasInMulti
    · exact inMulti

/-- Every transfer that libcurl counts is in the multi, in every run. -/
theorem running_inMulti {platform : Platform} {backendUrl : Bytes}
    (reachable : (system platform backendUrl).Reachable state) {easy : EasyRef}
    (runs : easy ∈ state.running) : (state.backend.multi easy).isSome := by
  have counted : Counted state := by
    refine LabelledSystem.Invariant.of_reachable ⟨Counted, ?_, ?_⟩ reachable
    · rintro _ rfl
      refine ⟨Links.Intact.empty, fun easy runs => ?_⟩
      cases Finset.notMem_empty easy runs
    · rintro here event there counted ⟨enabled, stepped⟩
      exact counted.step enabled stepped
  exact counted.inMulti easy runs

/-! ## Every run -/

/-- Every event keeps the timer awake. -/
theorem Awake.step {platform : Platform} (awake : Awake state) {event : LoopEvent}
    {next : LoopState} (enabled : state.Enabled event)
    (stepped : state.step platform event = .ok next) : Awake next := by
  cases event with
  | initializeCURLM =>
      cases stepped
      exact awake.initializeCurlTimer
  | backend event =>
      obtain ⟨backend, -, moved⟩ := bind_ok stepped
      cases moved
      exact (awake.moves backend).afterBackend enabled.1
  | curlMultiTimer timeoutMs =>
      cases stepped
      exact awake_curlMultiTimerCB timeoutMs awake.counted
  | transferEnds easy =>
      cases stepped
      exact awake.transferEnds easy
  | timerExpires =>
      cases stepped
      exact awake.timerExpires enabled
  | socketReady s => exact awake.socketReady stepped
  | timerReady readable =>
      cases stepped
      exact awake.timerReady readable
  | actionReturns =>
      cases stepped
      exact awake.actionReturns
  | check messages =>
      obtain ⟨backend, -, ended⟩ := bind_ok stepped
      exact (awake.moves backend).onEventEnds ended

/-- The timer is awake in every run. -/
theorem awake_of_reachable {platform : Platform} {backendUrl : Bytes}
    (reachable : (system platform backendUrl).Reachable state) : Awake state := by
  refine LabelledSystem.Invariant.of_reachable ⟨Awake, ?_, ?_⟩ reachable
  · rintro _ rfl
    constructor
    · rintro setting ⟨⟩
    · rintro setting ⟨⟩
    · rintro caller ⟨⟩
  · rintro here event there awake ⟨enabled, stepped⟩
    exact awake.step enabled stepped

/-- The timer will expire. -/
def TimerArmed (state : LoopState) : Prop :=
  ∃ setting, state.timerFd = some setting ∧ setting.Armed

/-- After initialisation the timer is armed whenever a transfer runs and libcurl has not
said last that it needs no timeout; and no `OnEvent` touches it while a transfer runs,
or was just added. -/
theorem timeout_not_lost {platform : Platform} {backendUrl : Bytes}
    (reachable : (system platform backendUrl).Reachable state) :
    (state.timerFd.isSome → state.WaitsForTimeout → state.TimerArmed) ∧
      ∀ messages next, state.Enabled (.check messages) →
        state.step platform (.check messages) = .ok next → state.running.Nonempty →
          next.timerFd = state.timerFd ∧ next.running = state.running := by
  have awake := awake_of_reachable reachable
  refine ⟨fun initialised waits => ?_, fun messages next _ stepped runs => ?_⟩
  · obtain ⟨setting, timer⟩ := Option.isSome_iff_exists.mp initialised
    exact ⟨setting, timer, awake.armed setting timer waits⟩
  · obtain ⟨backend, -, ended⟩ := bind_ok stepped
    rcases onEventEnds_cases ended with rfl | ⟨ref, isReturned, nothing, rfl⟩
    · exact ⟨rfl, rfl⟩
    · have empty := awake.idle_of_disarmed isReturned nothing
      exact absurd empty runs.ne_empty

/-- libcurl has run the transfer. -/
def answered : LoopState := answering.take Platform.chromium .actionReturns

/-- The run of the example goes on from the call of libcurl. -/
theorem answered_reachable :
    (system Platform.chromium (ascii "http://localhost/")).Reachable answered := by
  have called : ((system Platform.chromium (ascii "http://localhost/")).guarded
      fun _ _ => True).Reachable answering :=
    answering_guarded trivial trivial trivial trivial trivial
  have returnEnabled : answering.Enabled .actionReturns := ⟨.proxy 0, rfl⟩
  exact (guarded_take called trivial returnEnabled rfl).of_guarded

/-- The transfer waits, and libcurl has not said that it needs no timeout. -/
theorem answered_runs : answered.WaitsForTimeout := by
  refine ⟨⟨0, by decide +kernel⟩, ?_⟩
  rintro timeoutMs ⟨⟩
  decide

/-- The timer of the example is armed while its transfer runs. -/
theorem timeout_not_lost_answered :
    answered.TimerArmed ∧
      ∀ messages next, answered.Enabled (.check messages) →
        answered.step Platform.chromium (.check messages) = .ok next →
          next.timerFd = answered.timerFd ∧ next.running = answered.running :=
  have ⟨armed, kept⟩ := timeout_not_lost answered_reachable
  ⟨armed rfl answered_runs, fun messages next enabled stepped =>
    kept messages next enabled stepped answered_runs.1⟩

end LoopState

end QuicProxy
