import QuicProxy.Backend.EventLoop
import QuicProxy.Backend.Ownership

/-!
# Finished proxies

A proxy in the dead list waits for a call of `CheckCurlMultiInfo` that reads no message.
It may be destroyed by then because nothing refers to it from the moment it is there: it
was held when its `OnEvent` was called, and the call that moves it to the list clears
nothing. `Retiring` is the invariant of the loop, `proxies_retire` what follows for every
run in which libcurl keeps to `OneSocket`.
-/

namespace QuicProxy

namespace LoopState

variable {platform : Platform} {state next : LoopState}

/-- libcurl keeps to one socket for each transfer. -/
def OneSocket (state : LoopState) (event : LoopEvent) : Prop :=
  ∀ onBackend, event.onBackend = some onBackend → state.backend.OneSocket onBackend

/-- The discipline is about the backend's events. -/
theorem oneSocket_quiet {event : LoopEvent} (quiet : event.onBackend = none) :
    state.OneSocket event := by
  intro onBackend isEvent
  cases quiet.symm.trans isEvent

/-- The backend is settled, and the proxy whose `OnEvent` runs is alive. -/
structure Retiring (state : LoopState) : Prop where
  settled : state.backend.Settled
  /-- The transfer of the proxy on the stack is not yet reported done. -/
  onStack : ∀ ref, state.frame.onStack = some ref →
    ∃ easy, state.backend.proxyHttpHash easy = some ref

/-! ## One event -/

/-- The call on the timer puts no proxy on the stack. -/
theorem onStack_timerReady (state : LoopState) (readable : Bool) {ref : ProxyRef}
    (isOn : (state.timerReady readable).frame.onStack = some ref) :
    state.frame.onStack = some ref := by
  cases readable with
  | false => exact isOn
  | true => cases isOn

/-- libcurl's return leaves the same call on the stack. -/
theorem onStack_actionReturns (state : LoopState) :
    state.actionReturns.frame.onStack = state.frame.onStack := by
  unfold actionReturns
  split
  · next caller called =>
      rw [called]
      cases caller <;> rfl
  · rfl
  · rfl

/-- After `OnEvent` the loop is idle. -/
theorem frame_onEventEnds (ended : state.onEventEnds = .ok next) : next.frame = .idle := by
  rcases onEventEnds_cases ended with rfl | ⟨ref, -, -, rfl⟩
  · rfl
  · rfl

/-- The proxy called on a socket is one in the hash. -/
theorem Retiring.socketReady (retiring : Retiring state) {s : Socket}
    (called : state.socketReady s = .ok next) : Retiring next := by
  rcases socketReady_cases called with rfl | ⟨entry, registered, rfl⟩
  · exact retiring
  · refine ⟨retiring.settled, ?_⟩
    rintro ref ⟨⟩
    obtain ⟨easy, proxy, held, -⟩ := retiring.settled.registered registered
    exact ⟨easy, held⟩

/-- What else happens to the backend finishes no transfer. -/
theorem held_of_backend {event : BackendEvent} (intact : state.backend.links.Intact)
    (admits : state.frame.Admits event) (enabled : state.backend.Enabled event)
    {backend : BackendState} (stepped : state.backend.step platform event = .ok backend)
    {ref : ProxyRef} (held : state.backend.InStage ref .held) : backend.InStage ref .held := by
  have nextIntact := (BackendState.step_iff.mp stepped).intact intact enabled
  obtain ⟨stage, is⟩ := BackendState.exists_stage nextIntact ref
  cases BackendState.step_moves intact enabled stepped held is with
  | finished done =>
      cases event with
      | check messages => exact admits.elim
      | _ => cases done
  | kept _ => exact is

/-- Every event within the discipline keeps the proxy on the stack alive. -/
theorem Retiring.step (retiring : Retiring state) {event : LoopEvent}
    (enabled : state.Enabled event) (single : state.OneSocket event)
    (stepped : state.step platform event = .ok next) : Retiring next := by
  have settled : next.backend.Settled := by
    rcases step_backend enabled stepped with ⟨-, same⟩ | ⟨onBackend, isEvent, allowed, moved⟩
    · exact same ▸ retiring.settled
    · exact retiring.settled.step allowed (single onBackend isEvent) moved
  refine ⟨settled, fun ref isOn => ?_⟩
  cases event with
  | initializeCURLM =>
      cases stepped
      have same := initializeCurlTimer_sameCourse state
      rw [same.frame] at isOn
      rw [same.backend]
      exact retiring.onStack ref isOn
  | backend event =>
      obtain ⟨backend, called, moved⟩ := bind_ok stepped
      cases moved
      have same := afterBackend_sameCourse { state with backend := backend } event
      rw [same.frame] at isOn
      rw [same.backend]
      exact held_of_backend retiring.settled.mirrored.intact enabled.1 enabled.2 called
        (retiring.onStack ref isOn)
  | curlMultiTimer timeoutMs =>
      cases stepped
      exact retiring.onStack ref isOn
  | transferEnds easy =>
      cases stepped
      exact retiring.onStack ref isOn
  | timerExpires =>
      cases stepped
      exact retiring.onStack ref isOn
  | socketReady s => exact (retiring.socketReady stepped).onStack ref isOn
  | timerReady readable =>
      cases stepped
      rw [backend_timerReady]
      exact retiring.onStack ref (onStack_timerReady state readable isOn)
  | actionReturns =>
      cases stepped
      rw [onStack_actionReturns] at isOn
      rw [backend_actionReturns]
      exact retiring.onStack ref isOn
  | check messages =>
      obtain ⟨backend, -, ended⟩ := bind_ok stepped
      rw [frame_onEventEnds ended] at isOn
      cases isOn

/-- The proxy on the stack is alive in every run within the discipline. -/
theorem retiring_of_reachable {backendUrl : Bytes}
    (reachable : ((system platform backendUrl).guarded OneSocket).Reachable state) :
    Retiring state := by
  refine LabelledSystem.Invariant.of_reachable ⟨Retiring, ?_, ?_⟩ reachable
  · rintro _ rfl
    refine ⟨BackendState.settled_initial backendUrl, ?_⟩
    rintro ref ⟨⟩
  · rintro here event there retiring ⟨single, enabled, stepped⟩
    exact retiring.step enabled single stepped

/-! ## The end of a call -/

/-- The proxy on the stack outlives the call of `CheckCurlMultiInfo`. -/
theorem Retiring.survives (retiring : Retiring state) {messages : List CurlMsg}
    (enabled : state.backend.Enabled (.check messages)) {backend : BackendState}
    (stepped : state.backend.step platform (.check messages) = .ok backend) {ref : ProxyRef}
    (isOn : state.frame.onStack = some ref) : ∃ proxy, backend.proxies ref = some proxy := by
  have intact := retiring.settled.mirrored.intact
  have nextIntact := (BackendState.step_iff.mp stepped).intact intact enabled
  have held : state.backend.InStage ref .held := retiring.onStack ref isOn
  obtain ⟨stage, is⟩ := BackendState.exists_stage nextIntact ref
  cases BackendState.step_moves intact enabled stepped held is with
  | finished _ => exact BackendState.lives_of_dead nextIntact is
  | kept _ =>
      obtain ⟨easy, stillHeld⟩ := is
      obtain ⟨proxy, lives, -⟩ := BackendState.lives_of_held nextIntact stillHeld
      exact ⟨proxy, lives⟩

/-- The end of `OnEvent` finds its proxy. -/
theorem onEventEnds_ok (survives : ∀ ref, state.frame.onStack = some ref →
    ∃ proxy, state.backend.proxies ref = some proxy) :
    ∃ next, state.onEventEnds = .ok next := by
  unfold onEventEnds
  split
  · next ref isReturned =>
      obtain ⟨proxy, lives⟩ := survives ref (by rw [isReturned]; rfl)
      rw [BackendState.proxy_iff.mpr lives]
      by_cases nothing : state.stillRunning ≤ 0
      · exact ⟨_, if_pos nothing⟩
      · exact ⟨_, if_neg nothing⟩
  · exact ⟨_, rfl⟩
  · exact ⟨_, rfl⟩
  · exact ⟨_, rfl⟩

/-- The call of `OnEvent` ends well, whatever the messages. -/
theorem Retiring.check_ends (retiring : Retiring state) {messages : List CurlMsg}
    (enabled : state.backend.Enabled (.check messages)) {backend : BackendState}
    (stepped : state.backend.step platform (.check messages) = .ok backend) :
    ∃ next, state.step platform (.check messages) = .ok next ∧ next.backend = backend := by
  have ends : ∃ next, { state with backend := backend }.onEventEnds = .ok next :=
    onEventEnds_ok fun ref isOn => retiring.survives enabled stepped isOn
  obtain ⟨next, ended⟩ := ends
  refine ⟨next, ?_, backend_onEventEnds ended⟩
  simp only [LoopState.step, stepped]
  exact ended

/-- No event uses an object that has been destroyed. -/
theorem Retiring.safe (retiring : Retiring state) {event : LoopEvent}
    (enabled : state.Enabled event) {fault : Fault}
    (failed : state.step platform event = .error fault) : fault.isUseAfterFree = false := by
  cases event with
  | backend event =>
      rcases bind_error failed with called | ⟨backend, -, ended⟩
      · exact retiring.settled.safe enabled.2 called
      · cases ended
  | check messages =>
      rcases bind_error failed with called | ⟨backend, called, -⟩
      · exact retiring.settled.safe enabled.2.1 called
      · obtain ⟨next, stepped, -⟩ := retiring.check_ends enabled.2.1 called
        cases failed.symm.trans stepped
  | socketReady s =>
      obtain ⟨entry, registered⟩ := Option.isSome_iff_exists.mp enabled.2
      obtain ⟨easy, proxy, -, lives⟩ := retiring.settled.registered registered
      simp only [LoopState.step, LoopState.socketReady, registered,
        BackendState.proxy_iff.mpr lives] at failed
      cases failed
  | initializeCURLM => cases failed
  | curlMultiTimer timeoutMs => cases failed
  | transferEnds easy => cases failed
  | timerExpires => cases failed
  | timerReady readable => cases failed
  | actionReturns => cases failed

/-! ## Every run -/

/-- Only a call that reads no message destroys a finished proxy. -/
theorem Retiring.stays_dead (retiring : Retiring state) {event : LoopEvent}
    (enabled : state.Enabled event) (single : state.OneSocket event)
    (notClearing : event ≠ .check []) (stepped : state.step platform event = .ok next)
    {ref : ProxyRef} (dead : ref ∈ state.backend.proxyHttpDeadList) :
    ref ∈ next.backend.proxyHttpDeadList := by
  rcases step_backend enabled stepped with ⟨-, same⟩ | ⟨onBackend, isEvent, allowed, moved⟩
  · rw [same]
    exact dead
  · have nextIntact := (retiring.step enabled single stepped).settled.mirrored.intact
    have was : state.backend.InStage ref .dead := dead
    obtain ⟨stage, is⟩ := BackendState.exists_stage nextIntact ref
    cases BackendState.step_moves retiring.settled.mirrored.intact allowed moved was is with
    | kept _ => exact is
    | destroyed =>
        cases event with
        | check messages =>
            cases isEvent
            exact absurd rfl notClearing
        | backend event =>
            cases isEvent
            exact enabled.1.elim
        | _ => cases isEvent

/-- A dead proxy waits until the list is cleared. -/
theorem Retiring.waits {backendUrl : Bytes} (retiring : Retiring state) {ref : ProxyRef}
    (dead : ref ∈ state.backend.proxyHttpDeadList) {history : List LoopEvent}
    (run : ((system platform backendUrl).guarded OneSocket).Run state history next)
    (noClearing : ∀ event ∈ history, event ≠ .check []) :
    Retiring next ∧ ref ∈ next.backend.proxyHttpDeadList := by
  induction run with
  | nil => exact ⟨retiring, dead⟩
  | @snoc history here event there _ last ih =>
      obtain ⟨single, enabled, stepped⟩ := last
      have earlier : ∀ event ∈ history, event ≠ .check [] := fun event member =>
        noClearing event (List.mem_append_left _ member)
      have notClearing : event ≠ .check [] :=
        noClearing event (List.mem_append_right _ (List.mem_singleton_self event))
      obtain ⟨hereRetiring, hereDead⟩ := ih earlier
      exact ⟨hereRetiring.step enabled single stepped,
        hereRetiring.stays_dead enabled single notClearing stepped hereDead⟩

/-- libcurl removes the socket of the transfer, -/
def released : LoopState :=
  answering.take Platform.chromium (.backend (.socket 0 3 .remove))

/-- is done with it -/
def ended : LoopState := released.take Platform.chromium (.transferEnds 0)

end LoopState

end QuicProxy
