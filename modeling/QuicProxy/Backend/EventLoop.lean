import QuicProxy.Backend.Pointers
import QuicProxy.Std.Timerfd
import Mathlib.Data.Finset.Card

/-!
# The event loop around the backend

The epoll server calls one `OnEvent` at a time: of the proxy registered for a socket,
or of the curl timer. Both hand the event to `curl_multi_socket_action`, in which
libcurl calls back any number of times, and both end with `CheckCurlMultiInfo`; the
proxy then reads `backend_` once more and disarms the timer if nothing runs. So the
two are three events each here: the call, the return of `curl_multi_socket_action`,
and what follows it. Everything else that happens to the backend may happen in
between, except that no request starts after the return.

Of libcurl the state keeps which transfers it counts as running. The assumptions on it
are these: the count that `curl_multi_socket_action` writes is their number, a
transfer that is added asks for a timeout of 0 at once, and a message is for a
transfer that no longer runs. The timer is created without failure.
-/

namespace QuicProxy

/-- Whose `OnEvent` the epoll server has called. -/
inductive Caller where
  | proxy (ref : ProxyRef)
  | curlTimer
deriving DecidableEq

/-- Where the process is: between two events, in `curl_multi_socket_action`, or after
its return. -/
inductive Frame where
  | idle
  | inAction (caller : Caller)
  | returned (caller : Caller)
deriving DecidableEq

/-- The proxy whose `OnEvent` is on the stack. -/
def Frame.onStack : Frame → Option ProxyRef
  | .inAction (.proxy ref) | .returned (.proxy ref) => some ref
  | .inAction .curlTimer | .returned .curlTimer | .idle => none

/-- The backend with its timer, the transfers that run, and where the loop stands. -/
structure LoopState where
  backend : BackendState
  /-- The timer behind `timer_fd_`, which is -1 before `InitializeCURLM`. -/
  timerFd : Option Itimerspec
  /-- `still_running_` -/
  stillRunning : Int
  running : Finset EasyRef
  /-- What libcurl passed to `CurlMultiTimerCB` last. -/
  lastTimeout : Option Int
  frame : Frame

/-- What can happen to the loop next. -/
inductive LoopEvent where
  | initializeCURLM
  | backend (event : BackendEvent)
  | curlMultiTimer (timeoutMs : Int)
  | transferEnds (easy : EasyRef)
  | timerExpires
  | socketReady (s : Socket)
  | timerReady (readable : Bool)
  | actionReturns
  | check (messages : List CurlMsg)

/-- The event of the backend it comes with. -/
def LoopEvent.onBackend : LoopEvent → Option BackendEvent
  | .backend event => some event
  | .check messages => some (.check messages)
  | .initializeCURLM | .curlMultiTimer _ | .transferEnds _ | .timerExpires | .socketReady _
  | .timerReady _ | .actionReturns => none

/-- What may happen to the backend within a frame. `CheckCurlMultiInfo` has an event of
its own. -/
def Frame.Admits (frame : Frame) : BackendEvent → Prop
  | .check _ => False
  | .fetch _ _ _ _ _ _ => ∀ caller, frame ≠ .returned caller
  | _ => True

/-- The setting `CurlMultiTimerCB` makes of a timeout. -/
def curlTimerSetting (timeoutMs : Int) : Itimerspec :=
  if 0 < timeoutMs then
    ⟨⟨1, 0⟩, ⟨timeoutMs / 1000, timeoutMs % 1000 * 1000 * 1000⟩⟩
  else if timeoutMs = 0 then
    ⟨⟨1, 0⟩, ⟨0, 1⟩⟩
  else
    .disarmed

namespace LoopState

/-- Before `InitializeCURLM`. -/
def initial (backendUrl : Bytes) : LoopState where
  backend := .initial backendUrl
  timerFd := none
  stillRunning := 0
  running := ∅
  lastTimeout := none
  frame := .idle

/-! ## The timer -/

/-- `timerfd_settime` on `timer_fd_` -/
def settime (state : LoopState) (new : Itimerspec) : LoopState :=
  { state with timerFd := state.timerFd.map fun setting => setting.settime new }

/-- `QuicCurlTimer::InitializeCurlTimer` -/
def initializeCurlTimer (state : LoopState) : LoopState :=
  match state.timerFd with
  | none => { state with timerFd := some .disarmed }.settime ⟨⟨1, 0⟩, ⟨1, 0⟩⟩
  | some _ => state

/-- `QuicProxyBackend::CurlMultiTimerCB` -/
def curlMultiTimerCB (state : LoopState) (timeoutMs : Int) : LoopState :=
  { state with lastTimeout := some timeoutMs }.settime (curlTimerSetting timeoutMs)

/-- What `curl_multi_add_handle` does besides adding the handle. Its timer callback is
set once `InitializeCURLM` has run. -/
def transferAdded (state : LoopState) (easy : EasyRef) : LoopState :=
  let state := { state with running := insert easy state.running }
  if state.timerFd.isSome then state.curlMultiTimerCB 0 else state

/-- A request that was started has its handle in the multi, unless `StartHttp` gave
up. -/
def afterBackend (state : LoopState) : BackendEvent → LoopState
  | .fetch _ _ (some easy) _ _ _ =>
      if (state.backend.multi easy).isSome then state.transferAdded easy else state
  | _ => state

/-! ## Events of the epoll server -/

/-- `QuicProxyCurl::OnEvent` up to the call of `curl_multi_socket_action`, on the object
registered for the socket. -/
def socketReady (state : LoopState) (s : Socket) : Except Fault LoopState :=
  match state.backend.epoll s with
  | none => .ok state
  | some entry => do
      let _ ← state.backend.proxy entry.callback
      .ok { state with frame := .inAction (.proxy entry.callback) }

/-- `QuicCurlTimer::OnEvent` up to that call; it returns where `read` fails with
`EAGAIN`. -/
def timerReady (state : LoopState) (readable : Bool) : LoopState :=
  if readable then { state with frame := .inAction .curlTimer } else state

/-- `curl_multi_socket_action` returns. -/
def actionReturns (state : LoopState) : LoopState :=
  match state.frame with
  | .inAction caller =>
      { state with frame := .returned caller, stillRunning := state.running.card }
  | .idle | .returned _ => state

/-- The end of `OnEvent`, after `CheckCurlMultiInfo`. -/
def onEventEnds (state : LoopState) : Except Fault LoopState :=
  match state.frame with
  | .returned (.proxy ref) => do
      let _ ← state.backend.proxy ref
      if state.stillRunning ≤ 0 then
        .ok { state.settime .disarmed with frame := .idle }
      else
        .ok { state with frame := .idle }
  | .returned .curlTimer | .inAction _ | .idle => .ok { state with frame := .idle }

/-! ## The system -/

/-- The event can happen where the loop stands. -/
def Enabled (state : LoopState) : LoopEvent → Prop
  | .initializeCURLM => state.frame = .idle
  | .backend event => state.frame.Admits event ∧ state.backend.Enabled event
  | .curlMultiTimer _ => state.timerFd.isSome
  | .transferEnds easy => easy ∈ state.running
  | .timerExpires => ∃ setting, state.timerFd = some setting ∧ setting.Armed
  | .socketReady s => state.frame = .idle ∧ (state.backend.epoll s).isSome
  | .timerReady _ => state.frame = .idle ∧ state.timerFd.isSome
  | .actionReturns => ∃ caller, state.frame = .inAction caller
  | .check messages => (∃ caller, state.frame = .returned caller) ∧
      state.backend.Enabled (.check messages) ∧
        ∀ easy ∈ messages.filterMap CurlMsg.easyHandle?, easy ∉ state.running

variable (platform : Platform)

/-- What the loop does at an event. -/
def step (state : LoopState) : LoopEvent → Except Fault LoopState
  | .initializeCURLM => .ok state.initializeCurlTimer
  | .backend event => do
      let backend ← state.backend.step platform event
      .ok ({ state with backend := backend }.afterBackend event)
  | .curlMultiTimer timeoutMs => .ok (state.curlMultiTimerCB timeoutMs)
  | .transferEnds easy => .ok { state with running := state.running.erase easy }
  | .timerExpires => .ok { state with timerFd := state.timerFd.map Itimerspec.expire }
  | .socketReady s => state.socketReady s
  | .timerReady readable => .ok (state.timerReady readable)
  | .actionReturns => .ok state.actionReturns
  | .check messages => do
      let backend ← state.backend.step platform (.check messages)
      { state with backend := backend }.onEventEnds

/-- Every interleaving of the events. -/
def system (backendUrl : Bytes) : LabelledSystem LoopState LoopEvent :=
  .failing (· = initial backendUrl) Enabled (step platform)

/-- The state after an event, where it does not fail. -/
def take (state : LoopState) (event : LoopEvent) : LoopState :=
  match state.step platform event with
  | .ok next => next
  | .error _ => state

/-- A run is extended by an event that succeeds. -/
theorem guarded_take {platform : Platform} {backendUrl : Bytes} {state : LoopState}
    {event : LoopEvent} {guard : LoopState → LoopEvent → Prop}
    (reachable : ((system platform backendUrl).guarded guard).Reachable state)
    (admits : guard state event) (enabled : state.Enabled event)
    (succeeds : state.step platform event = .ok (state.take platform event)) :
    ((system platform backendUrl).guarded guard).Reachable (state.take platform event) :=
  reachable.next ⟨admits, enabled, succeeds⟩

/-! ## The backend within the loop -/

variable {platform} {state next : LoopState}

/-- Writing the timer and counting transfers touches neither the backend nor the
frame. -/
structure SameCourse (state next : LoopState) : Prop where
  backend : next.backend = state.backend
  frame : next.frame = state.frame

/-- The timer is no part of what the loop runs. -/
theorem initializeCurlTimer_sameCourse (state : LoopState) :
    SameCourse state state.initializeCurlTimer := by
  unfold initializeCurlTimer
  split <;> exact ⟨rfl, rfl⟩

/-- A timeout of libcurl's moves nothing but the timer. -/
theorem transferAdded_sameCourse (state : LoopState) (easy : EasyRef) :
    SameCourse state (state.transferAdded easy) := by
  unfold transferAdded
  simp only
  split <;> exact ⟨rfl, rfl⟩

/-- An added transfer moves nothing but the timer and the count. -/
theorem afterBackend_sameCourse (state : LoopState) (event : BackendEvent) :
    SameCourse state (state.afterBackend event) := by
  unfold afterBackend
  split
  · split
    · exact transferAdded_sameCourse state _
    · exact ⟨rfl, rfl⟩
  · exact ⟨rfl, rfl⟩

/-- What the start of a proxy's `OnEvent` can do. -/
theorem socketReady_cases {s : Socket} (called : state.socketReady s = .ok next) :
    next = state ∨ ∃ entry, state.backend.epoll s = some entry ∧
      next = { state with frame := .inAction (.proxy entry.callback) } := by
  unfold socketReady at called
  split at called
  · exact .inl (Except.ok.inj called).symm
  · next entry registered =>
      obtain ⟨proxy, -, entered⟩ := bind_ok called
      exact .inr ⟨entry, registered, (Except.ok.inj entered).symm⟩

/-- The call on a socket is made before the backend moves. -/
theorem backend_socketReady {s : Socket} (called : state.socketReady s = .ok next) :
    next.backend = state.backend := by
  rcases socketReady_cases called with rfl | ⟨entry, -, rfl⟩
  · rfl
  · rfl

/-- The call on the timer is made before the backend moves. -/
theorem backend_timerReady (state : LoopState) (readable : Bool) :
    (state.timerReady readable).backend = state.backend := by
  cases readable <;> rfl

/-- libcurl's return leaves the backend to what follows. -/
theorem backend_actionReturns (state : LoopState) :
    state.actionReturns.backend = state.backend := by
  unfold actionReturns
  split <;> rfl

/-- What the end of `OnEvent` can do. -/
theorem onEventEnds_cases (ended : state.onEventEnds = .ok next) :
    next = { state with frame := .idle } ∨
      ∃ ref, state.frame = .returned (.proxy ref) ∧ state.stillRunning ≤ 0 ∧
        next = { state.settime .disarmed with frame := .idle } := by
  unfold onEventEnds at ended
  split at ended
  · next ref isReturned =>
      obtain ⟨proxy, -, ended⟩ := bind_ok ended
      by_cases nothing : state.stillRunning ≤ 0
      · rw [if_pos nothing] at ended
        exact .inr ⟨ref, isReturned, nothing, (Except.ok.inj ended).symm⟩
      · rw [if_neg nothing] at ended
        exact .inl (Except.ok.inj ended).symm
  · exact .inl (Except.ok.inj ended).symm
  · exact .inl (Except.ok.inj ended).symm
  · exact .inl (Except.ok.inj ended).symm

/-- The end of `OnEvent` reads the backend only. -/
theorem backend_onEventEnds (ended : state.onEventEnds = .ok next) :
    next.backend = state.backend := by
  rcases onEventEnds_cases ended with rfl | ⟨ref, -, -, rfl⟩
  · rfl
  · rfl

/-- An event of the loop is an event of the backend or leaves it alone. -/
theorem step_backend {event : LoopEvent} (enabled : state.Enabled event)
    (stepped : state.step platform event = .ok next) :
    (event.onBackend = none ∧ next.backend = state.backend) ∨
      ∃ onBackend, event.onBackend = some onBackend ∧ state.backend.Enabled onBackend ∧
        state.backend.step platform onBackend = .ok next.backend := by
  cases event with
  | initializeCURLM =>
      cases stepped
      exact .inl ⟨rfl, (initializeCurlTimer_sameCourse state).backend⟩
  | backend event =>
      obtain ⟨backend, called, moved⟩ := bind_ok stepped
      cases moved
      have same := (afterBackend_sameCourse { state with backend := backend } event).backend
      exact .inr ⟨event, rfl, enabled.2, same.symm ▸ called⟩
  | curlMultiTimer timeoutMs =>
      cases stepped
      exact .inl ⟨rfl, rfl⟩
  | transferEnds easy =>
      cases stepped
      exact .inl ⟨rfl, rfl⟩
  | timerExpires =>
      cases stepped
      exact .inl ⟨rfl, rfl⟩
  | socketReady s => exact .inl ⟨rfl, backend_socketReady stepped⟩
  | timerReady readable =>
      cases stepped
      exact .inl ⟨rfl, backend_timerReady state readable⟩
  | actionReturns =>
      cases stepped
      exact .inl ⟨rfl, backend_actionReturns state⟩
  | check messages =>
      obtain ⟨backend, called, ended⟩ := bind_ok stepped
      rw [backend_onEventEnds ended]
      exact .inr ⟨.check messages, rfl, enabled.2.1, called⟩

/-! ## A transfer in progress -/

/-- The loop is up, -/
def initialised : LoopState :=
  (initial (ascii "http://localhost/")).take Platform.chromium .initializeCURLM

/-- a stream is open, -/
def opened : LoopState :=
  initialised.take Platform.chromium (.backend (.openStream 0))

/-- it has asked for its response, -/
def fetched : LoopState :=
  opened.take Platform.chromium (.backend BackendState.oneFetch)

/-- its transfer waits for a socket, -/
def listening : LoopState :=
  fetched.take Platform.chromium (.backend (.socket 0 3 .pollIn))

/-- and the socket is ready. -/
def answering : LoopState :=
  listening.take Platform.chromium (.socketReady 3)

/-- The example's run up to the call of libcurl, under any guard it satisfies. -/
theorem answering_guarded {guard : LoopState → LoopEvent → Prop}
    (admitsInit : guard (initial (ascii "http://localhost/")) .initializeCURLM)
    (admitsOpen : guard initialised (.backend (.openStream 0)))
    (admitsFetch : guard opened (.backend BackendState.oneFetch))
    (admitsSocket : guard fetched (.backend (.socket 0 3 .pollIn)))
    (admitsReady : guard listening (.socketReady 3)) :
    ((system Platform.chromium (ascii "http://localhost/")).guarded guard).Reachable
      answering := by
  have start : ((system Platform.chromium (ascii "http://localhost/")).guarded guard).Reachable
      (initial (ascii "http://localhost/")) := .start rfl
  have initEnabled : (initial (ascii "http://localhost/")).Enabled .initializeCURLM := rfl
  have openEnabled : initialised.Enabled (.backend (.openStream 0)) := ⟨trivial, rfl⟩
  have fetchEnabled : opened.Enabled (.backend BackendState.oneFetch) :=
    ⟨fun caller => Frame.noConfusion, BackendState.oneFetch_enabled⟩
  have socketEnabled : fetched.Enabled (.backend (.socket 0 3 .pollIn)) :=
    ⟨trivial, by decide, rfl, rfl⟩
  have readyEnabled : listening.Enabled (.socketReady 3) := ⟨rfl, rfl⟩
  have up := guarded_take start admitsInit initEnabled rfl
  have isOpen := guarded_take up admitsOpen openEnabled rfl
  have asked := guarded_take isOpen admitsFetch fetchEnabled rfl
  have listens := guarded_take asked admitsSocket socketEnabled rfl
  exact guarded_take listens admitsReady readyEnabled rfl

end LoopState

end QuicProxy
