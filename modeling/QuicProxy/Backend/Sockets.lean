import QuicProxy.Backend.Safety

/-!
# Sockets and the epoll server

The epoll server mirrors libcurl's sockets when it has exactly the sockets libcurl
has announced and not removed, each with the interest of the latest action and
bound to the proxy of the transfer that announced it. A proxy remembers one socket
only, the last it was given, and a removal goes by that: `mirrors_iff` says that
the mirror holds as long as each removal names it.
-/

namespace QuicProxy

/-- What the epoll server should have for a socket. -/
def CurlSocket.entry (socket : CurlSocket) : EpollEntry :=
  ⟨socket.announcer, socket.action.hasIn, socket.action.hasOut⟩

namespace BackendState

variable {state : BackendState}

/-- Epoll has what libcurl asked for last, for every socket. -/
def Mirrors (state : BackendState) : Prop :=
  ∀ s, state.epoll s = (state.sockets s).map CurlSocket.entry

/-- A removal names the socket that the proxy it is for was given last. -/
def RemovesItsOwn (state : BackendState) : BackendEvent → Prop
  | .socket _ s .remove => ∃ ref proxy,
      (state.sockets s).bind CurlSocket.socketp = some ref ∧
        state.proxies ref = some proxy ∧ proxy.sockfd = s
  | _ => True

/-- Every socket was assigned the proxy of the transfer that announced it. -/
def Assigned (state : BackendState) : Prop :=
  ∀ s socket, state.sockets s = some socket → socket.socketp = some socket.announcer

/-! ## One callback -/

/-- A new socket. -/
theorem socketEvent_add (intact : state.links.Intact) {easy : EasyRef} {handle : EasyHandle}
    (inMulti : state.multi easy = some handle) {s : Socket} {what : CurlPoll}
    (unknown : state.sockets s = none) (notRemove : what ≠ .remove) :
    ∃ next, state.socketEvent easy handle.privateData s what = .ok next ∧
      next.sockets = Function.update state.sockets s
        (some ⟨handle.privateData, what, some handle.privateData⟩) ∧
      next.epoll = Function.update state.epoll s
        (some ⟨handle.privateData, what.hasIn, what.hasOut⟩) := by
  obtain ⟨held, proxy, lives⟩ := proxy_of_multi intact inMulti
  have assigned : (state.sockets s).bind CurlSocket.socketp = none := by
    rw [unknown, Option.bind_none]
  refine ⟨_, socketEvent_iff.mpr (.known assigned notRemove (.added notRemove held lives)), ?_, ?_⟩
  · simp [multiAssign, curlSetSock, registerFD, putProxy, announce, unknown]
  · simp [multiAssign, curlSetSock, registerFD, putProxy, announce]

/-- A new action for a socket that was assigned a proxy. -/
theorem socketEvent_change (easy : EasyRef) (ref : ProxyRef) {s : Socket} {what : CurlPoll}
    {socket : CurlSocket} {assigned : ProxyRef} (known : state.sockets s = some socket)
    (isAssigned : socket.socketp = some assigned) (notRemove : what ≠ .remove) :
    ∃ next, state.socketEvent easy ref s what = .ok next ∧
      next.sockets = Function.update state.sockets s (some { socket with action := what }) ∧
      next.epoll = Function.update state.epoll s ((state.epoll s).map fun entry =>
        { entry with read := what.hasIn, write := what.hasOut }) := by
  have hasPointer : (state.sockets s).bind CurlSocket.socketp = some assigned := by
    rw [known, Option.bind_some, isAssigned]
  refine ⟨_, socketEvent_iff.mpr (.known hasPointer notRemove (.changed notRemove)), ?_, ?_⟩
  · simp [curlSetSock, announce, known]
  · simp [curlSetSock, announce]

/-- The removal of a socket whose proxy exists. -/
theorem socketEvent_remove (easy : EasyRef) (ref : ProxyRef) {s : Socket} {assigned : ProxyRef}
    {proxy : QuicProxyCurl} (isAssigned : (state.sockets s).bind CurlSocket.socketp = some assigned)
    (lives : state.proxies assigned = some proxy) :
    ∃ next, state.socketEvent easy ref s .remove = .ok next ∧
      next.sockets = Function.update state.sockets s none ∧
      next.epoll = if proxy.sockfd ≠ -1 then Function.update state.epoll proxy.sockfd none
        else state.epoll := by
  by_cases bad : proxy.sockfd = -1
  · refine ⟨_, socketEvent_iff.mpr (.forgotten isAssigned rfl (.unregistered lives bad)), ?_, ?_⟩
    · simp [announce]
    · rw [if_neg (not_not_intro bad)]
      rfl
  · refine ⟨_, socketEvent_iff.mpr (.forgotten isAssigned rfl (.removed lives bad)), ?_, ?_⟩
    · simp [announce, unregisterFD]
    · rw [if_pos bad]
      rfl

/-- Its removal when the proxy has been destroyed. -/
theorem socketEvent_remove_destroyed {easy : EasyRef} (ref : ProxyRef) {s : Socket}
    {assigned : ProxyRef} (isAssigned : (state.sockets s).bind CurlSocket.socketp = some assigned)
    (absent : state.proxies assigned = none) :
    state.socketEvent easy ref s .remove = .error (.destroyedProxy assigned) := by
  simp [socketEvent, curlSockCB, isAssigned, curlRemoveSock, BackendState.proxy, announce, absent,
    bind, Except.bind]

/-! ## The mirror -/

/-- The mirror survives a change that is the same on both sides. -/
theorem Mirrors.update {next : BackendState} (mirrors : state.Mirrors) {s : Socket}
    (socket : Option CurlSocket) (sockets : next.sockets = Function.update state.sockets s socket)
    (epoll : next.epoll = Function.update state.epoll s (socket.map CurlSocket.entry)) :
    next.Mirrors := by
  intro other
  rw [sockets, epoll]
  by_cases same : other = s
  · subst same
    simp
  · rw [Function.update_of_ne same, Function.update_of_ne same]
    exact mirrors other

/-- A change of one socket keeps every pointer that was assigned. -/
theorem Assigned.update {next : BackendState} (assigned : state.Assigned) {s : Socket}
    {socket : Option CurlSocket}
    (isAssigned : ∀ known, socket = some known → known.socketp = some known.announcer)
    (sockets : next.sockets = Function.update state.sockets s socket) : next.Assigned := by
  intro other known isKnown
  rw [sockets] at isKnown
  by_cases same : other = s
  · subst same
    rw [Function.update_self] at isKnown
    exact isAssigned known isKnown
  · rw [Function.update_of_ne same] at isKnown
    exact assigned other known isKnown

/-- The invariant of the runs whose removals name their proxy's socket. -/
structure Mirrored (state : BackendState) : Prop where
  intact : state.links.Intact
  mirrors : state.Mirrors
  assigned : state.Assigned

/-- A callback other than a removal keeps the mirror. -/
theorem Mirrored.announced (mirrored : Mirrored state) {easy : EasyRef} {handle : EasyHandle}
    (inMulti : state.multi easy = some handle) (s : Socket) {what : CurlPoll}
    (notRemove : what ≠ .remove) :
    ∃ next, state.socketEvent easy handle.privateData s what = .ok next ∧
      next.Mirrors ∧ next.Assigned := by
  cases known : state.sockets s with
  | none =>
      obtain ⟨next, called, sockets, epoll⟩ :=
        socketEvent_add mirrored.intact inMulti known notRemove
      have isAssigned : ∀ known, some (CurlSocket.mk handle.privateData what
          (some handle.privateData)) = some known → known.socketp = some known.announcer := by
        rintro _ ⟨⟩
        rfl
      exact ⟨next, called, mirrored.mirrors.update _ sockets epoll,
        mirrored.assigned.update isAssigned sockets⟩
  | some socket =>
      have isAssigned := mirrored.assigned s socket known
      obtain ⟨next, called, sockets, epoll⟩ :=
        socketEvent_change easy handle.privateData known isAssigned notRemove
      have stillAssigned : ∀ known, some { socket with action := what } = some known →
          known.socketp = some known.announcer := by
        rintro _ ⟨⟩
        exact isAssigned
      rw [mirrored.mirrors s, known] at epoll
      exact ⟨next, called, mirrored.mirrors.update _ sockets epoll,
        mirrored.assigned.update stillAssigned sockets⟩

/-- So does a removal that names the socket of its proxy. -/
theorem Mirrored.removed (mirrored : Mirrored state) {easy : EasyRef} (ref : ProxyRef)
    {s : Socket} (valid : 0 ≤ s) (own : RemovesItsOwn state (.socket easy s .remove)) :
    ∃ next, state.socketEvent easy ref s .remove = .ok next ∧ next.Mirrors ∧ next.Assigned := by
  obtain ⟨assigned, proxy, isAssigned, lives, last⟩ := own
  have notBad : s ≠ -1 := by
    rintro rfl
    exact absurd valid (by decide)
  obtain ⟨next, called, sockets, epoll⟩ := socketEvent_remove easy ref isAssigned lives
  rw [last, if_pos notBad] at epoll
  have nothing : ∀ known, (none : Option CurlSocket) = some known →
      known.socketp = some known.announcer := by
    rintro _ ⟨⟩
  exact ⟨next, called, mirrored.mirrors.update none sockets epoll,
    mirrored.assigned.update nothing sockets⟩

/-- No other removal does. -/
theorem Mirrored.own_of_mirrors (mirrored : Mirrored state) {easy : EasyRef} (ref : ProxyRef)
    {s : Socket} (known : (state.sockets s).isSome) {next : BackendState}
    (called : state.socketEvent easy ref s .remove = .ok next) (mirrors : next.Mirrors) :
    RemovesItsOwn state (.socket easy s .remove) := by
  obtain ⟨socket, known⟩ := Option.isSome_iff_exists.mp known
  have isAssigned : (state.sockets s).bind CurlSocket.socketp = some socket.announcer := by
    rw [known, Option.bind_some]
    exact mirrored.assigned s socket known
  have registered : state.epoll s = some socket.entry := by
    rw [mirrored.mirrors s, known, Option.map_some]
  cases lives : state.proxies socket.announcer with
  | none =>
      rw [socketEvent_remove_destroyed ref isAssigned lives] at called
      cases called
  | some proxy =>
      obtain ⟨other, otherCalled, sockets, epoll⟩ := socketEvent_remove easy ref isAssigned lives
      obtain rfl := Except.ok.inj (called.symm.trans otherCalled)
      refine ⟨socket.announcer, proxy, isAssigned, lives, ?_⟩
      by_contra differs
      -- the entry of s is still there
      have gone : next.epoll s = none := by
        rw [mirrors s, sockets, Function.update_self, Option.map_none]
      have kept : next.epoll s = state.epoll s := by
        rw [epoll]
        split
        · exact Function.update_of_ne (Ne.symm differs) _ _
        · rfl
      rw [kept, registered] at gone
      cases gone

/-! ## Every run -/

/-- A callback that removes no socket but its own keeps the mirror. -/
theorem Mirrored.socket (platform : Platform) (mirrored : Mirrored state) {easy : EasyRef}
    {s : Socket} {what : CurlPoll} (enabled : state.Enabled (.socket easy s what))
    (own : RemovesItsOwn state (.socket easy s what)) :
    ∃ next, state.step platform (.socket easy s what) = .ok next ∧
      next.Mirrors ∧ next.Assigned := by
  obtain ⟨valid, inMulti, -⟩ := enabled
  obtain ⟨handle, inMulti⟩ := Option.isSome_iff_exists.mp inMulti
  simp only [BackendState.step, forTransfer, inMulti]
  by_cases isRemove : what = .remove
  · subst isRemove
    exact mirrored.removed handle.privateData valid own
  · exact mirrored.announced inMulti s isRemove

/-- Every event that removes no socket but its own keeps the mirror. -/
theorem Mirrored.step (platform : Platform) (mirrored : Mirrored state) {event : BackendEvent}
    {next : BackendState} (enabled : state.Enabled event) (own : RemovesItsOwn state event)
    (stepped : state.step platform event = .ok next) : Mirrored next := by
  have outcome := step_iff.mp stepped
  have intact := outcome.intact mirrored.intact enabled
  cases isSocket : event.isSocket with
  | false =>
      have same := outcome.sameSockets isSocket
      refine ⟨intact, ?_, ?_⟩
      · intro s
        rw [same.epoll, same.sockets]
        exact mirrored.mirrors s
      · intro s socket known
        rw [same.sockets] at known
        exact mirrored.assigned s socket known
  | true =>
      cases event with
      | socket easy s what =>
          obtain ⟨other, otherStepped, mirrors, assigned⟩ := mirrored.socket platform enabled own
          obtain rfl := Except.ok.inj (stepped.symm.trans otherStepped)
          exact ⟨intact, mirrors, assigned⟩
      | _ => cases isSocket

/-- The mirror holds as long as each callback removes its own socket. -/
theorem mirrored_of_guarded {platform : Platform} {backendUrl : Bytes}
    (reachable : ((system platform backendUrl).guarded RemovesItsOwn).Reachable state) :
    Mirrored state := by
  refine LabelledSystem.Invariant.of_reachable ⟨Mirrored, ?_, ?_⟩ reachable
  · rintro _ rfl
    refine ⟨Links.Intact.empty, fun s => rfl, ?_⟩
    intro s socket known
    cases known
  · rintro here event there mirrored ⟨own, enabled, stepped⟩
    exact mirrored.step platform enabled own stepped

/-- In every run whose removals each name the socket their proxy was given last, the
epoll server mirrors libcurl's sockets; and after such a run a socket callback
keeps the mirror if and only if it is no other removal. -/
theorem mirrors_iff (platform : Platform) (backendUrl : Bytes) (state : BackendState)
    (reachable : ((system platform backendUrl).guarded RemovesItsOwn).Reachable state) :
    state.Mirrors ∧
      ∀ easy s what, state.Enabled (.socket easy s what) →
        ((∃ next, state.step platform (.socket easy s what) = .ok next ∧ next.Mirrors) ↔
          RemovesItsOwn state (.socket easy s what)) := by
  have mirrored := mirrored_of_guarded reachable
  refine ⟨mirrored.mirrors, fun easy s what enabled => ⟨?_, ?_⟩⟩
  · rintro ⟨next, stepped, mirrors⟩
    cases what with
    | remove =>
        obtain ⟨handle, inMulti⟩ := Option.isSome_iff_exists.mp enabled.2.1
        simp only [BackendState.step, forTransfer, inMulti] at stepped
        exact mirrored.own_of_mirrors handle.privateData enabled.2.2 stepped mirrors
    | none => trivial
    | pollIn => trivial
    | pollOut => trivial
    | pollInOut => trivial
  · intro own
    obtain ⟨next, stepped, mirrors, -⟩ := mirrored.socket platform enabled own
    exact ⟨next, stepped, mirrors⟩

/-- A transfer has a socket, -/
def firstSocket : BackendState := oneTransfer.take Platform.chromium (.socket 0 3 .pollIn)

/-- which is removed before the transfer gets another one. -/
def replaced : BackendState :=
  (firstSocket.take Platform.chromium (.socket 0 3 .remove)).take Platform.chromium
    (.socket 0 4 .pollIn)

/-- Each step of the example removes its own socket. -/
theorem replaced_guarded : ((system Platform.chromium (ascii "http://localhost/")).guarded
    RemovesItsOwn).Reachable replaced := by
  have firstEnabled : oneTransfer.Enabled (.socket 0 3 .pollIn) := ⟨by decide, rfl, rfl⟩
  have removalEnabled : firstSocket.Enabled (.socket 0 3 .remove) := ⟨by decide, rfl, rfl⟩
  have secondEnabled : (firstSocket.take Platform.chromium (.socket 0 3 .remove)).Enabled
      (.socket 0 4 .pollIn) := ⟨by decide, rfl, rfl⟩
  have own : RemovesItsOwn firstSocket (.socket 0 3 .remove) := ⟨0, _, rfl, rfl, rfl⟩
  have another : RemovesItsOwn (firstSocket.take Platform.chromium (.socket 0 3 .remove))
      (.socket 0 4 .pollIn) := trivial
  have isNew : RemovesItsOwn oneTransfer (.socket 0 3 .pollIn) := trivial
  have started : ((system Platform.chromium (ascii "http://localhost/")).guarded
    RemovesItsOwn).Reachable oneTransfer := oneTransfer_guarded trivial trivial
  have first := started.next ⟨isNew, firstEnabled, rfl⟩
  have removed := first.next ⟨own, removalEnabled, rfl⟩
  exact removed.next ⟨another, secondEnabled, rfl⟩

/-- The one transfer has removed its first socket and announced a second. -/
theorem mirrors_replaced :
    replaced.Mirrors ∧
      ∀ easy s what, replaced.Enabled (.socket easy s what) →
        ((∃ next, replaced.step Platform.chromium (.socket easy s what) = .ok next ∧
            next.Mirrors) ↔ RemovesItsOwn replaced (.socket easy s what)) :=
  mirrors_iff Platform.chromium (ascii "http://localhost/") replaced replaced_guarded

/-- A transfer moves to another socket: the new one is announced before the old
one is removed. -/
def secondSocket : BackendState := firstSocket.take Platform.chromium (.socket 0 4 .pollIn)

/-- The transfer has moved to another socket, and then removes the first. -/
def movedOver : BackendState := secondSocket.take Platform.chromium (.socket 0 3 .remove)

/-- The run of the example, with the removal that is not the transfer's last socket. -/
theorem movedOver_reachable :
    (system Platform.chromium (ascii "http://localhost/")).Reachable movedOver := by
  have firstEnabled : oneTransfer.Enabled (.socket 0 3 .pollIn) := ⟨by decide, rfl, rfl⟩
  have secondEnabled : firstSocket.Enabled (.socket 0 4 .pollIn) := ⟨by decide, rfl, rfl⟩
  have removalEnabled : secondSocket.Enabled (.socket 0 3 .remove) := ⟨by decide, rfl, rfl⟩
  have first := reachable_take oneTransfer_reachable firstEnabled rfl
  have second := reachable_take first secondEnabled rfl
  exact reachable_take second removalEnabled rfl

/-- The removal of socket 3 takes socket 4 from epoll. -/
theorem removal_unregisters_other :
    (system Platform.chromium (ascii "http://localhost/")).Reachable movedOver ∧
      ¬ movedOver.Mirrors := by
  refine ⟨movedOver_reachable, fun mirrors => ?_⟩
  have atFour := mirrors 4
  revert atFour
  decide +kernel

end BackendState

end QuicProxy
