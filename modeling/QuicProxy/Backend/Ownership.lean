import QuicProxy.Backend.Sockets
import QuicProxy.Backend.Stages

/-!
# Sockets and the proxies they belong to

`OneSocket` is what libcurl is relied on for: a transfer uses one socket at a time, which
is removed before the transfer is reported done. Under it every announced socket belongs
to a proxy that is held and remembers it. `Settled` is the invariant, `Settled.step` the
step, and `Settled.safe` what follows at once: no destroyed object is used.
-/

namespace QuicProxy

namespace BackendState

variable {state next : BackendState}

/-- A transfer uses one socket at a time, and libcurl removes it before it reports the
transfer done. -/
def OneSocket (state : BackendState) : BackendEvent → Prop
  | .socket easy s what => what ≠ .remove → ∀ handle, state.multi easy = some handle →
      ∀ other socket, state.sockets other = some socket →
        socket.announcer = handle.privateData → other = s
  | .check messages => ∀ easy ∈ messages.filterMap CurlMsg.easyHandle?, ∀ handle,
      state.multi easy = some handle → ∀ s socket, state.sockets s = some socket →
        socket.announcer ≠ handle.privateData
  | _ => True

/-- The transfer of an announced socket is in progress, and its proxy remembers the
socket. -/
def Owned (state : BackendState) : Prop :=
  ∀ s socket, state.sockets s = some socket → ∃ easy proxy,
    state.proxyHttpHash easy = some socket.announcer ∧
      state.proxies socket.announcer = some proxy ∧ proxy.sockfd = s

/-- What makes every event safe while each transfer uses one socket at a time. -/
structure Settled (state : BackendState) : Prop where
  mirrored : Mirrored state
  parted : Parted state
  owned : Owned state

/-! ## Socket callbacks -/

/-- A callback that adds no socket changes no proxy. -/
theorem SocketCalled.proxies {easy : EasyRef} {ref : ProxyRef} {s : Socket} {what : CurlPoll}
    (called : SocketCalled easy ref s what state next)
    (known : what ≠ .remove → ((state.sockets s).bind CurlSocket.socketp).isSome) :
    next.proxies = state.proxies := by
  cases called with
  | forgotten _ isRemove called =>
      subst isRemove
      cases called with
      | unassigned => rfl
      | unregistered => rfl
      | removed => rfl
      | unknown notRemove => exact absurd rfl notRemove
      | added notRemove => exact absurd rfl notRemove
      | changed notRemove => exact absurd rfl notRemove
  | known assigned notRemove called =>
      have isAssigned := known notRemove
      rw [assigned] at isAssigned
      cases called with
      | unassigned => exact absurd rfl notRemove
      | unregistered => exact absurd rfl notRemove
      | removed => exact absurd rfl notRemove
      | unknown => cases isAssigned
      | added => cases isAssigned
      | changed => rfl

/-- A new socket is remembered by the proxy of its transfer. -/
theorem SocketCalled.proxies_added {easy : EasyRef} {ref : ProxyRef} {s : Socket}
    {what : CurlPoll} (called : SocketCalled easy ref s what state next)
    (unknown : state.sockets s = none) (notRemove : what ≠ .remove)
    (held : state.proxyHttpHash easy = some ref) {proxy : QuicProxyCurl}
    (lives : state.proxies ref = some proxy) :
    next.proxies = Function.update state.proxies ref (some (proxy.setSockfd s)) := by
  cases called with
  | forgotten _ isRemove => exact absurd isRemove notRemove
  | known assigned _ called =>
      rw [unknown, Option.bind_none] at assigned
      subst assigned
      cases called with
      | unassigned => exact absurd rfl notRemove
      | unknown _ absent => cases held.symm.trans absent
      | added _ isHeld found =>
          obtain rfl := Option.some.inj (held.symm.trans isHeld)
          obtain rfl := Option.some.inj (lives.symm.trans found)
          rfl

/-- Under the assumption every removal names the socket of its proxy. -/
theorem Settled.removesItsOwn (settled : Settled state) {event : BackendEvent}
    (enabled : state.Enabled event) : RemovesItsOwn state event := by
  cases event with
  | socket easy s what =>
      cases what with
      | remove =>
          obtain ⟨-, -, known⟩ := enabled
          obtain ⟨socket, known⟩ := Option.isSome_iff_exists.mp known
          obtain ⟨key, proxy, -, lives, last⟩ := settled.owned s socket known
          refine ⟨socket.announcer, proxy, ?_, lives, last⟩
          rw [known, Option.bind_some]
          exact settled.mirrored.assigned s socket known
      | _ => trivial
  | _ => trivial

/-- A change of one socket keeps the others owned. -/
theorem Owned.update {s : Socket} {socket : Option CurlSocket} (owned : Owned state)
    (hash : next.proxyHttpHash = state.proxyHttpHash)
    (sockets : next.sockets = Function.update state.sockets s socket)
    (others : ∀ other known, other ≠ s → state.sockets other = some known →
      next.proxies known.announcer = state.proxies known.announcer)
    (own : ∀ known, socket = some known → ∃ easy proxy,
      state.proxyHttpHash easy = some known.announcer ∧
        next.proxies known.announcer = some proxy ∧ proxy.sockfd = s) : Owned next := by
  intro other known isKnown
  rw [sockets] at isKnown
  by_cases same : other = s
  · subst same
    rw [Function.update_self] at isKnown
    obtain ⟨easy, proxy, held, lives, last⟩ := own known isKnown
    exact ⟨easy, proxy, by rw [hash, held], lives, last⟩
  · rw [Function.update_of_ne same] at isKnown
    obtain ⟨easy, proxy, held, lives, last⟩ := owned other known isKnown
    exact ⟨easy, proxy, by rw [hash, held], by rw [others other known same isKnown, lives], last⟩

/-- A callback leaves the announced socket with the proxy whose transfer it is. -/
theorem Settled.socket_owned (settled : Settled state) {easy : EasyRef} {handle : EasyHandle}
    (inMulti : state.multi easy = some handle) {s : Socket} {what : CurlPoll}
    (known : what = .remove → (state.sockets s).isSome)
    (single : state.OneSocket (.socket easy s what))
    (called : state.socketEvent easy handle.privateData s what = .ok next) : Owned next := by
  have intact := settled.mirrored.intact
  have hash : next.proxyHttpHash = state.proxyHttpHash :=
    (socketEvent_iff.mp called).onlySockets.hash
  by_cases isRemove : what = .remove
  · subst isRemove
    have proxies : next.proxies = state.proxies :=
      (socketEvent_iff.mp called).proxies fun notRemove => absurd rfl notRemove
    obtain ⟨socket, known⟩ := Option.isSome_iff_exists.mp (known rfl)
    obtain ⟨key, proxy, -, lives, -⟩ := settled.owned s socket known
    have isAssigned : (state.sockets s).bind CurlSocket.socketp = some socket.announcer := by
      rw [known, Option.bind_some]
      exact settled.mirrored.assigned s socket known
    obtain ⟨other, otherCalled, sockets, -⟩ :=
      socketEvent_remove easy handle.privateData isAssigned lives
    obtain rfl := Except.ok.inj (called.symm.trans otherCalled)
    refine settled.owned.update hash sockets (fun other known _ _ => by rw [proxies]) ?_
    rintro known ⟨⟩
  · cases isKnown : state.sockets s with
    | none =>
        obtain ⟨held, proxy, lives⟩ := proxy_of_multi intact inMulti
        have proxies := (socketEvent_iff.mp called).proxies_added isKnown isRemove held lives
        obtain ⟨other, otherCalled, sockets, -⟩ :=
          socketEvent_add intact inMulti isKnown isRemove
        obtain rfl := Except.ok.inj (called.symm.trans otherCalled)
        refine settled.owned.update hash sockets (fun other known differs isOther => ?_) ?_
        · -- the transfer has announced no other socket
          have notSame : known.announcer ≠ handle.privateData := fun same =>
            differs (single isRemove handle inMulti other known isOther same)
          rw [proxies, Function.update_of_ne notSame]
        · rintro known ⟨⟩
          exact ⟨easy, proxy.setSockfd s, held, by rw [proxies, Function.update_self], rfl⟩
    | some socket =>
        have isAssigned := settled.mirrored.assigned s socket isKnown
        have proxies : next.proxies = state.proxies := by
          refine (socketEvent_iff.mp called).proxies fun _ => ?_
          rw [isKnown, Option.bind_some, isAssigned]
          rfl
        obtain ⟨other, otherCalled, sockets, -⟩ :=
          socketEvent_change easy handle.privateData isKnown isAssigned isRemove
        obtain rfl := Except.ok.inj (called.symm.trans otherCalled)
        refine settled.owned.update hash sockets (fun other known _ _ => by rw [proxies]) ?_
        rintro known ⟨⟩
        obtain ⟨key, proxy, held, lives, last⟩ := settled.owned s socket isKnown
        exact ⟨key, proxy, held, by rw [proxies, lives], last⟩

/-! ## The other events -/

/-- The transfer of an announced socket is not reported done. -/
theorem Settled.still_held {platform : Platform} (settled : Settled state) {event : BackendEvent}
    (enabled : state.Enabled event) (single : state.OneSocket event)
    (stepped : state.step platform event = .ok next) {s : Socket} {socket : CurlSocket}
    (known : state.sockets s = some socket) {easy : EasyRef}
    (held : state.proxyHttpHash easy = some socket.announcer) :
    next.proxyHttpHash easy = some socket.announcer := by
  have intact := settled.mirrored.intact
  cases starts : event.isFetch with
  | true =>
      obtain ⟨quicStream, ref, easyInit, peerIp, requestHeaders, requestBody, rfl⟩ :=
        BackendEvent.fetch_of_isFetch starts
      obtain ⟨new, added, rfl, links⟩ := fetch_attaches stepped
      have hash : next.proxyHttpHash = Function.update state.proxyHttpHash new (some ref) :=
        congrArg Links.hash links
      have notNew : easy ≠ new := by
        rintro rfl
        obtain ⟨proxy, lives, owns⟩ := lives_of_held intact held
        exact enabled.2.2.2 easy rfl socket.announcer proxy lives owns
      rw [hash, Function.update_of_ne notNew, held]
  | false =>
      by_cases clearing : event = .check []
      · subst clearing
        cases stepped
        exact held
      · have retires := (step_iff.mp stepped).retires intact enabled starts clearing
        rcases retires.hash easy with same | ⟨done, -⟩
        · exact same.trans held
        · cases event with
          | check messages =>
              obtain ⟨handle, inMulti⟩ := Option.isSome_iff_exists.mp (enabled.2 easy done)
              obtain ⟨heldHere, -⟩ := proxy_of_multi intact inMulti
              have isAnnouncer : socket.announcer = handle.privateData :=
                Option.some.inj (held.symm.trans heldHere)
              exact absurd isAnnouncer (single easy done handle inMulti s socket known)
          | _ => cases done

/-- Events that are about no socket leave each with its owner. -/
theorem Settled.quiet_owned {platform : Platform} (settled : Settled state)
    {event : BackendEvent} (enabled : state.Enabled event) (single : state.OneSocket event)
    (notSocket : event.isSocket = false) (stepped : state.step platform event = .ok next) :
    Owned next := by
  have intact := settled.mirrored.intact
  have sockets := ((step_iff.mp stepped).sameSockets notSocket).sockets
  intro s socket known
  rw [sockets] at known
  obtain ⟨easy, proxy, held, lives, last⟩ := settled.owned s socket known
  have stillHeld := settled.still_held enabled single stepped known held
  by_cases clearing : event = .check []
  · subst clearing
    cases stepped
    refine ⟨easy, proxy, stillHeld, ?_, last⟩
    exact (if_neg (not_dead_of_held intact held)).trans lives
  · have proxies := (step_iff.mp stepped).sameProxies enabled notSocket clearing
    obtain ⟨kept, keptLives, -, sockfd⟩ := proxies socket.announcer proxy lives
    exact ⟨easy, kept, stillHeld, keptLives, sockfd.trans last⟩

/-- Every event within the discipline keeps the state settled. -/
theorem Settled.step {platform : Platform} (settled : Settled state) {event : BackendEvent}
    (enabled : state.Enabled event) (single : state.OneSocket event)
    (stepped : state.step platform event = .ok next) : Settled next := by
  have intact := settled.mirrored.intact
  refine ⟨settled.mirrored.step platform enabled (settled.removesItsOwn enabled) stepped,
    settled.parted.step intact enabled stepped, ?_⟩
  cases isSocket : event.isSocket with
  | false => exact settled.quiet_owned enabled single isSocket stepped
  | true =>
      cases event with
      | socket easy s what =>
          obtain ⟨-, inMulti, known⟩ := enabled
          obtain ⟨handle, inMulti⟩ := Option.isSome_iff_exists.mp inMulti
          simp only [BackendState.step, forTransfer, inMulti] at stepped
          have announced : what = .remove → (state.sockets s).isSome := by
            rintro rfl
            exact known
          exact settled.socket_owned inMulti announced single stepped
      | _ => cases isSocket

/-- Nothing is announced at the start. -/
theorem settled_initial (backendUrl : Bytes) : Settled (initial backendUrl) := by
  refine ⟨⟨Links.Intact.empty, fun s => rfl, ?_⟩, ⟨?_, List.nodup_nil⟩, ?_⟩
  · rintro s socket ⟨⟩
  · rintro ref ⟨⟩
  · rintro s socket ⟨⟩

/-- The proxy that is registered for a socket has its transfer in progress. -/
theorem Settled.registered (settled : Settled state) {s : Socket} {entry : EpollEntry}
    (registered : state.epoll s = some entry) :
    ∃ easy proxy, state.proxyHttpHash easy = some entry.callback ∧
      state.proxies entry.callback = some proxy := by
  have mirrored := settled.mirrored.mirrors s
  rw [registered] at mirrored
  obtain ⟨socket, known, rfl⟩ := Option.map_eq_some_iff.mp mirrored.symm
  obtain ⟨easy, proxy, held, lives, -⟩ := settled.owned s socket known
  exact ⟨easy, proxy, held, lives⟩

/-- No event of the backend uses an object that has been destroyed. -/
theorem Settled.safe {platform : Platform} (settled : Settled state) {event : BackendEvent}
    (enabled : state.Enabled event) {fault : Fault}
    (failed : state.step platform event = .error fault) : fault.isUseAfterFree = false := by
  cases isSocket : event.isSocket with
  | false => exact step_fails settled.mirrored.intact enabled isSocket failed
  | true =>
      cases event with
      | socket easy s what =>
          obtain ⟨next, stepped, -⟩ :=
            settled.mirrored.socket platform enabled (settled.removesItsOwn enabled)
          cases failed.symm.trans stepped
      | _ => cases isSocket

end BackendState

end QuicProxy
