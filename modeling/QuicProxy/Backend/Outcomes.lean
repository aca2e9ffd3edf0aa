import QuicProxy.Backend.Reports

/-!
# What an event does

The relations of `Returns` for callbacks about sockets, and `Outcome` for an event: `step_iff`
says that an event returns as one of the constructors says, and in no other way. What an event
changes and what it leaves alone is read off them from here on, and so is what it does to a
state that differs where no function looks.
-/

namespace QuicProxy

namespace BackendState

variable {platform : Platform} {state next : BackendState}

/-! ## Sockets -/

/-- `CurlSockCB`, with the pointer libcurl passes for the socket. -/
inductive SockCalled (e : EasyRef) (s : Socket) (state : BackendState) :
    CurlPoll → Option ProxyRef → BackendState → Prop where
  | unassigned : SockCalled e s state .remove none state
  | unregistered {ref proxy} (lives : state.proxies ref = some proxy) (bad : proxy.sockfd = -1) :
      SockCalled e s state .remove (some ref) state
  | removed {ref proxy} (lives : state.proxies ref = some proxy) (good : proxy.sockfd ≠ -1) :
      SockCalled e s state .remove (some ref) (state.unregisterFD proxy.sockfd)
  | unknown {what} (notRemove : what ≠ .remove) (absent : state.proxyHttpHash e = none) :
      SockCalled e s state what none state
  | added {what ref proxy} (notRemove : what ≠ .remove) (held : state.proxyHttpHash e = some ref)
      (lives : state.proxies ref = some proxy) : SockCalled e s state what none
        ((((state.putProxy ref (proxy.setSockfd s)).registerFD s ref).curlSetSock s
          what).multiAssign s ref)
  | changed {what ref} (notRemove : what ≠ .remove) :
      SockCalled e s state what (some ref) (state.curlSetSock s what)

/-- `SockCalled` is what libcurl's socket callback comes to. -/
theorem curlSockCB_iff {e : EasyRef} {s : Socket} {what : CurlPoll} {sockp : Option ProxyRef} :
    state.curlSockCB e s what sockp = .ok next ↔ SockCalled e s state what sockp next := by
  unfold curlSockCB
  by_cases isRemove : what = .remove
  · subst isRemove
    rw [if_pos rfl]
    unfold curlRemoveSock
    cases sockp with
    | none =>
        constructor
        · rintro ⟨⟩
          exact .unassigned
        · rintro (- | - | - | ⟨absurd, -⟩ | ⟨absurd, -⟩ | absurd)
          · rfl
          · exact (absurd rfl).elim
          · exact (absurd rfl).elim
    | some ref =>
        simp only [bind_proxy_iff]
        constructor
        · rintro ⟨proxy, lives, returned⟩
          by_cases bad : proxy.sockfd = -1
          · rw [if_neg (not_not_intro bad)] at returned
            cases returned
            exact .unregistered lives bad
          · rw [if_pos bad] at returned
            cases returned
            exact .removed lives bad
        · rintro (- | ⟨lives, bad⟩ | ⟨lives, good⟩ | - | - | absurd)
          · exact ⟨_, lives, by rw [if_neg (not_not_intro bad)]⟩
          · exact ⟨_, lives, by rw [if_pos good]⟩
          · exact (absurd rfl).elim
  · rw [if_neg isRemove]
    cases sockp with
    | some ref =>
        constructor
        · rintro ⟨⟩
          exact .changed isRemove
        · rintro (- | - | - | - | - | -)
          · exact absurd rfl isRemove
          · exact absurd rfl isRemove
          · rfl
    | none =>
        change state.curlAddSock s e what = .ok next ↔ _
        unfold curlAddSock
        constructor
        · intro returned
          cases held : state.proxyHttpHash e with
          | none =>
              simp only [held] at returned
              cases returned
              exact .unknown isRemove held
          | some ref =>
              simp only [held, bind_proxy_iff] at returned
              obtain ⟨proxy, lives, ⟨⟩⟩ := returned
              exact .added isRemove held lives
        · rintro (- | - | - | ⟨-, absent⟩ | ⟨-, held, lives⟩ | -)
          · exact absurd rfl isRemove
          · simp only [absent]
          · simp only [held, bind_proxy_iff]
            exact ⟨_, lives, rfl⟩

/-- libcurl calls back about a socket, and forgets it after `CURL_POLL_REMOVE`. -/
inductive SocketCalled (e : EasyRef) (ref : ProxyRef) (s : Socket) (what : CurlPoll)
    (state : BackendState) : BackendState → Prop where
  | forgotten {sockp middle} (assigned : (state.sockets s).bind CurlSocket.socketp = sockp)
      (isRemove : what = .remove)
      (called : SockCalled e s (state.announce ref s what) what sockp middle) :
      SocketCalled e ref s what state
        { middle with sockets := Function.update middle.sockets s none }
  | known {sockp middle} (assigned : (state.sockets s).bind CurlSocket.socketp = sockp)
      (notRemove : what ≠ .remove)
      (called : SockCalled e s (state.announce ref s what) what sockp middle) :
      SocketCalled e ref s what state middle

/-- `SocketCalled` is what the announcement of a socket comes to. -/
theorem socketEvent_iff {e : EasyRef} {ref : ProxyRef} {s : Socket} {what : CurlPoll} :
    state.socketEvent e ref s what = .ok next ↔ SocketCalled e ref s what state next := by
  unfold socketEvent
  simp only [bind_eq_ok, curlSockCB_iff]
  constructor
  · rintro ⟨middle, called, returned⟩
    split at returned
    · next isRemove =>
        cases returned
        exact .forgotten rfl isRemove called
    · next notRemove =>
        cases returned
        exact .known rfl notRemove called
  · rintro (⟨rfl, isRemove, called⟩ | ⟨rfl, notRemove, called⟩)
    · exact ⟨_, called, by rw [if_pos isRemove]⟩
    · exact ⟨_, called, by rw [if_neg notRemove]⟩

/-! ## One event -/

end BackendState

/-- The handle of the transfer that libcurl does something for. -/
def BackendEvent.transfer : BackendEvent → Option EasyRef
  | .header easy _ | .body easy _ | .socket easy _ _ => some easy
  | .openStream _ | .fetch _ _ _ _ _ _ | .destroyStream _ | .check _ | .acked _ _
  | .finConsumed _ => none

namespace BackendState

/-- The state an event leaves. -/
inductive Outcome (platform : Platform) (state : BackendState) :
    BackendEvent → BackendState → Prop where
  | openStream {quicStream} :
      Outcome platform state (.openStream quicStream) (state.openStream quicStream)
  | fetch {quicStream ref easyInit peerIp requestHeaders requestBody there}
      (fetched : Fetched platform quicStream ref easyInit peerIp requestHeaders requestBody state
        there) :
      Outcome platform state (.fetch quicStream ref easyInit peerIp requestHeaders requestBody)
        there
  | destroyStream {quicStream middle} (closed : Closed quicStream state middle) :
      Outcome platform state (.destroyStream quicStream) (middle.dropStream quicStream)
  | idle {event easy} (transfer : event.transfer = some easy) (absent : state.multi easy = none) :
      Outcome platform state event state
  | header {easy line handle there} (inMulti : state.multi easy = some handle)
      (called : Called (fun proxy => proxy.httpHeaderCallback platform line) handle.privateData
        state there) : Outcome platform state (.header easy line) there
  | body {easy chunk handle there} (inMulti : state.multi easy = some handle)
      (called : Called (fun proxy => some (proxy.writeQuicCallback chunk)) handle.privateData
        state there) : Outcome platform state (.body easy chunk) there
  | check {messages there} (checked : Checked messages state there) :
      Outcome platform state (.check messages) there
  | socket {easy s what handle there} (inMulti : state.multi easy = some handle)
      (called : SocketCalled easy handle.privateData s what state there) :
      Outcome platform state (.socket easy s what) there
  | acked {quicStream bufferedDataBytes there}
      (acked : Acked quicStream bufferedDataBytes state there) :
      Outcome platform state (.acked quicStream bufferedDataBytes) there
  | finConsumed {quicStream stream} (lives : state.streams quicStream = some stream) :
      Outcome platform state (.finConsumed quicStream)
        (state.putStream quicStream stream.finConsumed)

/-- A callback of libcurl goes to the proxy of a transfer that runs, or nowhere. -/
theorem forTransfer_iff {easy : EasyRef} {call : ProxyRef → Except Fault BackendState} :
    state.forTransfer easy call = .ok next ↔ (state.multi easy = none ∧ next = state) ∨
      ∃ handle, state.multi easy = some handle ∧ call handle.privateData = .ok next := by
  unfold forTransfer
  cases state.multi easy with
  | none => simp [eq_comm]
  | some handle => simp

/-- An event returns as it says. -/
theorem step_iff {event : BackendEvent} :
    state.step platform event = .ok next ↔ Outcome platform state event next := by
  constructor
  · intro returned
    cases event with
    | openStream quicStream =>
        cases returned
        exact .openStream
    | fetch quicStream ref easyInit peerIp requestHeaders requestBody =>
        exact .fetch (fetch_iff.mp returned)
    | destroyStream quicStream =>
        obtain ⟨middle, closed, ⟨⟩⟩ := bind_eq_ok.mp returned
        exact .destroyStream (closeBackendResponseStream_iff.mp closed)
    | header easy line =>
        simp only [step, forTransfer_iff, httpHeaderCallback_iff] at returned
        rcases returned with ⟨absent, rfl⟩ | ⟨handle, inMulti, called⟩
        · exact .idle rfl absent
        · exact .header inMulti called
    | body easy chunk =>
        simp only [step, forTransfer_iff, writeQuicCallback_iff] at returned
        rcases returned with ⟨absent, rfl⟩ | ⟨handle, inMulti, called⟩
        · exact .idle rfl absent
        · exact .body inMulti called
    | check messages => exact .check (checkCurlMultiInfo_iff.mp returned)
    | socket easy s what =>
        simp only [step, forTransfer_iff, socketEvent_iff] at returned
        rcases returned with ⟨absent, rfl⟩ | ⟨handle, inMulti, called⟩
        · exact .idle rfl absent
        · exact .socket inMulti called
    | acked quicStream bufferedDataBytes => exact .acked (onStreamFrameAcked_iff.mp returned)
    | finConsumed quicStream =>
        obtain ⟨stream, lives, ⟨⟩⟩ := bind_stream_iff.mp returned
        exact .finConsumed lives
  · intro outcome
    cases outcome with
    | openStream => rfl
    | fetch fetched => exact fetch_iff.mpr fetched
    | destroyStream closed =>
        exact bind_eq_ok.mpr ⟨_, closeBackendResponseStream_iff.mpr closed, rfl⟩
    | idle transfer absent =>
        cases event with
        | header _ _ | body _ _ | socket _ _ _ =>
            cases transfer
            simp only [step, forTransfer, absent]
        | _ => cases transfer
    | header inMulti called =>
        simp only [step, forTransfer_iff, httpHeaderCallback_iff]
        exact .inr ⟨_, inMulti, called⟩
    | body inMulti called =>
        simp only [step, forTransfer_iff, writeQuicCallback_iff]
        exact .inr ⟨_, inMulti, called⟩
    | check checked => exact checkCurlMultiInfo_iff.mpr checked
    | socket inMulti called =>
        simp only [step, forTransfer_iff, socketEvent_iff]
        exact .inr ⟨_, inMulti, called⟩
    | acked acked => exact onStreamFrameAcked_iff.mpr acked
    | finConsumed lives => exact bind_stream_iff.mpr ⟨_, lives, rfl⟩

end BackendState

end QuicProxy
