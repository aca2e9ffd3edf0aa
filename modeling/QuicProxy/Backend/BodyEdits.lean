import QuicProxy.Backend.Outcomes

/-!
# The body a proxy holds

Only `ReadQuicCallback` looks at `request_body_` and `request_body_pos_`, and only `StartHttp`
sets one of them. So an event has the same outcome whatever the proxies of the heap have there:
`Outcome.edited` says so, for a `BodyEdit` of each proxy. That an event leaves both as they are
in every proxy it finds follows (`Outcome.keepsBody`).
-/

namespace QuicProxy

/-- A change of what a proxy has of its request's body. -/
structure BodyEdit where
  body : Bytes → Bytes
  pos : UInt64 → UInt64

namespace BodyEdit

variable (edit : BodyEdit)

/-- The proxy with the changed body. -/
def apply (proxy : QuicProxyCurl) : QuicProxyCurl :=
  { proxy with
    requestBody := edit.body proxy.requestBody
    requestBodyPos := edit.pos proxy.requestBodyPos }

/-- It makes no difference to a proxy that is new or has just been started. -/
structure SparesNew : Prop where
  body : edit.body = id
  pos : edit.pos 0 = 0

/-- What a callback has done, to a proxy that differs. -/
def applyResult (result : CallbackResult) : CallbackResult :=
  { result with proxy := edit.apply result.proxy }

variable (proxy : QuicProxyCurl)

/-- `StartHttp` treats both proxies alike. -/
theorem startHttp_apply (spares : edit.SparesNew) (platform : Platform) (peerIp : Bytes)
    (requestHeaders : SpdyHeaderBlock) (requestBody : Bytes) :
    (edit.apply proxy).startHttp platform peerIp requestHeaders requestBody =
      (edit.apply (proxy.startHttp platform peerIp requestHeaders requestBody).1,
        (proxy.startHttp platform peerIp requestHeaders requestBody).2) := by
  simp only [QuicProxyCurl.startHttp, apply, spares.body, id]
  split
  · rfl
  · split <;> rfl

/-- A header line is answered alike, whatever the body. -/
theorem httpHeaderCallback_apply (platform : Platform) (contents : Bytes) :
    (edit.apply proxy).httpHeaderCallback platform contents =
      (proxy.httpHeaderCallback platform contents).map edit.applyResult := by
  unfold QuicProxyCurl.httpHeaderCallback
  by_cases detached : proxy.quicStream = none
  · have also : (edit.apply proxy).quicStream = none := detached
    rw [if_pos also, if_pos detached]
    rfl
  · have also : ¬ (edit.apply proxy).quicStream = none := detached
    rw [if_neg also, if_neg detached]
    by_cases ended : contents = crlf
    · rw [if_pos ended, if_pos ended]
      rfl
    · rw [if_neg ended, if_neg ended]
      split <;> rfl

/-- A piece of the response is answered alike, whatever the request's body. -/
theorem writeQuicCallback_apply (contents : Bytes) :
    (edit.apply proxy).writeQuicCallback contents =
      edit.applyResult (proxy.writeQuicCallback contents) := by
  unfold QuicProxyCurl.writeQuicCallback
  by_cases detached : proxy.quicStream = none
  · have also : (edit.apply proxy).quicStream = none := detached
    rw [if_pos also, if_pos detached]
    rfl
  · have also : ¬ (edit.apply proxy).quicStream = none := detached
    rw [if_neg also, if_neg detached]
    rfl

end BodyEdit

namespace BackendState

/-- The state with each proxy changed so. -/
def edited (edits : ProxyRef → BodyEdit) (state : BackendState) : BackendState :=
  { state with proxies := fun ref => (state.proxies ref).map (edits ref).apply }

variable {edits : ProxyRef → BodyEdit} {platform : Platform} {state next : BackendState}

/-! ## Reading and writing -/

/-- A proxy of the changed heap is a changed proxy. -/
theorem lives_edited {ref : ProxyRef} {proxy : QuicProxyCurl}
    (lives : state.proxies ref = some proxy) :
    (state.edited edits).proxies ref = some ((edits ref).apply proxy) :=
  congrArg (Option.map (edits ref).apply) lives

/-- A table of proxies that is edited, but for one entry. -/
theorem update_edited (edits : ProxyRef → BodyEdit) (table : ProxyRef → Option QuicProxyCurl)
    (ref : ProxyRef) (proxy : QuicProxyCurl) :
    (fun other => (Function.update table ref (some proxy) other).map (edits other).apply) =
      Function.update (fun other => (table other).map (edits other).apply) ref
        (some ((edits ref).apply proxy)) := by
  ext other : 1
  by_cases same : other = ref
  · subst same
    simp only [Function.update_self, Option.map_some]
  · simp only [Function.update_of_ne same]

/-- Writing a proxy back, before the change or after it. -/
theorem edited_putProxy (edits : ProxyRef → BodyEdit) (state : BackendState) (ref : ProxyRef)
    (proxy : QuicProxyCurl) :
    (state.putProxy ref proxy).edited edits =
      (state.edited edits).putProxy ref ((edits ref).apply proxy) :=
  congrArg (fun proxies => { state with proxies }) (update_edited edits state.proxies ref proxy)

/-- The dead list has no bodies. -/
theorem edited_moveToDeadList (state : BackendState) (easy : EasyRef) :
    (state.moveToDeadList easy).edited edits = (state.edited edits).moveToDeadList easy := by
  have still : (state.edited edits).proxyHttpHash easy = state.proxyHttpHash easy := rfl
  unfold moveToDeadList
  rw [still]
  cases state.proxyHttpHash easy with
  | none => rfl
  | some held => rfl

/-- The same proxies are destroyed. -/
theorem edited_clearDeadList (state : BackendState) :
    state.clearDeadList.edited edits = (state.edited edits).clearDeadList := by
  have proxies : (state.clearDeadList.edited edits).proxies =
      (state.edited edits).clearDeadList.proxies := by
    ext ref : 1
    by_cases dead : ref ∈ state.proxyHttpDeadList <;> simp [clearDeadList, edited, dead]
  exact congrArg (fun proxies => { state.clearDeadList with proxies }) proxies

/-! ## One function at a time -/

/-- A response is closed alike. -/
theorem Closed.edited {quicStream : StreamRef} (closed : Closed quicStream state next) :
    Closed quicStream (state.edited edits) (next.edited edits) := by
  cases closed with
  | apart lives nowhere => exact .apart lives nowhere
  | @letGo stream ref proxy lives points proxyLives =>
      have put := edited_putProxy edits state ref (proxy.setStream none)
      change Closed quicStream _ (putStream (BackendState.edited edits (state.putProxy ref
        (proxy.setStream none))) quicStream (stream.setProxyCurl none))
      have streamLives : (state.edited edits).streams quicStream = some stream := lives
      rw [put]
      exact .letGo streamLives points (lives_edited proxyLives)

/-- A request is started alike. -/
theorem Fetched.edited {quicStream : StreamRef} {ref : ProxyRef} {easyInit : Option EasyRef}
    {peerIp : Bytes} {requestHeaders : SpdyHeaderBlock} {requestBody : Bytes}
    (fetched : Fetched platform quicStream ref easyInit peerIp requestHeaders requestBody state
      next) (spares : (edits ref).SparesNew) :
    Fetched platform quicStream ref easyInit peerIp requestHeaders requestBody
      (state.edited edits) (next.edited edits) := by
  cases fetched with
  | @intro easy path stream given found lives =>
      have new : (edits ref).apply (state.newProxy quicStream easy path) =
          (state.edited edits).newProxy quicStream easy path := by
        simp only [BodyEdit.apply, newProxy, QuicProxyCurl.create, spares.body, spares.pos, id]
        rfl
      have begun : (state.edited edits).started platform quicStream easy path peerIp
            requestHeaders requestBody =
          ((edits ref).apply (state.started platform quicStream easy path peerIp requestHeaders
            requestBody).1, (state.started platform quicStream easy path peerIp requestHeaders
            requestBody).2) := by
        rw [started, ← new, BodyEdit.startHttp_apply _ _ spares]
        rfl
      have intro : Fetched platform quicStream ref easyInit peerIp requestHeaders requestBody
          (state.edited edits) _ := .intro given found lives
      rw [begun] at intro
      have proxies := update_edited edits state.proxies ref
        (state.started platform quicStream easy path peerIp requestHeaders requestBody).1
      simp only [BackendState.edited, attached, proxies]
      exact intro

/-- The calls of a callback are made alike. -/
theorem Accepted.edited {ref : ProxyRef} {target : Option StreamRef} {result : CallbackResult}
    (accepted : Accepted ref target result state next) :
    Accepted ref target ((edits ref).applyResult result) (state.edited edits)
      (next.edited edits) := by
  cases accepted with
  | silent nothing =>
      rw [edited_putProxy]
      exact .silent nothing
  | @calls quicStream stream points speaks lives =>
      change Accepted ref target _ _ (putStream (BackendState.edited edits (state.putProxy ref
        result.proxy)) quicStream (stream.call result.calls))
      rw [edited_putProxy]
      exact .calls points speaks lives

/-- A callback that does to an edited proxy what it does to the proxy. -/
theorem Called.edited {callback : QuicProxyCurl → Option CallbackResult} {ref : ProxyRef}
    (called : Called callback ref state next)
    (blind : ∀ proxy, callback ((edits ref).apply proxy) =
      (callback proxy).map (edits ref).applyResult) :
    Called callback ref (state.edited edits) (next.edited edits) := by
  obtain ⟨lives, called, accepted⟩ := called
  refine ⟨lives_edited lives, ?_, accepted.edited⟩
  rw [blind, called, Option.map_some]

/-- A transfer ends alike. -/
theorem Finished.edited {easy : EasyRef} (finished : Finished easy state next) :
    Finished easy (state.edited edits) (next.edited edits) := by
  cases finished with
  | unknown absent => exact .unknown absent
  | alone inMulti lives nowhere =>
      rw [edited_moveToDeadList]
      exact .alone inMulti (lives_edited lives) nowhere
  | @letGo handle proxy quicStream stream inMulti lives points streamLives =>
      have put := edited_putProxy edits state handle.privateData (proxy.setStream none)
      rw [edited_moveToDeadList]
      change Finished easy _ (moveToDeadList (multiRemoveHandle (putStream (BackendState.edited
        edits (state.putProxy handle.privateData (proxy.setStream none))) quicStream
        (stream.setProxyCurl none)) easy) easy)
      have still : (state.edited edits).multi easy = some handle := inMulti
      rw [put]
      exact .letGo still (lives_edited lives) points streamLives

/-- The messages are read alike. -/
theorem Reads.edited {messages : List CurlMsg} (reads : Reads messages state next) :
    Reads messages (state.edited edits) (next.edited edits) := by
  induction reads with
  | nil => exact .nil
  | done finished rest ih => exact .done finished.edited ih
  | other rest ih => exact .other ih

/-- The multi is checked alike. -/
theorem Checked.edited {messages : List CurlMsg} (checked : Checked messages state next) :
    Checked messages (state.edited edits) (next.edited edits) := by
  cases checked with
  | cleared =>
      rw [edited_clearDeadList]
      exact .cleared
  | read reads => exact .read reads.edited

/-- Data is acknowledged alike. -/
theorem Acked.edited {quicStream : StreamRef} {bufferedDataBytes : Nat}
    (acked : Acked quicStream bufferedDataBytes state next) :
    Acked quicStream bufferedDataBytes (state.edited edits) (next.edited edits) := by
  cases acked with
  | attached lives points proxyLives => exact .attached lives points (lives_edited proxyLives)
  | apart lives nowhere => exact .apart lives nowhere

/-- libcurl's socket callback does the same. -/
theorem SockCalled.edited {e : EasyRef} {s : Socket} {what : CurlPoll} {sockp : Option ProxyRef}
    (called : SockCalled e s state what sockp next) :
    SockCalled e s (state.edited edits) what sockp (next.edited edits) := by
  cases called with
  | unassigned => exact .unassigned
  | unregistered lives bad => exact .unregistered (lives_edited lives) bad
  | @removed ref proxy lives good =>
      have removed : SockCalled e s (state.edited edits) .remove (some ref) _ :=
        .removed (lives_edited lives) good
      exact removed
  | unknown notRemove absent => exact .unknown notRemove absent
  | @added _ ref proxy notRemove held lives =>
      change SockCalled e s _ _ _ (multiAssign (curlSetSock (registerFD (BackendState.edited edits
        (state.putProxy ref (proxy.setSockfd s))) s ref) s what) s ref)
      have stillHeld : (state.edited edits).proxyHttpHash e = some ref := held
      rw [edited_putProxy]
      exact .added notRemove stillHeld (lives_edited lives)
  | changed notRemove => exact .changed notRemove

/-- Sockets are announced alike. -/
theorem SocketCalled.edited {e : EasyRef} {ref : ProxyRef} {s : Socket} {what : CurlPoll}
    (called : SocketCalled e ref s what state next) :
    SocketCalled e ref s what (state.edited edits) (next.edited edits) := by
  cases called with
  | @forgotten sockp middle assigned isRemove called =>
      have still : ((state.edited edits).sockets s).bind CurlSocket.socketp = sockp := assigned
      have calledThere : SockCalled e s ((state.edited edits).announce ref s what) what sockp
          (middle.edited edits) := called.edited
      exact .forgotten still isRemove calledThere
  | @known sockp _ assigned notRemove called =>
      have still : ((state.edited edits).sockets s).bind CurlSocket.socketp = sockp := assigned
      have calledThere : SockCalled e s ((state.edited edits).announce ref s what) what sockp
          (next.edited edits) := called.edited
      exact .known still notRemove calledThere

/-! ## One event -/

/-- The changes make no difference to a proxy the event creates. -/
def SpareNew (edits : ProxyRef → BodyEdit) : BackendEvent → Prop
  | .fetch _ ref _ _ _ _ => (edits ref).SparesNew
  | _ => True

/-- An event has the same outcome in a state that is edited. -/
theorem Outcome.edited {event : BackendEvent} (outcome : Outcome platform state event next)
    (spares : SpareNew edits event) :
    Outcome platform (state.edited edits) event (next.edited edits) := by
  cases outcome with
  | openStream => exact .openStream
  | fetch fetched => exact .fetch (fetched.edited spares)
  | destroyStream closed => exact .destroyStream closed.edited
  | idle transfer absent => exact .idle transfer absent
  | header inMulti called =>
      exact .header inMulti (called.edited fun proxy =>
        BodyEdit.httpHeaderCallback_apply _ proxy platform _)
  | body inMulti called =>
      exact .body inMulti (called.edited fun proxy =>
        congrArg some (BodyEdit.writeQuicCallback_apply _ proxy _))
  | check checked => exact .check checked.edited
  | socket inMulti called => exact .socket inMulti called.edited
  | acked acked => exact .acked acked.edited
  | finConsumed lives => exact .finConsumed lives

/-- An event leaves the body of a proxy that exists before and after it. -/
theorem Outcome.keepsBody {event : BackendEvent} (outcome : Outcome platform state event next)
    (enabled : state.Enabled event) {ref : ProxyRef} {proxy kept : QuicProxyCurl}
    (lives : state.proxies ref = some proxy) (livesOn : next.proxies ref = some kept) :
    kept.requestBody = proxy.requestBody ∧ kept.requestBodyPos = proxy.requestBodyPos := by
  -- Writing there what is there already changes nothing before the event, so nothing after.
  let rewrite : ProxyRef → BodyEdit := Function.update (fun _ => ⟨id, id⟩) ref
    ⟨fun _ => proxy.requestBody, fun _ => proxy.requestBodyPos⟩
  have at_ref : rewrite ref = ⟨fun _ => proxy.requestBody, fun _ => proxy.requestBodyPos⟩ :=
    Function.update_self ..
  have elsewhere : ∀ other, other ≠ ref → rewrite other = ⟨id, id⟩ := fun other differs =>
    Function.update_of_ne differs _ _
  have same : state.edited rewrite = state := by
    have proxies : (state.edited rewrite).proxies = state.proxies := by
      ext other : 1
      by_cases isRef : other = ref
      · subst isRef
        simp only [BackendState.edited, at_ref, lives]
        rfl
      · simp only [BackendState.edited, elsewhere other isRef]
        exact Option.map_id_apply ..
    exact congrArg (fun proxies => { state with proxies }) proxies
  have spares : SpareNew rewrite event := by
    cases event with
    | fetch quicStream new easyInit peerIp requestHeaders requestBody =>
        have differs : new ≠ ref := by
          rintro rfl
          rw [enabled.2.2.1] at lives
          cases lives
        change (rewrite new).SparesNew
        rw [elsewhere new differs]
        exact ⟨rfl, rfl⟩
    | _ => trivial
  have both := outcome.edited spares
  rw [same] at both
  have after : next = next.edited rewrite :=
    Except.ok.inj ((step_iff.mpr outcome).symm.trans (step_iff.mpr both))
  rw [after] at livesOn
  simp only [BackendState.edited, at_ref] at livesOn
  obtain ⟨old, -, rfl⟩ := Option.map_eq_some_iff.mp livesOn
  exact ⟨rfl, rfl⟩

/-- The same events can happen. -/
theorem enabled_edited {event : BackendEvent} (enabled : state.Enabled event) :
    (state.edited edits).Enabled event := by
  cases event with
  | fetch quicStream ref easyInit peerIp requestHeaders requestBody =>
      obtain ⟨lives, unasked, fresh, freshEasy⟩ := enabled
      refine ⟨lives, unasked, ?_, fun easy given other proxy otherLives => ?_⟩
      · change (state.proxies ref).map (edits ref).apply = none
        rw [fresh, Option.map_none]
      · obtain ⟨old, oldLives, rfl⟩ := Option.map_eq_some_iff.mp otherLives
        exact freshEasy easy given other old oldLives
  | _ => exact enabled

end BackendState

end QuicProxy
