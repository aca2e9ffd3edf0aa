import QuicProxy.Curl.Exchange

/-!
# A transfer whose stream has closed

`CloseBackendResponseStream` takes the stream away from its proxy; the transfer goes
on until libcurl takes a callback for failed, which it does unless the callback
returns the number of bytes it was offered. `receive_detached` says what both
callbacks return without a stream, `detached_ends_iff` when that ends the transfer.
-/

namespace QuicProxy

/-- `CURL_WRITEFUNC_PAUSE` -/
def curlWritefuncPause : UInt64 := 0x10000001

/-- What libcurl makes of the value a callback returned. -/
inductive Verdict where
  | accepted
  | paused
  | failed
deriving DecidableEq

namespace Callback

/-- The bytes the callback is offered. -/
def contents : Callback → Bytes
  | .header line => line
  | .body chunk => chunk

/-- What libcurl makes of a returned value. -/
def verdict (callback : Callback) (returned : UInt64) : Verdict :=
  if returned = curlWritefuncPause then .paused
  else if returned = QuicProxyCurl.realSize callback.contents then .accepted
  else .failed

end Callback

namespace QuicProxyCurl

variable (platform : Platform)

/-- The callback libcurl makes for a piece of the response. -/
def receive (proxy : QuicProxyCurl) : Callback → Option CallbackResult
  | .header line => proxy.httpHeaderCallback platform line
  | .body chunk => some (proxy.writeQuicCallback chunk)

/-- The callbacks libcurl makes while the backend sends `offered`: the first that is
not accepted is the last. -/
def callbacksMade (proxy : QuicProxyCurl) : List Callback → Option (List (Callback × Verdict))
  | [] => some []
  | callback :: rest => do
      let result ← proxy.receive platform callback
      let verdict := callback.verdict result.returned
      let later ← if verdict = .accepted then result.proxy.callbacksMade rest else some []
      return (callback, verdict) :: later

/-- libcurl takes the callback for failed. -/
def Aborts (proxy : QuicProxyCurl) (callback : Callback) : Prop :=
  ∃ result, proxy.receive platform callback = some result ∧
    callback.verdict result.returned = .failed

/-- At most one more callback is made, and what it is offered is not swallowed. -/
def EndsAtNext (proxy : QuicProxyCurl) (offered : List Callback) : Prop :=
  ∃ made, proxy.callbacksMade platform offered = some made ∧ made.length ≤ 1 ∧
    ∀ piece ∈ made, piece.2 = .failed

/-- Without a stream both callbacks return the error code and do nothing else, so the
next callback finds the proxy as this one did. -/
theorem receive_detached (proxy : QuicProxyCurl) (callback : Callback)
    (detached : proxy.quicStream = none) :
    proxy.receive platform callback = some ⟨curleWriteError, proxy, []⟩ := by
  cases callback with
  | header line => simp [receive, httpHeaderCallback, detached]
  | body chunk => simp [receive, writeQuicCallback, detached]

/-- The error code is a byte count like any other. -/
theorem verdict_curleWriteError (callback : Callback) :
    callback.verdict curleWriteError =
      if realSize callback.contents = curleWriteError then .accepted else .failed := by
  have notPause : curleWriteError ≠ curlWritefuncPause := by decide
  rw [Callback.verdict, if_neg notPause]
  simp only [eq_comm]

/-- A piece ends the transfer unless its size is the error code. -/
theorem aborts_iff (proxy : QuicProxyCurl) (callback : Callback)
    (detached : proxy.quicStream = none) :
    proxy.Aborts platform callback ↔ realSize callback.contents ≠ curleWriteError := by
  unfold Aborts
  rw [receive_detached platform proxy callback detached]
  simp [verdict_curleWriteError]

/-- The pieces a detached proxy is offered: those of the colliding size up to the
first of another one. -/
theorem callbacksMade_cons (proxy : QuicProxyCurl) (callback : Callback)
    (rest : List Callback) (detached : proxy.quicStream = none) :
    proxy.callbacksMade platform (callback :: rest) =
      if realSize callback.contents = curleWriteError then
        (proxy.callbacksMade platform rest).map ((callback, .accepted) :: ·)
      else some [(callback, .failed)] := by
  rw [callbacksMade, receive_detached platform proxy callback detached]
  by_cases collides : realSize callback.contents = curleWriteError
  · have accepted : callback.verdict curleWriteError = .accepted := by
      rw [verdict_curleWriteError, if_pos collides]
    rw [if_pos collides, Option.map_eq_bind]
    simp only [Option.bind_eq_bind, Option.bind_some, accepted, if_true]
    rfl
  · simp [verdict_curleWriteError, collides]

/-- Offered pieces end the transfer at the first exactly if its size is not the error code. -/
theorem endsAtNext_iff (proxy : QuicProxyCurl) (offered : List Callback)
    (detached : proxy.quicStream = none) :
    proxy.EndsAtNext platform offered ↔
      ∀ first, offered.head? = some first → realSize first.contents ≠ curleWriteError := by
  cases offered with
  | nil => simp [EndsAtNext, callbacksMade]
  | cons first rest =>
      unfold EndsAtNext
      rw [callbacksMade_cons platform proxy first rest detached]
      by_cases collides : realSize first.contents = curleWriteError
      · rw [if_pos collides]
        constructor
        · rintro ⟨_, made, _, failed⟩
          obtain ⟨later, _, rfl⟩ := Option.map_eq_some_iff.mp made
          have swallowed := failed (first, .accepted) List.mem_cons_self
          cases swallowed
        · intro differs
          exact absurd collides (differs first rfl)
      · simp [collides]

/-- A callback without a stream ends the transfer unless it is offered exactly as
many bytes as the error code says. -/
theorem detached_ends_iff (proxy : QuicProxyCurl) (detached : proxy.quicStream = none) :
    (∀ callback : Callback, proxy.Aborts platform callback ↔
      realSize callback.contents ≠ curleWriteError) ∧
    ∀ offered, proxy.EndsAtNext platform offered ↔
      ∀ first, offered.head? = some first → realSize first.contents ≠ curleWriteError :=
  ⟨fun callback => aborts_iff platform proxy callback detached,
    fun offered => endsAtNext_iff platform proxy offered detached⟩

/-- A transfer whose stream was closed before its response came. -/
def closedEarly : QuicProxyCurl := (create (ascii "http://localhost/") 0).setStream none

/-- A proxy whose stream was closed while the transfer ran. -/
theorem detached_ends_closedEarly :
    (∀ callback : Callback, closedEarly.Aborts Platform.chromium callback ↔
      realSize callback.contents ≠ curleWriteError) ∧
    ∀ offered, closedEarly.EndsAtNext Platform.chromium offered ↔
      ∀ first, offered.head? = some first → realSize first.contents ≠ curleWriteError :=
  detached_ends_iff Platform.chromium closedEarly rfl

/-- A header line of the colliding size is swallowed, and so is a body chunk; the
transfer goes on. -/
theorem closedEarly_swallows :
    ¬ ∀ proxy : QuicProxyCurl, proxy.quicStream = none → ∀ offered : List Callback,
      (∀ callback ∈ offered, 0 < callback.contents.length) →
        (∀ callback ∈ offered, proxy.Aborts Platform.chromium callback) ∧
          proxy.EndsAtNext Platform.chromium offered := by
  intro claimed
  obtain ⟨aborts, _⟩ := claimed closedEarly rfl
    [.header (ascii "Cache-Control: public\r\n"), .body (ascii "twenty-three bytes here")]
    (by decide +kernel)
  obtain ⟨result, returned, failed⟩ := aborts _ List.mem_cons_self
  cases returned
  revert failed
  decide +kernel

end QuicProxyCurl

end QuicProxy
