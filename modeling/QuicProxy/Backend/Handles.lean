import QuicProxy.Backend.Frames

/-!
# Handles in the multi

Only the start of a request puts a handle in the multi (`Outcome.oldHandles`), and its proxy then
holds the request's body, if it is to upload one, and has not been read (`Fetched.handles`).
-/

namespace QuicProxy

namespace BackendState

variable {platform : Platform} {state next : BackendState}

/-- Every handle in the multi was there before. -/
def OldHandles (state next : BackendState) : Prop :=
  ∀ easy handle, next.multi easy = some handle → state.multi easy = some handle

/-- An event that leaves the multi alone. -/
theorem OldHandles.of_eq (same : next.multi = state.multi) : OldHandles state next :=
  fun _ _ inMulti => same ▸ inMulti

/-- The end of a transfer takes its handle out. -/
theorem Finished.oldHandles {easy : EasyRef} (finished : Finished easy state next) :
    OldHandles state next := by
  intro other handle inMulti
  rw [finished.multi] at inMulti
  by_cases same : other = easy
  · rw [same, Function.update_self] at inMulti
    cases inMulti
  · rwa [Function.update_of_ne same] at inMulti

/-- Reading messages takes handles out. -/
theorem Checked.oldHandles {messages : List CurlMsg} (checked : Checked messages state next) :
    OldHandles state next := by
  cases checked with
  | cleared => exact .of_eq rfl
  | read reads =>
      exact reads.keeps (.of_eq rfl) fun easy result here there _ old finished other handle
        inMulti => old other handle (finished.oldHandles other handle inMulti)

/-- Any other event adds none. -/
theorem Outcome.oldHandles {event : BackendEvent} (outcome : Outcome platform state event next)
    (notFetch : event.isFetch = false) : OldHandles state next := by
  cases isQuiet : event.isQuiet with
  | true => exact .of_eq (outcome.sameTables isQuiet).multi
  | false =>
      cases outcome with
      | fetch => cases notFetch
      | check checked => exact checked.oldHandles
      | socket _ called => exact .of_eq called.onlySockets.multi
      | idle => exact .of_eq rfl
      | _ => cases isQuiet

/-! ## Starting a request -/

/-- A handle that has just been added to the multi: its proxy has not been read, and holds the
body if it uploads. -/
structure Begun (requestBody : Bytes) (handle : EasyHandle) (proxy : QuicProxyCurl) : Prop where
  pos : proxy.requestBodyPos = 0
  upload : ∀ length, handle.options.upload = some length →
    length = requestBody.length ∧ proxy.requestBody = requestBody

/-- A request that starts has its whole body before it, and the handle names its proxy. -/
theorem startHttp_begun {proxy started : QuicProxyCurl} {peerIp : Bytes}
    {requestHeaders : SpdyHeaderBlock} {requestBody : Bytes} {options : EasyOptions}
    (configured : proxy.startHttp platform peerIp requestHeaders requestBody =
      (started, some options)) (new : proxy.requestBodyPos = 0) (ref : ProxyRef) :
    Begun requestBody ⟨ref, options⟩ started := by
  simp only [QuicProxyCurl.startHttp] at configured
  split at configured
  · cases configured
  · split at configured
    · cases configured
      refine ⟨new, fun length announced => ⟨?_, rfl⟩⟩
      exact (Option.some.inj announced).symm
    · cases configured
      exact ⟨new, fun length announced => by cases announced⟩

/-- A handle that is there after a request has been started was there before, or is that of the
new proxy. -/
theorem Fetched.handles {quicStream : StreamRef} {ref : ProxyRef} {easyInit : Option EasyRef}
    {peerIp : Bytes} {requestHeaders : SpdyHeaderBlock} {requestBody : Bytes}
    (fetched : Fetched platform quicStream ref easyInit peerIp requestHeaders requestBody state
      next) {easy : EasyRef} {handle : EasyHandle} (inMulti : next.multi easy = some handle) :
    state.multi easy = some handle ∨ handle.privateData = ref ∧
      ∃ proxy, next.proxies ref = some proxy ∧ Begun requestBody handle proxy := by
  cases fetched with
  | @intro own path stream given found lives =>
      rcases configured : state.started platform quicStream own path peerIp requestHeaders
        requestBody with ⟨proxy, options⟩
      simp only [attached, configured] at inMulti ⊢
      cases options with
      | none => exact .inl inMulti
      | some options =>
          rw [Option.elim_some] at inMulti
          by_cases same : easy = own
          · rw [same, Function.update_self] at inMulti
            obtain rfl := Option.some.inj inMulti
            exact .inr ⟨rfl, proxy, Function.update_self .., startHttp_begun configured rfl ref⟩
          · rw [Function.update_of_ne same] at inMulti
            exact .inl inMulti

end BackendState

end QuicProxy
