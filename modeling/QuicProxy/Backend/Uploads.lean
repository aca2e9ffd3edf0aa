import QuicProxy.Backend.BodyEdits
import QuicProxy.Backend.Handles
import QuicProxy.Backend.Pointers
import QuicProxy.Curl.UploadReads
import QuicProxy.Semantics.Simulation

/-!
# Request bodies among the transfers

libcurl calls `ReadQuicCallback` for the transfers that upload, whenever it has room, between
any two other events. `Uploads` is the backend with these calls. Each transfer is given nothing
but its own request's body, and in order (`copied_in_order`).
-/

namespace QuicProxy

namespace BackendState

/-- libcurl has room for `bufferSize` bytes of a proxy's body. -/
def readQuicCallback (state : BackendState) (ref : ProxyRef) (bufferSize : UInt64) :
    Except Fault (Bytes × BackendState) := do
  let proxy ← state.proxy ref
  let (bytes, proxy) := proxy.readQuicCallback bufferSize
  .ok (bytes, state.putProxy ref proxy)

end BackendState

/-- The backend, with the body each proxy was last started with, and what its calls of
`ReadQuicCallback` have returned since. -/
structure Uploads where
  backend : BackendState
  asked : ProxyRef → Bytes
  returned : ProxyRef → List Bytes

/-- An event of the backend, or a call of `ReadQuicCallback` for a handle. -/
inductive UploadEvent where
  | backend (event : BackendEvent)
  | read (easy : EasyRef) (bufferSize : UInt64)

/-- The event, unless it is a call of `ReadQuicCallback`. -/
def UploadEvent.other : UploadEvent → Option BackendEvent
  | .backend event => some event
  | .read _ _ => none

/-- A call for the transfer of a handle. -/
def UploadEvent.reads (easy : EasyRef) : UploadEvent → Bool
  | .backend _ => false
  | .read other _ => other == easy

namespace Uploads

/-- A request that is started begins anew. -/
def follow (uploads : Uploads) (backend : BackendState) : BackendEvent → Uploads
  | .fetch _ ref _ _ _ requestBody =>
      { backend := backend
        asked := Function.update uploads.asked ref requestBody
        returned := Function.update uploads.returned ref [] }
  | _ => { uploads with backend := backend }

/-- What happens at an event. -/
def step (platform : Platform) (uploads : Uploads) : UploadEvent → Except Fault Uploads
  | .backend event => do
      let backend ← uploads.backend.step platform event
      .ok (uploads.follow backend event)
  | .read easy bufferSize =>
      match uploads.backend.multi easy with
      | none => .ok uploads
      | some handle => do
          let (bytes, backend) ← uploads.backend.readQuicCallback handle.privateData bufferSize
          .ok { uploads with
            backend := backend
            returned := Function.update uploads.returned handle.privateData
              (uploads.returned handle.privateData ++ [bytes]) }

/-- libcurl calls `ReadQuicCallback` where `UPLOAD` is set, and has room then. A body is a
`std::string`. -/
def Enabled (uploads : Uploads) : UploadEvent → Prop
  | .backend event => uploads.backend.Enabled event ∧
      ∀ stream ref easyInit peerIp requestHeaders requestBody,
        event = .fetch stream ref easyInit peerIp requestHeaders requestBody →
          requestBody.length < UInt64.size
  | .read easy bufferSize => 0 < bufferSize ∧
      ∃ handle, uploads.backend.multi easy = some handle ∧ handle.options.upload.isSome

/-- Before any request. -/
def initial (backendUrl : Bytes) : Uploads :=
  ⟨.initial backendUrl, fun _ => [], fun _ => []⟩

/-- The backend with the reads of its transfers. -/
def system (platform : Platform) (backendUrl : Bytes) : LabelledSystem Uploads UploadEvent :=
  .failing (· = initial backendUrl) Enabled (step platform)

variable {platform : Platform} {backendUrl : Bytes} {uploads next : Uploads}

/-- Keeping account changes nothing of the backend. -/
theorem follow_backend (backend : BackendState) (event : BackendEvent) :
    (uploads.follow backend event).backend = backend := by
  cases event <;> rfl

/-- Only a request that starts changes the account. -/
theorem follow_other (backend : BackendState) {event : BackendEvent}
    (notFetch : event.isFetch = false) :
    uploads.follow backend event = { uploads with backend := backend } := by
  cases event with
  | fetch quicStream ref easyInit peerIp requestHeaders requestBody => cases notFetch
  | _ => rfl

/-- A step of the backend's own. -/
theorem backend_step {event : BackendEvent}
    (stepped : uploads.step platform (.backend event) = .ok next) :
    uploads.backend.step platform event = .ok next.backend ∧
      next = uploads.follow next.backend event := by
  obtain ⟨backend, moved, followed⟩ := bind_ok stepped
  obtain rfl := Except.ok.inj followed
  rw [follow_backend]
  exact ⟨moved, rfl⟩

/-- A call of `ReadQuicCallback`, for the proxy of its handle. -/
theorem read_step {easy : EasyRef} {handle : EasyHandle} {bufferSize : UInt64}
    (inMulti : uploads.backend.multi easy = some handle)
    (stepped : uploads.step platform (.read easy bufferSize) = .ok next) :
    ∃ proxy, uploads.backend.proxies handle.privateData = some proxy ∧
      next = {
        uploads with
        backend := uploads.backend.putProxy handle.privateData
          (proxy.readQuicCallback bufferSize).2
        returned := Function.update uploads.returned handle.privateData
          (uploads.returned handle.privateData ++ [(proxy.readQuicCallback bufferSize).1]) } := by
  simp only [step, inMulti, BackendState.readQuicCallback, BackendState.proxy] at stepped
  cases lives : uploads.backend.proxies handle.privateData with
  | none =>
      rw [lives] at stepped
      cases stepped
  | some proxy =>
      rw [lives] at stepped
      exact ⟨proxy, rfl, (Except.ok.inj stepped).symm⟩

/-! ## What has been returned -/

/-- A proxy that is to send `length` bytes holds the body it was started with, and what it has
returned is the beginning of it, up to its place. -/
def Supplied (uploads : Uploads) (ref : ProxyRef) (length : Nat) : Prop :=
  ∃ (proxy : QuicProxyCurl) (body : RequestBody),
    uploads.backend.proxies ref = some proxy ∧ body.bytes = uploads.asked ref ∧
      length = body.bytes.length ∧
        UploadTrace.Accounts proxy body ⟨proxy, uploads.returned ref⟩

/-- The other fields of a proxy do not matter. -/
theorem accounts_of_same {proxy kept : QuicProxyCurl} {body : RequestBody}
    {returned : List Bytes} (accounts : UploadTrace.Accounts proxy body ⟨proxy, returned⟩)
    (sameBody : kept.requestBody = proxy.requestBody)
    (samePos : kept.requestBodyPos = proxy.requestBodyPos) :
    UploadTrace.Accounts kept body ⟨kept, returned⟩ := by
  obtain ⟨pos, within, uploading, soFar⟩ := accounts
  have bytes : kept.requestBody = body.bytes :=
    sameBody.trans (congrArg QuicProxyCurl.requestBody uploading)
  have place : kept.requestBodyPos = .ofNat pos :=
    samePos.trans (congrArg QuicProxyCurl.requestBodyPos uploading)
  refine ⟨pos, within, ?_, soFar⟩
  rw [QuicProxyCurl.uploading, ← bytes, ← place]

/-- The account goes on from where the proxy is. -/
theorem accounts_rebase {started : QuicProxyCurl} {body : RequestBody} {trace : UploadTrace}
    (accounts : UploadTrace.Accounts started body trace) :
    UploadTrace.Accounts trace.proxy body trace := by
  obtain ⟨pos, within, uploading, soFar⟩ := accounts
  refine ⟨pos, within, ?_, soFar⟩
  rw [uploading]
  rfl

/-- A read moves no pointer. -/
theorem readQuicCallback_pointers (proxy : QuicProxyCurl) (bufferSize : UInt64) :
    (proxy.readQuicCallback bufferSize).2.easy = proxy.easy ∧
      (proxy.readQuicCallback bufferSize).2.quicStream = proxy.quicStream := by
  simp only [QuicProxyCurl.readQuicCallback]
  split <;> exact ⟨rfl, rfl⟩

/-- An event that leaves the proxy's body and its account leaves it supplied. -/
theorem Supplied.keep {ref : ProxyRef} {length : Nat} (supplied : uploads.Supplied ref length)
    {proxy kept : QuicProxyCurl} (lives : uploads.backend.proxies ref = some proxy)
    (livesOn : next.backend.proxies ref = some kept)
    (same : kept.requestBody = proxy.requestBody ∧ kept.requestBodyPos = proxy.requestBodyPos)
    (asked : next.asked ref = uploads.asked ref)
    (returned : next.returned ref = uploads.returned ref) : next.Supplied ref length := by
  obtain ⟨found, body, foundLives, bytes, size, accounts⟩ := supplied
  obtain rfl := Option.some.inj (lives.symm.trans foundLives)
  refine ⟨kept, body, livesOn, bytes.trans asked.symm, size, ?_⟩
  rw [returned]
  exact accounts_of_same accounts same.1 same.2

/-- The proxy of each handle that uploads is supplied with what its own request asked for. -/
structure Attributed (uploads : Uploads) : Prop where
  intact : uploads.backend.links.Intact
  supplied : ∀ easy handle length, uploads.backend.multi easy = some handle →
    handle.options.upload = some length → uploads.Supplied handle.privateData length

/-- The backend's events keep each body with its own transfer. -/
theorem Attributed.backend (attributed : uploads.Attributed) {event : BackendEvent}
    (enabled : uploads.Enabled (.backend event))
    (stepped : uploads.step platform (.backend event) = .ok next) : next.Attributed := by
  obtain ⟨moved, followed⟩ := backend_step stepped
  have intact := (BackendState.step_iff.mp moved).intact attributed.intact enabled.1
  refine ⟨intact, fun easy handle length inMulti announced => ?_⟩
  -- a handle that was there before has its proxy before and after
  have old (wasInMulti : uploads.backend.multi easy = some handle)
      (asked : next.asked handle.privateData = uploads.asked handle.privateData)
      (returned : next.returned handle.privateData = uploads.returned handle.privateData) :
      next.Supplied handle.privateData length := by
    obtain ⟨-, proxy, lives⟩ := BackendState.proxy_of_multi attributed.intact wasInMulti
    obtain ⟨-, kept, livesOn⟩ := BackendState.proxy_of_multi intact inMulti
    exact (attributed.supplied easy handle length wasInMulti announced).keep lives livesOn
      ((BackendState.step_iff.mp moved).keepsBody enabled.1 lives livesOn) asked returned
  cases starts : event.isFetch with
  | false =>
      have same : next = { uploads with backend := next.backend } :=
        followed.trans (follow_other _ starts)
      have wasInMulti := (BackendState.step_iff.mp moved).oldHandles starts easy handle inMulti
      exact old wasInMulti (by rw [same]) (by rw [same])
  | true =>
      obtain ⟨quicStream, ref, easyInit, peerIp, requestHeaders, requestBody, rfl⟩ :=
        BackendEvent.fetch_of_isFetch starts
      rcases (BackendState.fetch_iff.mp moved).handles inMulti with
        wasInMulti | ⟨own, started, lives, begun⟩
      · have differs : handle.privateData ≠ ref := by
          intro isRef
          obtain ⟨-, proxy, lives⟩ := BackendState.proxy_of_multi attributed.intact wasInMulti
          rw [isRef, enabled.1.2.2.1] at lives
          cases lives
        refine old wasInMulti ?_ ?_
        · rw [followed]
          exact Function.update_of_ne differs _ _
        · rw [followed]
          exact Function.update_of_ne differs _ _
      · obtain ⟨size, bytes⟩ := begun.upload length announced
        have bounded := enabled.2 _ _ _ _ _ _ rfl
        have asked : next.asked ref = requestBody := by
          rw [followed]
          exact Function.update_self ..
        have returned : next.returned ref = [] := by
          rw [followed]
          exact Function.update_self ..
        rw [own]
        refine ⟨started, ⟨requestBody, bounded⟩, lives, asked.symm, size, 0, Nat.zero_le _, ?_, ?_⟩
        · have place : started.requestBodyPos = .ofNat 0 := begun.pos
          simp only [QuicProxyCurl.uploading, ← bytes, ← place]
        · rw [returned]
          rfl

/-- A call copies the next bytes of the body of its handle's request. -/
theorem Attributed.read (attributed : uploads.Attributed) {easy : EasyRef} {bufferSize : UInt64}
    (enabled : uploads.Enabled (.read easy bufferSize))
    (stepped : uploads.step platform (.read easy bufferSize) = .ok next) : next.Attributed := by
  obtain ⟨-, handle, inMulti, uploading⟩ := enabled
  obtain ⟨proxy, lives, rfl⟩ := read_step inMulti stepped
  obtain ⟨sameEasy, sameStream⟩ := readQuicCallback_pointers proxy bufferSize
  have links := BackendState.links_putProxy_same lives sameEasy sameStream
  refine ⟨links ▸ attributed.intact, fun other found length otherInMulti announced => ?_⟩
  have before := attributed.supplied other found length otherInMulti announced
  by_cases isRead : found.privateData = handle.privateData
  · obtain ⟨old, body, oldLives, bytes, size, accounts⟩ := before
    rw [isRead] at oldLives bytes accounts ⊢
    obtain rfl := Option.some.inj (lives.symm.trans oldLives)
    refine ⟨(proxy.readQuicCallback bufferSize).2, body, Function.update_self .., bytes, size, ?_⟩
    simp only [Function.update_self]
    exact accounts_rebase (accounts.step bufferSize)
  · obtain ⟨-, kept, keptLives⟩ := BackendState.proxy_of_multi attributed.intact otherInMulti
    refine before.keep keptLives ?_ ⟨rfl, rfl⟩ rfl (Function.update_of_ne isRead _ _)
    exact (Function.update_of_ne isRead _ _).trans keptLives

/-- Every reachable state attributes each body to its own transfer. -/
def attribution (platform : Platform) (backendUrl : Bytes) :
    LabelledSystem.Invariant (system platform backendUrl) where
  Holds := Attributed
  initial := by
    rintro _ rfl
    exact ⟨Links.Intact.empty, fun _ _ _ inMulti => by cases inMulti⟩
  preserved := by
    rintro here event there attributed ⟨enabled, stepped⟩
    cases event with
    | backend event => exact attributed.backend enabled stepped
    | read easy bufferSize => exact attributed.read enabled stepped

/-- In every run, of each transfer that uploads: `INFILESIZE` is the length of the body its own
request came with, and what libcurl has been given is the beginning of that body. -/
theorem copied_in_order (reachable : (system platform backendUrl).Reachable uploads)
    {easy : EasyRef} {handle : EasyHandle} {length : Nat}
    (inMulti : uploads.backend.multi easy = some handle)
    (announced : handle.options.upload = some length) :
    length = (uploads.asked handle.privateData).length ∧
      (uploads.returned handle.privateData).flatten <+: uploads.asked handle.privateData := by
  obtain ⟨proxy, body, -, bytes, size, pos, -, -, soFar⟩ :=
    ((attribution platform backendUrl).of_reachable reachable).supplied easy handle length inMulti
      announced
  rw [← bytes]
  refine ⟨size, ?_⟩
  have front : (uploads.returned handle.privateData).flatten = body.bytes.take pos := soFar
  rw [front]
  exact List.take_prefix ..

/-! ## A request with a body -/

/-- The state after an event, where it does not fail. -/
def take (platform : Platform) (uploads : Uploads) (event : UploadEvent) : Uploads :=
  match uploads.step platform event with
  | .ok next => next
  | .error _ => uploads

/-- The header block of a POST. -/
def postRequest : SpdyHeaderBlock :=
  (SpdyHeaderBlock.empty.set (ascii ":method") (ascii "POST")).set (ascii ":path") (ascii "/")

/-- A stream is there. -/
def opened : Uploads :=
  (initial (ascii "http://localhost/")).take Platform.chromium (.backend (.openStream 0))

/-- A stream has asked for its response, with a body of two bytes. -/
def posted : Uploads := opened.take Platform.chromium
  (.backend (.fetch 0 0 (some 0) (ascii "192.0.2.7") postRequest (ascii "ab")))

/-- libcurl has read one byte, -/
def firstRead : Uploads := posted.take Platform.chromium (.read 0 1)

/-- The response begins before all of the body has been read. -/
def continued : Uploads := firstRead.take Platform.chromium
  (.backend (.header 0 (ascii "HTTP/1.1 100 Continue" ++ crlf)))

/-- and then the rest. -/
def secondRead : Uploads := continued.take Platform.chromium (.read 0 8)

/-- Everything the request creates is new. -/
theorem post_enabled : opened.Enabled
    (.backend (.fetch 0 0 (some 0) (ascii "192.0.2.7") postRequest (ascii "ab"))) := by
  refine ⟨⟨rfl, rfl, rfl, ?_⟩, ?_⟩
  · intro easy _ ref proxy lives
    cases lives
  · rintro _ _ _ _ _ _ ⟨⟩
    decide +kernel

/-- The upload runs after two events. -/
theorem posted_reachable :
    (system Platform.chromium (ascii "http://localhost/")).Reachable posted := by
  have start : (system Platform.chromium (ascii "http://localhost/")).Reachable
      (initial (ascii "http://localhost/")) := .start rfl
  have mayOpen : (initial (ascii "http://localhost/")).Enabled (.backend (.openStream 0)) :=
    ⟨rfl, fun _ _ _ _ _ _ same => by cases same⟩
  have reachable : (system Platform.chromium (ascii "http://localhost/")).Reachable opened :=
    start.next ⟨mayOpen, rfl⟩
  exact reachable.next ⟨post_enabled, rfl⟩

/-- The transfer uploads two bytes, from its own proxy. -/
theorem posted_inMulti : ∃ handle, posted.backend.multi 0 = some handle ∧
    handle.privateData = 0 ∧ handle.options.upload = some 2 :=
  ⟨_, rfl, rfl, by decide +kernel⟩

/-- Nothing is read at first. -/
theorem copied_in_order_posted : (posted.returned 0).flatten <+: posted.asked 0 := by
  obtain ⟨handle, inMulti, isProxy, announced⟩ := posted_inMulti
  rw [← isProxy]
  exact (copied_in_order posted_reachable inMulti announced).2

end Uploads

end QuicProxy
