import QuicProxy.Backend.Clearings
import QuicProxy.Backend.Uploads

/-!
# Request bodies arrive whole

After enough calls of `ReadQuicCallback` libcurl has all of a body, whatever else goes on
meanwhile (`body_copied`), and nothing else sees the calls (`reads_unseen`).
-/

namespace QuicProxy

namespace Uploads

variable {platform : Platform} {backendUrl : Bytes} {uploads next : Uploads}

/-! ## All of it -/

/-- The event does not report the transfer of a handle done. -/
def Continues (easy : EasyRef) (event : UploadEvent) : Prop :=
  ∀ backendEvent, event.other = some backendEvent → easy ∉ backendEvent.finished

/-- A transfer goes on, for the body it was started with, and what is not a call of
`ReadQuicCallback` returns nothing to it. -/
theorem backend_goes_on (attributed : uploads.Attributed) {event : BackendEvent}
    (enabled : uploads.Enabled (.backend event))
    (stepped : uploads.step platform (.backend event) = .ok next) {easy : EasyRef}
    {handle : EasyHandle} (inMulti : uploads.backend.multi easy = some handle)
    (notDone : easy ∉ event.finished) :
    next.backend.multi easy = some handle ∧
      next.asked handle.privateData = uploads.asked handle.privateData ∧
        next.returned handle.privateData = uploads.returned handle.privateData := by
  obtain ⟨moved, followed⟩ := backend_step stepped
  have intact := (BackendState.step_iff.mp moved).intact attributed.intact enabled.1
  obtain ⟨held, proxy, lives⟩ := BackendState.proxy_of_multi attributed.intact inMulti
  have still : (next.backend.multi easy).isSome :=
    BackendState.inMulti_step attributed.intact enabled.1 moved notDone (by rw [inMulti]; rfl)
  obtain ⟨found, foundMulti⟩ := Option.isSome_iff_exists.mp still
  cases starts : event.isFetch with
  | false =>
      have before := (BackendState.step_iff.mp moved).oldHandles starts easy found foundMulti
      obtain rfl := Option.some.inj (inMulti.symm.trans before)
      rw [followed, follow_other _ starts]
      exact ⟨foundMulti, rfl, rfl⟩
  | true =>
      obtain ⟨quicStream, ref, easyInit, peerIp, requestHeaders, requestBody, rfl⟩ :=
        BackendEvent.fetch_of_isFetch starts
      have differs : handle.privateData ≠ ref := by
        intro isRef
        rw [isRef, enabled.1.2.2.1] at lives
        cases lives
      rcases (BackendState.fetch_iff.mp moved).handles foundMulti with before | ⟨own, -⟩
      · obtain rfl := Option.some.inj (inMulti.symm.trans before)
        refine ⟨foundMulti, ?_⟩
        rw [followed]
        exact ⟨Function.update_of_ne differs _ _, Function.update_of_ne differs _ _⟩
      · -- the new proxy would have a handle that is in use
        exfalso
        obtain ⟨new, added, given, links⟩ := BackendState.fetch_attaches moved
        have hash : next.backend.proxyHttpHash =
            Function.update uploads.backend.proxyHttpHash new (some ref) :=
          congrArg Links.hash links
        have notNew : easy ≠ new := by
          rintro rfl
          obtain ⟨old, oldLives, owns⟩ := BackendState.lives_of_held attributed.intact held
          exact enabled.1.2.2.2 easy given _ old oldLives owns
        obtain ⟨heldNext, -⟩ := BackendState.proxy_of_multi intact foundMulti
        rw [hash, Function.update_of_ne notNew, held, own] at heldNext
        exact differs (Option.some.inj heldNext)

/-- A call for another transfer returns nothing to this one. -/
theorem read_elsewhere (attributed : uploads.Attributed) {other easy : EasyRef}
    {bufferSize : UInt64} (enabled : uploads.Enabled (.read other bufferSize))
    (stepped : uploads.step platform (.read other bufferSize) = .ok next) {handle : EasyHandle}
    (inMulti : uploads.backend.multi easy = some handle) (differs : other ≠ easy) :
    next.returned handle.privateData = uploads.returned handle.privateData := by
  obtain ⟨-, found, otherInMulti, -⟩ := enabled
  obtain ⟨proxy, -, rfl⟩ := read_step otherInMulti stepped
  refine Function.update_of_ne ?_ _ _
  intro sameProxy
  obtain ⟨held, -⟩ := BackendState.proxy_of_multi attributed.intact inMulti
  obtain ⟨otherHeld, -⟩ := BackendState.proxy_of_multi attributed.intact otherInMulti
  rw [← sameProxy] at otherHeld
  exact differs (attributed.intact.hash_injective otherHeld held)

/-- A call for this one returns at least a byte, until there is none left. -/
theorem read_advances (attributed : uploads.Attributed) {easy : EasyRef} {bufferSize : UInt64}
    (enabled : uploads.Enabled (.read easy bufferSize))
    (stepped : uploads.step platform (.read easy bufferSize) = .ok next) {handle : EasyHandle}
    (inMulti : uploads.backend.multi easy = some handle) :
    min (uploads.asked handle.privateData).length
        ((uploads.returned handle.privateData).flatten.length + 1) ≤
      (next.returned handle.privateData).flatten.length := by
  obtain ⟨positive, found, foundMulti, uploading⟩ := enabled
  obtain rfl := Option.some.inj (inMulti.symm.trans foundMulti)
  obtain ⟨length, announced⟩ := Option.isSome_iff_exists.mp uploading
  obtain ⟨proxy, lives, moved⟩ := read_step inMulti stepped
  have returned : next.returned handle.privateData =
      uploads.returned handle.privateData ++ [(proxy.readQuicCallback bufferSize).1] := by
    rw [moved]
    exact Function.update_self ..
  obtain ⟨old, body, oldLives, bytes, -, accounts⟩ :=
    attributed.supplied easy handle length inMulti announced
  obtain rfl := Option.some.inj (lives.symm.trans oldLives)
  obtain ⟨pos, within, proxyAt, soFar⟩ := accounts
  have front : (uploads.returned handle.privateData).flatten = body.bytes.take pos := soFar
  have chunk : (proxy.readQuicCallback bufferSize).1 =
      (body.bytes.drop pos).take bufferSize.toNat := by
    have at_pos : proxy = proxy.uploading body pos := proxyAt
    rw [at_pos, QuicProxyCurl.readQuicCallback_uploading proxy body within]
  have size : 0 < bufferSize.toNat := by
    rwa [UInt64.lt_iff_toNat_lt] at positive
  rw [returned, List.flatten_append, List.flatten_singleton, front, chunk, ← bytes]
  simp only [List.length_append, List.length_take, List.length_drop]
  omega

/-- While a transfer goes on: once there have been as many calls for it as its body has bytes,
whatever the sizes of the buffers and whatever else has gone on meanwhile, exactly the body has
been returned. -/
theorem body_copied (reachable : (system platform backendUrl).Reachable uploads) {easy : EasyRef}
    {handle : EasyHandle} (inMulti : uploads.backend.multi easy = some handle)
    (uploading : handle.options.upload.isSome) {events : List UploadEvent} {last : Uploads}
    (run : ((system platform backendUrl).guarded fun _ => Continues easy).Run uploads events last)
    (enough : (uploads.asked handle.privateData).length ≤
      events.countP (UploadEvent.reads easy)) :
    (last.returned handle.privateData).flatten = uploads.asked handle.privateData := by
  have attributed := (attribution platform backendUrl).of_reachable reachable
  have goesOn : last.Attributed ∧ last.backend.multi easy = some handle ∧
      last.asked handle.privateData = uploads.asked handle.privateData ∧
      min (uploads.asked handle.privateData).length (events.countP (UploadEvent.reads easy)) ≤
        (last.returned handle.privateData).flatten.length := by
    clear enough
    induction run with
    | nil => exact ⟨attributed, inMulti, rfl, by simp⟩
    | @snoc events here event there _ latest ih =>
        obtain ⟨attributedHere, inMultiHere, asked, soFar⟩ := ih
        obtain ⟨continues, enabled, stepped⟩ := latest
        have next := (attribution platform backendUrl).preserved attributedHere ⟨enabled, stepped⟩
        rw [List.countP_append, List.countP_singleton]
        cases event with
        | backend event =>
            obtain ⟨still, sameAsked, sameReturned⟩ := backend_goes_on attributedHere enabled
              stepped inMultiHere (continues event rfl)
            refine ⟨next, still, sameAsked.trans asked, ?_⟩
            rw [sameReturned]
            exact soFar
        | read other bufferSize =>
            obtain ⟨found, foundMulti⟩ : ∃ found, here.backend.multi other = some found :=
              enabled.2.imp fun _ => And.left
            obtain ⟨proxy, -, moved⟩ := read_step foundMulti stepped
            refine ⟨next, ?_, ?_, ?_⟩
            · rw [moved]
              exact inMultiHere
            · rw [moved]
              exact asked
            · by_cases same : other = easy
              · subst same
                have advances := read_advances attributedHere enabled stepped inMultiHere
                rw [asked] at advances
                simp only [UploadEvent.reads, beq_self_eq_true, if_true]
                omega
              · rw [read_elsewhere attributedHere enabled stepped inMultiHere same]
                simpa [UploadEvent.reads, same] using soFar
  obtain ⟨lastAttributed, still, asked, amount⟩ := goesOn
  obtain ⟨length, announced⟩ := Option.isSome_iff_exists.mp uploading
  obtain ⟨proxy, body, -, bytes, -, pos, -, -, front⟩ :=
    lastAttributed.supplied easy handle length still announced
  have soFar : (last.returned handle.privateData).flatten = body.bytes.take pos := front
  have whole : (uploads.asked handle.privateData).length ≤
      (last.returned handle.privateData).flatten.length := by
    rwa [Nat.min_eq_left enough] at amount
  rw [soFar, ← asked, ← bytes, List.length_take] at whole
  rw [soFar, ← asked, ← bytes]
  exact List.take_of_length_le (by omega)

/-- The calls for a body, with a header line between them. -/
def twoReads : List UploadEvent :=
  [.read 0 1, .backend (.header 0 (ascii "HTTP/1.1 100 Continue" ++ crlf)), .read 0 8]

/-- The transfer is not reported done between the reads. -/
theorem run_reads : ((system Platform.chromium (ascii "http://localhost/")).guarded
    fun _ => Continues 0).Run posted twoReads secondRead := by
  obtain ⟨handle, inMulti, -, announced⟩ := posted_inMulti
  have uploading : handle.options.upload.isSome := by rw [announced]; rfl
  have first : posted.Enabled (.read 0 1) := ⟨by decide, handle, inMulti, uploading⟩
  have line : firstRead.Enabled
      (.backend (.header 0 (ascii "HTTP/1.1 100 Continue" ++ crlf))) :=
    ⟨rfl, fun _ _ _ _ _ _ same => by cases same⟩
  have second : continued.Enabled (.read 0 8) := ⟨by decide, handle, inMulti, uploading⟩
  have goesOn : Continues 0 (.backend (.header 0 (ascii "HTTP/1.1 100 Continue" ++ crlf))) := by
    rintro event ⟨⟩ ⟨⟩
  have begun : ((system Platform.chromium (ascii "http://localhost/")).guarded
      fun _ => Continues 0).Run posted [.read 0 1] firstRead :=
    .snoc .nil ⟨fun _ same => (by cases same), first, rfl⟩
  have answered : ((system Platform.chromium (ascii "http://localhost/")).guarded
      fun _ => Continues 0).Run posted
        [.read 0 1, .backend (.header 0 (ascii "HTTP/1.1 100 Continue" ++ crlf))] continued :=
    .snoc begun ⟨goesOn, line, rfl⟩
  exact .snoc answered ⟨fun _ same => (by cases same), second, rfl⟩

/-- Both bytes have been read. -/
theorem body_copied_secondRead : (secondRead.returned 0).flatten = posted.asked 0 := by
  obtain ⟨handle, inMulti, isProxy, announced⟩ := posted_inMulti
  have uploading : handle.options.upload.isSome := by rw [announced]; rfl
  have enough : (posted.asked handle.privateData).length ≤
      twoReads.countP (UploadEvent.reads 0) := by
    rw [isProxy]
    decide +kernel
  have copied := body_copied posted_reachable inMulti uploading run_reads enough
  rwa [isProxy] at copied

/-! ## Nothing else sees it -/

/-- The state before any body is read. -/
def unread (state : BackendState) : BackendState := state.edited fun _ => ⟨id, fun _ => 0⟩

/-- A call of `ReadQuicCallback` moves the place in the body only. -/
theorem unread_read {easy : EasyRef} {handle : EasyHandle} {bufferSize : UInt64}
    (inMulti : uploads.backend.multi easy = some handle)
    (stepped : uploads.step platform (.read easy bufferSize) = .ok next) :
    unread next.backend = unread uploads.backend := by
  obtain ⟨proxy, lives, rfl⟩ := read_step inMulti stepped
  have place : (proxy.readQuicCallback bufferSize).2 =
      { proxy with requestBodyPos := (proxy.readQuicCallback bufferSize).2.requestBodyPos } := by
    simp only [QuicProxyCurl.readQuicCallback]
    split <;> rfl
  have there : (unread uploads.backend).proxies handle.privateData =
      some { proxy with requestBodyPos := 0 } := by
    change (uploads.backend.proxies handle.privateData).map _ = _
    rw [lives]
    rfl
  change unread (uploads.backend.putProxy handle.privateData _) = _
  rw [unread, BackendState.edited_putProxy, place]
  have same : Function.update (unread uploads.backend).proxies handle.privateData
      (some { proxy with requestBodyPos := 0 }) = (unread uploads.backend).proxies := by
    rw [← there, Function.update_eq_self]
  exact congrArg (fun proxies => { unread uploads.backend with proxies }) same

/-- The backend alone follows the events that are no calls of `ReadQuicCallback`. -/
def toBackend (platform : Platform) (backendUrl : Bytes) :
    LabelledSystem.Simulation (system platform backendUrl)
      (BackendState.system platform backendUrl) fun _ => UploadEvent.other where
  Related uploads view := view = unread uploads.backend
  hidden := by
    rintro here event there _ rfl ⟨enabled, stepped⟩ hidden
    cases event with
    | backend event => cases hidden
    | read easy bufferSize =>
        obtain ⟨-, handle, inMulti, -⟩ := enabled
        exact (unread_read inMulti stepped).symm
  shown := by
    rintro here event there _ saw rfl ⟨enabled, stepped⟩ shown
    cases event with
    | read easy bufferSize => cases shown
    | backend event =>
        obtain rfl := Option.some.inj shown
        obtain ⟨moved, -⟩ := backend_step stepped
        have spares : BackendState.SpareNew (fun _ => ⟨id, fun _ => 0⟩) event := by
          cases event with
          | fetch quicStream ref easyInit peerIp requestHeaders requestBody => exact ⟨rfl, rfl⟩
          | _ => trivial
        have outcome := (BackendState.step_iff.mp moved).edited spares
        exact ⟨unread there.backend, ⟨BackendState.enabled_edited enabled.1,
          BackendState.step_iff.mpr outcome⟩, rfl⟩

/-- Without its calls of `ReadQuicCallback` every run is a run of the backend alone, whose
states differ in nothing but the places in the bodies. -/
theorem reads_unseen {events : List UploadEvent} {last : Uploads}
    (run : (system platform backendUrl).Run uploads events last) :
    (BackendState.system platform backendUrl).Run (unread uploads.backend)
      (events.filterMap UploadEvent.other) (unread last.backend) := by
  obtain ⟨view, ran, rfl⟩ := (toBackend platform backendUrl).labels run rfl
  exact ran

/-- Without the reads the header line is all that happens. -/
theorem reads_unseen_secondRead :
    (BackendState.system Platform.chromium (ascii "http://localhost/")).Run
      (unread posted.backend) [.header 0 (ascii "HTTP/1.1 100 Continue" ++ crlf)]
      (unread secondRead.backend) :=
  reads_unseen (run_reads.mono And.right)

end Uploads

end QuicProxy
