import QuicProxy.Curl.Upload
import QuicProxy.Semantics.Execution

/-!
# Reading a body for libcurl

`UploadTrace` adds to a proxy the chunks its `ReadQuicCallback` has returned.
`Accounts` is the invariant: they are the body up to `request_body_pos_`, which never
passes its end, so that the remaining length does not wrap. `upload_reproduced` is the
result for every sequence of buffers.
-/

namespace QuicProxy

/-- A proxy, and what its reads have returned. -/
structure UploadTrace where
  proxy : QuicProxyCurl
  returned : List Bytes

namespace UploadTrace

open QuicProxyCurl

/-- A call of the callback with a buffer of `bufferSize` bytes. -/
def step (trace : UploadTrace) (bufferSize : UInt64) : UploadTrace where
  proxy := (trace.proxy.readQuicCallback bufferSize).2
  returned := trace.returned ++ [(trace.proxy.readQuicCallback bufferSize).1]

/-- Calls with positive buffer sizes, from a proxy that has not been read. -/
def system (started : QuicProxyCurl) : LabelledSystem UploadTrace UInt64 :=
  .functional (· = ⟨started, []⟩) (fun _ bufferSize => 0 < bufferSize) step

/-- A state in the middle of reading `body`: what has been returned, and what the next
calls return. -/
structure Reproduces (trace : UploadTrace) (body : Bytes) : Prop where
  kept : trace.proxy.requestBody = body
  within : trace.proxy.requestBodyPos.toNat ≤ body.length
  noWrap : (UInt64.ofNat body.length - trace.proxy.requestBodyPos).toNat =
    body.length - trace.proxy.requestBodyPos.toNat
  soFar : trace.returned.flatten = body.take trace.proxy.requestBodyPos.toNat
  fits : ∀ bufferSize, (trace.proxy.readQuicCallback bufferSize).1.length ≤ bufferSize.toNat
  /-- A call returns 0 where the whole body has been returned, and only there. -/
  ends : ∀ bufferSize, 0 < bufferSize →
    ((trace.proxy.readQuicCallback bufferSize).1 = [] ↔ trace.returned.flatten = body)
  completes : ∀ bufferSizes : List UInt64, (∀ size ∈ bufferSizes, 0 < size) →
    body.length - trace.proxy.requestBodyPos.toNat ≤ bufferSizes.length →
      (bufferSizes.foldl step trace).returned.flatten = body

/-! ## The invariant -/

/-- The chunks returned so far are the body up to the place of the proxy. -/
def Accounts (started : QuicProxyCurl) (body : RequestBody) (trace : UploadTrace) : Prop :=
  ∃ pos ≤ body.bytes.length, trace.proxy = started.uploading body pos ∧
    trace.returned.flatten = body.bytes.take pos

variable {started : QuicProxyCurl} {body : RequestBody} {trace : UploadTrace}

/-- A read moves the place by what it returns. -/
theorem Accounts.step (accounts : Accounts started body trace) (bufferSize : UInt64) :
    Accounts started body (trace.step bufferSize) := by
  obtain ⟨pos, within, proxy, soFar⟩ := accounts
  have called := readQuicCallback_uploading started body within bufferSize
  rw [← proxy] at called
  refine ⟨pos + min bufferSize.toNat (body.bytes.length - pos), by omega, ?_, ?_⟩
  · simp only [UploadTrace.step, called]
  · have split : body.bytes.take (pos + min bufferSize.toNat (body.bytes.length - pos)) =
        body.bytes.take pos ++ (body.bytes.drop pos).take bufferSize.toNat := by
      rw [List.take_add, List.append_cancel_left_eq, List.take_eq_take_iff, List.length_drop]
      omega
    simp only [UploadTrace.step, called, List.flatten_append, List.flatten_singleton, soFar, split]

/-- The account is right in every run. -/
theorem Accounts.of_reachable (fresh : started = started.uploading body 0)
    (reachable : (system started).Reachable trace) : Accounts started body trace := by
  refine LabelledSystem.Invariant.of_reachable ⟨Accounts started body, ?_, ?_⟩ reachable
  · rintro _ rfl
    exact ⟨0, Nat.zero_le _, fresh, rfl⟩
  · rintro here bufferSize _ accounts ⟨-, rfl⟩
    exact accounts.step bufferSize

/-! ## What follows from it -/

/-- The place in the body, without wrapping. -/
theorem uploading_pos {pos : Nat} (within : pos ≤ body.bytes.length) :
    (started.uploading body pos).requestBodyPos.toNat = pos :=
  UInt64.toNat_ofNat_of_lt' (Nat.lt_of_le_of_lt within body.bounded)

/-- Every call with room in its buffer returns a byte until there is none left. -/
theorem Accounts.completes (accounts : Accounts started body trace) {bufferSizes : List UInt64}
    (positive : ∀ size ∈ bufferSizes, 0 < size)
    (enough : body.bytes.length - trace.proxy.requestBodyPos.toNat ≤ bufferSizes.length) :
    (bufferSizes.foldl UploadTrace.step trace).returned.flatten = body.bytes := by
  induction bufferSizes generalizing trace with
  | nil =>
      obtain ⟨pos, within, proxy, soFar⟩ := accounts
      rw [proxy, uploading_pos within, List.length_nil] at enough
      rw [List.foldl_nil, soFar, List.take_of_length_le (by omega)]
  | cons size rest ih =>
      obtain ⟨here, positive⟩ := List.forall_mem_cons.mp positive
      rw [UInt64.lt_iff_toNat_lt, UInt64.toNat_zero] at here
      refine ih (accounts.step size) positive ?_
      obtain ⟨pos, within, proxy, -⟩ := accounts
      have called := readQuicCallback_uploading started body within size
      have next : pos + min size.toNat (body.bytes.length - pos) ≤ body.bytes.length := by omega
      rw [proxy, uploading_pos within, List.length_cons] at enough
      simp only [UploadTrace.step, proxy, called]
      rw [uploading_pos next]
      omega

/-- What was returned is the beginning of the body. -/
theorem Accounts.reproduces (accounts : Accounts started body trace) :
    trace.Reproduces body.bytes := by
  obtain ⟨pos, within, proxy, soFar⟩ := accounts
  have place : trace.proxy.requestBodyPos.toNat = pos := by rw [proxy, uploading_pos within]
  have copied : ∀ bufferSize, (trace.proxy.readQuicCallback bufferSize).1 =
      (body.bytes.drop pos).take bufferSize.toNat := by
    intro bufferSize
    rw [proxy, readQuicCallback_uploading started body within]
  constructor
  · rw [proxy]
    rfl
  · rw [place]
    exact within
  · rw [place, proxy]
    exact toNat_left body within
  · rw [place]
    exact soFar
  · intro bufferSize
    rw [copied]
    exact List.length_take_le _ _
  · intro bufferSize positive
    rw [UInt64.lt_iff_toNat_lt, UInt64.toNat_zero] at positive
    rw [copied, soFar, List.take_eq_nil_iff, List.drop_eq_nil_iff, List.take_eq_self_iff]
    omega
  · intro bufferSizes positive enough
    exact Accounts.completes ⟨pos, within, proxy, soFar⟩ positive enough

/-! ## What `StartHttp` attaches -/

/-- The empty string `request_body_` is constructed as. -/
def noBody : RequestBody := ⟨[], by decide⟩

/-- A new proxy is at the beginning of the body it has been given, and that is the one
whose length is announced. -/
theorem startHttp_attaches (platform : Platform) (requestUrl : Bytes) (streamRef : StreamRef)
    (peerIp : Bytes) (headers : SpdyHeaderBlock) (body : RequestBody) :
    let started := (create requestUrl streamRef).startHttp platform peerIp headers body.bytes
    ∃ given : RequestBody, started.1 = started.1.uploading given 0 ∧
      ∀ options announced, started.2 = some options → options.upload = some announced →
        given = body ∧ announced = body.bytes.length := by
  by_cases token : platform.isValidHeaderName ((headers.find (ascii ":method")).getD []) = false
  · simp only [startHttp, if_pos token]
    refine ⟨noBody, rfl, ?_⟩
    rintro _ announced ⟨⟩
  · by_cases uploads : Uploads headers ∧ body.bytes ≠ []
    · rw [Uploads] at uploads
      simp only [startHttp, if_neg token, if_pos uploads]
      refine ⟨body, rfl, ?_⟩
      rintro _ announced ⟨⟩ ⟨⟩
      exact ⟨rfl, rfl⟩
    · rw [Uploads] at uploads
      simp only [startHttp, if_neg token, if_neg uploads]
      refine ⟨noBody, rfl, ?_⟩
      rintro _ announced ⟨⟩ ⟨⟩

/-- Whatever the request: in every state the callback can reach, it has returned the body
up to its place and will return the rest. Where `UPLOAD` is set this is the body of the
request, and its length is the `INFILESIZE` announced. -/
theorem upload_reproduced (platform : Platform) (requestUrl : Bytes) (streamRef : StreamRef)
    (peerIp : Bytes) (headers : SpdyHeaderBlock) (body : RequestBody) :
    let started := (create requestUrl streamRef).startHttp platform peerIp headers body.bytes
    (∀ options announced, started.2 = some options → options.upload = some announced →
      started.1.requestBody = body.bytes ∧ announced = body.bytes.length) ∧
    ∀ trace : UploadTrace, (system started.1).Reachable trace →
      trace.Reproduces started.1.requestBody := by
  intro started
  obtain ⟨given, fresh, announces⟩ :=
    startHttp_attaches platform requestUrl streamRef peerIp headers body
  have same : started.1.requestBody = given.bytes := by
    rw [fresh]
    rfl
  constructor
  · intro options announced configured isUpload
    obtain ⟨rfl, size⟩ := announces options announced configured isUpload
    exact ⟨same, size⟩
  · intro trace reachable
    rw [same]
    exact (Accounts.of_reachable fresh reachable).reproduces

/-- A POST with a body. -/
def post : SpdyHeaderBlock := SpdyHeaderBlock.empty.set (ascii ":method") (ascii "POST")

/-- The proxy that uploads it. -/
def posting : QuicProxyCurl :=
  ((create (ascii "http://localhost/") 0).startHttp Platform.chromium (ascii "192.0.2.7") post
    idBody.bytes).1

/-- The options of a POST. -/
def postOptions : EasyOptions where
  url := ascii "http://localhost/"
  customRequest := ascii "POST"
  httpHeader := [ascii "x-real-ip: 192.0.2.7"]
  followLocation := true
  upload := some 7

/-- Three reads return the body of a POST. -/
theorem upload_reproduced_post :
    posting.requestBody = idBody.bytes ∧
      ([4, 3, 9].foldl step ⟨posting, []⟩).Reproduces idBody.bytes := by
  have ⟨announces, reproduces⟩ := upload_reproduced Platform.chromium (ascii "http://localhost/")
    0 (ascii "192.0.2.7") post idBody
  have attached : posting.requestBody = idBody.bytes :=
    (announces postOptions 7 (by decide +kernel) rfl).1
  have reachable : (system posting).Reachable ([4, 3, 9].foldl step ⟨posting, []⟩) :=
    ⟨_, [4, 3, 9], rfl, LabelledSystem.functional_run (by decide)⟩
  exact ⟨attached, attached ▸ reproduces _ reachable⟩

end UploadTrace

end QuicProxy
