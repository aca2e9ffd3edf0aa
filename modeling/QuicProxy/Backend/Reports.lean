import QuicProxy.Backend.Returns

/-!
# How finished transfers are taken off

The relations of `Returns` for `CheckCurlMultiInfo`: `Finished` for the end of one transfer,
`Reads` for the loop over the messages libcurl has, with `Reads.keeps` as its rule, and `Checked`
for the call.
-/

namespace QuicProxy

namespace BackendState

variable {state next : BackendState}

/-! ## One message -/

/-- An entry that moves to the dead list leaves everything but the two tables. -/
theorem moveToDeadList_eq (state : BackendState) (easy : EasyRef) :
    ∃ hash dead, state.moveToDeadList easy =
      { state with proxyHttpHash := hash, proxyHttpDeadList := dead } := by
  unfold moveToDeadList
  split
  · exact ⟨_, _, rfl⟩
  · exact ⟨_, _, rfl⟩

@[simp] theorem moveToDeadList_proxies (state : BackendState) (easy : EasyRef) :
    (state.moveToDeadList easy).proxies = state.proxies := by
  obtain ⟨hash, dead, moved⟩ := moveToDeadList_eq state easy
  rw [moved]

@[simp] theorem moveToDeadList_streams (state : BackendState) (easy : EasyRef) :
    (state.moveToDeadList easy).streams = state.streams := by
  obtain ⟨hash, dead, moved⟩ := moveToDeadList_eq state easy
  rw [moved]

@[simp] theorem moveToDeadList_multi (state : BackendState) (easy : EasyRef) :
    (state.moveToDeadList easy).multi = state.multi := by
  obtain ⟨hash, dead, moved⟩ := moveToDeadList_eq state easy
  rw [moved]

/-- It reads the hash only, so the objects may as well be written before. -/
theorem moveToDeadList_put (state : BackendState) (easy : EasyRef) (ref : ProxyRef)
    (proxy : QuicProxyCurl) (quicStream : StreamRef) (stream : QuicProxyStream) :
    (((state.multiRemoveHandle easy).moveToDeadList easy).putStream quicStream stream).putProxy ref
        proxy =
      (((state.putProxy ref proxy).putStream quicStream stream).multiRemoveHandle
        easy).moveToDeadList easy := by
  cases held : state.proxyHttpHash easy with
  | none => simp only [moveToDeadList, multiRemoveHandle, putStream, putProxy, held]
  | some ref => simp only [moveToDeadList, multiRemoveHandle, putStream, putProxy, held]

/-- The end of a transfer: proxy and stream let go of each other, the handle leaves the multi
and the proxy the hash for the dead list. -/
inductive Finished (easy : EasyRef) (state : BackendState) : BackendState → Prop where
  | unknown (absent : state.multi easy = none) : Finished easy state state
  | alone {handle proxy} (inMulti : state.multi easy = some handle)
      (lives : state.proxies handle.privateData = some proxy) (nowhere : proxy.quicStream = none) :
      Finished easy state ((state.multiRemoveHandle easy).moveToDeadList easy)
  | letGo {handle proxy quicStream stream} (inMulti : state.multi easy = some handle)
      (lives : state.proxies handle.privateData = some proxy)
      (points : proxy.quicStream = some quicStream)
      (streamLives : state.streams quicStream = some stream) :
      Finished easy state ((((state.putProxy handle.privateData (proxy.setStream none)).putStream
        quicStream (stream.setProxyCurl none)).multiRemoveHandle easy).moveToDeadList easy)

/-- `Finished` is what the report of a transfer done comes to. -/
theorem finishTransfer_iff {easy : EasyRef} {result : CurlCode} :
    state.finishTransfer easy result = .ok next ↔ Finished easy state next := by
  have streams : ((state.multiRemoveHandle easy).moveToDeadList easy).streams = state.streams :=
    moveToDeadList_streams _ _
  unfold finishTransfer
  constructor
  · intro returned
    cases inMulti : state.multi easy with
    | none =>
        simp only [inMulti] at returned
        cases returned
        exact .unknown inMulti
    | some handle =>
        simp only [inMulti, bind_proxy_iff] at returned
        obtain ⟨proxy, lives, returned⟩ := returned
        cases points : proxy.quicStream with
        | none =>
            simp only [points] at returned
            cases returned
            exact .alone inMulti lives points
        | some quicStream =>
            simp only [points, bind_stream_iff, streams] at returned
            obtain ⟨stream, streamLives, ⟨⟩⟩ := returned
            rw [moveToDeadList_put]
            exact .letGo inMulti lives points streamLives
  · rintro (absent | ⟨inMulti, lives, nowhere⟩ | ⟨inMulti, lives, points, streamLives⟩)
    · simp only [absent]
    · simp only [inMulti, bind_proxy_iff]
      exact ⟨_, lives, by simp only [nowhere]⟩
    · simp only [inMulti, bind_proxy_iff]
      refine ⟨_, lives, ?_⟩
      simp only [points, bind_stream_iff, streams, moveToDeadList_put]
      exact ⟨_, streamLives, rfl⟩

/-- The handle is not in the multi any more, the others are. -/
theorem Finished.multi {easy : EasyRef} (finished : Finished easy state next) :
    next.multi = Function.update state.multi easy none := by
  cases finished with
  | unknown absent => rw [← absent, Function.update_eq_self]
  | alone => exact moveToDeadList_multi _ _
  | letGo => exact moveToDeadList_multi _ _

/-! ## A call -/

/-- Messages that are read one after another. -/
inductive Reads : List CurlMsg → BackendState → BackendState → Prop where
  | nil {here} : Reads [] here here
  | done {easy result messages here middle there} (finished : Finished easy here middle)
      (rest : Reads messages middle there) : Reads (.done easy result :: messages) here there
  | other {messages here there} (rest : Reads messages here there) :
      Reads (.other :: messages) here there

/-- `Reads` is what reading the messages comes to. -/
theorem readMessages_iff {messages : List CurlMsg} :
    messages.foldlM readMessage state = .ok next ↔ Reads messages state next := by
  induction messages generalizing state with
  | nil =>
      constructor
      · rintro ⟨⟩
        exact .nil
      · rintro ⟨⟩
        rfl
  | cons message rest ih =>
      simp only [List.foldlM_cons, bind_eq_ok, ih]
      cases message with
      | done easy result =>
          simp only [readMessage, finishTransfer_iff]
          constructor
          · rintro ⟨middle, finished, reads⟩
            exact .done finished reads
          · intro reads
            cases reads with
            | done finished reads => exact ⟨_, finished, reads⟩
      | other =>
          constructor
          · rintro ⟨middle, ⟨⟩, reads⟩
            exact .other reads
          · intro reads
            cases reads with
            | other reads => exact ⟨_, rfl, reads⟩

/-- Messages are read one after the other. -/
theorem reads_append_iff {before after : List CurlMsg} :
    Reads (before ++ after) state next ↔
      ∃ middle, Reads before state middle ∧ Reads after middle next := by
  simp only [← readMessages_iff, List.foldlM_append, bind_eq_ok]

/-- The rule for the loop: what the end of each transfer keeps. -/
theorem Reads.keeps {holds : BackendState → Prop} {messages : List CurlMsg}
    (reads : Reads messages state next) (begins : holds state)
    (each : ∀ easy result here there, .done easy result ∈ messages → holds here →
      Finished easy here there → holds there) : holds next := by
  induction reads with
  | nil => exact begins
  | done finished rest ih =>
      refine ih (each _ _ _ _ List.mem_cons_self begins finished) ?_
      exact fun easy result here there member => each easy result here there
        (List.mem_cons_of_mem _ member)
  | other rest ih =>
      exact ih begins fun easy result here there member => each easy result here there
        (List.mem_cons_of_mem _ member)

/-- `CheckCurlMultiInfo` -/
inductive Checked : List CurlMsg → BackendState → BackendState → Prop where
  | cleared {here} : Checked [] here here.clearDeadList
  | read {message messages here there} (reads : Reads (message :: messages) here there) :
      Checked (message :: messages) here there

/-- `Checked` is what `CheckCurlMultiInfo` comes to. -/
theorem checkCurlMultiInfo_iff {messages : List CurlMsg} :
    state.checkCurlMultiInfo messages = .ok next ↔ Checked messages state next := by
  unfold checkCurlMultiInfo
  simp only [bind_eq_ok, readMessages_iff]
  cases messages with
  | nil =>
      constructor
      · rintro ⟨middle, ⟨⟩, ⟨⟩⟩
        exact .cleared
      · rintro ⟨⟩
        exact ⟨_, .nil, rfl⟩
  | cons message messages =>
      constructor
      · rintro ⟨middle, reads, ⟨⟩⟩
        exact .read reads
      · intro checked
        cases checked with
        | read reads => exact ⟨_, reads, rfl⟩

end BackendState

end QuicProxy
