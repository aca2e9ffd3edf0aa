import QuicProxy.Backend.Pointers

/-!
# Between two clearings of the dead list

`Retires` says what an event between two clearings can do to the hash and the dead list, and
`Parted` that the two never share a handle.
-/

namespace QuicProxy

/-- The handles an event reports done. -/
def BackendEvent.finished : BackendEvent → List EasyRef
  | .check messages => messages.filterMap CurlMsg.easyHandle?
  | _ => []

namespace BackendState

variable {platform : Platform} {state next : BackendState}

/-- A proxy in the hash exists, under the handle that is its key. -/
theorem lives_of_held (intact : state.links.Intact) {easy : EasyRef} {ref : ProxyRef}
    (held : state.proxyHttpHash easy = some ref) :
    ∃ proxy, state.proxies ref = some proxy ∧ proxy.easy = some easy := by
  obtain ⟨proxy, lives, owns⟩ := intact.held easy ref held
  obtain ⟨object, objectLives, rfl⟩ := Option.map_eq_some_iff.mp lives
  exact ⟨object, objectLives, owns⟩

/-- A proxy in the dead list exists. -/
theorem lives_of_dead (intact : state.links.Intact) {ref : ProxyRef}
    (dead : ref ∈ state.proxyHttpDeadList) : ∃ proxy, state.proxies ref = some proxy := by
  obtain ⟨⟨proxy, lives, -⟩, -⟩ := intact.dead ref dead
  obtain ⟨object, objectLives, -⟩ := Option.map_eq_some_iff.mp lives
  exact ⟨object, objectLives⟩

/-- No proxy is in the hash and in the dead list. -/
theorem not_dead_of_held (intact : state.links.Intact) {easy : EasyRef} {ref : ProxyRef}
    (held : state.proxyHttpHash easy = some ref) : ref ∉ state.proxyHttpDeadList :=
  fun dead => (intact.dead ref dead).2 easy held

/-! ## Between two clearings -/

/-- What an event can do to the tables that creates and destroys no proxy: entries of
the hash whose handles are reported done go to the dead list. -/
structure Retires (finished : List EasyRef) (state next : BackendState) : Prop where
  proxies : ∀ ref proxy, state.proxies ref = some proxy →
    ∃ kept, next.proxies ref = some kept ∧ kept.easy = proxy.easy
  hash : ∀ easy, next.proxyHttpHash easy = state.proxyHttpHash easy ∨
    easy ∈ finished ∧ next.proxyHttpHash easy = none
  dead : ∀ ref, ref ∈ next.proxyHttpDeadList ↔ ref ∈ state.proxyHttpDeadList ∨
    ∃ easy ∈ finished, state.proxyHttpHash easy = some ref ∧ next.proxyHttpHash easy = none
  multi : ∀ easy, easy ∉ finished → (next.multi easy).isSome = (state.multi easy).isSome
  nodup : state.proxyHttpDeadList.Nodup → next.proxyHttpDeadList.Nodup

namespace Retires

variable {finished : List EasyRef}

/-- Neither table changes. -/
theorem quiet (proxies : ∀ ref proxy, state.proxies ref = some proxy →
      ∃ kept, next.proxies ref = some kept ∧ kept.easy = proxy.easy)
    (hash : next.proxyHttpHash = state.proxyHttpHash)
    (dead : next.proxyHttpDeadList = state.proxyHttpDeadList)
    (multi : ∀ easy, (next.multi easy).isSome = (state.multi easy).isSome) :
    Retires finished state next := by
  refine ⟨proxies, fun easy => .inl (congrFun hash easy), fun ref => ?_, fun easy _ => multi easy,
    fun nodup => dead ▸ nodup⟩
  rw [dead, hash]
  refine ⟨.inl, ?_⟩
  rintro (member | ⟨easy, -, held, gone⟩)
  · exact member
  · cases held.symm.trans gone

/-- An event that does nothing. -/
theorem refl (state : BackendState) : Retires finished state state :=
  .quiet (fun _ proxy lives => ⟨proxy, lives, rfl⟩) rfl rfl fun _ => rfl

/-- The tables stay, and so do the proxies with their handles. -/
theorem of_tables (tables : SameTables state next) (proxies : SameProxies state next) :
    Retires finished state next := by
  refine .quiet (fun ref proxy lives => ?_) tables.hash tables.dead fun easy => ?_
  · obtain ⟨kept, keptLives, easy, -⟩ := proxies ref proxy lives
    exact ⟨kept, keptLives, easy⟩
  · rw [tables.multi]

/-- No pointer moves. -/
theorem of_links (same : next.links = state.links) : Retires finished state next := by
  refine .quiet (fun ref proxy lives => ?_) ?_ ?_ fun easy => ?_
  · have linked : next.links.proxies ref = some ⟨proxy.easy, proxy.quicStream⟩ := by
      rw [same]
      simp [links, lives]
    obtain ⟨kept, keptLives, pointers⟩ := Option.map_eq_some_iff.mp linked
    exact ⟨kept, keptLives, congrArg ProxyLinks.easy pointers⟩
  · exact congrArg Links.hash same
  · exact congrArg Links.dead same
  · have linked := congrFun (congrArg Links.multi same) easy
    simpa [links] using congrArg Option.isSome linked

/-- What the hash still has it had before. -/
theorem held (retires : Retires finished state next) {easy : EasyRef} {ref : ProxyRef}
    (heldNext : next.proxyHttpHash easy = some ref) : state.proxyHttpHash easy = some ref := by
  rcases retires.hash easy with same | ⟨-, gone⟩
  · exact same ▸ heldNext
  · cases gone.symm.trans heldNext

/-- Events between two clearings, one after the other. -/
theorem trans {middle last : BackendState} (first : Retires finished state middle)
    (second : Retires finished middle last) : Retires finished state last := by
  constructor
  · intro ref proxy lives
    obtain ⟨kept, keptLives, easy⟩ := first.proxies ref proxy lives
    obtain ⟨other, otherLives, otherEasy⟩ := second.proxies ref kept keptLives
    exact ⟨other, otherLives, otherEasy.trans easy⟩
  · intro easy
    rcases second.hash easy with same | gone
    · rw [same]
      exact first.hash easy
    · exact .inr gone
  · intro ref
    rw [second.dead, first.dead]
    constructor
    · rintro ((member | ⟨easy, done, held, gone⟩) | ⟨easy, done, held, gone⟩)
      · exact .inl member
      · refine .inr ⟨easy, done, held, ?_⟩
        rcases second.hash easy with same | ⟨-, none⟩
        · exact same.trans gone
        · exact none
      · exact .inr ⟨easy, done, first.held held, gone⟩
    · rintro (member | ⟨easy, done, held, gone⟩)
      · exact .inl (.inl member)
      · rcases first.hash easy with same | ⟨-, none⟩
        · exact .inr ⟨easy, done, same.trans held, gone⟩
        · exact .inl (.inr ⟨easy, done, held, none⟩)
  · intro easy notDone
    exact (second.multi easy notDone).trans (first.multi easy notDone)
  · intro nodup
    exact second.nodup (first.nodup nodup)

end Retires

/-- An entry leaves the hash for the dead list. -/
theorem Finished.retires {easy : EasyRef} (finished : Finished easy state next)
    (intact : state.links.Intact) {handles : List EasyRef} (done : easy ∈ handles) :
    Retires handles state next := by
  rcases finished.links intact with same | ⟨ref, held, outcome⟩
  · exact .of_links same
  have hash : next.proxyHttpHash = Function.update state.proxyHttpHash easy none := by
    rcases outcome with ⟨-, links⟩ | ⟨quicStream, -, links⟩
    · exact congrArg Links.hash links
    · exact congrArg Links.hash links
  have dead : next.proxyHttpDeadList = ref :: state.proxyHttpDeadList := by
    rcases outcome with ⟨-, links⟩ | ⟨quicStream, -, links⟩
    · exact congrArg Links.dead links
    · exact congrArg Links.dead links
  constructor
  · intro other proxy lives
    obtain ⟨kept, keptLives, sameEasy, -⟩ := finished.sameProxies other proxy lives
    exact ⟨kept, keptLives, sameEasy⟩
  · intro other
    rw [hash]
    by_cases same : other = easy
    · subst same
      exact .inr ⟨done, Function.update_self ..⟩
    · exact .inl (Function.update_of_ne same _ _)
  · intro other
    rw [hash, dead, List.mem_cons]
    constructor
    · rintro (rfl | member)
      · exact .inr ⟨easy, done, held, Function.update_self ..⟩
      · exact .inl member
    · rintro (member | ⟨key, -, heldAt, gone⟩)
      · exact .inr member
      · by_cases same : key = easy
        · subst same
          exact .inl (Option.some.inj (heldAt.symm.trans held))
        · rw [Function.update_of_ne same] at gone
          cases gone.symm.trans heldAt
  · intro other notDone
    have differs : other ≠ easy := by
      rintro rfl
      exact notDone done
    rw [finished.multi, Function.update_of_ne differs]
  · intro nodup
    rw [dead]
    exact List.nodup_cons.mpr ⟨not_dead_of_held intact held, nodup⟩

/-- Reading messages moves the proxies of the handles reported done. -/
theorem Reads.retires {messages : List CurlMsg} (reads : Reads messages state next)
    (intact : state.links.Intact) :
    Retires (messages.filterMap CurlMsg.easyHandle?) state next := by
  let holds (here : BackendState) : Prop :=
    here.links.Intact ∧ Retires (messages.filterMap CurlMsg.easyHandle?) state here
  have kept : holds next := by
    refine reads.keeps ⟨intact, .refl state⟩ fun easy result here there member soFar finished => ?_
    have done : easy ∈ messages.filterMap CurlMsg.easyHandle? :=
      List.mem_filterMap.mpr ⟨.done easy result, member, rfl⟩
    exact ⟨finished.intact soFar.1, soFar.2.trans (finished.retires soFar.1 done)⟩
  exact kept.2

/-- Every event but the start of a request and a clearing. -/
theorem Outcome.retires {event : BackendEvent} (outcome : Outcome platform state event next)
    (intact : state.links.Intact) (enabled : state.Enabled event)
    (notFetch : event.isFetch = false) (notClearing : event ≠ .check []) :
    Retires event.finished state next := by
  cases isQuiet : event.isQuiet with
  | true =>
      have notSocket : event.isSocket = false := by
        cases event with
        | socket easy s what => cases isQuiet
        | _ => rfl
      exact .of_tables (outcome.sameTables isQuiet)
        (outcome.sameProxies enabled notSocket notClearing)
  | false =>
      cases outcome with
      | fetch => cases notFetch
      | check checked =>
          cases checked with
          | cleared => exact absurd rfl notClearing
          | read reads => exact reads.retires intact
      | socket _ called => exact .of_links called.onlySockets.links
      | idle => exact .refl state
      | _ => cases isQuiet

/-- The start of a request that succeeds. -/
theorem fetch_attaches {quicStream : StreamRef} {ref : ProxyRef} {easyInit : Option EasyRef}
    {peerIp : Bytes} {requestHeaders : SpdyHeaderBlock} {requestBody : Bytes}
    (stepped : state.step platform
      (.fetch quicStream ref easyInit peerIp requestHeaders requestBody) = .ok next) :
    ∃ easy added, easyInit = some easy ∧
      next.links = state.links.attach quicStream ref easy added := by
  cases step_iff.mp stepped with
  | fetch fetched =>
      obtain ⟨easy, given, links⟩ := fetched.links
      exact ⟨easy, _, given, links⟩
  | idle transfer => cases transfer

/-! ## Handles -/

/-- No handle is a key of the hash and the handle of a proxy in the dead list; nor is a
proxy there twice. -/
structure Parted (state : BackendState) : Prop where
  apart : ∀ ref ∈ state.proxyHttpDeadList, ∀ proxy, state.proxies ref = some proxy →
    ∀ easy, proxy.easy = some easy → state.proxyHttpHash easy = none
  nodup : state.proxyHttpDeadList.Nodup

/-- A proxy goes to the dead list as its handle leaves the hash. -/
theorem Parted.retires {finished : List EasyRef} (parted : Parted state)
    (intact : state.links.Intact) (retires : Retires finished state next) : Parted next := by
  refine ⟨fun ref member proxy lives easy owns => ?_, retires.nodup parted.nodup⟩
  rcases (retires.dead ref).mp member with dead | ⟨key, -, held, gone⟩
  · obtain ⟨before, beforeLives⟩ := lives_of_dead intact dead
    obtain ⟨kept, keptLives, sameEasy⟩ := retires.proxies ref before beforeLives
    obtain rfl := Option.some.inj (keptLives.symm.trans lives)
    have absent := parted.apart ref dead before beforeLives easy (sameEasy.symm.trans owns)
    rcases retires.hash easy with same | ⟨-, none⟩
    · exact same.trans absent
    · exact none
  · obtain ⟨before, beforeLives, ownsKey⟩ := lives_of_held intact held
    obtain ⟨kept, keptLives, sameEasy⟩ := retires.proxies ref before beforeLives
    obtain rfl := Option.some.inj (keptLives.symm.trans lives)
    have isKey : easy = key := Option.some.inj (owns.symm.trans (sameEasy.trans ownsKey))
    exact isKey ▸ gone

/-- A new proxy has a new handle. -/
theorem Parted.fetch {platform : Platform} (parted : Parted state) (intact : state.links.Intact)
    {quicStream : StreamRef} {ref : ProxyRef} {easyInit : Option EasyRef} {peerIp : Bytes}
    {requestHeaders : SpdyHeaderBlock} {requestBody : Bytes}
    (enabled : state.Enabled
      (.fetch quicStream ref easyInit peerIp requestHeaders requestBody))
    (stepped : state.step platform
      (.fetch quicStream ref easyInit peerIp requestHeaders requestBody) = .ok next) :
    Parted next := by
  obtain ⟨easy, added, rfl, links⟩ := fetch_attaches stepped
  have dead : next.proxyHttpDeadList = state.proxyHttpDeadList := congrArg Links.dead links
  have hash : next.proxyHttpHash = Function.update state.proxyHttpHash easy (some ref) :=
    congrArg Links.hash links
  have proxies := (step_iff.mp stepped).sameProxies enabled rfl nofun
  refine ⟨fun other member proxy lives key owns => ?_, dead ▸ parted.nodup⟩
  rw [dead] at member
  obtain ⟨before, beforeLives⟩ := lives_of_dead intact member
  obtain ⟨kept, keptLives, sameEasy, -⟩ := proxies other before beforeLives
  obtain rfl := Option.some.inj (keptLives.symm.trans lives)
  have ownsBefore : before.easy = some key := sameEasy.symm.trans owns
  have notNew : key ≠ easy := by
    rintro rfl
    exact enabled.2.2.2 key rfl other before beforeLives ownsBefore
  rw [hash, Function.update_of_ne notNew]
  exact parted.apart other member before beforeLives key ownsBefore

/-- Every event keeps the handles of the hash and of the dead list apart. -/
theorem Parted.step {platform : Platform} (parted : Parted state) (intact : state.links.Intact)
    {event : BackendEvent} (enabled : state.Enabled event)
    (stepped : state.step platform event = .ok next) : Parted next := by
  cases starts : event.isFetch with
  | true =>
      obtain ⟨quicStream, ref, easyInit, peerIp, requestHeaders, requestBody, rfl⟩ :=
        BackendEvent.fetch_of_isFetch starts
      exact parted.fetch intact enabled stepped
  | false =>
      by_cases clearing : event = .check []
      · subst clearing
        cases stepped
        refine ⟨?_, List.nodup_nil⟩
        rintro ref ⟨⟩
      · have retires := (step_iff.mp stepped).retires intact enabled starts clearing
        exact parted.retires intact retires

/-- A handle leaves the multi only when it is reported done. -/
theorem inMulti_step {platform : Platform} {here there : BackendState}
    (intact : here.links.Intact) {event : BackendEvent} (enabled : here.Enabled event)
    (stepped : here.step platform event = .ok there) {easy : EasyRef}
    (notDone : easy ∉ event.finished) (inMulti : (here.multi easy).isSome) :
    (there.multi easy).isSome := by
  cases starts : event.isFetch with
  | true =>
      obtain ⟨quicStream, ref, easyInit, peerIp, requestHeaders, requestBody, rfl⟩ :=
        BackendEvent.fetch_of_isFetch starts
      obtain ⟨new, added, -, links⟩ := BackendState.fetch_attaches stepped
      have linked : (there.links.multi easy).isSome := by
        have before : (here.links.multi easy).isSome := by
          simpa [BackendState.links] using inMulti
        rw [links]
        cases added with
        | false => exact before
        | true =>
            by_cases same : easy = new
            · subst same
              simp [Links.attach]
            · simpa [Links.attach, same] using before
      simpa [BackendState.links] using linked
  | false =>
      by_cases clearing : event = .check []
      · subst clearing
        cases stepped
        exact inMulti
      · have retires :=
          (BackendState.step_iff.mp stepped).retires intact enabled starts clearing
        rw [retires.multi easy notDone]
        exact inMulti

end BackendState

end QuicProxy
