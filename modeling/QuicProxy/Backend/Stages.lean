import QuicProxy.Backend.Clearings

/-!
# The life of a proxy

A proxy is held by the hash until its transfer is reported done, waits in the dead list
and is destroyed when the list is cleared. `step_moves` concludes that every event takes
every proxy one stage on at most.
-/

namespace QuicProxy

/-- Where a proxy is in its life. -/
inductive Stage where
  /-- Not created yet, or destroyed. -/
  | absent
  | held
  | dead
deriving DecidableEq

/-- The stages of a proxy before and after an event. -/
inductive Moves (ref : ProxyRef) : BackendEvent → Stage → Stage → Prop where
  | created {quicStream easyInit peerIp requestHeaders requestBody} :
      Moves ref (.fetch quicStream ref easyInit peerIp requestHeaders requestBody) .absent .held
  | finished {event easy} (done : easy ∈ event.finished) : Moves ref event .held .dead
  | destroyed : Moves ref (.check []) .dead .absent
  | kept {event stage} (notCleared : event = .check [] → stage ≠ .dead) :
      Moves ref event stage stage

namespace BackendState

variable {platform : Platform} {state next : BackendState}

/-- The stage of a proxy, read off the tables. -/
def InStage (state : BackendState) (ref : ProxyRef) : Stage → Prop
  | .absent => state.proxies ref = none
  | .held => ∃ easy, state.proxyHttpHash easy = some ref
  | .dead => ref ∈ state.proxyHttpDeadList

/-! ## The stages tell the proxies apart -/

/-- Every proxy is in a stage. -/
theorem exists_stage (intact : state.links.Intact) (ref : ProxyRef) :
    ∃ stage, state.InStage ref stage := by
  cases lives : state.proxies ref with
  | none => exact ⟨.absent, lives⟩
  | some proxy =>
      have isSome : (state.links.proxies ref).isSome := by simp [links, lives]
      rcases intact.covered ref isSome with held | dead
      · exact ⟨.held, held⟩
      · exact ⟨.dead, dead⟩

/-- No proxy is in two. -/
theorem stage_unique (intact : state.links.Intact) {ref : ProxyRef} {first second : Stage}
    (inFirst : state.InStage ref first) (inSecond : state.InStage ref second) :
    first = second := by
  have notAbsent (gone : state.proxies ref = none) : ¬ state.InStage ref .held ∧
      ¬ state.InStage ref .dead := by
    have absent : state.links.proxies ref = none := by simp [links, gone]
    refine ⟨?_, intact.not_dead_of_absent absent⟩
    rintro ⟨easy, held⟩
    exact intact.not_held_of_absent absent easy held
  have notBoth (held : state.InStage ref .held) (dead : state.InStage ref .dead) : False := by
    obtain ⟨easy, held⟩ := held
    exact not_dead_of_held intact held dead
  cases first with
  | absent =>
      cases second with
      | absent => rfl
      | held => exact absurd inSecond (notAbsent inFirst).1
      | dead => exact absurd inSecond (notAbsent inFirst).2
  | held =>
      cases second with
      | absent => exact absurd inFirst (notAbsent inSecond).1
      | held => rfl
      | dead => exact (notBoth inFirst inSecond).elim
  | dead =>
      cases second with
      | absent => exact absurd inFirst (notAbsent inSecond).2
      | held => exact (notBoth inSecond inFirst).elim
      | dead => rfl

/-! ## Stages -/

/-- Between two clearings a proxy stays where it is, or goes from the hash to the dead list. -/
theorem Retires.moves {event : BackendEvent} (retires : Retires event.finished state next)
    (intact : state.links.Intact) (nextIntact : next.links.Intact)
    (notClearing : event ≠ .check []) {ref : ProxyRef} {before after : Stage}
    (was : state.InStage ref before) (is : next.InStage ref after) :
    Moves ref event before after := by
  have kept (stage : Stage) : Moves ref event stage stage :=
    .kept fun clearing => absurd clearing notClearing
  cases before with
  | absent =>
      cases after with
      | absent => exact kept .absent
      | held =>
          obtain ⟨easy, held⟩ := is
          have wasHeld : state.InStage ref .held := ⟨easy, retires.held held⟩
          cases stage_unique intact was wasHeld
      | dead =>
          rcases (retires.dead ref).mp is with dead | ⟨easy, -, held, -⟩
          · have wasDead : state.InStage ref .dead := dead
            cases stage_unique intact was wasDead
          · have wasHeld : state.InStage ref .held := ⟨easy, held⟩
            cases stage_unique intact was wasHeld
  | held =>
      obtain ⟨easy, held⟩ := was
      rcases retires.hash easy with same | ⟨done, gone⟩
      · have stays : next.InStage ref .held := ⟨easy, same.trans held⟩
        obtain rfl := stage_unique nextIntact stays is
        exact kept .held
      · have moved : next.InStage ref .dead :=
          (retires.dead ref).mpr (.inr ⟨easy, done, held, gone⟩)
        obtain rfl := stage_unique nextIntact moved is
        exact .finished done
  | dead =>
      have stays : next.InStage ref .dead := (retires.dead ref).mpr (.inl was)
      obtain rfl := stage_unique nextIntact stays is
      exact kept .dead

/-- A proxy other than the new one stays in its stage. -/
theorem inStage_attach {quicStream : StreamRef} {ref : ProxyRef} {easy : EasyRef} {added : Bool}
    (intact : state.links.Intact) (fresh : state.FreshEasy easy)
    (links : next.links = state.links.attach quicStream ref easy added) {other : ProxyRef}
    (differs : other ≠ ref) {stage : Stage} (was : state.InStage other stage) :
    next.InStage other stage := by
  cases stage with
  | absent =>
      have linked : next.links.proxies other = none := by
        rw [links]
        have gone : state.links.proxies other = none := by
          simpa [BackendState.links, InStage] using was
        simpa [Links.attach, differs] using gone
      simpa [BackendState.links, InStage] using linked
  | held =>
      obtain ⟨key, held⟩ := was
      have notNew : key ≠ easy := by
        rintro rfl
        obtain ⟨proxy, lives, owns⟩ := lives_of_held intact held
        exact fresh other proxy lives owns
      have hash : next.proxyHttpHash = Function.update state.proxyHttpHash easy (some ref) :=
        congrArg Links.hash links
      exact ⟨key, by rw [hash, Function.update_of_ne notNew, held]⟩
  | dead =>
      have dead : next.proxyHttpDeadList = state.proxyHttpDeadList := congrArg Links.dead links
      change other ∈ next.proxyHttpDeadList
      exact dead ▸ was

/-- The clearing destroys what waits in the dead list, and nothing else. -/
theorem inStage_clearDeadList {ref : ProxyRef} {stage : Stage} (was : state.InStage ref stage) :
    state.clearDeadList.InStage ref (if stage = .dead then .absent else stage) := by
  cases stage with
  | absent =>
      change (if ref ∈ state.proxyHttpDeadList then none else state.proxies ref) = none
      split
      · rfl
      · exact was
  | held => exact was
  | dead =>
      change (if ref ∈ state.proxyHttpDeadList then none else state.proxies ref) = none
      exact if_pos was

/-- Every event takes every proxy one stage on at most, and forwards only: it is created
by the start of its request, finished by the message for its handle and destroyed by
the call that clears the dead list. -/
theorem step_moves {platform : Platform} (intact : state.links.Intact) {event : BackendEvent}
    (enabled : state.Enabled event) (stepped : state.step platform event = .ok next)
    {ref : ProxyRef} {before after : Stage} (was : state.InStage ref before)
    (is : next.InStage ref after) : Moves ref event before after := by
  have nextIntact := (step_iff.mp stepped).intact intact enabled
  cases starts : event.isFetch with
  | true =>
      obtain ⟨quicStream, created, easyInit, peerIp, requestHeaders, requestBody, rfl⟩ :=
        BackendEvent.fetch_of_isFetch starts
      obtain ⟨easy, added, rfl, links⟩ := fetch_attaches stepped
      obtain ⟨-, -, absent, fresh⟩ := enabled
      by_cases isNew : ref = created
      · subst isNew
        have wasAbsent : state.InStage ref .absent := absent
        have hash : next.proxyHttpHash = Function.update state.proxyHttpHash easy (some ref) :=
          congrArg Links.hash links
        have isHeld : next.InStage ref .held := ⟨easy, by rw [hash, Function.update_self]⟩
        obtain rfl := stage_unique intact wasAbsent was
        obtain rfl := stage_unique nextIntact isHeld is
        exact .created
      · have stays := inStage_attach intact (fresh easy rfl) links isNew was
        obtain rfl := stage_unique nextIntact stays is
        exact .kept nofun
  | false =>
      by_cases clearing : event = .check []
      · subst clearing
        cases stepped
        obtain rfl := stage_unique nextIntact (inStage_clearDeadList was) is
        cases before with
        | absent => exact .kept fun _ => nofun
        | held => exact .kept fun _ => nofun
        | dead => exact .destroyed
      · have retires := (step_iff.mp stepped).retires intact enabled starts clearing
        exact retires.moves intact nextIntact clearing was is

end BackendState

end QuicProxy
