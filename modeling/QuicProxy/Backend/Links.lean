import QuicProxy.Backend.Process
import QuicProxy.Std.Matching

/-!
# Who points at whom

`Links` forgets everything about the objects but the pointers between them: an
abstract model of the object graph with five operations. `Intact` is its
invariant, and each operation keeps it. `BackendState.links` reads the links off a
state; the lemmas that connect the operations of the code with those of `Links`
come after this module.
-/

namespace QuicProxy

/-- The pointers of a proxy. -/
structure ProxyLinks where
  easy : Option EasyRef
  quicStream : Option StreamRef
deriving DecidableEq

/-- The pointers of the backend, without what they point at. -/
@[ext] structure Links where
  /-- The streams that exist, with the proxy each points at. -/
  streams : StreamRef → Option (Option ProxyRef)
  proxies : ProxyRef → Option ProxyLinks
  hash : EasyRef → Option ProxyRef
  dead : List ProxyRef
  multi : EasyRef → Option ProxyRef
  requested : StreamRef → Bool

namespace Links

/-- The proxy a stream points at; a destroyed stream points nowhere. -/
def proxyOf (links : Links) (stream : StreamRef) : Option ProxyRef :=
  (links.streams stream).join

/-- The stream a proxy points at; a destroyed proxy points nowhere. -/
def streamOf (links : Links) (ref : ProxyRef) : Option StreamRef :=
  (links.proxies ref).bind ProxyLinks.quicStream

/-- What the pointers keep to in every reachable state. -/
structure Intact (links : Links) : Prop where
  /-- Streams and proxies point at each other. -/
  matched : Matching links.proxyOf links.streamOf
  /-- The hash holds proxies that exist under their own handles. -/
  held : ∀ easy ref, links.hash easy = some ref →
    ∃ proxy, links.proxies ref = some proxy ∧ proxy.easy = some easy
  /-- A proxy in the dead list exists, points nowhere and is not in the hash. -/
  dead : ∀ ref ∈ links.dead, (∃ proxy, links.proxies ref = some proxy ∧
    proxy.quicStream = none) ∧ ∀ easy, links.hash easy ≠ some ref
  /-- Every proxy that exists is in the hash or in the dead list. -/
  covered : ∀ ref, (links.proxies ref).isSome →
    (∃ easy, links.hash easy = some ref) ∨ ref ∈ links.dead
  /-- A handle of the multi belongs to the proxy the hash has for it. -/
  multi : ∀ easy ref, links.multi easy = some ref → links.hash easy = some ref
  /-- A stream that has not asked yet points nowhere. -/
  unasked : ∀ stream, links.requested stream = false → links.proxyOf stream = none

/-- No object exists. -/
def empty : Links := ⟨fun _ => none, fun _ => none, fun _ => none, [], fun _ => none,
  fun _ => false⟩

/-! ## Operations -/

/-- A stream is created, and points nowhere. -/
def openStream (links : Links) (stream : StreamRef) : Links :=
  { links with
    streams := Function.update links.streams stream (some none)
    requested := Function.update links.requested stream false }

/-- A new proxy for a stream; its handle may be in the multi. -/
def attach (links : Links) (stream : StreamRef) (ref : ProxyRef) (easy : EasyRef)
    (added : Bool) : Links where
  streams := Function.update links.streams stream (some (some ref))
  proxies := Function.update links.proxies ref (some ⟨some easy, some stream⟩)
  hash := Function.update links.hash easy (some ref)
  dead := links.dead
  multi := if added then Function.update links.multi easy (some ref) else links.multi
  requested := Function.update links.requested stream true

/-- Stream and proxy let go of each other. -/
def detach (links : Links) (stream : StreamRef) (ref : ProxyRef) : Links :=
  { links with
    streams := Function.update links.streams stream (some none)
    proxies := Function.update links.proxies ref ((links.proxies ref).map fun proxy =>
      { proxy with quicStream := none }) }

/-- A stream is destroyed. -/
def destroyStream (links : Links) (stream : StreamRef) : Links :=
  { links with
    streams := Function.update links.streams stream none
    requested := Function.update links.requested stream false }

/-- A proxy without a stream leaves the hash and the multi for the dead list. -/
def retire (links : Links) (easy : EasyRef) (ref : ProxyRef) : Links :=
  { links with
    hash := Function.update links.hash easy none
    dead := ref :: links.dead
    multi := Function.update links.multi easy none }

/-- The proxies in the dead list are destroyed. -/
def clearDead (links : Links) : Links :=
  { links with
    proxies := fun ref => if ref ∈ links.dead then none else links.proxies ref
    dead := [] }

/-! ## The pointers after an operation -/

@[simp] theorem proxyOf_openStream (links : Links) (stream : StreamRef) :
    (links.openStream stream).proxyOf = Function.update links.proxyOf stream none := by
  ext other : 1
  by_cases same : other = stream <;> simp [proxyOf, openStream, same]

@[simp] theorem streamOf_openStream (links : Links) (stream : StreamRef) :
    (links.openStream stream).streamOf = links.streamOf := rfl

@[simp] theorem proxyOf_attach (links : Links) (stream : StreamRef) (ref : ProxyRef)
    (easy : EasyRef) (added : Bool) :
    (links.attach stream ref easy added).proxyOf =
      Function.update links.proxyOf stream (some ref) := by
  ext other : 1
  by_cases same : other = stream <;> simp [proxyOf, attach, same]

@[simp] theorem streamOf_attach (links : Links) (stream : StreamRef) (ref : ProxyRef)
    (easy : EasyRef) (added : Bool) :
    (links.attach stream ref easy added).streamOf =
      Function.update links.streamOf ref (some stream) := by
  ext other : 1
  by_cases same : other = ref <;> simp [streamOf, attach, same]

@[simp] theorem proxyOf_detach (links : Links) (stream : StreamRef) (ref : ProxyRef) :
    (links.detach stream ref).proxyOf = Function.update links.proxyOf stream none := by
  ext other : 1
  by_cases same : other = stream <;> simp [proxyOf, detach, same]

@[simp] theorem streamOf_detach (links : Links) (stream : StreamRef) (ref : ProxyRef) :
    (links.detach stream ref).streamOf = Function.update links.streamOf ref none := by
  ext other : 1
  by_cases same : other = ref
  · subst same
    simp [streamOf, detach, Option.bind_map]
  · simp [streamOf, detach, same]

@[simp] theorem proxyOf_destroyStream (links : Links) (stream : StreamRef) :
    (links.destroyStream stream).proxyOf = Function.update links.proxyOf stream none := by
  ext other : 1
  by_cases same : other = stream <;> simp [proxyOf, destroyStream, same]

/-! ## The invariant -/

namespace Intact

/-- Nothing points anywhere at the start. -/
theorem empty : Intact .empty := by
  constructor
  · exact Matching.nowhere
  · intro easy ref held
    cases held
  · intro ref member
    cases member
  · intro ref isSome
    cases isSome
  · intro easy ref held
    cases held
  · intro stream _
    rfl

variable {links : Links}

/-- A proxy's stream points back at it. -/
theorem proxyOf_of_streamOf (intact : Intact links) {stream : StreamRef} {ref : ProxyRef}
    (points : links.streamOf ref = some stream) : links.proxyOf stream = some ref :=
  (intact.matched stream ref).mpr points

/-- A stream's proxy points back at it. -/
theorem streamOf_of_proxyOf (intact : Intact links) {stream : StreamRef} {ref : ProxyRef}
    (points : links.proxyOf stream = some ref) : links.streamOf ref = some stream :=
  (intact.matched stream ref).mp points

/-- A proxy some stream points at is held by the hash: those in the dead list
point nowhere. -/
theorem held_of_proxyOf (intact : Intact links) {stream : StreamRef} {ref : ProxyRef}
    (points : links.proxyOf stream = some ref) : ∃ easy, links.hash easy = some ref := by
  have back := intact.streamOf_of_proxyOf points
  obtain ⟨proxy, lives, quicStream⟩ := Option.bind_eq_some_iff.mp back
  rcases intact.covered ref (by simp [lives]) with held | dead
  · exact held
  · obtain ⟨⟨other, otherLives, nowhere⟩, -⟩ := intact.dead ref dead
    obtain rfl := Option.some.inj (lives.symm.trans otherLives)
    rw [nowhere] at quicStream
    cases quicStream

/-- The hash holds a proxy under one handle only. -/
theorem hash_injective (intact : Intact links) {first second : EasyRef} {ref : ProxyRef}
    (atFirst : links.hash first = some ref) (atSecond : links.hash second = some ref) :
    first = second := by
  obtain ⟨proxy, lives, easy⟩ := intact.held first ref atFirst
  obtain ⟨other, otherLives, otherEasy⟩ := intact.held second ref atSecond
  obtain rfl := Option.some.inj (lives.symm.trans otherLives)
  exact Option.some.inj (easy.symm.trans otherEasy)

/-- A new stream points at no proxy. -/
theorem openStream (intact : Intact links) {stream : StreamRef}
    (absent : links.streams stream = none) : Intact (links.openStream stream) := by
  have nowhere : links.proxyOf stream = none := by simp [proxyOf, absent]
  have same : Function.update links.proxyOf stream none = links.proxyOf := by
    rw [← nowhere, Function.update_eq_self]
  constructor
  · rw [proxyOf_openStream, streamOf_openStream, same]
    exact intact.matched
  · exact intact.held
  · exact intact.dead
  · exact intact.covered
  · exact intact.multi
  · intro other unasked
    rw [proxyOf_openStream]
    by_cases isStream : other = stream
    · simp [isStream]
    · rw [Function.update_of_ne isStream]
      exact intact.unasked other (by simpa [Links.openStream, isStream] using unasked)

/-- The hash has no entry under a handle that no proxy has. -/
theorem hash_of_fresh (intact : Intact links) {easy : EasyRef}
    (fresh : ∀ ref proxy, links.proxies ref = some proxy → proxy.easy ≠ some easy) :
    links.hash easy = none := by
  cases held : links.hash easy with
  | none => rfl
  | some ref =>
      obtain ⟨proxy, lives, owns⟩ := intact.held easy ref held
      exact absurd owns (fresh ref proxy lives)

/-- Neither list has a proxy that does not exist. -/
theorem not_held_of_absent (intact : Intact links) {ref : ProxyRef}
    (absent : links.proxies ref = none) (easy : EasyRef) : links.hash easy ≠ some ref := by
  intro held
  obtain ⟨proxy, lives, -⟩ := intact.held easy ref held
  cases absent.symm.trans lives

/-- The dead list names no proxy that is gone. -/
theorem not_dead_of_absent (intact : Intact links) {ref : ProxyRef}
    (absent : links.proxies ref = none) : ref ∉ links.dead := by
  intro dead
  obtain ⟨⟨proxy, lives, -⟩, -⟩ := intact.dead ref dead
  cases absent.symm.trans lives

/-- A request ties its stream to a new proxy under a new handle. -/
theorem attach (intact : Intact links) {stream : StreamRef} {ref : ProxyRef} {easy : EasyRef}
    {added : Bool} (streamFree : links.proxyOf stream = none) (absent : links.proxies ref = none)
    (fresh : ∀ other proxy, links.proxies other = some proxy → proxy.easy ≠ some easy) :
    Intact (links.attach stream ref easy added) := by
  have hashFree := intact.hash_of_fresh fresh
  have notHeld := intact.not_held_of_absent absent
  have notDead := intact.not_dead_of_absent absent
  have refFree : links.streamOf ref = none := by simp [streamOf, absent]
  constructor
  · rw [proxyOf_attach, streamOf_attach]
    exact intact.matched.link streamFree refFree
  · intro other held heldAt
    by_cases isEasy : other = easy
    · subst isEasy
      have isRef : ref = held := by simpa [Links.attach] using heldAt
      subst isRef
      exact ⟨⟨some other, some stream⟩, by simp [Links.attach], rfl⟩
    · have before : links.hash other = some held := by
        simpa [Links.attach, isEasy] using heldAt
      have notRef : held ≠ ref := by
        rintro rfl
        exact notHeld other before
      simpa [Links.attach, notRef] using intact.held other held before
  · intro other member
    have notRef : other ≠ ref := by
      rintro rfl
      exact notDead member
    obtain ⟨lives, apart⟩ := intact.dead other member
    refine ⟨by simpa [Links.attach, notRef] using lives, ?_⟩
    intro key heldAt
    by_cases isEasy : key = easy
    · subst isEasy
      have isRef : ref = other := by simpa [Links.attach] using heldAt
      exact notRef isRef.symm
    · exact apart key (by simpa [Links.attach, isEasy] using heldAt)
  · intro other lives
    by_cases isRef : other = ref
    · subst isRef
      exact .inl ⟨easy, by simp [Links.attach]⟩
    · have before : (links.proxies other).isSome := by
        simpa [Links.attach, isRef] using lives
      rcases intact.covered other before with ⟨key, heldAt⟩ | dead
      · have notEasy : key ≠ easy := by
          rintro rfl
          rw [hashFree] at heldAt
          cases heldAt
        exact .inl ⟨key, by simpa [Links.attach, notEasy] using heldAt⟩
      · exact .inr dead
  · intro other held inMulti
    by_cases isEasy : other = easy
    · subst isEasy
      cases added with
      | true => simpa [Links.attach] using inMulti
      | false =>
          have before := intact.multi other held inMulti
          rw [hashFree] at before
          cases before
    · have before : links.multi other = some held := by
        cases added with
        | true => simpa [Links.attach, isEasy] using inMulti
        | false => exact inMulti
      simpa [Links.attach, isEasy] using intact.multi other held before
  · intro other unasked
    have notStream : other ≠ stream := by
      rintro rfl
      simp [Links.attach] at unasked
    rw [proxyOf_attach, Function.update_of_ne notStream]
    exact intact.unasked other (by simpa [Links.attach, notStream] using unasked)

/-- Letting go changes no proxy but in the stream it points at. -/
theorem detach_proxies (links : Links) (stream : StreamRef) (ref other : ProxyRef) :
    (links.detach stream ref).proxies other = (links.proxies other).map fun proxy =>
      if other = ref then { proxy with quicStream := none } else proxy := by
  by_cases isRef : other = ref
  · subst isRef
    simp [Links.detach]
  · simp [Links.detach, isRef]

/-- Both ends of a link are cleared together. -/
theorem detach (intact : Intact links) {stream : StreamRef} {ref : ProxyRef}
    (points : links.proxyOf stream = some ref) : Intact (links.detach stream ref) := by
  constructor
  · rw [proxyOf_detach, streamOf_detach]
    exact intact.matched.unlink points
  · intro easy other held
    obtain ⟨proxy, lives, owns⟩ := intact.held easy other held
    rw [detach_proxies, lives]
    refine ⟨_, rfl, ?_⟩
    split
    · exact owns
    · exact owns
  · intro other member
    obtain ⟨⟨proxy, lives, nowhere⟩, apart⟩ := intact.dead other member
    refine ⟨?_, apart⟩
    rw [detach_proxies, lives]
    refine ⟨_, rfl, ?_⟩
    split
    · rfl
    · exact nowhere
  · intro other lives
    rw [detach_proxies, Option.isSome_map] at lives
    exact intact.covered other lives
  · exact intact.multi
  · intro other unasked
    rw [proxyOf_detach]
    by_cases isStream : other = stream
    · simp [isStream]
    · rw [Function.update_of_ne isStream]
      exact intact.unasked other unasked

/-- A stream without a proxy can go. -/
theorem destroyStream (intact : Intact links) {stream : StreamRef}
    (nowhere : links.proxyOf stream = none) : Intact (links.destroyStream stream) := by
  have same : Function.update links.proxyOf stream none = links.proxyOf := by
    rw [← nowhere, Function.update_eq_self]
  constructor
  · rw [proxyOf_destroyStream, same]
    exact intact.matched
  · exact intact.held
  · exact intact.dead
  · exact intact.covered
  · exact intact.multi
  · intro other unasked
    rw [proxyOf_destroyStream, same]
    by_cases isStream : other = stream
    · rw [isStream, nowhere]
    · exact intact.unasked other (by simpa [Links.destroyStream, isStream] using unasked)

/-- A detached proxy goes from the hash to the dead list. -/
theorem retire (intact : Intact links) {easy : EasyRef} {ref : ProxyRef}
    (held : links.hash easy = some ref) (nowhere : links.streamOf ref = none) :
    Intact (links.retire easy ref) := by
  constructor
  · exact intact.matched
  · intro other kept keptAt
    by_cases isEasy : other = easy
    · simp [Links.retire, isEasy] at keptAt
    · exact intact.held other kept (by simpa [Links.retire, isEasy] using keptAt)
  · intro other member
    rcases List.mem_cons.mp member with rfl | dead
    · refine ⟨?_, ?_⟩
      · obtain ⟨proxy, lives, -⟩ := intact.held easy other held
        exact ⟨proxy, lives, by simpa [streamOf, lives] using nowhere⟩
      · intro key keptAt
        by_cases isEasy : key = easy
        · simp [Links.retire, isEasy] at keptAt
        · have before : links.hash key = some other := by
            simpa [Links.retire, isEasy] using keptAt
          exact isEasy (intact.hash_injective before held)
    · obtain ⟨lives, apart⟩ := intact.dead other dead
      refine ⟨lives, fun key keptAt => ?_⟩
      by_cases isEasy : key = easy
      · simp [Links.retire, isEasy] at keptAt
      · exact apart key (by simpa [Links.retire, isEasy] using keptAt)
  · intro other lives
    rcases intact.covered other lives with ⟨key, keptAt⟩ | dead
    · by_cases isEasy : key = easy
      · subst isEasy
        rw [held] at keptAt
        exact .inr (by simp [Links.retire, Option.some.inj keptAt])
      · exact .inl ⟨key, by simpa [Links.retire, isEasy] using keptAt⟩
    · exact .inr (List.mem_cons_of_mem _ dead)
  · intro other kept inMulti
    by_cases isEasy : other = easy
    · simp [Links.retire, isEasy] at inMulti
    · have before := intact.multi other kept (by simpa [Links.retire, isEasy] using inMulti)
      simpa [Links.retire, isEasy] using before
  · exact intact.unasked

/-- Clearing the dead list destroys no proxy that anything points at. -/
theorem clearDead (intact : Intact links) : Intact links.clearDead := by
  have streams : links.clearDead.streamOf = links.streamOf := by
    ext ref : 1
    by_cases dead : ref ∈ links.dead
    · obtain ⟨⟨proxy, lives, nowhere⟩, -⟩ := intact.dead ref dead
      simp [streamOf, Links.clearDead, dead, lives, nowhere]
    · simp [streamOf, Links.clearDead, dead]
  constructor
  · rw [streams]
    exact intact.matched
  · intro easy ref held
    have alive : ref ∉ links.dead := fun dead => (intact.dead ref dead).2 easy held
    simpa [Links.clearDead, alive] using intact.held easy ref held
  · intro ref member
    cases member
  · intro ref lives
    by_cases dead : ref ∈ links.dead
    · simp [Links.clearDead, dead] at lives
    · rcases intact.covered ref (by simpa [Links.clearDead, dead] using lives) with held | inDead
      · exact .inl held
      · exact absurd inDead dead
  · exact intact.multi
  · exact intact.unasked

end Intact

end Links

end QuicProxy
