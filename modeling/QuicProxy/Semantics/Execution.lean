/-!
# Labelled systems and their runs

A `LabelledSystem` is a relation, so that a component whose environment is free
to answer in several ways is described as it is. `Run` collects the events of a
finite run, `Reachable` forgets them. `Invariant.of_reachable` is the
induction every safety result of a component goes through, and `guarded` turns
a condition on single steps into a condition on whole runs. Where a step can fail
`bind_eq_ok` takes its parts apart.
-/

namespace QuicProxy

universe u v

/-- Open semantics of one component: where it may start and what one event may
do to it. -/
structure LabelledSystem (State : Type u) (Event : Type v) where
  Initial : State → Prop
  Step : State → Event → State → Prop

namespace LabelledSystem

variable {State : Type u} {Event : Type v} {system : LabelledSystem State Event}

/-- A finite run from `origin`; the latest event stands last. -/
inductive Run (system : LabelledSystem State Event) (origin : State) :
    List Event → State → Prop where
  | nil : Run system origin [] origin
  | snoc {history here event there} (earlier : Run system origin history here)
      (last : system.Step here event there) : Run system origin (history ++ [event]) there

/-- States some run from an initial state ends in. -/
def Reachable (system : LabelledSystem State Event) (state : State) : Prop :=
  ∃ origin history, system.Initial origin ∧ system.Run origin history state

/-- Initial states are reachable. -/
theorem Reachable.start {state : State} (valid : system.Initial state) :
    system.Reachable state :=
  ⟨state, [], valid, .nil⟩

/-- A step leads to a reachable state. -/
theorem Reachable.next {here there : State} {event : Event}
    (reachable : system.Reachable here) (taken : system.Step here event there) :
    system.Reachable there := by
  obtain ⟨origin, history, valid, run⟩ := reachable
  exact ⟨origin, history ++ [event], valid, .snoc run taken⟩

/-- A run leads to a reachable state. -/
theorem Reachable.run {here there : State} {history : List Event}
    (reachable : system.Reachable here) (run : system.Run here history there) :
    system.Reachable there := by
  induction run with
  | nil => exact reachable
  | snoc _ last ih => exact ih.next last

/-- A property every initial state has and every step keeps. -/
structure Invariant (system : LabelledSystem State Event) where
  Holds : State → Prop
  initial : ∀ {state}, system.Initial state → Holds state
  preserved : ∀ {here event there}, Holds here → system.Step here event there → Holds there

/-- A run that begins inside an invariant ends inside it. -/
theorem Run.keeps (inv : Invariant system) {origin state : State} {history : List Event}
    (run : system.Run origin history state) (begins : inv.Holds origin) : inv.Holds state := by
  induction run with
  | nil => exact begins
  | snoc _ last soFar => exact inv.preserved soFar last

/-- What holds at first and is kept by every step holds in every run. -/
theorem Invariant.of_reachable (inv : Invariant system) {state : State}
    (reachable : system.Reachable state) : inv.Holds state := by
  obtain ⟨origin, history, valid, run⟩ := reachable
  exact run.keeps inv (inv.initial valid)

/-- Runs compose. -/
theorem Run.append {origin here there : State} {before after : List Event}
    (earlier : system.Run origin before here) (later : system.Run here after there) :
    system.Run origin (before ++ after) there := by
  induction later with
  | nil =>
      rw [List.append_nil]
      exact earlier
  | snoc _ last soFar =>
      rw [← List.append_assoc]
      exact .snoc soFar last

/-- The same system restricted to the steps that meet `guard` where they are
taken: its runs are the runs all of whose steps meet the guard. -/
def guarded (system : LabelledSystem State Event) (guard : State → Event → Prop) :
    LabelledSystem State Event where
  Initial := system.Initial
  Step here event there := guard here event ∧ system.Step here event there

/-- A system that allows more steps has the runs of the one that allows fewer. -/
theorem Run.mono {wider : LabelledSystem State Event} {origin state : State}
    {history : List Event}
    (allows : ∀ {here event there}, system.Step here event there → wider.Step here event there)
    (run : system.Run origin history state) : wider.Run origin history state := by
  induction run with
  | nil => exact .nil
  | snoc _ last soFar => exact .snoc soFar (allows last)

/-- A guard only takes runs away. -/
theorem Reachable.of_guarded {guard : State → Event → Prop} {state : State}
    (reachable : (system.guarded guard).Reachable state) : system.Reachable state := by
  obtain ⟨origin, history, valid, run⟩ := reachable
  exact ⟨origin, history, valid, run.mono And.right⟩

/-- A system whose events have one outcome each and may be taken only where
`Enabled`. -/
def functional (Initial : State → Prop) (Enabled : State → Event → Prop)
    (next : State → Event → State) : LabelledSystem State Event where
  Initial := Initial
  Step here event there := Enabled here event ∧ there = next here event

/-- Every event of the list is enabled where it is taken. -/
def AllEnabled (Enabled : State → Event → Prop) (next : State → Event → State) :
    State → List Event → Prop
  | _, [] => True
  | state, event :: rest => Enabled state event ∧ AllEnabled Enabled next (next state event) rest

instance AllEnabled.decidable {Enabled : State → Event → Prop} {next : State → Event → State}
    [decideEnabled : ∀ state event, Decidable (Enabled state event)] :
    (state : State) → (events : List Event) → Decidable (AllEnabled Enabled next state events)
  | _, [] => inferInstanceAs (Decidable True)
  | state, event :: rest =>
      @instDecidableAnd _ _ (decideEnabled state event)
        (AllEnabled.decidable (next state event) rest)

/-- Taking enabled events one after the other is a run. -/
theorem functional_run {Initial : State → Prop} {Enabled : State → Event → Prop}
    {next : State → Event → State} {origin : State} {events : List Event}
    (enabled : AllEnabled Enabled next origin events) :
    (functional Initial Enabled next).Run origin events (events.foldl next origin) := by
  have extend : ∀ {history here}, (functional Initial Enabled next).Run origin history here →
      AllEnabled Enabled next here events →
      (functional Initial Enabled next).Run origin (history ++ events)
        (events.foldl next here) := by
    clear enabled
    induction events with
    | nil => intro history here run _; simpa using run
    | cons event rest ih =>
        intro history here run enabled
        have longer := ih (Run.snoc run ⟨enabled.1, rfl⟩) enabled.2
        simpa using longer
  simpa using extend .nil enabled

/-- The same for a run that also keeps to a guard. -/
theorem guarded_functional_run {Initial : State → Prop} {Enabled guard : State → Event → Prop}
    {next : State → Event → State} {origin : State} {events : List Event}
    (enabled : AllEnabled (fun state event => guard state event ∧ Enabled state event) next
      origin events) :
    ((functional Initial Enabled next).guarded guard).Run origin events
      (events.foldl next origin) := by
  have run : (functional Initial (fun state event => guard state event ∧ Enabled state event)
      next).Run origin events (events.foldl next origin) := functional_run enabled
  refine run.mono ?_
  rintro here event there ⟨⟨keeps, allowed⟩, same⟩
  exact ⟨keeps, allowed, same⟩

/-- A run of it ends where its events lead. -/
theorem foldl_of_functional_run {Initial : State → Prop} {Enabled : State → Event → Prop}
    {next : State → Event → State} {origin state : State} {events : List Event}
    (run : (functional Initial Enabled next).Run origin events state) :
    state = events.foldl next origin := by
  induction run with
  | nil => rfl
  | snoc _ last ih =>
      obtain ⟨-, rfl⟩ := last
      rw [List.foldl_append, ih]
      rfl

/-- A system whose events can fail; a failure ends the run. -/
def failing {Failure : Type} (Initial : State → Prop) (Enabled : State → Event → Prop)
    (next : State → Event → Except Failure State) : LabelledSystem State Event where
  Initial := Initial
  Step here event there := Enabled here event ∧ next here event = .ok there

end LabelledSystem

/-! ## Steps that can fail -/

section Failing

variable {ε α β : Type}

/-- What a sequence that returns has gone through. -/
theorem bind_ok {result : Except ε α} {next : α → Except ε β} {last : β}
    (isOk : (result >>= next) = .ok last) :
    ∃ value, result = .ok value ∧ next value = .ok last := by
  cases result with
  | ok value => exact ⟨value, rfl, isOk⟩
  | error failure => cases isOk

/-- A sequence succeeds if both parts do. -/
theorem bind_eq_ok {result : Except ε α} {next : α → Except ε β} {last : β} :
    (result >>= next) = .ok last ↔ ∃ value, result = .ok value ∧ next value = .ok last := by
  refine ⟨bind_ok, ?_⟩
  rintro ⟨value, rfl, isOk⟩
  exact isOk

/-- What a sequence that fails has gone through. -/
theorem bind_error {result : Except ε α} {next : α → Except ε β} {failure : ε}
    (isError : (result >>= next) = .error failure) :
    result = .error failure ∨ ∃ value, result = .ok value ∧ next value = .error failure := by
  cases result with
  | ok value => exact .inr ⟨value, rfl, isError⟩
  | error other =>
      cases isError
      exact .inl rfl

end Failing

end QuicProxy
