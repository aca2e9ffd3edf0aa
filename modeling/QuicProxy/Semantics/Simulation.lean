import QuicProxy.Semantics.Execution

/-!
# Runs seen from one side

A component that serves many parties does most of what it does for others. `observe` says
what one party sees of a step, which may depend on the state the step is taken in, and
`ObservedRun` is a run together with all that is seen of it. A `Simulation` shows that a
step which is not seen changes nothing for that party, and that a step which is seen is a
step of the system the party believes to be talking to. `Simulation.run` carries this from
steps to runs, and `Simulation.observed` what a party sees from one system to another.
-/

namespace QuicProxy

universe u v w x y

namespace LabelledSystem

variable {State : Type u} {Event : Type v} {Seen : Type w} {View : Type x}

/-- A run with what is seen of it. -/
inductive ObservedRun (system : LabelledSystem State Event)
    (observe : State → Event → Option Seen) (origin : State) :
    List Event → List Seen → State → Prop where
  | nil : ObservedRun system observe origin [] [] origin
  | snoc {history seen here event there}
      (earlier : ObservedRun system observe origin history seen here)
      (last : system.Step here event there) :
      ObservedRun system observe origin (history ++ [event])
        (seen ++ (observe here event).toList) there

variable {system : LabelledSystem State Event} {observe : State → Event → Option Seen}
  {origin state : State} {history : List Event} {seen : List Seen}

/-- Nothing keeps a run from being watched. -/
theorem Run.observed (run : system.Run origin history state)
    (observe : State → Event → Option Seen) :
    ∃ seen, system.ObservedRun observe origin history seen state := by
  induction run with
  | nil => exact ⟨[], .nil⟩
  | snoc _ last ih =>
      obtain ⟨seen, earlier⟩ := ih
      exact ⟨_, .snoc earlier last⟩

/-- A relation between the states of a system and those of the one that is believed in. -/
structure Simulation (system : LabelledSystem State Event) (believed : LabelledSystem View Seen)
    (observe : State → Event → Option Seen) where
  Related : State → View → Prop
  hidden : ∀ {here event there view}, Related here view → system.Step here event there →
    observe here event = none → Related there view
  shown : ∀ {here event there view saw}, Related here view → system.Step here event there →
    observe here event = some saw →
      ∃ next, believed.Step view saw next ∧ Related there next

/-- What is seen of a run is a run of the system that is believed in. -/
theorem Simulation.run {believed : LabelledSystem View Seen}
    (simulation : Simulation system believed observe)
    (watched : system.ObservedRun observe origin history seen state) {view : View}
    (related : simulation.Related origin view) :
    ∃ last, believed.Run view seen last ∧ simulation.Related state last := by
  induction watched with
  | nil => exact ⟨view, .nil, related⟩
  | @snoc history seen here event there _ last ih =>
      obtain ⟨middle, ran, relatedHere⟩ := ih
      cases saw : observe here event with
      | none =>
          refine ⟨middle, ?_, simulation.hidden relatedHere last saw⟩
          simpa using ran
      | some shown =>
          obtain ⟨next, moved, relatedNext⟩ := simulation.shown relatedHere last saw
          exact ⟨next, .snoc ran moved, relatedNext⟩

/-- What is seen of a run, where the states play no part in it. -/
theorem ObservedRun.seen_eq {label : Event → Option Seen}
    (watched : system.ObservedRun (fun _ => label) origin history seen state) :
    seen = history.filterMap label := by
  induction watched with
  | nil => rfl
  | @snoc _ _ _ event _ _ _ ih =>
      rw [List.filterMap_append, ih]
      cases saw : label event with
      | none => simp [saw]
      | some shown => simp [saw]

/-- A system that only hides some of its events. -/
theorem Simulation.labels {believed : LabelledSystem View Seen} {label : Event → Option Seen}
    (simulation : Simulation system believed fun _ => label)
    (run : system.Run origin history state) {view : View}
    (related : simulation.Related origin view) :
    ∃ last, believed.Run view (history.filterMap label) last ∧
      simulation.Related state last := by
  obtain ⟨seen, watched⟩ := run.observed fun _ => label
  obtain ⟨last, ran, relatedLast⟩ := simulation.run watched related
  rw [watched.seen_eq] at ran
  exact ⟨last, ran, relatedLast⟩

/-- Who sees one system through the other sees the same of both. -/
theorem Simulation.observed {Shown : Type y} {believed : LabelledSystem View Seen}
    {label : Event → Option Seen} (simulation : Simulation system believed fun _ => label)
    {watch : State → Event → Option Shown} {look : View → Seen → Option Shown}
    (agree : ∀ {here view event}, simulation.Related here view →
      watch here event = (label event).bind (look view))
    {shown : List Shown} (watched : system.ObservedRun watch origin history shown state)
    {view : View} (related : simulation.Related origin view) :
    ∃ last, believed.ObservedRun look view (history.filterMap label) shown last ∧
      simulation.Related state last := by
  induction watched with
  | nil => exact ⟨view, .nil, related⟩
  | @snoc history shown here event there _ last ih =>
      obtain ⟨middle, ran, relatedHere⟩ := ih
      rw [agree relatedHere, List.filterMap_append]
      cases saw : label event with
      | none =>
          refine ⟨middle, ?_, simulation.hidden relatedHere last saw⟩
          simpa [saw] using ran
      | some seen =>
          obtain ⟨next, moved, relatedNext⟩ := simulation.shown relatedHere last saw
          refine ⟨next, ?_, relatedNext⟩
          simpa [saw] using ran.snoc moved

end LabelledSystem

end QuicProxy
