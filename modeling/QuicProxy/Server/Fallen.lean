import QuicProxy.Server.Workers
import QuicProxy.Std.Survivors

/-!
# What a fallen worker costs

A worker that has fallen waits in the loop of its parent until it dies. The first process
counts it among its children all the same, and forks no other in its place while it lives
(`capacity_lost`).
-/

namespace QuicProxy

namespace Place

/-- The process waits for events. -/
def serves : Place → Bool
  | serving _ => true
  | forking _ | waiting | respawning | settingUp _ | ended => false

/-- A serving process was forked somewhere. -/
theorem eq_of_serves {place : Place} (serves : place.serves = true) :
    ∃ site, place = .serving site := by
  cases place with
  | serving site => exact ⟨site, rfl⟩
  | forking index => cases serves
  | waiting => cases serves
  | respawning => cases serves
  | settingUp site => cases serves
  | ended => cases serves

end Place

/-- A forked process at the `wait` of the parent's loop. -/
def Process.fallen (process : Process) : Bool :=
  process.pid != ProcessTree.mainPid && process.place == .waiting

namespace ProcessTree

/-- The processes that have fallen. -/
def fallen (tree : ProcessTree) : List Process :=
  tree.processes.filter Process.fallen

/-- The processes that serve. -/
def serving (tree : ProcessTree) : List Process :=
  tree.processes.filter fun process => process.place.serves

variable {tree : ProcessTree}

/-- The fallen processes of these names are still there. -/
abbrev StillFallen : List Pid → List Process → Prop := Survive Process.fallen Process.pid

section Fallen

variable {names : List Pid}

/-- The end of a process that is not one of them. -/
theorem still_exit {pid : Pid} (still : StillFallen names tree.processes)
    (spared : pid ∉ names) : StillFallen names (tree.exit pid).processes := by
  refine still.map ?_ ?_
  · intro process _
    split
    · rfl
    · split <;> rfl
  · intro process _ fallen named
    have other : process.pid ≠ pid := fun same => spared (same ▸ named)
    rw [if_neg other]
    split
    · exact fallen
    · exact fallen

namespace Manned

/-- Whoever stands elsewhere than at `wait` has not fallen. -/
theorem not_fallen (manned : Manned tree) {process : Process} {place : Place}
    (member : process ∈ tree.processes) (stands : tree.place? process.pid = some place)
    (apart : place ≠ .waiting) : process.fallen = false := by
  rw [manned.kin.place?_eq member] at stands
  obtain rfl := Option.some.inj stands
  rw [Process.fallen, Bool.and_eq_false_iff]
  exact .inr (beq_eq_false_iff_ne.mpr apart)

/-- Whoever stands elsewhere than at `wait` is none of the fallen that are named. -/
theorem not_named (manned : Manned tree) {pid : Pid} {place : Place}
    (still : StillFallen names tree.processes) (stands : tree.place? pid = some place)
    (apart : place ≠ .waiting) : pid ∉ names := by
  intro named
  obtain ⟨process, member, fallen, rfl⟩ := still.standing named
  rw [manned.not_fallen member stands apart] at fallen
  cases fallen

/-- A process that has not fallen moves. -/
theorem still_modify (manned : Manned tree) {pid : Pid} {place : Place}
    {change : Process → Process} (still : StillFallen names tree.processes)
    (stands : tree.place? pid = some place) (apart : place ≠ .waiting)
    (keeps : ∀ process, (change process).pid = process.pid) :
    StillFallen names (tree.modify pid change).processes := by
  refine still.map ?_ ?_
  · intro process _
    by_cases named : process.pid = pid
    · rw [if_pos named]
      exact keeps process
    · rw [if_neg named]
  · intro process _ fallen isName
    have other : process.pid ≠ pid := fun same =>
      manned.not_named still stands apart (same ▸ isName)
    rw [if_neg other]
    exact fallen

/-- A fork is of a process that has not fallen. -/
theorem still_fork (manned : Manned tree) {pid : Pid}
    (still : StillFallen names tree.processes) (enabled : tree.Enabled (.fork pid)) :
    StillFallen names (tree.fork pid).processes := by
  rcases enabled with stands | ⟨index, _, stands⟩
  · rw [fork_respawning stands]
    apply Survive.append
    exact manned.still_modify still stands (by simp) fun _ => rfl
  · rw [fork_forking stands]
    apply Survive.append
    exact manned.still_modify still stands (by simp) fun _ => rfl

/-- What is waited for has ended, and so has not fallen. -/
theorem still_reap (manned : Manned tree) {pid child : Pid}
    (still : StillFallen names tree.processes) (enabled : tree.Enabled (.reap pid child)) :
    StillFallen names (tree.reap pid child).processes := by
  obtain ⟨_, ended⟩ := enabled
  obtain ⟨rfl, _⟩ := manned.waits ended
  obtain ⟨process, member, rfl, _, place⟩ := ended
  have stands := manned.kin.place?_eq member
  rw [place] at stands
  have left : StillFallen names
      (tree.processes.eraseP fun other => other.pid == process.pid) := by
    apply still.eraseP
    intro other wasThere same
    apply manned.not_fallen wasThere _ (by simp : Place.ended ≠ .waiting)
    rw [beq_iff_eq.mp same]
    exact stands
  refine left.map ?_ ?_
  · intro other _
    split <;> rfl
  · intro other _ fallen _
    have notMain : other.pid ≠ mainPid := by
      rw [Process.fallen, Bool.and_eq_true] at fallen
      simpa using fallen.1
    rw [if_neg notMain]
    exact fallen

/-- A process that is set up has not fallen yet. -/
theorem still_setUp (manned : Manned tree) {pid : Pid} {listens : Bool}
    (still : StillFallen names tree.processes) (enabled : tree.Enabled (.setUp pid listens)) :
    StillFallen names (tree.setUp pid listens).processes := by
  rcases enabled with stands | stands
  · cases listens with
    | true =>
        rw [setUp_listens stands]
        exact manned.still_modify still stands (by simp) fun _ => rfl
    | false =>
        rw [setUp_initial stands]
        exact still_exit still (manned.not_named still stands (by simp))
  · cases listens with
    | true =>
        rw [setUp_listens stands]
        exact manned.still_modify still stands (by simp) fun _ => rfl
    | false =>
        rw [setUp_respawn stands]
        exact manned.still_modify still stands (by simp) fun _ => rfl

/-- No event but its end moves a fallen worker. -/
theorem still_next (manned : Manned tree) {event : ProcessEvent}
    (still : StillFallen names tree.processes) (enabled : tree.Enabled event)
    (spared : ∀ name ∈ names, event ≠ .dies name) :
    StillFallen names (tree.next event).processes := by
  cases event with
  | fork pid => exact manned.still_fork still enabled
  | reap pid child => exact manned.still_reap still enabled
  | waitFails pid => exact still
  | setUp pid listens => exact manned.still_setUp still enabled
  | dies pid => exact still_exit still fun named => spared pid named rfl

/-- The first process neither serves nor is a fallen one. -/
theorem serving_fallen_le (manned : Manned tree) :
    tree.serving.length + tree.fallen.length ≤ tree.cpuCount := by
  have serves : ∀ process ∈ tree.processes, process.place.serves = true →
      process.pid != mainPid ∧ process.fallen = false := by
    intro process member serves
    obtain ⟨site, here⟩ := Place.eq_of_serves serves
    have stands := manned.kin.place?_eq member
    rw [here] at stands
    refine ⟨?_, manned.not_fallen member stands (by simp)⟩
    rw [bne_iff_ne]
    intro isMain
    rw [isMain] at stands
    obtain ⟨main, _, _, place, workers, _, counted⟩ := manned.counted_of_place stands
    rw [Counted, place] at counted
    exact counted
  have apart := length_filter_add_le serves fun process _ fallen =>
    (Bool.and_eq_true_iff.mp fallen).1
  have others := manned.length_others
  have bound := manned.length_le
  exact Nat.le_trans apart (by omega)

end Manned

/-- The fallen processes of a run that spares them are still there at its end. -/
theorem still_of_run {cpuCount : Nat} {here there : ProcessTree} {history : List ProcessEvent}
    (reachable : (system cpuCount).Reachable here)
    (still : StillFallen names here.processes)
    (run : (system cpuCount).Run here history there)
    (spared : ∀ name ∈ names, .dies name ∉ history) : StillFallen names there.processes := by
  induction run with
  | nil => exact still
  | snoc earlier last ih =>
      obtain ⟨enabled, rfl⟩ := last
      have manned := (manned_of_reachable (reachable.run earlier)).1
      apply manned.still_next _ enabled
      · intro name member same
        exact spared name member (List.mem_append_right _ (by simp [same]))
      · exact ih fun name member ends => spared name member (List.mem_append_left _ ends)

end Fallen

/-- A worker that has fallen waits as long as it lives, and its CPU has no other. -/
theorem capacity_lost {cpuCount : Nat} {here there : ProcessTree} {history : List ProcessEvent}
    (reachable : (system cpuCount).Reachable here)
    (run : (system cpuCount).Run here history there)
    (spared : ∀ worker ∈ here.fallen, .dies worker.pid ∉ history) :
    (here.fallen.map Process.pid).Sublist (there.fallen.map Process.pid) ∧
      there.serving.length + here.fallen.length ≤ cpuCount := by
  have still : StillFallen (here.fallen.map Process.pid) there.processes := by
    apply still_of_run reachable (List.Sublist.refl _) run
    intro name member
    obtain ⟨worker, isFallen, rfl⟩ := List.mem_map.mp member
    exact spared worker isFallen
  obtain ⟨manned, count⟩ := manned_of_reachable (reachable.run run)
  have more := still.length_le
  rw [List.length_map, List.length_map] at more
  have bound := manned.serving_fallen_le
  rw [count] at bound
  exact ⟨still, Nat.le_trans (Nat.add_le_add_left more _) bound⟩

/-- The other worker ends as well, and only that one is replaced. -/
def afterFallRun : List ProcessEvent :=
  [.dies 2, .reap 0 2, .fork 0, .setUp 4 true, .waitFails 3]

/-- The fallen worker of the example stays, and its CPU serves nobody. -/
theorem capacity_lost_afterFall :
    ((fallenRun.foldl next (start 2)).fallen.map Process.pid).Sublist
        ((afterFallRun.foldl next (fallenRun.foldl next (start 2))).fallen.map Process.pid) ∧
      (afterFallRun.foldl next (fallenRun.foldl next (start 2))).serving.length +
        (fallenRun.foldl next (start 2)).fallen.length ≤ 2 := by
  have reachable : (system 2).Reachable (fallenRun.foldl next (start 2)) :=
    ⟨start 2, fallenRun, rfl, LabelledSystem.functional_run (by decide +kernel)⟩
  have run : (system 2).Run (fallenRun.foldl next (start 2)) afterFallRun
      (afterFallRun.foldl next (fallenRun.foldl next (start 2))) :=
    LabelledSystem.functional_run (by decide +kernel)
  exact capacity_lost reachable run (by decide +kernel)

end ProcessTree

end QuicProxy
