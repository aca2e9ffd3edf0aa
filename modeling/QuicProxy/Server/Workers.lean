import QuicProxy.Server.Kinship

/-!
# The number of workers

What holds in every run, whether set-ups fail or not: the first process stands where the
number of the others says, so there is at most one for each CPU (`workers_bounded`).
-/

namespace QuicProxy

namespace ProcessTree

/-- The first process stands where the number of the others says. -/
def Headed (tree : ProcessTree) : Prop :=
  ∃ main ∈ tree.processes, main.pid = mainPid ∧
    ∃ workers, tree.processes.length = workers + 1 ∧ Counted tree.cpuCount main workers

variable {tree : ProcessTree}

/-! ## The events -/

/-- What holds of the tree in every run. -/
structure Manned (tree : ProcessTree) : Prop where
  kin : Kin tree
  headed : Headed tree

namespace Manned

/-- A process that is not the first moves. -/
theorem changed (manned : Manned tree) {change : Process → Process}
    (kin : Kin { tree with processes := tree.processes.map change })
    (apart : ∀ process, process.pid = mainPid → process.parent = none →
      change process = process) :
    Manned { tree with processes := tree.processes.map change } := by
  obtain ⟨main, member, isMain, workers, length, counted⟩ := manned.headed
  have stays := apart main isMain (manned.kin.orphan main member isMain)
  refine ⟨kin, main, List.mem_map.mpr ⟨main, member, stays⟩, isMain, workers, ?_, counted⟩
  rw [List.length_map]
  exact length

/-- A process that is not the first moves, and does not fork. -/
theorem modify (manned : Manned tree) {pid : Pid} (other : pid ≠ mainPid)
    {change : Process → Process}
    (keeps : ∀ process, (change process).pid = process.pid ∧
      (change process).parent = process.parent)
    (forkless : ∀ process, (change process).place.forks = false) :
    Manned (tree.modify pid change) := by
  apply manned.changed (manned.kin.modify keeps fun _ => forkless)
  intro process isMain _
  apply if_neg
  rw [isMain]
  exact other.symm

/-- A process that is not the first ends. -/
theorem exit (manned : Manned tree) {pid : Pid} (other : pid ≠ mainPid) :
    Manned (tree.exit pid) := by
  apply manned.changed (manned.kin.exit other)
  intro process isMain orphan
  rw [if_neg (by rw [isMain]; exact other.symm), if_neg (by rw [orphan]; simp)]

/-- Where the first process stands. -/
theorem counted_of_place (manned : Manned tree) {place : Place}
    (stands : tree.place? mainPid = some place) :
    ∃ main ∈ tree.processes, main.pid = mainPid ∧ main.place = place ∧
      ∃ workers, tree.processes.length = workers + 1 ∧
        Counted tree.cpuCount main workers := by
  obtain ⟨main, member, isMain, counted⟩ := manned.headed
  have here := manned.kin.place?_eq member
  rw [isMain, stands] at here
  exact ⟨main, member, isMain, (Option.some.inj here).symm, counted⟩

/-- The first process moves on and has a new child. -/
theorem spawn (manned : Manned tree) {change : Process → Process} {site : ForkSite}
    (keeps : ∀ process, (change process).pid = process.pid ∧
      (change process).parent = process.parent)
    {main : Process} (member : main ∈ tree.processes) (isMain : main.pid = mainPid)
    (counted : Counted tree.cpuCount (change main) tree.processes.length) :
    Manned ((tree.modify mainPid change).spawn mainPid site) := by
  have kin : Kin (tree.modify mainPid change) :=
    manned.kin.modify keeps fun other => absurd rfl other
  refine ⟨kin.spawn site, change main, ?_, ?_, tree.processes.length, ?_, counted⟩
  · exact List.mem_append_left _ (List.mem_map.mpr ⟨main, member, if_pos isMain⟩)
  · rw [(keeps main).1]
    exact isMain
  · simp only [ProcessTree.spawn, ProcessTree.modify, List.length_append, List.length_map,
      List.length_singleton]

/-- A fork adds one process and moves the first. -/
theorem fork (manned : Manned tree) {pid : Pid} (enabled : tree.Enabled (.fork pid)) :
    Manned (tree.fork pid) := by
  rcases enabled with stands | ⟨index, bound, stands⟩
  · obtain rfl := manned.kin.eq_main stands rfl
    obtain ⟨main, member, isMain, place, workers, length, counted⟩ :=
      manned.counted_of_place stands
    rw [Counted, place] at counted
    rw [fork_respawning stands]
    refine manned.spawn ?_ member isMain ?_
    · exact fun process => ⟨rfl, rfl⟩
    · rw [length]
      exact counted
  · obtain rfl := manned.kin.eq_main stands rfl
    obtain ⟨main, member, isMain, place, workers, length, counted⟩ :=
      manned.counted_of_place stands
    rw [Counted, place] at counted
    obtain ⟨_, made, balanced⟩ := counted
    rw [fork_forking stands]
    refine manned.spawn ?_ member isMain ?_
    · exact fun process => ⟨rfl, rfl⟩
    · rw [length]
      unfold Counted afterFork
      by_cases more : index + 1 < tree.cpuCount
      · rw [if_pos more]
        exact ⟨more, congrArg (· + 1) made, balanced⟩
      · rw [if_neg more]
        exact ⟨by omega, balanced⟩

/-- Only the first process has anybody to wait for. -/
theorem waits (manned : Manned tree) {pid child : Pid} (ended : tree.HasEnded pid child) :
    pid = mainPid ∧ child ≠ mainPid := by
  obtain ⟨process, member, rfl, parent, _⟩ := ended
  by_cases isMain : process.pid = mainPid
  · rw [manned.kin.orphan process member isMain] at parent
    cases parent
  · rw [manned.kin.child process member isMain] at parent
    exact ⟨(Option.some.inj parent).symm, isMain⟩

/-- A wait takes one process away and moves the first. -/
theorem reap (manned : Manned tree) {pid child : Pid}
    (enabled : tree.Enabled (.reap pid child)) : Manned (tree.reap pid child) := by
  obtain ⟨stands, ended⟩ := enabled
  obtain ⟨rfl, other⟩ := manned.waits ended
  obtain ⟨gone, wasThere, named, _⟩ := ended
  obtain ⟨main, member, isMain, place, workers, length, counted⟩ :=
    manned.counted_of_place stands
  rw [Counted, place] at counted
  have stays : main ∈ tree.processes.eraseP fun process => process.pid == child := by
    apply (List.mem_eraseP_of_neg _).mpr member
    rw [beq_iff_eq, isMain]
    exact other.symm
  have fewer : (tree.processes.eraseP fun process => process.pid == child).length =
      tree.processes.length - 1 :=
    List.length_eraseP_of_mem wasThere (by rw [beq_iff_eq]; exact named)
  have positive := List.length_pos_of_mem stays
  have kin : Kin (tree.reap mainPid child) := by
    refine (manned.kin.erased fun process => process.pid == child).modify ?_ ?_
    · exact fun process => ⟨rfl, rfl⟩
    · exact fun other => absurd rfl other
  refine ⟨kin, { main with place := .respawning, reaped := main.reaped + 1 },
    List.mem_map.mpr ⟨main, stays, if_pos isMain⟩, isMain, workers - 1, ?_, ?_⟩
  · rw [ProcessTree.reap, List.length_map]
    omega
  · change workers - 1 + 1 = tree.cpuCount ∧ main.respawned + 1 = main.reaped + 1
    omega

/-- The first process is not in `worker()`. -/
theorem other_of_settingUp (manned : Manned tree) {pid : Pid} {site : ForkSite}
    (stands : tree.place? pid = some (.settingUp site)) : pid ≠ mainPid := by
  rintro rfl
  obtain ⟨main, _, _, place, workers, _, counted⟩ := manned.counted_of_place stands
  rw [Counted, place] at counted
  exact counted

/-- A set-up moves its worker, or ends it. -/
theorem setUp (manned : Manned tree) {pid : Pid} {listens : Bool}
    (enabled : tree.Enabled (.setUp pid listens)) : Manned (tree.setUp pid listens) := by
  rcases enabled with stands | stands
  · have other := manned.other_of_settingUp stands
    cases listens with
    | true =>
        rw [setUp_listens stands]
        exact manned.modify other (fun process => ⟨rfl, rfl⟩) fun process => rfl
    | false =>
        rw [setUp_initial stands]
        exact manned.exit other
  · have other := manned.other_of_settingUp stands
    cases listens with
    | true =>
        rw [setUp_listens stands]
        exact manned.modify other (fun process => ⟨rfl, rfl⟩) fun process => rfl
    | false =>
        rw [setUp_respawn stands]
        exact manned.modify other (fun process => ⟨rfl, rfl⟩) fun process => rfl

/-- Every event leaves the first process where the number of the others says. -/
theorem next (manned : Manned tree) {event : ProcessEvent} (enabled : tree.Enabled event) :
    Manned (tree.next event) := by
  cases event with
  | fork pid => exact manned.fork enabled
  | reap pid child => exact manned.reap enabled
  | waitFails pid => exact manned
  | setUp pid listens => exact manned.setUp enabled
  | dies pid => exact manned.exit enabled.1

end Manned

/-- The first process starts alone, where no others are counted. -/
theorem start_manned (cpuCount : Nat) : Manned (start cpuCount) := by
  have alone : ∀ process ∈ (start cpuCount).processes, process =
      ⟨mainPid, none, afterFork cpuCount 0, 0, 0⟩ := fun process member =>
    List.mem_singleton.mp member
  refine ⟨⟨Nat.zero_lt_one, List.nodup_singleton _, ?_, ?_, ?_, ?_⟩,
    ⟨mainPid, none, afterFork cpuCount 0, 0, 0⟩, List.mem_singleton_self _, rfl, 0, rfl, ?_⟩
  · intro process member
    rw [alone process member]
    exact Nat.zero_lt_one
  · intro process member _
    rw [alone process member]
  · intro process member other
    rw [alone process member] at other
    exact absurd rfl other
  · intro process member other
    rw [alone process member] at other
    exact absurd rfl other
  · change Counted cpuCount ⟨mainPid, none, afterFork cpuCount 0, 0, 0⟩ 0
    unfold Counted afterFork
    by_cases more : 0 < cpuCount
    · rw [if_pos more]
      exact ⟨more, rfl, rfl⟩
    · rw [if_neg more]
      exact ⟨by omega, rfl⟩

/-- The number of CPUs is read once. -/
theorem next_cpuCount (tree : ProcessTree) (event : ProcessEvent) :
    (tree.next event).cpuCount = tree.cpuCount := by
  cases event with
  | fork pid =>
      change (tree.fork pid).cpuCount = _
      unfold fork
      split <;> rfl
  | reap pid child => rfl
  | waitFails pid => rfl
  | setUp pid listens =>
      change (tree.setUp pid listens).cpuCount = _
      unfold setUp
      split <;> rfl
  | dies pid => rfl

/-- The invariant holds in every run. -/
theorem manned_of_reachable {cpuCount : Nat} (reachable : (system cpuCount).Reachable tree) :
    Manned tree ∧ tree.cpuCount = cpuCount := by
  let inv : LabelledSystem.Invariant (system cpuCount) := {
    Holds := fun tree => Manned tree ∧ tree.cpuCount = cpuCount
    initial := by
      rintro tree rfl
      exact ⟨start_manned cpuCount, rfl⟩
    preserved := by
      rintro here event there ⟨manned, count⟩ ⟨enabled, rfl⟩
      exact ⟨manned.next enabled, (next_cpuCount here event).trans count⟩ }
  exact inv.of_reachable reachable

/-! ## How many there are -/

namespace Manned

/-- There is at most one worker for each CPU. -/
theorem length_le (manned : Manned tree) : tree.processes.length ≤ tree.cpuCount + 1 := by
  obtain ⟨main, _, _, workers, length, counted⟩ := manned.headed
  have few : workers ≤ tree.cpuCount := by
    unfold Counted at counted
    split at counted
    · omega
    · omega
    · omega
    · exact counted.elim
    · exact counted.elim
    · exact counted.elim
  omega

/-- All but the first. -/
theorem length_others (manned : Manned tree) :
    (tree.processes.filter fun process => process.pid != mainPid).length + 1 =
      tree.processes.length := by
  obtain ⟨main, member, isMain, _⟩ := manned.headed
  have named : mainPid ∈ tree.processes.map Process.pid :=
    List.mem_map.mpr ⟨main, member, isMain⟩
  have once := List.count_eq_one_of_mem manned.kin.distinct named
  rw [List.count, List.countP_map] at once
  have split := List.length_eq_countP_add_countP ((· == mainPid) ∘ Process.pid)
    (l := tree.processes)
  rw [← List.countP_eq_length_filter, split, once, Nat.add_comm]
  congr 1
  apply List.countP_congr
  intro process _
  simp

/-- All processes but the first are its children. -/
theorem children_main (manned : Manned tree) :
    tree.children mainPid = tree.processes.filter fun process => process.pid != mainPid := by
  apply List.filter_congr
  intro process member
  by_cases isMain : process.pid = mainPid
  · simp [manned.kin.orphan process member isMain, isMain]
  · simp [manned.kin.child process member isMain, isMain]

/-- No other process has a child. -/
theorem children_other (manned : Manned tree) {pid : Pid} (other : pid ≠ mainPid) :
    tree.children pid = [] := by
  apply List.filter_eq_nil_iff.mpr
  intro process member
  by_cases isMain : process.pid = mainPid
  · simp [manned.kin.orphan process member isMain]
  · simpa [manned.kin.child process member isMain] using other.symm

end Manned

/-- Workers have no children, and there is at most one for each CPU; when the first
process waits there is one for each, whatever it does. -/
theorem workers_bounded {cpuCount : Nat} (reachable : (system cpuCount).Reachable tree) :
    tree.processes.length ≤ cpuCount + 1 ∧
      (∀ pid, pid ≠ mainPid → ¬ tree.Enabled (.fork pid) ∧ tree.children pid = []) ∧
      (tree.place? mainPid = some .waiting → (tree.children mainPid).length = cpuCount) := by
  obtain ⟨manned, count⟩ := manned_of_reachable reachable
  refine ⟨?_, fun pid other => ⟨?_, manned.children_other other⟩, fun stands => ?_⟩
  · rw [← count]
    exact manned.length_le
  · rintro (stands | ⟨index, _, stands⟩)
    · exact other (manned.kin.eq_main stands rfl)
    · exact other (manned.kin.eq_main stands rfl)
  · obtain ⟨main, _, _, place, workers, length, counted⟩ := manned.counted_of_place stands
    rw [Counted, place] at counted
    have others := manned.length_others
    rw [manned.children_main]
    omega

/-- The second CPU is left to a worker that has fallen. -/
theorem workers_bounded_fallen :
    (fallenRun.foldl next (start 2)).processes.length ≤ 2 + 1 ∧
      (∀ pid, pid ≠ mainPid → ¬ (fallenRun.foldl next (start 2)).Enabled (.fork pid) ∧
        (fallenRun.foldl next (start 2)).children pid = []) ∧
      ((fallenRun.foldl next (start 2)).place? mainPid = some .waiting →
        ((fallenRun.foldl next (start 2)).children mainPid).length = 2) := by
  have reachable : (system 2).Reachable (fallenRun.foldl next (start 2)) :=
    ⟨start 2, fallenRun, rfl, LabelledSystem.functional_run (by decide +kernel)⟩
  exact workers_bounded reachable

end ProcessTree

end QuicProxy
