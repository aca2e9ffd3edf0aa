import QuicProxy.Server.Processes

/-!
# Supervision of the workers

`Tended` is what holds while every fork has been a worker's: the first process is in one
of its loops, the others are its children and in `worker()` or at their end, and their
number follows from the place in the loop. `supervised_iff` says that this lasts until
the set-up of a worker fails that was forked to replace another one: its child falls
through into the loop of the parent.
-/

namespace QuicProxy

namespace ProcessTree

/-- Only the first process executes the loops of `main`, so a forked one runs `worker()`
or has ended; and when the first is about to wait it has forked a worker for each that it
has waited for, and has one for each CPU. -/
structure Supervised (tree : ProcessTree) : Prop where
  onlyMain : ∀ process ∈ tree.processes, process.place.inMain = true → process.pid = mainPid
  replaced : ∀ process ∈ tree.processes, process.pid = mainPid → process.place = .waiting →
    process.respawned = process.reaped ∧ (tree.children mainPid).length = tree.cpuCount

/-- The set-up of a worker that replaces another one does not fail. -/
def RespawnsListen (tree : ProcessTree) : ProcessEvent → Prop
  | .setUp pid listens => listens = true ∨ tree.place? pid ≠ some (.settingUp .respawn)
  | _ => True

instance (tree : ProcessTree) : (event : ProcessEvent) → Decidable (tree.RespawnsListen event)
  | .setUp _ _ => inferInstanceAs (Decidable (_ ∨ _))
  | .fork _ | .reap _ _ | .waitFails _ | .dies _ => inferInstanceAs (Decidable True)

/-- How many workers there are, by the place of the first process. -/
def Counted (cpuCount : Nat) (main : Process) (workers : Nat) : Prop :=
  match main.place with
  | .forking index => index < cpuCount ∧ workers = index ∧ main.respawned = main.reaped
  | .waiting => workers = cpuCount ∧ main.respawned = main.reaped
  | .respawning => workers + 1 = cpuCount ∧ main.respawned + 1 = main.reaped
  | .settingUp _ | .serving _ | .ended => False

/-- A forked process in `worker()` or at its end. -/
structure IsWorker (process : Process) : Prop where
  forked : process.pid ≠ mainPid
  child : process.parent = some mainPid
  inWorker : process.place.inMain = false

/-- The first process in its loop, the others as workers. -/
structure Tended (tree : ProcessTree) (main : Process) (workers : List Process) : Prop where
  all : tree.processes = main :: workers
  isMain : main.pid = mainPid
  orphan : main.parent = none
  areWorkers : ∀ worker ∈ workers, IsWorker worker
  fresh : mainPid < tree.nextPid
  counted : Counted tree.cpuCount main workers.length

variable {tree : ProcessTree} {main : Process} {workers : List Process}

namespace Tended

/-! ## Who stands where -/

/-- The first process is found under its name. -/
theorem place?_main (tended : Tended tree main workers) :
    tree.place? mainPid = some main.place := by
  rw [place?, tended.all, List.find?_cons_of_pos (by simp [tended.isMain])]
  rfl

/-- Only the first process stands in a loop. -/
theorem eq_main (tended : Tended tree main workers) {pid : Pid} {place : Place}
    (stands : tree.place? pid = some place) (inMain : place.inMain = true) : pid = mainPid := by
  obtain ⟨process, found, rfl⟩ := Option.map_eq_some_iff.mp stands
  have member := List.mem_of_find?_eq_some found
  have samePid := List.find?_some found
  rw [beq_iff_eq] at samePid
  rw [tended.all] at member
  rcases List.mem_cons.mp member with rfl | isWorker
  · exact samePid.symm.trans tended.isMain
  · rw [(tended.areWorkers process isWorker).inWorker] at inMain
    cases inMain

/-- Tended workers are supervised. -/
theorem supervised (tended : Tended tree main workers) : Supervised tree := by
  constructor
  · intro process member inMain
    rw [tended.all] at member
    rcases List.mem_cons.mp member with rfl | isWorker
    · exact tended.isMain
    · rw [(tended.areWorkers process isWorker).inWorker] at inMain
      cases inMain
  · intro process member isMain waits
    rw [tended.all] at member
    rcases List.mem_cons.mp member with rfl | isWorker
    · have counted := tended.counted
      rw [Counted, waits] at counted
      have mine : tree.children mainPid = workers := by
        rw [children, tended.all, List.filter_cons_of_neg (by simp [tended.orphan])]
        apply List.filter_eq_self.mpr
        intro worker isWorker
        simp [(tended.areWorkers worker isWorker).child]
      rw [mine]
      exact ⟨counted.2, counted.1⟩
    · exact absurd isMain (tended.areWorkers process isWorker).forked

/-! ## Changing one process -/

/-- The first process moves on. -/
theorem modify_main (tended : Tended tree main workers) (change : Process → Process) :
    (tree.modify mainPid change).processes = change main :: workers := by
  have others : workers.map (fun process =>
      if process.pid = mainPid then change process else process) = workers := by
    have same : ∀ worker ∈ workers,
        (if worker.pid = mainPid then change worker else worker) = worker :=
      fun worker member => if_neg (tended.areWorkers worker member).forked
    rw [List.map_congr_left same, List.map_id']
  rw [modify, tended.all, List.map_cons, if_pos tended.isMain, others]

/-- Another process moves within `worker()`. -/
theorem modify_worker (tended : Tended tree main workers) {pid : Pid} (other : pid ≠ mainPid)
    {change : Process → Process}
    (stays : ∀ worker, IsWorker worker → IsWorker (change worker)) :
    Tended (tree.modify pid change) main
      (workers.map fun process => if process.pid = pid then change process else process) := by
  have apart : main.pid ≠ pid := by
    rw [tended.isMain]
    exact other.symm
  refine ⟨?_, tended.isMain, tended.orphan, ?_, tended.fresh, ?_⟩
  · rw [modify, tended.all, List.map_cons, if_neg apart]
  · intro worker member
    obtain ⟨before, wasWorker, rfl⟩ := List.mem_map.mp member
    have worked := tended.areWorkers before wasWorker
    split
    · exact stays before worked
    · exact worked
  · rw [List.length_map]
    exact tended.counted

/-! ## The events -/

/-- A new worker behind the others. -/
theorem spawn {moved : ProcessTree} {here : Process} (all : moved.processes = here :: workers)
    (isMain : here.pid = mainPid) (orphan : here.parent = none)
    (areWorkers : ∀ worker ∈ workers, IsWorker worker) (fresh : mainPid < moved.nextPid)
    (counted : Counted moved.cpuCount here (workers.length + 1)) (site : ForkSite) :
    ∃ main workers, Tended (moved.spawn mainPid site) main workers := by
  refine ⟨here, workers ++ [⟨moved.nextPid, some mainPid, .settingUp site, 0, 0⟩], ?_, isMain,
    orphan, ?_, Nat.lt_succ_of_lt fresh, ?_⟩
  · rw [ProcessTree.spawn, all, List.cons_append]
  · intro worker member
    rcases List.mem_append.mp member with earlier | isNew
    · exact areWorkers worker earlier
    · rw [List.mem_singleton] at isNew
      subst isNew
      exact ⟨Nat.ne_of_gt fresh, rfl, rfl⟩
  · rw [List.length_append, List.length_singleton]
    exact counted

/-- A fork makes one worker. -/
theorem fork (tended : Tended tree main workers) {pid : Pid}
    (enabled : tree.Enabled (.fork pid)) :
    ∃ main workers, Tended (tree.fork pid) main workers := by
  have counted := tended.counted
  rcases enabled with stands | ⟨index, bound, stands⟩
  · obtain rfl := tended.eq_main stands rfl
    have place := Option.some.inj (tended.place?_main.symm.trans stands)
    rw [Counted, place] at counted
    rw [fork_respawning stands]
    exact spawn (tended.modify_main fun process =>
      { process with place := .waiting, respawned := process.respawned + 1 }) tended.isMain
        tended.orphan tended.areWorkers tended.fresh counted .respawn
  · obtain rfl := tended.eq_main stands rfl
    have place := Option.some.inj (tended.place?_main.symm.trans stands)
    rw [Counted, place] at counted
    obtain ⟨_, made, balanced⟩ := counted
    have next : Counted tree.cpuCount
        { main with place := afterFork tree.cpuCount (index + 1) } (workers.length + 1) := by
      unfold Counted afterFork
      by_cases more : index + 1 < tree.cpuCount
      · rw [if_pos more]
        exact ⟨more, congrArg (· + 1) made, balanced⟩
      · rw [if_neg more]
        exact ⟨by omega, balanced⟩
    rw [fork_forking stands]
    exact spawn (tended.modify_main fun process =>
      { process with place := afterFork tree.cpuCount (index + 1) }) tended.isMain
        tended.orphan tended.areWorkers tended.fresh next .initial

/-- The end of a worker leaves it to be waited for. -/
theorem exit (tended : Tended tree main workers) {pid : Pid} (other : pid ≠ mainPid) :
    ∃ main workers, Tended (tree.exit pid) main workers := by
  have apart : main.pid ≠ pid := by
    rw [tended.isMain]
    exact other.symm
  have orphan : main.parent ≠ some pid := by
    rw [tended.orphan]
    simp
  refine ⟨main, workers.map fun process =>
      if process.pid = pid then { process with place := .ended }
      else if process.parent = some pid then { process with parent := none }
      else process, ?_, tended.isMain, tended.orphan, ?_, tended.fresh, ?_⟩
  · rw [ProcessTree.exit, tended.all, List.map_cons, if_neg apart, if_neg orphan]
  · intro worker member
    obtain ⟨before, wasWorker, rfl⟩ := List.mem_map.mp member
    have worked := tended.areWorkers before wasWorker
    split
    · exact ⟨worked.forked, worked.child, rfl⟩
    · have kept : before.parent ≠ some pid := by
        rw [worked.child]
        simpa using other.symm
      rw [if_neg kept]
      exact worked
  · rw [List.length_map]
    exact tended.counted

/-- A worker that is waited for is gone. -/
theorem reap (tended : Tended tree main workers) {pid child : Pid}
    (enabled : tree.Enabled (.reap pid child)) :
    ∃ main workers, Tended (tree.reap pid child) main workers := by
  obtain ⟨stands, ended, member, named, parent, _⟩ := enabled
  obtain rfl := tended.eq_main stands rfl
  have place := Option.some.inj (tended.place?_main.symm.trans stands)
  have counted := tended.counted
  rw [Counted, place] at counted
  have isWorker : ended ∈ workers := by
    rw [tended.all] at member
    rcases List.mem_cons.mp member with rfl | isWorker
    · rw [tended.orphan] at parent
      cases parent
    · exact isWorker
  have apart : ¬ (main.pid == child) = true := by
    rw [beq_iff_eq, tended.isMain, ← named]
    exact (tended.areWorkers ended isWorker).forked.symm
  have left : ∀ worker ∈ workers.eraseP (fun process => process.pid == child),
      IsWorker worker := fun worker stays =>
    tended.areWorkers worker (List.mem_of_mem_eraseP stays)
  have unmoved : ∀ worker ∈ workers.eraseP (fun process => process.pid == child),
      (if worker.pid = mainPid then
        { worker with place := .respawning, reaped := worker.reaped + 1 } else worker) = worker :=
    fun worker stays => if_neg (left worker stays).forked
  have fewer : (workers.eraseP fun process => process.pid == child).length =
      workers.length - 1 :=
    List.length_eraseP_of_mem isWorker (by rw [beq_iff_eq]; exact named)
  have positive := List.length_pos_of_mem isWorker
  have kept : (main :: workers).eraseP (fun process => process.pid == child) =
      main :: workers.eraseP fun process => process.pid == child :=
    List.eraseP_cons_of_neg apart
  have less : workers.length - 1 + 1 = tree.cpuCount := by omega
  refine ⟨{ main with place := .respawning, reaped := main.reaped + 1 },
    workers.eraseP (fun process => process.pid == child), ?_, tended.isMain, tended.orphan, left,
    tended.fresh, ?_⟩
  · rw [ProcessTree.reap, tended.all, kept, List.map_cons, if_pos tended.isMain,
      List.map_congr_left unmoved, List.map_id']
  · rw [fewer]
    exact ⟨less, congrArg (· + 1) counted.2⟩

/-- The first process is not in `worker()`. -/
theorem other_of_settingUp (tended : Tended tree main workers) {pid : Pid} {site : ForkSite}
    (stands : tree.place? pid = some (.settingUp site)) : pid ≠ mainPid := by
  rintro rfl
  have place := Option.some.inj (tended.place?_main.symm.trans stands)
  have counted := tended.counted
  rw [Counted, place] at counted
  exact counted

/-- A set-up leaves the worker serving or takes it out. -/
theorem setUp (tended : Tended tree main workers) {pid : Pid} {listens : Bool}
    (enabled : tree.Enabled (.setUp pid listens))
    (allowed : tree.RespawnsListen (.setUp pid listens)) :
    ∃ main workers, Tended (tree.setUp pid listens) main workers := by
  have serves : ∀ site, ∀ worker, IsWorker worker →
      IsWorker { worker with place := .serving site } :=
    fun site worker works => ⟨works.forked, works.child, rfl⟩
  rcases enabled with stands | stands
  · have other := tended.other_of_settingUp stands
    cases listens with
    | true =>
        rw [setUp_listens stands]
        exact ⟨_, _, tended.modify_worker other (serves .initial)⟩
    | false =>
        rw [setUp_initial stands]
        exact tended.exit other
  · have other := tended.other_of_settingUp stands
    obtain rfl : listens = true := allowed.resolve_right fun differs => differs stands
    rw [setUp_listens stands]
    exact ⟨_, _, tended.modify_worker other (serves .respawn)⟩

/-- Every event that sets a replacing worker up leaves the workers tended. -/
theorem next (tended : Tended tree main workers) {event : ProcessEvent}
    (enabled : tree.Enabled event) (allowed : tree.RespawnsListen event) :
    ∃ main workers, Tended (tree.next event) main workers := by
  cases event with
  | fork pid => exact tended.fork enabled
  | reap pid child => exact tended.reap enabled
  | waitFails pid => exact ⟨main, workers, tended⟩
  | setUp pid listens => exact tended.setUp enabled allowed
  | dies pid => exact tended.exit enabled.1

end Tended

/-- The first process starts alone. -/
theorem start_tended (cpuCount : Nat) :
    ∃ main workers, Tended (start cpuCount) main workers := by
  refine ⟨⟨mainPid, none, afterFork cpuCount 0, 0, 0⟩, [], rfl, rfl, rfl, ?_, Nat.zero_lt_one, ?_⟩
  · intro worker member
    cases member
  · change Counted cpuCount ⟨mainPid, none, afterFork cpuCount 0, 0, 0⟩ 0
    unfold Counted afterFork
    by_cases some : 0 < cpuCount
    · rw [if_pos some]
      exact ⟨some, rfl, rfl⟩
    · rw [if_neg some]
      exact ⟨by omega, rfl⟩

/-- Runs in which every set-up of a replacing worker succeeds stay tended. -/
theorem tended_of_guarded {cpuCount : Nat}
    (reachable : ((system cpuCount).guarded RespawnsListen).Reachable tree) :
    ∃ main workers, Tended tree main workers := by
  let inv : LabelledSystem.Invariant ((system cpuCount).guarded RespawnsListen) := {
    Holds := fun tree => ∃ main workers, Tended tree main workers
    initial := by
      rintro tree rfl
      exact start_tended cpuCount
    preserved := by
      rintro here event there ⟨main, workers, tended⟩ ⟨allowed, enabled, rfl⟩
      exact tended.next enabled allowed }
  exact inv.of_reachable reachable

/-- A worker that replaces another one and fails its set-up waits like its parent. -/
theorem not_supervised_of_fallThrough {pid : Pid} (other : pid ≠ mainPid)
    (stands : tree.place? pid = some (.settingUp .respawn)) :
    ¬ Supervised (tree.setUp pid false) := by
  intro supervised
  obtain ⟨process, found, _⟩ := Option.map_eq_some_iff.mp stands
  have member := List.mem_of_find?_eq_some found
  have named := List.find?_some found
  rw [beq_iff_eq] at named
  have fallen : { process with place := Place.waiting } ∈ (tree.setUp pid false).processes := by
    rw [setUp_respawn stands]
    exact List.mem_map.mpr ⟨process, member, if_pos named⟩
  have isMain := supervised.onlyMain _ fallen rfl
  exact other (named.symm.trans isMain)

/-- The workers stay supervised as long as every set-up of a replacing worker succeeds,
and the first one that fails ends it. -/
theorem supervised_iff {cpuCount : Nat}
    (reachable : ((system cpuCount).guarded RespawnsListen).Reachable tree) :
    Supervised tree ∧ ∀ event, tree.Enabled event →
      (Supervised (tree.next event) ↔ tree.RespawnsListen event) := by
  obtain ⟨main, workers, tended⟩ := tended_of_guarded reachable
  refine ⟨tended.supervised, fun event enabled => ⟨fun supervised => ?_, fun allowed => ?_⟩⟩
  · cases event with
    | setUp pid listens =>
        cases listens with
        | true => exact .inl rfl
        | false =>
            refine .inr fun stands => ?_
            have other := tended.other_of_settingUp stands
            exact not_supervised_of_fallThrough other stands supervised
    | fork pid => trivial
    | reap pid child => trivial
    | waitFails pid => trivial
    | dies pid => trivial
  · obtain ⟨_, _, later⟩ := tended.next enabled allowed
    exact later.supervised

/-- Two workers serve, one of them ends and another one takes its place. -/
def replacedRun : List ProcessEvent :=
  [.fork 0, .fork 0, .setUp 1 true, .setUp 2 true, .dies 1, .reap 0 1, .fork 0]

/-- The worker of the example is replaced. -/
theorem supervised_replacedRun :
    Supervised (replacedRun.foldl next (start 2)) ∧ ∀ event,
      (replacedRun.foldl next (start 2)).Enabled event →
        (Supervised ((replacedRun.foldl next (start 2)).next event) ↔
          (replacedRun.foldl next (start 2)).RespawnsListen event) := by
  have reachable : ((system 2).guarded RespawnsListen).Reachable
      (replacedRun.foldl next (start 2)) :=
    ⟨start 2, replacedRun, rfl, LabelledSystem.guarded_functional_run (by decide +kernel)⟩
  exact supervised_iff reachable

/-- The worker that takes the place cannot open its socket. -/
def fallenRun : List ProcessEvent := replacedRun ++ [.setUp 3 false]

/-- It waits for children it does not have, and one CPU has no worker. -/
theorem fallen_worker_waits :
    (system 2).Reachable (fallenRun.foldl next (start 2)) ∧
      (fallenRun.foldl next (start 2)).place? 3 = some .waiting ∧
      ¬ Supervised (fallenRun.foldl next (start 2)) := by
  have reachable : (system 2).Reachable (fallenRun.foldl next (start 2)) :=
    ⟨start 2, fallenRun, rfl, LabelledSystem.functional_run (by decide +kernel)⟩
  have waits : (fallenRun.foldl next (start 2)).place? 3 = some .waiting := by decide +kernel
  refine ⟨reachable, waits, fun supervised => ?_⟩
  obtain ⟨process, found, place⟩ := Option.map_eq_some_iff.mp waits
  have named := List.find?_some found
  rw [beq_iff_eq] at named
  have isMain := supervised.onlyMain process (List.mem_of_find?_eq_some found) (place ▸ rfl)
  rw [named] at isMain
  revert isMain
  decide

end ProcessTree

end QuicProxy
