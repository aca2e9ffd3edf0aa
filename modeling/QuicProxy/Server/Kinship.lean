import QuicProxy.Server.Supervision
import Mathlib.Data.List.Nodup

/-!
# Who forks

A worker that falls through into the loop of its parent stops there: only a fork makes
children, and it has none to wait for. So all processes but the first are children of the
first, and none of them forks.
-/

namespace QuicProxy

/-- The next call of the process is `fork()`. -/
def Place.forks : Place → Bool
  | forking _ | respawning => true
  | waiting | settingUp _ | serving _ | ended => false

namespace ProcessTree

/-- The others are children of the first process, and none of them forks. -/
structure Kin (tree : ProcessTree) : Prop where
  started : mainPid < tree.nextPid
  distinct : (tree.processes.map Process.pid).Nodup
  fresh : ∀ process ∈ tree.processes, process.pid < tree.nextPid
  orphan : ∀ process ∈ tree.processes, process.pid = mainPid → process.parent = none
  child : ∀ process ∈ tree.processes, process.pid ≠ mainPid → process.parent = some mainPid
  forkless : ∀ process ∈ tree.processes, process.pid ≠ mainPid → process.place.forks = false

variable {tree : ProcessTree}

namespace Kin

/-- A process is found under its own name. -/
theorem place?_eq (kin : Kin tree) {process : Process} (member : process ∈ tree.processes) :
    tree.place? process.pid = some process.place := by
  have named : (tree.processes.find? fun other => other.pid == process.pid).isSome :=
    List.find?_isSome.mpr ⟨process, member, beq_self_eq_true _⟩
  obtain ⟨found, isFound⟩ := Option.isSome_iff_exists.mp named
  have samePid := List.find?_some isFound
  rw [beq_iff_eq] at samePid
  have same : found = process :=
    List.inj_on_of_nodup_map kin.distinct (List.mem_of_find?_eq_some isFound) member samePid
  rw [place?, isFound, same]
  rfl

/-- A process that forks is the first. -/
theorem eq_main (kin : Kin tree) {pid : Pid} {place : Place}
    (stands : tree.place? pid = some place) (forks : place.forks = true) : pid = mainPid := by
  obtain ⟨process, found, rfl⟩ := Option.map_eq_some_iff.mp stands
  have samePid := List.find?_some found
  rw [beq_iff_eq] at samePid
  by_contra other
  have forkless := kin.forkless process (List.mem_of_find?_eq_some found) (by rwa [samePid])
  rw [forks] at forkless
  cases forkless

/-- Processes move, and keep who they are. -/
theorem changed (kin : Kin tree) {change : Process → Process}
    (keeps : ∀ process ∈ tree.processes,
      (change process).pid = process.pid ∧ (change process).parent = process.parent)
    (forkless : ∀ process ∈ tree.processes, process.pid ≠ mainPid →
      (change process).place.forks = false) :
    Kin { tree with processes := tree.processes.map change } where
  started := kin.started
  distinct := by
    have names : (tree.processes.map change).map Process.pid =
        tree.processes.map Process.pid := by
      rw [List.map_map]
      exact List.map_congr_left fun process member => (keeps process member).1
    rw [names]
    exact kin.distinct
  fresh := by
    intro process member
    obtain ⟨before, was, rfl⟩ := List.mem_map.mp member
    rw [(keeps before was).1]
    exact kin.fresh before was
  orphan := by
    intro process member isMain
    obtain ⟨before, was, rfl⟩ := List.mem_map.mp member
    rw [(keeps before was).1] at isMain
    rw [(keeps before was).2]
    exact kin.orphan before was isMain
  child := by
    intro process member other
    obtain ⟨before, was, rfl⟩ := List.mem_map.mp member
    rw [(keeps before was).1] at other
    rw [(keeps before was).2]
    exact kin.child before was other
  forkless := by
    intro process member other
    obtain ⟨before, was, rfl⟩ := List.mem_map.mp member
    rw [(keeps before was).1] at other
    exact forkless before was other

/-- The process with this name moves, where it may fork only if it is the first. -/
theorem modify (kin : Kin tree) {pid : Pid} {change : Process → Process}
    (keeps : ∀ process, (change process).pid = process.pid ∧
      (change process).parent = process.parent)
    (forkless : pid ≠ mainPid → ∀ process, (change process).place.forks = false) :
    Kin (tree.modify pid change) := by
  apply kin.changed
  · intro process _
    by_cases named : process.pid = pid
    · rw [if_pos named]
      exact keeps process
    · rw [if_neg named]
      exact ⟨rfl, rfl⟩
  · intro process member other
    by_cases named : process.pid = pid
    · rw [if_pos named]
      exact forkless (named ▸ other) process
    · rw [if_neg named]
      exact kin.forkless process member other

/-- Whoever ends has no children. -/
theorem exit (kin : Kin tree) {pid : Pid} (other : pid ≠ mainPid) : Kin (tree.exit pid) := by
  have kept : ∀ process ∈ tree.processes, process.parent ≠ some pid := by
    intro process member isParent
    by_cases isMain : process.pid = mainPid
    · rw [kin.orphan process member isMain] at isParent
      cases isParent
    · rw [kin.child process member isMain] at isParent
      exact other (Option.some.inj isParent).symm
  apply kin.changed
  · intro process member
    by_cases named : process.pid = pid
    · rw [if_pos named]
      exact ⟨rfl, rfl⟩
    · rw [if_neg named, if_neg (kept process member)]
      exact ⟨rfl, rfl⟩
  · intro process member notMain
    by_cases named : process.pid = pid
    · rw [if_pos named]
      rfl
    · rw [if_neg named, if_neg (kept process member)]
      exact kin.forkless process member notMain

/-- The first process forks a child of its own. -/
theorem spawn (kin : Kin tree) (site : ForkSite) : Kin (tree.spawn mainPid site) := by
  have split : ∀ process ∈ (tree.spawn mainPid site).processes, process ∈ tree.processes ∨
      process = ⟨tree.nextPid, some mainPid, .settingUp site, 0, 0⟩ := by
    intro process member
    rcases List.mem_append.mp member with earlier | isNew
    · exact .inl earlier
    · exact .inr (List.mem_singleton.mp isNew)
  constructor
  · exact Nat.lt_succ_of_lt kin.started
  · rw [ProcessTree.spawn, List.map_append]
    apply kin.distinct.append (List.nodup_singleton _)
    intro name isOld isNew
    obtain ⟨process, member, rfl⟩ := List.mem_map.mp isOld
    have before := kin.fresh process member
    rw [List.mem_singleton.mp isNew] at before
    exact Nat.lt_irrefl _ before
  · intro process member
    rcases split process member with earlier | rfl
    · exact Nat.lt_succ_of_lt (kin.fresh process earlier)
    · exact Nat.lt_succ_self _
  · intro process member isMain
    rcases split process member with earlier | rfl
    · exact kin.orphan process earlier isMain
    · exact absurd isMain (Nat.ne_of_gt kin.started)
  · intro process member other
    rcases split process member with earlier | rfl
    · exact kin.child process earlier other
    · rfl
  · intro process member other
    rcases split process member with earlier | rfl
    · exact kin.forkless process earlier other
    · rfl

/-- A process that was waited for is gone. -/
theorem erased (kin : Kin tree) (gone : Process → Bool) :
    Kin { tree with processes := tree.processes.eraseP gone } where
  started := kin.started
  distinct := kin.distinct.sublist (List.eraseP_sublist.map _)
  fresh process member := kin.fresh process (List.mem_of_mem_eraseP member)
  orphan process member := kin.orphan process (List.mem_of_mem_eraseP member)
  child process member := kin.child process (List.mem_of_mem_eraseP member)
  forkless process member := kin.forkless process (List.mem_of_mem_eraseP member)

end Kin

end ProcessTree

end QuicProxy
