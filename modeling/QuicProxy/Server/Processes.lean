import QuicProxy.Semantics.Execution

/-!
# The processes of the server

In its multi-process mode `main` forks a worker for each CPU and then waits: for each
child that ends it forks another one. A fork duplicates the place in the program, so a
child goes on behind the call that made it: into `worker()` at both sites, and from
there to `exit(0)` at the first site and back into the loop of the parent at the second.

Any process but the first may end at any time. Forking succeeds. A process that ends
leaves its children to another parent; what has ended stays until its parent has waited
for it.
-/

namespace QuicProxy

/-- A `pid_t`. -/
abbrev Pid := Nat

/-- The two calls of `fork()`. -/
inductive ForkSite where
  | initial
  | respawn
deriving DecidableEq

/-- Where a process stands: in the loop that forks, before the `index`-th fork; before
`wait`; behind a `wait` that returned a child; in `worker()` before and behind its
set-up; or at its end. -/
inductive Place where
  | forking (index : Nat)
  | waiting
  | respawning
  | settingUp (site : ForkSite)
  | serving (site : ForkSite)
  | ended
deriving DecidableEq

namespace Place

/-- The process executes the loops of `main`. -/
def inMain : Place → Bool
  | forking _ | waiting | respawning => true
  | settingUp _ | serving _ | ended => false

end Place

/-- `reaped` and `respawned` count the children a process has waited for, and those it
has forked since. -/
structure Process where
  pid : Pid
  parent : Option Pid
  place : Place
  reaped : Nat
  respawned : Nat
deriving DecidableEq

/-- The processes of the server. -/
structure ProcessTree where
  cpuCount : Nat
  processes : List Process
  nextPid : Pid
deriving DecidableEq

/-- What can happen to a process; `setUp` says whether `CreateUDPSocketAndListen`
succeeds, `waitFails` that `wait` returned -1. -/
inductive ProcessEvent where
  | fork (pid : Pid)
  | reap (pid child : Pid)
  | waitFails (pid : Pid)
  | setUp (pid : Pid) (listens : Bool)
  | dies (pid : Pid)
deriving DecidableEq

namespace ProcessTree

/-- The process that was started. -/
def mainPid : Pid := 0

/-- Behind the `index`-th fork of the loop. -/
def afterFork (cpuCount index : Nat) : Place :=
  if index < cpuCount then .forking index else .waiting

/-- `main` at its loop. -/
def start (cpuCount : Nat) : ProcessTree where
  cpuCount := cpuCount
  processes := [⟨mainPid, none, afterFork cpuCount 0, 0, 0⟩]
  nextPid := mainPid + 1

/-- The place of a process. -/
def place? (tree : ProcessTree) (pid : Pid) : Option Place :=
  (tree.processes.find? fun process => process.pid == pid).map Process.place

/-- Change one process. -/
def modify (tree : ProcessTree) (pid : Pid) (change : Process → Process) : ProcessTree :=
  { tree with
    processes := tree.processes.map fun process =>
      if process.pid = pid then change process else process }

/-- A new child of a process, in `worker()`. -/
def spawn (tree : ProcessTree) (parent : Pid) (site : ForkSite) : ProcessTree :=
  { tree with
    processes := tree.processes ++ [⟨tree.nextPid, some parent, .settingUp site, 0, 0⟩]
    nextPid := tree.nextPid + 1 }

/-- A process ends, and its children lose it. -/
def exit (tree : ProcessTree) (pid : Pid) : ProcessTree :=
  { tree with
    processes := tree.processes.map fun process =>
      if process.pid = pid then { process with place := .ended }
      else if process.parent = some pid then { process with parent := none }
      else process }

/-- `fork()`, at the place where the process stands. -/
def fork (tree : ProcessTree) (pid : Pid) : ProcessTree :=
  match tree.place? pid with
  | some (.forking index) =>
      (tree.modify pid fun process =>
        { process with place := afterFork tree.cpuCount (index + 1) }).spawn pid .initial
  | some .respawning =>
      (tree.modify pid fun process =>
        { process with place := .waiting, respawned := process.respawned + 1 }).spawn pid .respawn
  | _ => tree

/-- `wait()` returns a child that has ended. -/
def reap (tree : ProcessTree) (pid child : Pid) : ProcessTree :=
  { tree with
    processes := (tree.processes.eraseP fun process => process.pid == child).map fun process =>
      if process.pid = pid then
        { process with place := .respawning, reaped := process.reaped + 1 }
      else process }

/-- `worker()` goes on to serve, or returns; behind its call stands `exit(0)` in the
first loop, and nothing in the second. -/
def setUp (tree : ProcessTree) (pid : Pid) (listens : Bool) : ProcessTree :=
  match tree.place? pid, listens with
  | some (.settingUp site), true =>
      tree.modify pid fun process => { process with place := .serving site }
  | some (.settingUp .initial), false => tree.exit pid
  | some (.settingUp .respawn), false =>
      tree.modify pid fun process => { process with place := .waiting }
  | _, _ => tree

/-- What an event makes of the tree. -/
def next (tree : ProcessTree) : ProcessEvent → ProcessTree
  | .fork pid => tree.fork pid
  | .reap pid child => tree.reap pid child
  | .waitFails _ => tree
  | .setUp pid listens => tree.setUp pid listens
  | .dies pid => tree.exit pid

/-- The child of a process has ended. -/
def HasEnded (tree : ProcessTree) (pid child : Pid) : Prop :=
  ∃ process ∈ tree.processes, process.pid = child ∧ process.parent = some pid ∧
    process.place = .ended

instance (tree : ProcessTree) (pid child : Pid) : Decidable (tree.HasEnded pid child) :=
  inferInstanceAs (Decidable (∃ process ∈ tree.processes, _))

/-- The event can happen: the process stands where it is done. -/
def Enabled (tree : ProcessTree) : ProcessEvent → Prop
  | .fork pid =>
      tree.place? pid = some .respawning ∨
        ∃ index < tree.cpuCount, tree.place? pid = some (.forking index)
  | .reap pid child => tree.place? pid = some .waiting ∧ tree.HasEnded pid child
  | .waitFails pid => tree.place? pid = some .waiting
  | .setUp pid _ =>
      tree.place? pid = some (.settingUp .initial) ∨ tree.place? pid = some (.settingUp .respawn)
  | .dies pid => pid ≠ mainPid ∧ (tree.place? pid).any (· != .ended) = true

instance (tree : ProcessTree) : (event : ProcessEvent) → Decidable (tree.Enabled event)
  | .fork _ => inferInstanceAs (Decidable (_ ∨ ∃ index < _, _))
  | .reap _ _ => inferInstanceAs (Decidable (_ ∧ _))
  | .waitFails _ => inferInstanceAs (Decidable (_ = _))
  | .setUp _ _ => inferInstanceAs (Decidable (_ ∨ _))
  | .dies _ => inferInstanceAs (Decidable (_ ∧ _))

/-! What `fork` and `setUp` do at each place. -/

section Places

variable {tree : ProcessTree} {pid : Pid}

/-- A fork in the first loop. -/
theorem fork_forking {index : Nat} (stands : tree.place? pid = some (.forking index)) :
    tree.fork pid = (tree.modify pid fun process =>
      { process with place := afterFork tree.cpuCount (index + 1) }).spawn pid .initial := by
  simp only [fork, stands]

/-- A fork that replaces a worker. -/
theorem fork_respawning (stands : tree.place? pid = some .respawning) :
    tree.fork pid = (tree.modify pid fun process =>
      { process with place := .waiting, respawned := process.respawned + 1 }).spawn pid
        .respawn := by
  simp only [fork, stands]

/-- A set-up that succeeds. -/
theorem setUp_listens {site : ForkSite} (stands : tree.place? pid = some (.settingUp site)) :
    tree.setUp pid true =
      tree.modify pid fun process => { process with place := .serving site } := by
  simp only [setUp, stands]

/-- A worker of the first loop whose set-up fails ends. -/
theorem setUp_initial (stands : tree.place? pid = some (.settingUp .initial)) :
    tree.setUp pid false = tree.exit pid := by
  simp only [setUp, stands]

/-- A worker that replaces another and whose set-up fails goes on behind the fork. -/
theorem setUp_respawn (stands : tree.place? pid = some (.settingUp .respawn)) :
    tree.setUp pid false =
      tree.modify pid fun process => { process with place := .waiting } := by
  simp only [setUp, stands]

end Places

/-- Every order of forks, set-ups and ends. -/
def system (cpuCount : Nat) : LabelledSystem ProcessTree ProcessEvent :=
  .functional (· = start cpuCount) Enabled next

/-- The children of a process that have not been waited for. -/
def children (tree : ProcessTree) (pid : Pid) : List Process :=
  tree.processes.filter fun process => process.parent = some pid

end ProcessTree

end QuicProxy
