import Spawny.Daemon.State

/-! # spawnservice.c: tries to start a session

The daemon's side of `spawnservice.c`: a `Spawn_Try` is made with a pipe, its child is forked and
registered in the descriptor table and in the spawn registry, its messages are read, and it is freed,
which calls its done callback. The done callback is a parameter `onDone`; it may spawn again.

What the child does is left to the environment: the messages it writes and when it ends. Whether a
terminal is left and whether `pipe` and `fork` succeed is answered by the environment too. -/

namespace Spawny.Daemon.SpawnService

open Spawny.Lib.Wire Spawny.Lib.Descriptors Spawny.Protocol.Messages
open Spawny.Daemon.SessionMgt Spawny.Daemon.State

/-- Calls `done.cb` of a try with `done.data` and a result. -/
abbrev OnDone := ℕ → SpawnServiceEnd → World → World

variable (C : FieldCode SpawnField)

/-! ### _spawn_try_free -/

/-- The read end is unregistered and closed. -/
def closeRead (t : ℕ) (w : World) : World :=
  (w.unregisterFd (w.tryAt t).readFd).closeFd (w.tryAt t).readFd

/-- The result of a try as its cell has it now. -/
def SpawnTry.result (tr : SpawnTry) : SpawnServiceEnd := ⟨tr.success, tr.errorMsg⟩

/-- `try->done.cb(try->done.data, end)`. -/
def callDone (onDone : OnDone) (t : ℕ) (w : World) : World :=
  onDone t (SpawnTry.result (w.tryAt t))
    ((w.modTry t fun tr => { tr with doneCalled := true }).log
      (.done t (SpawnTry.result (w.tryAt t))))

/-- The listener is removed and the cell is freed. -/
def release (t : ℕ) (w : World) : World :=
  (w.unlisten (w.tryAt t).pid (.spawnedSessionDisappear t)).modTry t
    fun tr => { tr with pid := -1, freed := true }

/-- `_spawn_try_free`. -/
def spawnTryFree (onDone : OnDone) (t : ℕ) (w : World) : World :=
  release t (callDone onDone t (closeRead t w))

/-- The state in which the done callback of `t` is called. -/
def calledBack (t : ℕ) (w : World) : World :=
  ((closeRead t w).modTry t fun tr => { tr with doneCalled := true }).log
    (.done t (SpawnTry.result (w.tryAt t)))

theorem spawnTryFree_eq (onDone : OnDone) (t : ℕ) (w : World) : spawnTryFree onDone t w =
    release t (onDone t (SpawnTry.result (w.tryAt t)) (calledBack t w)) := rfl

/-! ### spawnservice_spawn -/

/-- `_service_message`: a message is written to the pipe. -/
def SpawnTry.writePipe (m : SpawnMessage) (tr : SpawnTry) : SpawnTry :=
  { tr with pipe := tr.pipe ++ m.pack C, written := tr.written ++ [m], unread := tr.unread ++ [m] }

/-- `_service_com_exit`. -/
def serviceComExit (t : ℕ) (reason : String) (w : World) : World :=
  w.modTry t (SpawnTry.writePipe C ⟨.errorExit, some reason⟩)

/-- A `Spawn_Try` when `child_run` is called, with the ends of its pipe. -/
def newTry (req : SpawnRequest) (readFd writeFd : ℕ) : SpawnTry where
  toSpawnRequest := req
  readFd := readFd
  writeFd := writeFd
  session := none
  errorMsg := none
  success := .error
  pid := 0
  doneCalled := false
  freed := false
  childPid := 0
  exited := false
  reaped := false
  hungUp := false
  pipe := []
  written := []
  unread := []

/-- `calloc` and `pipe` of `spawnservice_spawn`, and the fields set before `child_run`. -/
def openTry (req : SpawnRequest) (w : World) : World :=
  let w₁ := w.openFd (.pipeRead w.tries.length)
  let w₂ := w₁.openFd (.pipeWrite w.tries.length)
  { w₂ with tries := w.tries ++ [newTry req (lowestFree w.fdtab) (lowestFree w₁.fdtab)] }

/-- The parent branch of `child_run`, for a child with the number `pid`. -/
def childForked (t pid : ℕ) (w : World) : World :=
  let w := (w.modTry t fun tr => { tr with childPid := pid }).log (.spawned t)
  let w := (w.closeFd (w.tryAt t).writeFd).registerFd (w.tryAt t).readFd (.childData t)
  (w.listen pid (.spawnedSessionDisappear t)).modTry t fun tr => { tr with pid := pid }

/-- `child_run`, with its return value. -/
def childRun (t : ℕ) (ans : ChildAnswer) (w : World) : World × Bool :=
  match ans with
  | .noTty => (serviceComExit C t "Failed to find tty" w, false)
  | .forkFails => (w, false)
  | .forks pid => (childForked t (w.freePid pid) w, true)

/-- `spawnservice_spawn`, with the pointer it returns: if `child_run` fails, the try is freed and
the pointer is returned all the same. -/
def spawnserviceSpawn (onDone : OnDone) (a : Answers) (req : SpawnRequest) (w : World) :
    World × Option ℕ :=
  let t := w.tries.length
  if (a.spawn t).pipeOk then
    let r := childRun C t (a.spawn t).child (openTry req w)
    if r.2 then (r.1, some t) else (spawnTryFree onDone t r.1, some t)
  else (w, none)

/-- The state in which `done.cb` of a new try is called because `child_run` has failed. -/
def tryFailed (noTty : Bool) (req : SpawnRequest) (w : World) : World :=
  let t := w.tries.length
  let w := if noTty then serviceComExit C t "Failed to find tty" (openTry req w) else openTry req w
  ((closeRead t w).modTry t fun tr => { tr with doneCalled := true }).log (.done t ⟨.error, none⟩)

theorem getElem?_openTry (req : SpawnRequest) (w : World) (t : ℕ) :
    (openTry req w).tries[t]? =
      if t = w.tries.length then some (newTry req (lowestFree w.fdtab)
        (lowestFree (w.openFd (.pipeRead w.tries.length)).fdtab))
      else w.tries[t]? := by
  split_ifs with h
  · subst h
    exact List.getElem?_concat_length
  · rcases Nat.lt_or_gt_of_ne h with hlt | hgt
    · exact List.getElem?_append_left hlt
    · rw [List.getElem?_eq_none (Nat.le_of_lt hgt)]
      exact List.getElem?_eq_none (by simp [openTry]; omega)

theorem tryAt_openTry (req : SpawnRequest) (w : World) :
    (openTry req w).tryAt w.tries.length = newTry req (lowestFree w.fdtab)
      (lowestFree (w.openFd (.pipeRead w.tries.length)).fdtab) :=
  World.tryAt_eq (by rw [getElem?_openTry, if_pos rfl])

theorem spawnserviceSpawn_pipeFails {onDone : OnDone} {a : Answers} {req : SpawnRequest} {w : World}
    (h : (a.spawn w.tries.length).pipeOk = false) :
    spawnserviceSpawn C onDone a req w = (w, none) := by
  unfold spawnserviceSpawn
  simp [h]

theorem spawnserviceSpawn_forks {onDone : OnDone} {a : Answers} {req : SpawnRequest} {w : World}
    {pid : ℕ} (h : (a.spawn w.tries.length).pipeOk = true)
    (hchild : (a.spawn w.tries.length).child = .forks pid) :
    spawnserviceSpawn C onDone a req w =
      (childForked w.tries.length ((openTry req w).freePid pid) (openTry req w),
        some w.tries.length) := by
  unfold spawnserviceSpawn childRun
  simp [h, hchild]

/-- **`child_run` fails**: the done callback runs with an error and no text, also if the child's
branch has written a text to the pipe, and the pointer to the freed try is returned. -/
theorem spawnserviceSpawn_fails {onDone : OnDone} {a : Answers} {req : SpawnRequest} {w : World}
    (h : (a.spawn w.tries.length).pipeOk = true)
    (hchild : ∀ pid, (a.spawn w.tries.length).child ≠ .forks pid) :
    spawnserviceSpawn C onDone a req w =
      (release w.tries.length (onDone w.tries.length ⟨.error, none⟩
        (tryFailed C (decide ((a.spawn w.tries.length).child = .noTty)) req w)),
        some w.tries.length) := by
  have hnew : SpawnTry.result ((closeRead w.tries.length (openTry req w)).tryAt w.tries.length) =
      ⟨.error, none⟩ := congrArg SpawnTry.result (tryAt_openTry req w)
  have hcom : SpawnTry.result ((closeRead w.tries.length (serviceComExit C w.tries.length
      "Failed to find tty" (openTry req w))).tryAt w.tries.length) = ⟨.error, none⟩ := by
    have hget : (serviceComExit C w.tries.length "Failed to find tty" (openTry req w)).tries[
        w.tries.length]? = some (SpawnTry.writePipe C ⟨.errorExit, some "Failed to find tty"⟩
          ((openTry req w).tryAt w.tries.length)) := by
      rw [serviceComExit, World.getElem?_modTry, tryAt_openTry, getElem?_openTry, if_pos rfl]
      simp
    exact (congrArg SpawnTry.result (World.tryAt_eq hget)).trans hnew
  unfold spawnserviceSpawn childRun tryFailed
  rcases hc : (a.spawn w.tries.length).child with _ | _ | pid
  · simp [h, hc, spawnTryFree, callDone, hcom]
  · simp [h, hc, spawnTryFree, callDone, hnew]
  · exact absurd hc (hchild pid)

/-- The cell of a try when its done callback is called because `child_run` has failed. -/
def failedTry (noTty : Bool) (tr : SpawnTry) : SpawnTry :=
  { (if noTty then SpawnTry.writePipe C ⟨.errorExit, some "Failed to find tty"⟩ tr else tr) with
    doneCalled := true }

theorem getElem?_tryFailed (noTty : Bool) (req : SpawnRequest) (w : World) (t : ℕ) :
    (tryFailed C noTty req w).tries[t]? =
      if t = w.tries.length then some (failedTry C noTty (newTry req (lowestFree w.fdtab)
        (lowestFree (w.openFd (.pipeRead w.tries.length)).fdtab)))
      else w.tries[t]? := by
  have hmod : (tryFailed C noTty req w).tries[t]? = ((openTry req w).tries[t]?).map fun tr =>
      if w.tries.length = t then failedTry C noTty tr else tr := by
    unfold tryFailed
    cases noTty
    · exact World.getElem?_modTry _ _ _ _
    · refine (World.getElem?_modTry _ _ _ _).trans ?_
      change (((serviceComExit C _ _ (openTry req w)).tries[t]?).map _) = _
      rw [serviceComExit, World.getElem?_modTry, Option.map_map]
      refine congrArg (fun f => ((openTry req w).tries[t]?).map f) (funext fun tr => ?_)
      by_cases h : w.tries.length = t <;> simp [h, failedTry]
  rw [hmod, getElem?_openTry]
  by_cases h : t = w.tries.length
  · simp [h]
  · rw [if_neg h, if_neg h]
    simp [Ne.symm h]

/-! ### What the pieces leave alone -/

section fields

variable (w : World)

@[simp] theorem clients_openTry (req : SpawnRequest) :
    (openTry req w).clients = w.clients := by
  simp [openTry]

@[simp] theorem greeters_openTry (req : SpawnRequest) :
    (openTry req w).greeters = w.greeters := by
  simp [openTry]

@[simp] theorem fds_openTry (req : SpawnRequest) :
    (openTry req w).fds = w.fds := by
  simp [openTry]

@[simp] theorem registry_openTry (req : SpawnRequest) :
    (openTry req w).registry = w.registry := by
  simp [openTry]

@[simp] theorem scan_openTry (req : SpawnRequest) :
    (openTry req w).scan = w.scan := by
  simp [openTry]

@[simp] theorem trace_openTry (req : SpawnRequest) :
    (openTry req w).trace = w.trace := by
  simp [openTry]

@[simp] theorem clients_childForked (t pid : ℕ) :
    (childForked t pid w).clients = w.clients := by
  simp [childForked]

@[simp] theorem greeters_childForked (t pid : ℕ) :
    (childForked t pid w).greeters = w.greeters := by
  simp [childForked]

@[simp] theorem scan_childForked (t pid : ℕ) :
    (childForked t pid w).scan = w.scan := by
  simp [childForked]

theorem trace_childForked (t pid : ℕ) :
    (childForked t pid w).trace = w.trace ++ [.spawned t] := by
  simp [childForked]

@[simp] theorem clients_calledBack (t : ℕ) :
    (calledBack t w).clients = w.clients := by
  simp [calledBack, closeRead]

@[simp] theorem greeters_calledBack (t : ℕ) :
    (calledBack t w).greeters = w.greeters := by
  simp [calledBack, closeRead]

@[simp] theorem registry_calledBack (t : ℕ) :
    (calledBack t w).registry = w.registry := by
  simp [calledBack, closeRead]

@[simp] theorem scan_calledBack (t : ℕ) :
    (calledBack t w).scan = w.scan := by
  simp [calledBack, closeRead]

theorem trace_calledBack (t : ℕ) :
    (calledBack t w).trace = w.trace ++ [.done t (SpawnTry.result (w.tryAt t))] := by
  simp [calledBack, closeRead]

@[simp] theorem clients_release (t : ℕ) :
    (release t w).clients = w.clients := by
  simp [release]

@[simp] theorem greeters_release (t : ℕ) :
    (release t w).greeters = w.greeters := by
  simp [release]

@[simp] theorem fds_release (t : ℕ) :
    (release t w).fds = w.fds := by
  simp [release]

@[simp] theorem scan_release (t : ℕ) :
    (release t w).scan = w.scan := by
  simp [release]

@[simp] theorem fdtab_release (t : ℕ) :
    (release t w).fdtab = w.fdtab := by
  simp [release]

@[simp] theorem trace_release (t : ℕ) :
    (release t w).trace = w.trace := by
  simp [release]

@[simp] theorem clients_tryFailed (noTty : Bool) (req : SpawnRequest) :
    (tryFailed C noTty req w).clients = w.clients := by
  unfold tryFailed
  cases noTty <;> simp [closeRead, serviceComExit]

@[simp] theorem greeters_tryFailed (noTty : Bool) (req : SpawnRequest) :
    (tryFailed C noTty req w).greeters = w.greeters := by
  unfold tryFailed
  cases noTty <;> simp [closeRead, serviceComExit]

@[simp] theorem registry_tryFailed (noTty : Bool) (req : SpawnRequest) :
    (tryFailed C noTty req w).registry = w.registry := by
  unfold tryFailed
  cases noTty <;> simp [closeRead, serviceComExit]

@[simp] theorem scan_tryFailed (noTty : Bool) (req : SpawnRequest) :
    (tryFailed C noTty req w).scan = w.scan := by
  unfold tryFailed
  cases noTty <;> simp [closeRead, serviceComExit]

theorem trace_tryFailed (noTty : Bool) (req : SpawnRequest) :
    (tryFailed C noTty req w).trace = w.trace ++ [.done w.tries.length ⟨.error, none⟩] := by
  unfold tryFailed
  cases noTty <;> simp [closeRead, serviceComExit]

end fields

/-! ### _child_data -/

def MAX_MSG_SIZE : ℕ := 4096

/-- `_force_quit`. -/
def forceQuit (t : ℕ) (w : World) : World :=
  if 0 < (w.tryAt t).pid then w.log (.killed (w.tryAt t).pid) else w

/-- `session_activate`: nothing is done for `NULL`. -/
def sessionActivate (handle : Option String) (w : World) : World :=
  match handle with
  | none => w
  | some h => w.log (.system (activateCommand h))

/-- `read` on the pipe: at most `MAX_MSG_SIZE` bytes are taken out. -/
def SpawnTry.readPipe (tr : SpawnTry) : SpawnTry :=
  { tr with pipe := tr.pipe.drop MAX_MSG_SIZE, unread := [] }

/-- What the daemon does with the message it has read from the child of `t`. -/
def childMessage (onDone : OnDone) (a : Answers) (t : ℕ) (m : SpawnMessage) (w : World) : World :=
  match m.type with
  | .connect => w
  | .setupDone =>
    let session := sessionGet a.sd (w.tryAt t).pid
    let w := w.modTry t fun tr => { tr with session := session }
    sessionActivate session (if session.isNone then forceQuit t w else w)
  | .sessionActive =>
    spawnTryFree onDone t ((w.unregisterFd (w.tryAt t).readFd).modTry t
      fun tr => { tr with success := .success })
  | .errorExit =>
    let w := w.unregisterFd (w.tryAt t).readFd
    match m.exit with
    | none => w.fault
    | some reason => w.modTry t fun tr => { tr with errorMsg := some reason }

/-- `_child_data`. -/
def childData (onDone : OnDone) (a : Answers) (t fd : ℕ) (w : World) : World :=
  let msg := SpawnMessage.unpack C ((w.tryAt t).pipe.take MAX_MSG_SIZE)
  let w := w.modTry t SpawnTry.readPipe
  match msg with
  | none => forceQuit t (w.unregisterFd fd)
  | some m => childMessage onDone a t m w

end Spawny.Daemon.SpawnService
