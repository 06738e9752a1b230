import Mathlib.Algebra.GroupWithZero.Nat
import Mathlib.Algebra.Order.BigOperators.Group.List
import Mathlib.Algebra.Order.Group.Nat
import Mathlib.Tactic.Simps.Basic
import Spawny.Lib.Descriptors
import Spawny.Protocol.Messages
import Spawny.Daemon.Manager
import Spawny.Daemon.SpawnRegistry
import Spawny.Daemon.SessionMgt

/-! # The state of the daemon

`World` holds the static variables of the daemon, its heap, and what the kernel keeps for it.

* A pointer is a number. A `Client` or a `Spawn_Try` is named by its place in the list of all that
  were ever allocated; `free` sets a flag and the cell is not used again, so a pointer that is kept
  too long is seen. A `Seat_Greeter` pointer is a slot of the `greeters` array.
* The kernel's table of the daemon's descriptors gives out the lowest free number. The connection
  accepted for client `c` is `sock c`, and the pipe of the `Spawn_Try` `t` has the ends `pipeRead t`
  and `pipeWrite t`.
* `trace` records what the daemon does to the outside and the runs of its callbacks. Where C would
  use a `NULL` pointer or freed memory, `ub` is set and the model goes on with what the cell held.

What the environment decides during one callback is in `Answers`. -/

namespace Spawny.Daemon.State

open Spawny.Lib.Descriptors Spawny.Protocol.Messages
open Spawny.Daemon.Manager Spawny.Daemon.SpawnRegistry Spawny.Daemon.SessionMgt

/-! ### Descriptors, callbacks and records -/

/-- What an open descriptor of the daemon refers to. -/
inductive FdObj
  | std
  | listen
  | sock (client : ℕ)
  | pipeRead (spawnTry : ℕ)
  | pipeWrite (spawnTry : ℕ)
  deriving DecidableEq, Repr

/-- The callbacks in the descriptor table, with their data. -/
inductive FdCb
  | acceptReady
  | clientData (client : ℕ)
  | childData (spawnTry : ℕ)
  deriving DecidableEq, Repr

/-- The handlers in the spawn registry, with their data. -/
inductive Handler
  | spawnedSessionDisappear (spawnTry : ℕ)
  | greeterDone (greeter : ℕ)
  deriving DecidableEq, Repr

/-- `Spawn_Service_State`. -/
inductive SpawnServiceState
  | success
  | error
  deriving DecidableEq, Repr, Inhabited

/-- `Spawn_Service_End`; a `NULL` message is `none`. -/
structure SpawnServiceEnd where
  success : SpawnServiceState
  message : Option String
  deriving DecidableEq, Repr

/-- `Xdg_Settings`. -/
structure XdgSettings where
  sessionType : Option String
  sessionDesktop : Option String
  sessionSeat : Option String
  deriving DecidableEq, Repr, Inhabited

/-- `done.cb` with `done.data`. -/
inductive DoneCb
  | sessionDone (client : ℕ)
  | greeterStartDone (greeter : ℕ)
  deriving DecidableEq, Repr, Inhabited

/-- `job.cb` with `job.data`. -/
inductive Job
  | sessionJob (template : String)
  | greeterJob (greeter : ℕ)
  deriving DecidableEq, Repr, Inhabited

/-- `session_ended.cb`. -/
inductive SessionEnded
  | reexecuteGreeter
  deriving DecidableEq, Repr

/-- The arguments of `spawnservice_spawn`. `origin` is not in the source: it records where the
`LOGIN_TRY` came from, the object the descriptor referred to when the message was read. -/
structure SpawnRequest where
  done : DoneCb
  job : Job
  sessionEnded : Option SessionEnded
  service : String
  usr : String
  pw : Option String
  settings : XdgSettings
  origin : Option FdObj
  deriving DecidableEq, Repr, Inhabited

/-- `Spawn_Try`. The fields after `pid` are not in the source: whether `done.cb` was called and the
cell freed, the child process (`childPid` is 0 if none was forked), whether the child has closed its
end of the pipe, the bytes in the pipe, all messages written to it, and those written since the last
read. -/
structure SpawnTry extends SpawnRequest where
  readFd : ℕ
  writeFd : ℕ
  session : Option String
  errorMsg : Option String
  success : SpawnServiceState
  pid : ℤ
  doneCalled : Bool
  freed : Bool
  childPid : ℕ
  exited : Bool
  reaped : Bool
  hungUp : Bool
  pipe : List UInt8
  written : List SpawnMessage
  unread : List SpawnMessage
  deriving DecidableEq, Repr, Inhabited

/-- `Client`. -/
structure Client where
  fd : ℕ
  pid : ℕ
  spawnTry : Option ℕ
  freed : Bool
  deriving DecidableEq, Repr, Inhabited

/-- `Seat_Greeter`, with the fields of `Seat_Greeter_Run`; `ended` is the field `end`. -/
structure SeatGreeter where
  seat : String
  runGen : ℕ
  runTry : Option ℕ
  runPid : ℤ
  ended : Bool
  deriving DecidableEq, Repr, Inhabited

/-- `Template` of `templatereg.c`, without the function that starts it. -/
structure Template where
  id : String
  name : String
  icon : Option String
  type : String
  deriving DecidableEq, Repr

/-! ### What is recorded -/

/-- Which code writes to a client: the reply to its message, or `_session_done` for a try. -/
inductive Sender
  | reply (client : ℕ)
  | sessionDone (spawnTry : ℕ)
  deriving DecidableEq, Repr

/-- What the daemon does: a message written to the object behind a descriptor, a `system()` call, an
`end` flag set, a child forked for a try, a signal sent, the done callback of a try, a greeter
callback for the process of a try with the seat of the record it finds at its slot, and a
successful `_greeter_start_done` for a try with the `run.try` of that record. -/
inductive Obs
  | sent (why : Sender) (dest : Option FdObj) (msg : ServerMessage)
  | system (command : String)
  | lockout (seat : String)
  | spawned (spawnTry : ℕ)
  | killed (pid : ℤ)
  | done (spawnTry : ℕ) (result : SpawnServiceEnd)
  | greeterCb (spawnTry : ℕ) (found : Option String)
  | startDone (spawnTry : ℕ) (runTry : Option ℕ)
  deriving DecidableEq, Repr

/-- **The daemon.** -/
structure World where
  debug : Bool
  templates : List Template
  clients : List Client
  tries : List SpawnTry
  greeters : List SeatGreeter
  fds : FdTable FdCb
  registry : Registry Handler
  /-- in `spawnregistery_eval`: the try whose child was reaped, and the index of the inner loop -/
  scan : Option (ℕ × ℕ)
  fdtab : List (Option FdObj)
  ub : Bool
  trace : List Obs
  deriving DecidableEq, Repr

/-! ### The environment -/

/-- What `read` and `unpack` give on the socket of a client. -/
inductive ClientInput
  | eof
  | bad
  | msg (m : GreeterMessage)
  deriving DecidableEq, Repr

/-- What happens in `child_run`: no terminal is left, `fork` fails, or it gives the child the number
`pid`, or another one if that is in use. -/
inductive ChildAnswer
  | noTty
  | forkFails
  | forks (pid : ℕ)
  deriving DecidableEq, Repr

/-- What happens in `spawnservice_spawn`. -/
structure SpawnAnswer where
  pipeOk : Bool
  child : ChildAnswer
  deriving DecidableEq, Repr

/-- The answers of the kernel and of logind during one callback. `spawn t` is for the `Spawn_Try`
number `t`; `data` is what `_load_data` collects from the user database, logind and passwd;
`locals` and `settings` are what the stack holds where uninitialised variables lie. -/
structure Answers where
  input : ClientInput
  peer : Option ℕ
  spawn : ℕ → SpawnAnswer
  sd : SdLogin
  sids : ℕ → Option ℕ
  alive : ℕ → Bool
  data : Data
  locals : Locals
  settings : XdgSettings

/-- A plain environment: processes lead their own sessions, `fork` succeeds, logind knows nothing. -/
def Answers.plain : Answers where
  input := .eof
  peer := some 50
  spawn := fun t => ⟨true, .forks (100 + t)⟩
  sd := SdLogin.empty
  sids := some
  alive := fun _ => true
  data := ⟨[], [], []⟩
  locals := ⟨0, none, none, ""⟩
  settings := ⟨none, none, none⟩

/-- `getsid`: -1 for a process that does not exist. -/
def getsid (a : Answers) (pid : ℤ) : ℤ :=
  if pid < 0 then -1 else ((a.sids pid.toNat).map Int.ofNat).getD (-1)

/-! ### Reading and writing the state -/

namespace World

/-- The cell a `Spawn_Try` pointer refers to. -/
def tryAt (w : World) (t : ℕ) : SpawnTry := (w.tries[t]?).getD default

/-- The cell a `Client` pointer refers to. -/
def clientAt (w : World) (c : ℕ) : Client := (w.clients[c]?).getD default

/-- A process holds its number until it has been reaped and its end has been handled. -/
def holdsPid (w : World) (t : ℕ) : Bool :=
  (w.tryAt t).childPid != 0 && (!(w.tryAt t).reaped || (w.scan.map Prod.fst) == some t)

/-- The number `pid` can be given to a new process. -/
def pidFree (w : World) (pid : ℕ) : Bool :=
  pid != 0 && (List.range w.tries.length).all fun t => !(w.holdsPid t && (w.tryAt t).childPid == pid)

/-- The number that a new process gets: `pid`, or one above all numbers if `pid` is taken. -/
def freePid (w : World) (pid : ℕ) : ℕ :=
  if w.pidFree pid then pid else (w.tries.map SpawnTry.childPid).sum + 1

@[simps] def modTry (t : ℕ) (f : SpawnTry → SpawnTry) (w : World) : World :=
  { w with tries := w.tries.modify t f }

@[simps] def modClient (c : ℕ) (f : Client → Client) (w : World) : World :=
  { w with clients := w.clients.modify c f }

@[simps] def modGreeter (g : ℕ) (f : SeatGreeter → SeatGreeter) (w : World) : World :=
  { w with greeters := w.greeters.modify g f }

@[simps] def log (o : Obs) (w : World) : World := { w with trace := w.trace ++ [o] }

/-- The program has used a pointer it must not use. -/
@[simps] def fault (w : World) : World := { w with ub := true }

@[simps] def registerFd (fd : ℕ) (cb : FdCb) (w : World) : World :=
  { w with fds := w.fds.registerFd fd cb }

@[simps] def unregisterFd (fd : ℕ) (w : World) : World :=
  { w with fds := w.fds.unregisterFd fd }

@[simps] def openFd (o : FdObj) (w : World) : World := { w with fdtab := openSlot w.fdtab o }

@[simps] def closeFd (fd : ℕ) (w : World) : World := { w with fdtab := closeSlot w.fdtab fd }

@[simps] def listen (pid : ℤ) (h : Handler) (w : World) : World :=
  { w with registry := w.registry.listen pid h }

@[simps] def unlisten (pid : ℤ) (h : Handler) (w : World) : World :=
  { w with registry := w.registry.unlisten pid h }

theorem tryAt_eq {w : World} {t : ℕ} {tr : SpawnTry} (h : w.tries[t]? = some tr) :
    w.tryAt t = tr := by rw [tryAt, h]; rfl

theorem clientAt_eq {w : World} {c : ℕ} {cl : Client} (h : w.clients[c]? = some cl) :
    w.clientAt c = cl := by rw [clientAt, h]; rfl

theorem clientAt_congr {w w' : World} (h : w'.clients = w.clients) (c : ℕ) :
    w'.clientAt c = w.clientAt c := by rw [clientAt, clientAt, h]

theorem holdsPid_iff {w : World} {t : ℕ} : w.holdsPid t = true ↔
    ∃ tr, w.tries[t]? = some tr ∧ tr.childPid ≠ 0 ∧
      (tr.reaped = false ∨ ∃ i, w.scan = some (t, i)) := by
  have hscan : w.scan.map Prod.fst = some t ↔ ∃ i, w.scan = some (t, i) := by
    rcases w.scan with _ | ⟨t', i⟩ <;> simp
  unfold holdsPid tryAt
  rcases w.tries[t]? with _ | tr
  · simp [default, instInhabitedSpawnTry.default]
  · simp [hscan]

theorem pidFree_iff {w : World} {pid : ℕ} : w.pidFree pid = true ↔
    pid ≠ 0 ∧ ∀ t, w.holdsPid t = true → (w.tryAt t).childPid ≠ pid := by
  unfold pidFree
  simp only [Bool.and_eq_true, bne_iff_ne, List.all_eq_true, List.mem_range, Bool.not_eq_true',
    Bool.and_eq_false_iff, beq_eq_false_iff_ne]
  refine and_congr_right fun _ => ⟨fun h t ht => ?_, fun h t _ => ?_⟩
  · obtain ⟨tr, htr, -⟩ := holdsPid_iff.mp ht
    have hlt := (List.getElem?_eq_some_iff.mp htr).1
    exact (h t hlt).resolve_left (by simp [ht])
  · by_cases ht : w.holdsPid t = true
    · exact Or.inr (h t ht)
    · exact Or.inl (by simpa using ht)

/-- The number a new process gets is free. -/
theorem pidFree_freePid (w : World) (pid : ℕ) : w.pidFree (w.freePid pid) = true := by
  unfold freePid
  split_ifs with h
  · exact h
  · refine pidFree_iff.mpr ⟨Nat.succ_ne_zero _, fun t ht heq => ?_⟩
    obtain ⟨tr, htr, -⟩ := holdsPid_iff.mp ht
    have hmem : tr.childPid ∈ w.tries.map SpawnTry.childPid :=
      List.mem_map_of_mem (List.mem_of_getElem? htr)
    have := List.le_sum_of_mem hmem
    rw [tryAt_eq htr] at heq
    omega

theorem getElem?_modTry (w : World) (t t' : ℕ) (f : SpawnTry → SpawnTry) :
    (w.modTry t f).tries[t']? = (w.tries[t']?).map fun tr => if t = t' then f tr else tr := by
  simp [modTry, List.getElem?_modify]

theorem getElem?_modClient (w : World) (c c' : ℕ) (f : Client → Client) :
    (w.modClient c f).clients[c']? = (w.clients[c']?).map fun cl => if c = c' then f cl else cl := by
  simp [modClient, List.getElem?_modify]

theorem getElem?_modGreeter (w : World) (g g' : ℕ) (f : SeatGreeter → SeatGreeter) :
    (w.modGreeter g f).greeters[g']? =
      (w.greeters[g']?).map fun r => if g = g' then f r else r := by
  simp [modGreeter, List.getElem?_modify]

end World

/-- The daemon after start-up: descriptors 0 to 2 and the server socket are open, and the socket is
registered. -/
def World.start (debug : Bool) (templates : List Template) : World where
  debug := debug
  templates := templates
  clients := []
  tries := []
  greeters := []
  fds := { fds := [⟨some .acceptReady, 3⟩], changes := 0, readout := false, ready := [], next := 0 }
  registry := { pending := [], evalMode := false }
  scan := none
  fdtab := [some .std, some .std, some .std, some .listen]
  ub := false
  trace := []

end Spawny.Daemon.State
