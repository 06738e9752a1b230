import Spawny.Lib.Programs
import Spawny.Lib.FirstMatch
import Spawny.Daemon.Conversation
import Spawny.Daemon.ActiveSessions

/-! # spawnservice.c: the child of a try

The child branch of `child_run`: it takes over a terminal (`open_tty`), logs in with PAM (`pam_auth`),
waits until its session is active, and starts the job in a process of its own. It reports to the daemon
through the pipe.

The answers of the system and of the PAM modules are in `ChildEnv`. What the child has done to itself is
in `Proc`; it stops by `exit`, or in an undefined state, or it goes on waiting. -/

namespace Spawny.Daemon.Child

open Spawny.Lib.Descriptors Spawny.Lib.FirstMatch Spawny.Lib.Programs
open Spawny.Daemon.State Spawny.Daemon.Loop Spawny.Daemon.Conversation
open Spawny.Daemon.ActiveSessions

/-! ### The process and its environment -/

/-- `struct passwd`. -/
structure Passwd where
  name : String
  uid : ℕ
  gid : ℕ
  dir : String
  shell : String
  deriving DecidableEq, Repr

/-- The return codes of PAM that `_handle_error` knows by name. -/
inductive PamCode
  | success
  | bufErr
  | convErr
  | abort
  | systemErr
  | authErr
  | credInsufficient
  | maxtries
  | userUnknown
  | other
  deriving DecidableEq, Repr

/-- A function of PAM that asks the modules: the calls they make to `_pam_conv`, and the result. -/
structure PamCall where
  calls : List (List PamMessage)
  ret : PamCode

/-- One time that the terminal is opened: whether `open` succeeds, what `tcgetsid` answers, and whether
`ioctl` and the two calls of `dup` succeed. -/
structure TtyOpen where
  opens : Bool
  sid : ℤ
  control : Bool
  dups : Bool × Bool

/-- What the calls of the child answer, in the order in which they are made. -/
structure ChildEnv where
  /-- what is open behind `manager_fork_eval` -/
  fds : List (Option FdObj)
  pid : ℤ
  ttyUser : Option Passwd
  ttyGroup : Option ℕ
  first : TtyOpen
  isatty : Bool
  vhangup : Bool
  again : TtyOpen
  tcsetpgrp : Bool
  chown : Bool
  chmod : Bool
  pamUser : Option Passwd
  pamStart : PamCode
  pamPutenv : String × String → PamCode
  authenticate : PamCall
  setcred : PamCall
  openSession : PamCall
  chdir : Bool
  pamGetenvlist : List (String × String) → Option (List (String × String))
  initgroups : Bool
  setgid : Bool
  setuid : Bool
  session : Option String
  isActive : List ℤ
  fork : Bool

/-- What a descriptor of the child refers to. -/
inductive ChildFd
  | inherited (o : FdObj)
  | tty
  deriving DecidableEq, Repr

/-- The process: its descriptors, the messages it has written to the pipe, its session and terminal, the
owner and mode of the terminal, its user and groups, what it has told PAM, its directory and
environment, the job that was started, and the callback that was called after it. -/
structure Proc where
  fds : List (Option ChildFd)
  written : List ServiceMessage
  leader : Bool
  controls : Bool
  foreground : Bool
  ttyOwner : Option (ℕ × ℕ)
  ttyMode : Option ℕ
  hupIgnored : Bool
  pamEnv : List (String × String)
  pamEnded : Bool
  cwd : Option String
  groups : Option (String × ℕ)
  gid : ℕ
  uid : ℕ
  env : List (String × String)
  job : Option Job
  ended : Option SessionEnded

/-- How the program of the child stops. -/
inductive Stop
  | exit (status : ℤ)
  | undefined
  | waits
  deriving DecidableEq, Repr

abbrev Child := Program Proc Stop

/-- The process after `fork` and `manager_fork_eval`. -/
def Proc.start (fds : List (Option FdObj)) : Proc where
  fds := fds.map (Option.map .inherited)
  written := []
  leader := false
  controls := false
  foreground := false
  ttyOwner := none
  ttyMode := none
  hupIgnored := false
  pamEnv := []
  pamEnded := false
  cwd := none
  groups := none
  gid := 0
  uid := 0
  env := []
  job := none
  ended := none

/-! ### Messages -/

variable (t writeFd : ℕ)

/-- The write end of the pipe of the try `t` is open at `writeFd`. -/
def Proc.connected (s : Proc) : Prop := lookup s.fds writeFd = some (.inherited (.pipeWrite t))

instance (s : Proc) : Decidable (s.connected t writeFd) := by
  unfold Proc.connected
  infer_instance

/-- `_service_message`. -/
def serviceMessage (m : ServiceMessage) : Child Unit :=
  change fun s => if s.connected t writeFd then { s with written := s.written ++ [m] } else s

/-- `_service_com_exit`. -/
def serviceComExit (reason : String) : Child Unit := serviceMessage t writeFd (.errorExit reason)

/-- `_service_com_exit(try, reason); return 0;` -/
def fails (reason : String) : Child Bool := do
  serviceComExit t writeFd reason
  return false

/-! ### open_tty -/

/-- `close`. -/
def closeFd (n : ℕ) : Child Unit := change fun s => { s with fds := closeSlot s.fds n }

/-- The descriptors 1, 0 and 2 are closed. -/
def closeStd : Child Unit := do
  closeFd 1
  closeFd 0
  closeFd 2

/-- The terminal gets a descriptor, from `open` or from `dup`, or none. -/
def newTtyFd (ok : Bool) : Child (Option ℕ) := do
  if ok then
    let fd ← read fun s => lowestFree s.fds
    change fun s => { s with fds := openSlot s.fds .tty }
    return some fd
  else return none

/-- The process has the terminal as its controlling one, or gets it now. -/
def controlTty (pid : ℤ) (o : TtyOpen) : Child Bool := do
  if o.sid < 0 ∨ pid ≠ o.sid then
    if o.control then
      change fun s => { s with controls := true }
      return true
    else return false
  else
    change fun s => { s with controls := true }
    return true

/-- `fd != 0 || dup(fd) != 1 || dup(fd) != 2` does not hold. -/
def standard (fd : Option ℕ) (dups : Bool × Bool) : Child Bool := do
  if fd ≠ some 0 then return false
  if (← newTtyFd dups.1) ≠ some 1 then return false
  if (← newTtyFd dups.2) ≠ some 2 then return false
  return true

/-- `open_tty`: the terminal is opened and hung up. -/
def grabTty (e : ChildEnv) : Child Bool := do
  let some fd ← newTtyFd e.first.opens | fails t writeFd "Failed to open tty"
  if !e.isatty then return ← fails t writeFd "FD is not a tty"
  if !(← controlTty e.pid e.first) then return ← fails t writeFd "Getting control of tty failed"
  if !(← standard (some fd) e.first.dups) then
    return ← fails t writeFd "TTY fd´s where not at place 0, 1 and 2"
  if !e.vhangup then return ← fails t writeFd "vhangup failed!\n"
  return true

/-- `open_tty`: the terminal is opened again, and given to the user. -/
def reopenTty (e : ChildEnv) (pwd : Passwd) (gr : ℕ) : Child Bool := do
  let some fd ← newTtyFd e.again.opens | fails t writeFd "Failed to open tty"
  if !(← controlTty e.pid e.again) then return ← fails t writeFd "Getting control of tty failed"
  if !e.tcsetpgrp then return ← fails t writeFd "Failed to get foreground proccess"
  change fun s => { s with foreground := true }
  if !(← standard (some fd) e.again.dups) then
    return ← fails t writeFd "TTY fd´s where not at place 0, 1 and 2"
  if !e.chown then return ← fails t writeFd "Own and mod failed!!!"
  change fun s => { s with ttyOwner := some (pwd.uid, gr) }
  if !e.chmod then return ← fails t writeFd "Own and mod failed!!!"
  change fun s => { s with ttyMode := some (if gr ≠ 0 then 0o620 else 0o600) }
  return true

/-- `open_tty`. -/
def openTty (e : ChildEnv) : Child Bool := do
  change fun s => { s with hupIgnored := true }
  let some pwd := e.ttyUser | fails t writeFd "Failed to fetch user"
  let some gr := e.ttyGroup | fails t writeFd "Failed to get group tty!"
  if !(← grabTty t writeFd e) then return false
  closeStd
  if !(← reopenTty t writeFd e pwd gr) then return false
  change fun s => { s with hupIgnored := false }
  return true

/-! ### pam_auth -/

/-- The text of `_handle_error`. -/
def pamReason : PamCode → String
  | .bufErr => "Pam error PAM_BUF_ERR happend"
  | .convErr => "Pam error PAM_CONF_ERR happend"
  | .abort => "Pam error PAM_ABORT happend"
  | .systemErr => "Pam error PAM_SYSTEM_ERR happend"
  | .authErr => "Pam error PAM_AUTH_ERR happend"
  | .credInsufficient => "Pam error PAM_CRED_INSUFFICIENT happend"
  | .maxtries => "Pam error PAM_MAX_TRIES happend"
  | .userUnknown => "Pam error PAM_USER_UNKNOWN happend"
  | .success => "uncaught state"
  | .other => "uncaught state"

/-- `PAM_CHECK`: whether `pam_auth` goes on. -/
def pamCheck (ret : PamCode) : Child Bool := do
  if ret = .success then return true else fails t writeFd (pamReason ret)

/-- One call of `_pam_conv` by the modules. -/
def converse (pw : Option String) (msgs : List PamMessage) : Child Unit :=
  match pamConv pw msgs with
  | none => stop .undefined
  | some r => each (serviceMessage t writeFd) r.2

/-- A function of PAM that asks the modules, with `PAM_CHECK` behind it. -/
def pamCall (pw : Option String) (c : PamCall) : Child Bool := do
  each (converse t writeFd pw) c.calls
  pamCheck t writeFd c.ret

/-- `PE`: `strlen` of a `NULL` pointer is undefined. -/
def putVar (e : ChildEnv) (name : String) (value : Option String) : Child Bool := do
  let some value := value | stop .undefined
  change fun s => { s with pamEnv := s.pamEnv ++ [(name, value)] }
  pamCheck t writeFd (e.pamPutenv (name, value))

/-- `PE` for one variable after the other. -/
def putVars (e : ChildEnv) : List (String × Option String) → Child Bool
  | [] => return true
  | v :: vs => do
    if ← putVar t writeFd e v.1 v.2 then putVars e vs else return false

/-- The variables that `pam_auth` puts into the environment of the session. -/
def pamVars (pwd : Passwd) (settings : XdgSettings) (vtnr : ℕ) : List (String × Option String) :=
  [("HOME", some pwd.dir), ("PWD", some pwd.dir), ("SHELL", some pwd.shell),
    ("USER", some pwd.name), ("LOGNAME", some pwd.name), ("XDG_SEAT", settings.sessionSeat)] ++
  (settings.sessionDesktop.map fun d => ("XDG_SESSION_DESKTOP", some d)).toList ++
  (settings.sessionType.map fun ty => ("XDG_SESSION_TYPE", some ty)).toList ++
  [("XDG_VTNR", some (toString vtnr))]

/-- `pam_auth`; what it returns in `*env` is that of `pam_getenvlist`. -/
def pamAuth (e : ChildEnv) (req : SpawnRequest) (vtnr : ℕ) :
    Child (Option (Option (List (String × String)))) := do
  if !(← pamCheck t writeFd e.pamStart) then return none
  let some pwd := e.pamUser | stop .undefined
  if !(← putVars t writeFd e (pamVars pwd req.settings vtnr)) then return none
  if !(← pamCall t writeFd req.pw e.authenticate) then return none
  if !(← pamCall t writeFd req.pw e.setcred) then return none
  if !(← pamCall t writeFd req.pw e.openSession) then return none
  if !e.chdir then
    serviceComExit t writeFd "Change dir failed"
    return none
  change fun s => { s with cwd := some pwd.dir }
  let env ← read fun s => e.pamGetenvlist s.pamEnv
  if !e.initgroups then
    serviceComExit t writeFd "init the groups of usr failed"
    return none
  change fun s => { s with groups := some (req.usr, pwd.gid) }
  if !e.setgid then
    serviceComExit t writeFd "failed to set gid"
    return none
  change fun s => { s with gid := pwd.gid }
  if !e.setuid then
    serviceComExit t writeFd "failed to set uid"
    return none
  change fun s => { s with uid := pwd.uid, pamEnded := true }
  return some env

/-! ### child_run -/

/-- `putenv` of a variable. -/
def putenv (v : String × String) (env : List (String × String)) : List (String × String) :=
  upsert (fun v' => v'.1 == v.1) (fun _ => v) v env

/-- `setenv` without overwriting. -/
def setenv (v : String × String) (env : List (String × String)) : List (String × String) :=
  if env.any (fun v' => v'.1 == v.1) then env else env ++ [v]

/-- The environment after `clearenv`. -/
def sessionEnv (vars : List (String × String)) : List (String × String) :=
  setenv ("TERM", "linux") (vars.foldl (fun env v => putenv v env) [])

/-- `_session_proc_fire_up`: the job is run in a process of its own, and `session_ended` is called
after it. The job does not return. -/
def sessionProcFireUp (e : ChildEnv) (req : SpawnRequest) : Child Unit := do
  if e.fork then
    change fun s => { s with job := some req.job, ended := req.sessionEnded }
  stop (.exit 1)

/-- The child branch of `child_run` behind `pam_auth`, with the environment of the session. -/
def runSession (e : ChildEnv) (req : SpawnRequest) (vars : List (String × String)) : Child Unit := do
  change fun s => { s with env := sessionEnv vars }
  if e.session.isNone then
    serviceComExit t writeFd "session is not valid"
    stop (.exit (-1))
  serviceMessage t writeFd .setupDone
  if (waitSessionActive e.isActive).isNone then stop .waits
  serviceMessage t writeFd .sessionActive
  closeFd writeFd
  sessionProcFireUp e req

/-- **The child branch of `child_run`**, for the try `t` with the ends `readFd` and `writeFd` of its pipe
and the terminal `vtnr`. -/
def childBranch (readFd : ℕ) (e : ChildEnv) (req : SpawnRequest) (vtnr : ℕ) : Child Unit := do
  change fun s => { s with leader := true }
  closeFd readFd
  serviceMessage t writeFd .connect
  closeStd
  if !(← openTty t writeFd e) then stop (.exit (-1))
  let some env ← pamAuth t writeFd e req vtnr | stop (.exit (-1))
  let some vars := env | stop .undefined
  runSession t writeFd e req vars

end Spawny.Daemon.Child
