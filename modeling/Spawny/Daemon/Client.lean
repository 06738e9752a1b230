import Spawny.Daemon.GreeterTable

/-! # server.c: writing to clients, and the end of a login try

`_send_message`, the two ways a `Client` is released, and `_session_done`, the done callback of a
login try. -/

namespace Spawny.Daemon.Client

open Spawny.Lib.Descriptors Spawny.Protocol.Messages
open Spawny.Daemon.SessionMgt Spawny.Daemon.State Spawny.Daemon.GreeterTable

/-- `_send_message`: the message goes to what the descriptor refers to now. -/
def sendMessage (why : Sender) (type : ServerType) (fb : Option RequestFeedback)
    (data : Option Data) (fd : ℕ) (w : World) : World :=
  w.log (.sent why (lookup w.fdtab fd) ⟨type, fb, data⟩)

/-- `server_spawnservice_feedback`; a `NULL` text is packed as the empty one. -/
def serverSpawnserviceFeedback (why : Sender) (success : Bool) (message : Option String) (fd : ℕ)
    (w : World) : World :=
  sendMessage why .loginFeedback (some ⟨success, message.getD ""⟩) none fd w

/-- `client_free`. -/
def clientFree (c : ℕ) (w : World) : World :=
  ((w.unregisterFd (w.clientAt c).fd).closeFd (w.clientAt c).fd).modClient c
    fun cl => { cl with freed := true }

/-- `client_goodbye`. -/
def clientGoodbye (why : Sender) (c : ℕ) (w : World) : World :=
  clientFree c (sendMessage why .leave none none (w.clientAt c).fd w)

/-- `_session_done` for the try `t` of the client `c`. -/
def sessionDone (a : Answers) (t c : ℕ) (result : SpawnServiceEnd) (w : World) : World :=
  let w := if (w.clientAt c).freed then w.fault else w
  match result.success with
  | .error =>
    (serverSpawnserviceFeedback (.sessionDone t) false result.message (w.clientAt c).fd w).modClient
      c fun cl => { cl with spawnTry := none }
  | .success =>
    let w := greeterLockout (seatGet a.sd (w.clientAt c).pid) w
    let w := serverSpawnserviceFeedback (.sessionDone t) true (some "You are logged in!")
      (w.clientAt c).fd w
    clientGoodbye (.sessionDone t) c (w.modClient c fun cl => { cl with spawnTry := none })

end Spawny.Daemon.Client
