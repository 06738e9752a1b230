import Spawny.Daemon.Greeter

/-! # server.c: the requests of clients

`_accept_ready` with `client_connect`, and `_client_data` with one function for each kind of
request. -/

namespace Spawny.Daemon.Server

open Spawny.Lib.Wire Spawny.Lib.Descriptors Spawny.Protocol.Messages
open Spawny.Daemon.SessionMgt Spawny.Daemon.State Spawny.Daemon.SpawnService
open Spawny.Daemon.GreeterTable Spawny.Daemon.Client Spawny.Daemon.Greeter

variable (C : FieldCode SpawnField)

def FALLBACK_SEAT : String := "seat0"

/-- `client_is_greeter`. -/
def clientIsGreeter (a : Answers) (c : ℕ) (w : World) : Bool :=
  w.debug || greeterExistsSid a (getsid a (w.clientAt c).pid) w

/-- The seat `_client_data` works with: in debug mode a client without a seat gets the fallback. -/
def requestSeat (a : Answers) (c : ℕ) (w : World) : Option String :=
  match seatGet a.sd (w.clientAt c).pid with
  | some seat => some seat
  | none => if w.debug then some FALLBACK_SEAT else none

/-- `HELLO`. -/
def hello (a : Answers) (c fd : ℕ) (w : World) : World :=
  sendMessage (.reply c) .dataUpdate none (some a.data) fd w

/-- `SESSION_ACTIVATION`. -/
def sessionActivation (a : Answers) (c fd : ℕ) (session : Option String) (w : World) : World :=
  match sessionDetails a.sd a.locals session none with
  | none => serverSpawnserviceFeedback (.reply c) false (some "Session not found") fd w
  | some _ =>
    let seat := requestSeat a c w
    let w := sessionActivate session w
    let w := serverSpawnserviceFeedback (.reply c) false
      (some "Activation is called on this session") fd w
    clientGoodbye (.reply c) c (greeterLockout seat w)

/-- `template_details_get` into `settings`, which holds `junk` before; for an id that is not
registered nothing is stored. -/
def templateSettings (id : String) (junk : XdgSettings) (w : World) : XdgSettings :=
  match w.templates.find? fun tp => tp.id == id with
  | some tp => { junk with sessionDesktop := some tp.name, sessionType := some tp.type }
  | none => junk

/-- The arguments `_client_data` gives to `spawnservice_spawn`. -/
def loginRequest (a : Answers) (c fd : ℕ) (l : Login) (w : World) : SpawnRequest where
  done := .sessionDone c
  job := .sessionJob l.templateId
  sessionEnded := some .reexecuteGreeter
  service := "spawny"
  usr := l.user
  pw := some l.password
  settings := { templateSettings l.templateId a.settings w with sessionSeat := requestSeat a c w }
  origin := lookup w.fdtab fd

/-- `LOGIN_TRY` with its payload. -/
def loginTry (a : Answers) (c fd : ℕ) (l : Login) (w : World) : World :=
  if (w.clientAt c).spawnTry.isSome then
    serverSpawnserviceFeedback (.reply c) false (some "There is already a login try!") fd w
  else
    let s := spawnserviceSpawn C (onDone C a) a (loginRequest a c fd l w) w
    let w := s.1.modClient c fun cl => { cl with spawnTry := s.2 }
    if s.2.isNone then serverSpawnserviceFeedback (.reply c) false (some "spawn failed.") fd w
    else w

/-- `GREETER_START`. -/
def greeterStartRequest (a : Answers) (c : ℕ) (w : World) : World :=
  if a.alive (w.clientAt c).pid then
    clientGoodbye (.reply c) c (greeterActivate C a ((requestSeat a c w).getD FALLBACK_SEAT) w)
  else clientFree c w

/-- The `switch` of `_client_data`. The three safe calls release a client that is not a greeter. -/
def clientMessage (a : Answers) (c fd : ℕ) (m : GreeterMessage) (w : World) : World :=
  match m.type with
  | .hello => if clientIsGreeter a c w then hello a c fd w else clientFree c w
  | .sessionActivation =>
    if clientIsGreeter a c w then sessionActivation a c fd m.session w else clientFree c w
  | .loginTry =>
    if clientIsGreeter a c w then
      match m.login with
      | none => if (w.clientAt c).spawnTry.isSome then
          serverSpawnserviceFeedback (.reply c) false (some "There is already a login try!") fd w
        else w.fault
      | some l => loginTry C a c fd l w
    else clientFree c w
  | .greeterStart => greeterStartRequest C a c w
  | .unknown _ => w

/-- `_client_data`. At the end the fallback seat, a string literal, is given to `free`. -/
def clientData (a : Answers) (c fd : ℕ) (w : World) : World :=
  match a.input with
  | .eof => clientFree c (w.unregisterFd fd)
  | .bad => clientFree c (w.unregisterFd fd)
  | .msg m =>
    let fallbackSeat := (seatGet a.sd (w.clientAt c).pid).isNone && w.debug
    let w := clientMessage C a c fd m w
    if fallbackSeat then w.fault else w

/-- `_accept_ready` with `client_connect`: the new connection takes the lowest free descriptor; if
the credentials cannot be read, the `Client` is freed and the descriptor stays open. -/
def acceptReady (a : Answers) (w : World) : World :=
  let c := w.clients.length
  let fd := lowestFree w.fdtab
  let w := w.openFd (.sock c)
  match a.peer with
  | none => { w with clients := w.clients ++ [{ fd := 0, pid := 0, spawnTry := none, freed := true }] }
  | some pid =>
    World.registerFd fd (.clientData c)
      { w with clients := w.clients ++ [{ fd := fd, pid := pid, spawnTry := none, freed := false }] }

end Spawny.Daemon.Server
