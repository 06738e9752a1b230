import Spawny.Client.Read
import Spawny.Daemon.SessionMgt
import Spawny.Protocol.Requests

/-! # libsp_client/client.c: connecting to the daemon

A client finds the socket of the daemon by its arguments, writes one message, and in one of the two
cases waits for an answer. What `connect`, `write` and `read` answer is a parameter.

* `spClientInit`, `spClientGreeterStart`: the two calls;
* `parseArgs_eq`: the client asks the debug daemon if one of its arguments says so;
* `greeterStart_leave`: the answer that a call waits for. -/

namespace Spawny.Client.Calls

open Spawny.Lib.Wire Spawny.Protocol.Messages Spawny.Protocol.Requests
open Spawny.Daemon.SessionMgt (snprintf)

/-! ### socket_creation.c -/

/-- The paths of the build. -/
structure Sockets where
  spServerSocket : String
  spServerDebugSocket : String

/-- `sp_service_path_get`. -/
def servicePathGet (i : Sockets) (debug : Bool) : String :=
  if debug then i.spServerDebugSocket else i.spServerSocket

/-- The size of `sun_path`. -/
def sizeofSunPath : ℕ := 108

/-- `sp_service_address_setup`. -/
def serviceAddress (i : Sockets) (debug : Bool) : String :=
  snprintf sizeofSunPath (servicePathGet i debug)

/-! ### client.c -/

def isDebug (arg : String) : Bool := arg == "--debug" || arg == "-d"

/-- `_parse_args`; the first argument is the name of the program. -/
def parseArgs (argv : List String) : Bool :=
  argv.tail.foldl (fun debug arg => if isDebug arg then true else debug) false

/-- What the system answers; `read` fails or returns some bytes. -/
structure Answers where
  connect : Bool
  write : Bool
  read : Option (List UInt8)

/-- What a call does: the address it connects to, the message it writes, and whether it succeeds. -/
structure Call where
  address : String
  written : Option GreeterMessage
  result : Bool
  deriving DecidableEq, Repr

/-- `sp_client_init`. -/
def spClientInit (i : Sockets) (argv : List String) (a : Answers) : Call where
  address := serviceAddress i (parseArgs argv)
  written := if a.connect && a.write then some ⟨.hello, none, none⟩ else none
  result := a.connect && a.write

/-- `sp_client_greeter_start`: without a connection the descriptor is -1, and `write` and `read` fail. -/
def spClientGreeterStart (S : FieldCode ServerField) (i : Sockets) (argv : List String) (a : Answers) :
    Call where
  address := serviceAddress i (parseArgs argv)
  written := if a.connect && a.write then some ⟨.greeterStart, none, none⟩ else none
  result :=
    match if a.connect then a.read else none with
    | none => false
    | some buf => (ServerMessage.unpack S buf).any fun msg => msg.type == .leave

/-- **The debug daemon** is asked if an argument says so. -/
theorem parseArgs_eq (argv : List String) : parseArgs argv = argv.tail.any isDebug := by
  have hfold : ∀ (args : List String) (debug : Bool),
      args.foldl (fun debug arg => if isDebug arg then true else debug) debug =
        (debug || args.any isDebug) := by
    intro args
    induction args with
    | nil => exact fun debug => (Bool.or_false debug).symm
    | cons arg args ih =>
      intro debug
      rw [List.foldl_cons, ih, List.any_cons]
      cases isDebug arg <;> simp
  exact hfold argv.tail false

/-- **The answer that is waited for** is a `LEAVE`. -/
theorem greeterStart_leave (S : FieldCode ServerField) (i : Sockets) (argv : List String) {a : Answers}
    (hconnect : a.connect = true) {msg : ServerMessage} (hread : a.read = some (msg.pack S)) :
    (spClientGreeterStart S i argv a).result = true ↔ msg.type = .leave := by
  simp [spClientGreeterStart, hconnect, hread, ServerMessage.unpack_pack]

end Spawny.Client.Calls
