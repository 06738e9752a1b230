import Spawny.Lib.Runs
import Spawny.Daemon.Server

/-! # The daemon as a transition system

One event is one step of the daemon or of its environment: `select` returns, the read pass goes to
the next entry, the `SIGCHLD` handler is entered, reaps a child, goes to the next listener or returns,
and a child writes to its pipe, closes it or ends. The handler is entered between two callbacks or during
`select`, and the daemon does nothing else before it returns; children go on at any time.

An event that is not possible in a state leaves it as it is. A run from `World.start` is a sequence
of events (`Spawny.Lib.Runs.run (step C)`). -/

namespace Spawny.Daemon.Loop

open Spawny.Lib.Wire Spawny.Lib.Descriptors Spawny.Protocol.Messages
open Spawny.Daemon.SpawnRegistry Spawny.Daemon.State Spawny.Daemon.SpawnService
open Spawny.Daemon.Greeter Spawny.Daemon.Server

variable (C : FieldCode SpawnField)

/-- What a child tells the daemon: `_service_message` without a text, or `_service_com_exit`. -/
inductive ServiceMessage
  | connect
  | setupDone
  | sessionActive
  | errorExit (reason : String)
  deriving DecidableEq, Repr

def ServiceMessage.message : ServiceMessage → SpawnMessage
  | connect => ⟨.connect, none⟩
  | setupDone => ⟨.setupDone, none⟩
  | sessionActive => ⟨.sessionActive, none⟩
  | errorExit reason => ⟨.errorExit, some reason⟩

inductive Event
  | select (readable error : List ℕ)
  | next (a : Answers)
  | sigchld
  | reap (spawnTry : ℕ)
  | visit (a : Answers)
  | sigchldReturn
  | childWrite (spawnTry : ℕ) (m : ServiceMessage)
  | childHangUp (spawnTry : ℕ)
  | childExit (spawnTry : ℕ)

/-- The child of a try is a process that has not ended. -/
def SpawnTry.running (tr : SpawnTry) : Bool := tr.childPid != 0 && !tr.exited

/-- A `read` on the pipe has nothing to return yet. -/
def SpawnTry.blocks (tr : SpawnTry) : Bool :=
  tr.pipe.isEmpty && SpawnTry.running tr && !tr.hungUp

/-- The callback of a descriptor that `select` reported. -/
def dispatch (a : Answers) (fd : ℕ) (cb : FdCb) (w : World) : World :=
  match cb with
  | .acceptReady => acceptReady a w
  | .clientData c => clientData C a c fd w
  | .childData t => childData C (onDone C a) a t fd w

/-- One round of the read pass of `manager_run`, or the end of the pass. A `read` that blocks keeps
the daemon where it is. -/
def nextStep (a : Answers) (w : World) : World :=
  match w.fds.fds[w.fds.next]? with
  | none => { w with fds := w.fds.endPass }
  | some r =>
    let w' : World := { w with fds := { w.fds with next := w.fds.next + 1 } }
    match r.cb with
    | none => w'
    | some cb =>
      if r.fd ∈ w.fds.ready then
        match cb with
        | .childData t => if SpawnTry.blocks (w.tryAt t) then w else dispatch C a r.fd cb w'
        | _ => dispatch C a r.fd cb w'
      else w'

/-- `waitpid` returns the child of the try `t`. -/
def reapStep (t : ℕ) (w : World) : World :=
  if (w.tryAt t).childPid ≠ 0 ∧ (w.tryAt t).reaped = false then
    { w.modTry t fun tr => { tr with exited := true, reaped := true } with scan := some (t, 0) }
  else w

/-- The handler of a listener, called for the end of the child of the try `t`. -/
def callHandler (a : Answers) (t : ℕ) (h : Handler) (w : World) : World :=
  match h with
  | .spawnedSessionDisappear t' => spawnTryFree (onDone C a) t' w
  | .greeterDone g => greeterDone (greeterActivate C a) t g w

/-- One round of the inner loop of `spawnregistery_eval`, or its end. -/
def visitStep (a : Answers) (t i : ℕ) (w : World) : World :=
  match w.registry.pending[i]? with
  | none => { w with scan := none }
  | some e =>
    let w' : World :=
      if e.pid = (w.tryAt t).childPid then
        match e.handler with
        | none => w.fault
        | some h => (callHandler C a t h w).unlisten e.pid h
      else w
    { w' with scan := some (t, i + 1) }

/-- **The transition function.** -/
def step (w : World) : Event → World
  | .select readable error =>
    if w.fds.readout = false ∧ w.registry.evalMode = false then
      { w with fds := w.fds.selectReturns readable error }
    else w
  | .next a =>
    if w.fds.readout = true ∧ w.registry.evalMode = false then nextStep C a w else w
  | .sigchld =>
    if w.registry.evalMode = false then
      { w with registry := { w.registry with evalMode := true } }
    else w
  | .reap t =>
    if w.registry.evalMode = true ∧ w.scan = none then reapStep t w else w
  | .visit a =>
    match w.scan with
    | some (t, i) => visitStep C a t i w
    | none => w
  | .sigchldReturn =>
    if w.registry.evalMode = true ∧ w.scan = none then
      { w with registry := { pending := cleanup w.registry.pending, evalMode := false } }
    else w
  | .childWrite t m =>
    if SpawnTry.running (w.tryAt t) && !(w.tryAt t).hungUp then
      w.modTry t (SpawnTry.writePipe C m.message)
    else w
  | .childHangUp t =>
    if SpawnTry.running (w.tryAt t) then w.modTry t fun tr => { tr with hungUp := true } else w
  | .childExit t =>
    if SpawnTry.running (w.tryAt t) then w.modTry t fun tr => { tr with exited := true } else w

/-! ### Some events -/

/-- A turn of `manager_run` in which the descriptors `fds` are readable; the events after the end of
the pass are idle. -/
def turn (fds : List ℕ) (a : Answers) : List Event := .select fds [] :: List.replicate 8 (.next a)

/-- Client 0 connects. -/
def connects : List Event := turn [3] Answers.plain

/-- Client 0 connects and asks for a greeter. -/
def greeterStarts : List Event :=
  connects ++ turn [4] { Answers.plain with input := .msg ⟨.greeterStart, none, none⟩ }

end Spawny.Daemon.Loop
