import Spawny.Daemon.SpawnService
import Spawny.Daemon.Client

/-! # greeter.c: starting greeters

`greeter_activate` starts a greeter for a seat, and its two callbacks start it again when it fails.
If the spawn fails at once, the done callback runs inside `spawnservice_spawn` and activates the seat
again, so `greeterActivateUpTo n` is the function with at most `n` nested calls. Each nested call is
for a record with a higher `run_gen`, and none is made above `FALLBACK_RUN_GENERATION`: `maxActivate`
calls are enough (`greeterActivateUpTo_eq`). -/

namespace Spawny.Daemon.Greeter

open Spawny.Lib.Wire Spawny.Protocol.Messages
open Spawny.Daemon.SessionMgt Spawny.Daemon.State Spawny.Daemon.SpawnService
open Spawny.Daemon.GreeterTable Spawny.Daemon.Client

variable (C : FieldCode SpawnField)

def FALLBACK_RUN_GENERATION : ℕ := 5

/-- The seat of the record a `Seat_Greeter` pointer refers to, `none` outside of the array. -/
def seatAt (w : World) (g : ℕ) : Option String := (w.greeters[g]?).map SeatGreeter.seat

/-- What both callbacks do to the record of a greeter that has to be started again. -/
def greeterReset (g : ℕ) (w : World) : World :=
  w.modGreeter g fun r => SeatGreeter.runReset { r with runGen := r.runGen + 1 }

/-- `_greeter_start_done` for the try `t` with the slot `g` as its data. -/
def greeterStartDone (activate : String → World → World) (t g : ℕ) (result : SpawnServiceEnd)
    (w : World) : World :=
  let w := w.log (.greeterCb t (seatAt w g))
  match w.greeters[g]? with
  | none => w.fault
  | some r =>
    match result.success with
    | .error => activate r.seat (greeterReset g w)
    | .success =>
      let w := w.log (.startDone t r.runTry)
      match r.runTry with
      | none => w.fault
      | some t' =>
        let pid := (w.tryAt t').pid
        (w.modGreeter g fun r => { r with runTry := none, runPid := pid }).listen pid (.greeterDone g)

/-- `_greeter_done`, called for the end of the child of the try `t`, with the slot `g` as its data. -/
def greeterDone (activate : String → World → World) (t g : ℕ) (w : World) : World :=
  let w := w.log (.greeterCb t (seatAt w g))
  match w.greeters[g]? with
  | none => w.fault
  | some r =>
    if r.ended then greeterDel r.seat w else activate r.seat (greeterReset g w)

/-- The two done callbacks. -/
def doneCb (a : Answers) (activate : String → World → World) : OnDone := fun t result w =>
  match (w.tryAt t).done with
  | .sessionDone c => sessionDone a t c result w
  | .greeterStartDone g => greeterStartDone activate t g result w

/-- The session of the try or of the process of a record. -/
def greeterSession (a : Answers) (r : SeatGreeter) (w : World) : Option String :=
  match r.runTry with
  | some t => sessionGet a.sd (w.tryAt t).pid
  | none => if r.runPid ≠ -1 then sessionGet a.sd r.runPid else none

/-- The arguments `greeter_activate` gives to `spawnservice_spawn`. -/
def greeterRequest (g : ℕ) (seat : String) : SpawnRequest where
  done := .greeterStartDone g
  job := .greeterJob g
  sessionEnded := none
  service := "spawny-greeter"
  usr := "spawny"
  pw := none
  settings := ⟨none, none, some seat⟩
  origin := none

/-- `greeter_activate` on the record in slot `g`. -/
def greeterStart (onDone : OnDone) (a : Answers) (g : ℕ) (r : SeatGreeter) (w : World) : World :=
  match greeterSession a r w with
  | some session => sessionActivate (some session) w
  | none =>
    if r.runGen ≤ FALLBACK_RUN_GENERATION then
      let s := spawnserviceSpawn C onDone a (greeterRequest g r.seat) w
      s.1.modGreeter g fun r => { r with runTry := s.2 }
    else w

/-- The record of a seat, added if there is none. -/
def greeterRecord (seat : String) (w : World) : World × ℕ :=
  match greeterSearch seat w with
  | some g => (w, g)
  | none => (greeterAdd seat w, w.greeters.length)

/-- `greeter_activate` with at most `n` nested calls. -/
def greeterActivateUpTo : ℕ → Answers → String → World → World
  | 0, _, _, w => w
  | n + 1, a, seat, w =>
    let s := greeterRecord seat w
    greeterStart C (doneCb a (greeterActivateUpTo n a)) a s.2 ((s.1.greeters[s.2]?).getD default) s.1

/-- One call for each value of `run_gen` up to `FALLBACK_RUN_GENERATION`, and the last one. -/
def maxActivate : ℕ := FALLBACK_RUN_GENERATION + 2

/-- `greeter_activate`. -/
def greeterActivate (a : Answers) (seat : String) (w : World) : World :=
  greeterActivateUpTo C maxActivate a seat w

/-- The done callbacks of the daemon. -/
def onDone (a : Answers) : OnDone := doneCb a (greeterActivate C a)

end Spawny.Daemon.Greeter
