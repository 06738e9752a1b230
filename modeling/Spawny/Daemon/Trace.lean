import Spawny.Daemon.SafeCalls
import Spawny.Daemon.Steps

/-! # What was recorded stays recorded

The trace only grows, so a fact about the trace at the end of a run is one about the whole run.

* `trace_step`, `trace_run`: the trace before is a prefix of the trace after. -/

namespace Spawny.Daemon.Trace

open Spawny.Lib.Wire Spawny.Lib.Runs Spawny.Protocol.Messages
open Spawny.Daemon.State Spawny.Daemon.SpawnService
open Spawny.Daemon.GreeterTable Spawny.Daemon.Client Spawny.Daemon.Greeter Spawny.Daemon.Activations
open Spawny.Daemon.Server Spawny.Daemon.SafeCalls Spawny.Daemon.Loop Spawny.Daemon.Steps

variable {C : FieldCode SpawnField} {os : List Obs}

/-- The trace begins with `os`. -/
def Began (os : List Obs) (w : World) : Prop := os <+: w.trace

theorem Began.congr {w w' : World} (h : Began os w) (htrace : w'.trace = w.trace) : Began os w' := by
  rw [Began, htrace]
  exact h

theorem Began.append {w w' : World} {os' : List Obs} (h : Began os w)
    (htrace : w'.trace = w.trace ++ os') : Began os w' := by
  rw [Began, htrace]
  exact h.trans (List.prefix_append _ _)

theorem Began.log {w : World} (h : Began os w) (o : Obs) : Began os (w.log o) :=
  h.trans (List.prefix_append _ _)

theorem Began.fault {w : World} (h : Began os w) : Began os w.fault := h

theorem Began.modTry {w : World} (h : Began os w) (t : ℕ) (f : SpawnTry → SpawnTry) :
    Began os (w.modTry t f) := h

theorem Began.unregisterFd {w : World} (h : Began os w) (fd : ℕ) :
    Began os (w.unregisterFd fd) := h

theorem Began.modClient {w : World} (h : Began os w) (c : ℕ) (f : State.Client → State.Client) :
    Began os (w.modClient c f) := h

theorem Began.feedback {w : World} (h : Began os w) (why : Sender) (success : Bool)
    (message : Option String) (fd : ℕ) :
    Began os (serverSpawnserviceFeedback why success message fd w) := h.log _

theorem Began.clientFree {w : World} (h : Began os w) (c : ℕ) : Began os (clientFree c w) :=
  h.congr rfl

theorem Began.clientGoodbye {w : World} (h : Began os w) (why : Sender) (c : ℕ) :
    Began os (clientGoodbye why c w) := (h.log _).clientFree c

theorem Began.greeterLockout {w : World} (h : Began os w) (seat : Option String) :
    Began os (greeterLockout seat w) := h.trans (prefix_greeterLockout seat w)

theorem Began.sessionActivate {w : World} (h : Began os w) (session : Option String) :
    Began os (sessionActivate session w) := h.trans (prefix_sessionActivate session w)

theorem Began.forceQuit {w : World} (h : Began os w) (t : ℕ) : Began os (forceQuit t w) := by
  unfold SpawnService.forceQuit
  split_ifs
  · exact h.log _
  · exact h

theorem Began.sessionDone {w : World} (h : Began os w) (a : Answers) (t c : ℕ)
    (result : SpawnServiceEnd) : Began os (sessionDone a t c result w) := by
  have hfault : Began os (if (w.clientAt c).freed then w.fault else w) := by
    split_ifs <;> exact h
  unfold Client.sessionDone
  dsimp only
  generalize (if (w.clientAt c).freed then w.fault else w) = w' at hfault ⊢
  cases result.success with
  | error => exact (hfault.feedback _ _ _ _).modClient c _
  | success => exact (((hfault.greeterLockout _).feedback _ _ _ _).modClient c _).clientGoodbye _ c

theorem Began.calledBack {w : World} (h : Began os w) (t : ℕ) :
    Began os (calledBack t w) := h.append (trace_calledBack w t)

theorem Began.release {w : World} (h : Began os w) (t : ℕ) : Began os (release t w) :=
  h.congr (trace_release w t)

theorem Began.childForked {w : World} (h : Began os w) (pid : ℕ) (req : SpawnRequest) :
    Began os (childForked w.tries.length pid (openTry req w)) :=
  h.append ((trace_childForked (openTry req w) _ pid).trans (by rw [trace_openTry]))

theorem Began.tryFailed {w : World} (h : Began os w) (noTty : Bool) (req : SpawnRequest) :
    Began os (tryFailed C noTty req w) := h.trans (prefix_tryFailed C noTty req w)

theorem greeterOps_began (a : Answers) (os : List Obs) : GreeterOps C a (Began os) where
  session _ h := h.log _
  add _ h := h
  noPipe _ _ h := h
  forked pid _ _ h := Began.congr (h.childForked pid _) rfl
  failed noTty _ _ _ _ _ h := Began.congr ((h.tryFailed noTty _).log _) rfl
  returned {_ _ t _} _ _ _ _ _ h := Began.congr (h.release t) rfl

theorem Began.activate {w : World} (h : Began os w) (a : Answers) (seat : String) :
    Began os (greeterActivate C a seat w) := (greeterOps_began a os).activate C seat h

theorem Began.freed {a : Answers} {t : ℕ} {w w' : World} (h : Began os w) (hf : Freed C a t w w') :
    Began os w' := by
  have hcalled := h.calledBack t
  cases hf with
  | login c _ => exact (hcalled.sessionDone a t c _).release t
  | lost g _ _ => exact Began.release (hcalled.log _).fault t
  | restarted g r _ _ _ =>
    have hfailed : Began os (greeterStartFailed t g (SpawnService.calledBack t w)) :=
      Began.congr (hcalled.log _) rfl
    exact (hfailed.activate a r.seat).release t
  | noTry g r _ _ _ _ => exact Began.release ((hcalled.log _).log _).fault t
  | started g r t' _ _ _ _ =>
    have hstarted : Began os (greeterStarted t g t' (SpawnService.calledBack t w)) :=
      Began.congr ((hcalled.log _).log _) rfl
    exact hstarted.release t

theorem Began.clientData {a : Answers} {c fd : ℕ} {w w' : World} (h : Began os w)
    (hdoes : ClientData C a c fd w w') : Began os w' := by
  induction hdoes with
  | closed _ => exact Began.clientFree (h.unregisterFd fd) c
  | dropped _ => exact h.clientFree c
  | replied msg => exact h.log _
  | activated _ session seat =>
    exact (((h.sessionActivate session).feedback _ _ _ _).greeterLockout seat).clientGoodbye _ c
  | noLogin => exact h
  | noPipe _ => exact h.log _
  | loginForked _ _ l pid => exact Began.congr (h.childForked _ _) rfl
  | loginFailed _ l noTty _ _ _ =>
    exact Began.congr (((h.tryFailed noTty _).sessionDone a _ c _).release w.tries.length) rfl
  | started _ m _ _ _ => exact Began.clientGoodbye (h.activate a _) _ c
  | ignored => exact h
  | fallback w' _ ih => exact ih

theorem Began.childData {a : Answers} {t fd : ℕ} {w w' : World} (h : Began os w)
    (hdoes : ChildData C a t fd w w') : Began os w' := by
  have hread := h.modTry t SpawnTry.readPipe
  cases hdoes with
  | undecodable _ => exact (hread.unregisterFd fd).forceQuit t
  | connect _ _ _ => exact hread
  | setupDone _ _ _ session =>
    refine Began.sessionActivate ?_ session
    split_ifs
    · exact (hread.modTry t _).forceQuit t
    · exact hread.modTry t _
  | sessionActive _ _ _ w' hfree => exact ((hread.unregisterFd _).modTry t _).freed hfree
  | errorExit _ _ _ reason _ => exact (hread.unregisterFd _).modTry t _
  | noReason _ _ _ _ => exact hread

theorem Began.called {a : Answers} {t : ℕ} {hd : Handler} {w w' : World} (h : Began os w)
    (hcalled : Called C a t w hd w') : Began os w' := by
  cases hcalled with
  | disappeared t' w' hfree => exact h.freed hfree
  | lost g _ => exact h.log _
  | ended g r _ _ => exact Began.congr (h.log _) rfl
  | restarted g r _ _ =>
    have hreset : Began os (greeterReset g (w.log (.greeterCb t (some r.seat)))) :=
      Began.congr (h.log _) rfl
    exact hreset.activate a r.seat

theorem Began.step {w : World} (h : Began os w) (e : Event) : Began os (step C w e) := by
  have hdoes := step_does C w e
  generalize Loop.step C w e = w' at hdoes
  cases hdoes with
  | idle _ => exact h
  | select _ _ _ _ => exact h
  | endPass _ _ => exact h
  | pass _ _ => exact h
  | accept a _ =>
    refine h.congr ?_
    unfold acceptReady
    cases a.peer <;> rfl
  | client a c fd w' _ _ hdoes => exact Began.clientData (w := advance w) h hdoes
  | child a t fd w' _ _ hdoes => exact Began.childData (w := advance w) h hdoes
  | sigchld _ => exact h
  | reap _ _ _ _ _ _ _ => exact h
  | scanEnd _ _ _ _ _ => exact h
  | scanPass _ _ _ _ _ _ _ => exact h
  | scanZeroed _ _ _ _ _ _ _ => exact h
  | visit a t i pid hd w' _ _ _ hcalled => exact (h.called hcalled).congr rfl
  | sigchldReturn _ => exact h
  | childWrite _ _ _ => exact h
  | childHangUp _ _ => exact h
  | childExit _ _ => exact h

theorem trace_step (w : World) (e : Event) : w.trace <+: (step C w e).trace :=
  Began.step List.prefix_rfl e

/-- **The trace only grows.** -/
theorem trace_run (w : World) (es : List Event) : w.trace <+: (run (step C) w es).trace :=
  run_induction (I := Began w.trace) (fun _ e h => h.step e) es w List.prefix_rfl

end Spawny.Daemon.Trace
