import Spawny.Daemon.Activation
import Spawny.Daemon.Processes
import Spawny.Daemon.SafeCalls
import Spawny.Daemon.TryCells

/-! # Whom the daemon kills

`_force_quit` sends `SIGKILL` to the number in the field `pid` of a try. The numbers of processes are
used again, and nothing is told to the try when its number is given to another process.

* `Spares`: nobody was killed;
* `kills_step`: **a step kills for the try whose message it reads**, or not at all;
* `killed_own`: **only children of the daemon are killed** that have not been reaped, in every run. -/

namespace Spawny.Daemon.Kills

open Spawny.Lib.Descriptors Spawny.Lib.Wire Spawny.Lib.Runs Spawny.Protocol.Messages
open Spawny.Daemon.Manager Spawny.Daemon.SpawnRegistry
open Spawny.Daemon.SessionMgt Spawny.Daemon.State Spawny.Daemon.SpawnService
open Spawny.Daemon.GreeterTable Spawny.Daemon.Client Spawny.Daemon.Greeter Spawny.Daemon.Activations
open Spawny.Daemon.Activation
open Spawny.Daemon.Server Spawny.Daemon.SafeCalls Spawny.Daemon.Loop Spawny.Daemon.Steps
open Spawny.Daemon.Trace Spawny.Daemon.TryViews Spawny.Daemon.TryLife Spawny.Daemon.Processes

variable {C : FieldCode SpawnField} {w w' w'' : World}

/-! ### Nobody is killed -/

/-- The numbers that were killed. -/
def kills (os : List Obs) : List ℤ :=
  os.filterMap fun o => match o with
    | .killed pid => some pid
    | _ => none

@[simp] theorem kills_append (os os' : List Obs) : kills (os ++ os') = kills os ++ kills os' :=
  List.filterMap_append

/-- Nobody was killed since `w`. -/
def Spares (w w' : World) : Prop := kills w'.trace = kills w.trace

theorem Spares.refl (w : World) : Spares w w := rfl

theorem Spares.still (h : Spares w w') (htrace : w''.trace = w'.trace) : Spares w w'' := by
  rw [Spares, htrace]
  exact h

theorem Spares.append (h : Spares w w') {l : List Obs} (htrace : w''.trace = w'.trace ++ l)
    (hl : kills l = []) : Spares w w'' := by
  rw [Spares, htrace, kills_append, hl, List.append_nil]
  exact h

theorem Spares.log (h : Spares w w') {o : Obs} (ho : kills [o] = []) : Spares w (w'.log o) :=
  h.append rfl ho

theorem Spares.release (h : Spares w w') (t : ℕ) : Spares w (release t w') :=
  h.still (trace_release w' t)

theorem Spares.calledBack (h : Spares w w') (t : ℕ) : Spares w (calledBack t w') :=
  h.append (trace_calledBack w' t) rfl

theorem Spares.forks (h : Spares w w') (req : SpawnRequest) (pid : ℕ) :
    Spares w (childForked w'.tries.length pid (openTry req w')) :=
  h.append ((trace_childForked (openTry req w') _ pid).trans (by rw [trace_openTry])) rfl

theorem Spares.fails (h : Spares w w') (noTty : Bool) (req : SpawnRequest) :
    Spares w (tryFailed C noTty req w') := h.append (trace_tryFailed C w' noTty req) rfl

theorem Spares.greeterLockout (h : Spares w w') (seat : Option String) :
    Spares w (greeterLockout seat w') := by
  rcases trace_greeterLockout seat w' with htrace | ⟨s, htrace⟩
  · exact h.still htrace
  · exact h.append htrace rfl

theorem Spares.sessionActivate (h : Spares w w') (session : Option String) :
    Spares w (sessionActivate session w') := by
  cases session with
  | none => exact h
  | some s => exact h.log rfl

theorem Spares.goodbye (h : Spares w w') (why : Sender) (c : ℕ) :
    Spares w (clientGoodbye why c w') := h.append (l := [_]) rfl rfl

theorem Spares.sessionDone (h : Spares w w') (a : Answers) (t c : ℕ) (result : SpawnServiceEnd) :
    Spares w (sessionDone a t c result w') := by
  have hfault : Spares w (if (w'.clientAt c).freed then w'.fault else w') := by
    split_ifs <;> exact h
  unfold Client.sessionDone
  dsimp only
  generalize (if (w'.clientAt c).freed then w'.fault else w') = w₁ at hfault ⊢
  cases result.success with
  | error => exact hfault.append (l := [_]) rfl rfl
  | success =>
    have hlock := hfault.greeterLockout (seatGet a.sd (w₁.clientAt c).pid)
    refine Spares.goodbye ?_ _ c
    exact hlock.append (l := [_]) rfl rfl

theorem greeterOps_spares (a : Answers) (w : World) : GreeterOps C a (Spares w) where
  session _ h := h.log rfl
  add _ h := h.still rfl
  noPipe _ _ h := h.still rfl
  forked _ _ _ h := (h.forks _ _).still rfl
  failed noTty _ _ _ _ _ h := ((h.fails noTty _).log rfl).still (World.modGreeter_trace _ _ _)
  returned {_ _ t _} _ _ _ _ _ h := (h.release t).still (World.modGreeter_trace _ _ _)

theorem Spares.activate (h : Spares w w') (a : Answers) (seat : String) :
    Spares w (greeterActivate C a seat w') := (greeterOps_spares a w).activate C seat h

theorem Spares.freed (h : Spares w w') {a : Answers} {t : ℕ} (hf : Freed C a t w' w'') :
    Spares w w'' := by
  have hcalled := h.calledBack t
  cases hf with
  | login c _ => exact (hcalled.sessionDone a t c _).release t
  | lost g _ _ => exact Spares.release (hcalled.append (l := [_]) rfl rfl) t
  | restarted g r _ _ _ =>
    have hfailed : Spares w (greeterStartFailed t g (SpawnService.calledBack t w')) :=
      hcalled.append (l := [_]) rfl rfl
    exact (hfailed.activate a r.seat).release t
  | noTry g r _ _ _ _ => exact Spares.release ((hcalled.log rfl).append (l := [_]) rfl rfl) t
  | started g r t' _ _ _ _ =>
    have hlogs := (hcalled.log (o := .greeterCb t (seatAt (SpawnService.calledBack t w') g)) rfl).log
      (o := .startDone t (some t')) rfl
    have hstarted : Spares w (greeterStarted t g t' (SpawnService.calledBack t w')) := hlogs.still rfl
    exact hstarted.release t

theorem Spares.clientData (h : Spares w w') {a : Answers} {c fd : ℕ}
    (hdoes : ClientData C a c fd w' w'') : Spares w w'' := by
  induction hdoes with
  | closed _ => exact h.still rfl
  | dropped _ => exact h.still rfl
  | replied msg => exact h.log rfl
  | activated _ session seat =>
    have hsent := (h.sessionActivate session).log (o := .sent (.reply c) (lookup
      (SpawnService.sessionActivate session w').fdtab fd) ⟨.loginFeedback, some ⟨false,
        "Activation is called on this session"⟩, none⟩) rfl
    exact (hsent.greeterLockout seat).goodbye _ c
  | noLogin => exact h.still rfl
  | noPipe _ => exact h.append (l := [_]) rfl rfl
  | loginForked _ _ l pid => exact (h.forks _ _).still (World.modClient_trace _ _ _)
  | loginFailed _ l noTty _ _ _ =>
    have hfailed : Spares w (tryFailed C noTty (loginRequest a c fd l w') w') := h.fails noTty _
    exact ((hfailed.sessionDone a _ c _).release _).still (World.modClient_trace _ _ _)
  | started _ m _ _ _ => exact (h.activate a _).goodbye _ c
  | ignored => exact h
  | fallback w'' _ ih => exact ih.still rfl

theorem Spares.called (h : Spares w w') {a : Answers} {t : ℕ} {hd : Handler}
    (hcalled : Called C a t w' hd w'') : Spares w w'' := by
  cases hcalled with
  | disappeared t' w'' hfree => exact h.freed hfree
  | lost g _ => exact h.append (l := [_]) rfl rfl
  | ended g r _ _ => exact h.append (l := [_]) rfl rfl
  | restarted g r _ _ =>
    have hreset : Spares w (greeterReset g (w'.log (.greeterCb t (some r.seat)))) :=
      h.append (l := [_]) rfl rfl
    exact hreset.activate a r.seat

/-! ### The kills of a step -/

/-- Whom `_force_quit` kills for the try `t`, if it is called. -/
theorem kills_forceQuit (t : ℕ) (w : World) : Spares w (forceQuit t w) ∨
    (0 < (w.tryAt t).pid ∧ kills (forceQuit t w).trace = kills w.trace ++ [(w.tryAt t).pid]) := by
  unfold forceQuit
  split_ifs with hpos
  · exact Or.inr ⟨hpos, kills_append _ _⟩
  · exact Or.inl rfl

/-- **What `_child_data` kills.** -/
theorem kills_childData {a : Answers} {t fd : ℕ} {tr : SpawnTry} (htr : w.tries[t]? = some tr)
    (hdoes : ChildData C a t fd w w') :
    Spares w w' ∨ (0 < tr.pid ∧ kills w'.trace = kills w.trace ++ [tr.pid]) := by
  have hset : ∀ {w : World} {tr : SpawnTry} (f : SpawnTry → SpawnTry), (∀ tr, (f tr).pid = tr.pid) →
      w.tries[t]? = some tr → ((w.modTry t f).tryAt t).pid = tr.pid := by
    intro w tr f hf htr
    have hget : (w.modTry t f).tries[t]? = some (f tr) := by
      rw [World.getElem?_modTry, htr, Option.map_some, if_pos rfl]
    rw [World.tryAt_eq hget, hf]
  have hread := hset SpawnTry.readPipe (fun _ => rfl) htr
  cases hdoes with
  | undecodable _ =>
    have h := kills_forceQuit t ((w.modTry t SpawnTry.readPipe).unregisterFd fd)
    have hpid : (((w.modTry t SpawnTry.readPipe).unregisterFd fd).tryAt t).pid = tr.pid := hread
    rw [hpid] at h
    exact h
  | connect _ _ _ => exact Or.inl rfl
  | setupDone _ _ _ session =>
    have hkill : ∀ w₁ : World, Spares w w₁ ∨ (0 < tr.pid ∧ kills w₁.trace = kills w.trace ++ [tr.pid]) →
        Spares w (sessionActivate session w₁) ∨ (0 < tr.pid ∧
          kills (sessionActivate session w₁).trace = kills w.trace ++ [tr.pid]) := by
      intro w₁ h
      have hsame : kills (sessionActivate session w₁).trace = kills w₁.trace :=
        (Spares.refl w₁).sessionActivate session
      rw [Spares, hsame]
      exact h
    refine hkill _ ?_
    split_ifs
    · have h := kills_forceQuit t ((w.modTry t SpawnTry.readPipe).modTry t
        fun tr => { tr with session := session })
      have hpid : (((w.modTry t SpawnTry.readPipe).modTry t
          fun tr => { tr with session := session }).tryAt t).pid = tr.pid := by
        have hget : (w.modTry t SpawnTry.readPipe).tries[t]? = some (SpawnTry.readPipe tr) := by
          rw [World.getElem?_modTry, htr, Option.map_some, if_pos rfl]
        exact (hset (fun tr => { tr with session := session }) (fun _ => rfl) hget).trans rfl
      rw [hpid] at h
      exact h
    · exact Or.inl rfl
  | sessionActive _ _ _ w' hfree =>
    have hbefore : Spares w (((w.modTry t SpawnTry.readPipe).unregisterFd (w.tryAt t).readFd).modTry t
        fun tr => { tr with success := .success }) := rfl
    exact Or.inl (hbefore.freed hfree)
  | errorExit _ _ _ reason _ => exact Or.inl rfl
  | noReason _ _ _ _ => exact Or.inl rfl

/-- **A step kills for the try whose message it reads**, or not at all. -/
theorem kills_step (hlife : Life none w) (e : Event) : Spares w (step C w e) ∨
    ∃ a t fd tr, e = .next a ∧ ready w = some ⟨some (.childData t), fd⟩ ∧
      w.registry.evalMode = false ∧ w.tries[t]? = some tr ∧ 0 < tr.pid ∧
        kills (step C w e).trace = kills w.trace ++ [tr.pid] := by
  have hdoes := step_does C w e
  generalize step C w e = w' at hdoes
  have hadvance : Spares w (advance w) := rfl
  cases hdoes with
  | idle _ => exact Or.inl rfl
  | select _ _ _ _ => exact Or.inl rfl
  | endPass _ _ => exact Or.inl rfl
  | pass _ _ => exact Or.inl rfl
  | accept a _ _ _ =>
    refine Or.inl (hadvance.still ?_)
    unfold acceptReady
    cases a.peer <;> rfl
  | client a c fd w' _ _ hdoes _ => exact Or.inl (hadvance.clientData hdoes)
  | child a t fd w' heval hready hdoes _ =>
    obtain ⟨v, hv, -⟩ := hlife.read (ready_mem_live (w := w) hready) rfl
    obtain ⟨tr, htr, -⟩ := view_eq_some.mp hv
    rcases kills_childData (w := advance w) htr hdoes with hspares | ⟨hpos, hkills⟩
    · exact Or.inl hspares
    · exact Or.inr ⟨a, t, fd, tr, rfl, hready, heval, htr, hpos, hkills⟩
  | sigchld _ => exact Or.inl rfl
  | reap _ _ _ _ _ _ _ => exact Or.inl rfl
  | scanEnd _ _ _ _ _ => exact Or.inl rfl
  | scanPass _ _ _ _ _ _ _ => exact Or.inl rfl
  | scanZeroed _ _ _ _ _ _ _ => exact Or.inl rfl
  | visit a t i pid hd w' _ _ _ hcalled =>
    exact Or.inl (((Spares.refl w).called hcalled).still (World.unlisten_trace pid hd w'))
  | sigchldReturn _ => exact Or.inl rfl
  | childWrite _ _ _ => exact Or.inl rfl
  | childHangUp _ _ => exact Or.inl rfl
  | childExit _ _ => exact Or.inl rfl

/-! ### Runs -/

/-- The number `pid` is that of the child of the try `t`, which is in flight, and of no other process. -/
structure OwnChild (w : World) (t : ℕ) (pid : ℤ) : Prop where
  child : ((w.tryAt t).childPid : ℤ) = pid
  positive : 0 < pid
  pending : (w.tryAt t).doneCalled = false
  alive : (w.tryAt t).reaped = false
  unique : ∀ t', w.holdsPid t' = true → (w.tryAt t').childPid = (w.tryAt t).childPid → t' = t

/-- The step kills only children of the daemon, and for the one whose message it reads. -/
def KillsOwn (C : FieldCode SpawnField) (w : World) (e : Event) : Prop :=
  ∀ pid, .killed pid ∈ since w (step C w e) → ∃ a t fd, e = .next a ∧
    ready w = some ⟨some (.childData t), fd⟩ ∧ OwnChild w t pid

theorem ownChild_of_read (hlife : Life none w) (hpids : Pids none w) {t fd : ℕ} {tr : SpawnTry}
    (hready : ready w = some ⟨some (.childData t), fd⟩) (heval : w.registry.evalMode = false)
    (htr : w.tries[t]? = some tr) (hpos : 0 < tr.pid) : OwnChild w t tr.pid := by
  obtain ⟨v, hv, hdone, -⟩ := hlife.read (ready_mem_live (w := w) hready) rfl
  obtain rfl : SpawnTry.view tr = v := Option.some.inj ((view_of_get htr).symm.trans hv)
  have hchild : tr.pid = tr.childPid := (hlife.forked hv hdone).2
  have hholds := holds_of_waiting hlife hv hdone
  have halive : tr.reaped = false := by
    -- the handler is not running, so nobody that was reaped is left
    cases hreaped : tr.reaped with
    | false => rfl
    | true =>
      obtain ⟨i, j, hscan, -⟩ := hlife.scanned hv hdone hreaped
      rw [hlife.scanning _ hscan] at heval
      cases heval
  have hat := World.tryAt_eq htr
  refine ⟨by rw [hat]; exact hchild.symm, hpos, by rw [hat]; exact hdone, by rw [hat]; exact halive,
    fun t' hheld hpid => ?_⟩
  obtain ⟨tr', htr', hne, hheld'⟩ := World.holdsPid_iff.mp hheld
  rw [World.tryAt_eq htr', hat] at hpid
  exact hpids.unique ⟨view_of_get htr', hne, hheld'⟩ hholds hpid

end Spawny.Daemon.Kills
