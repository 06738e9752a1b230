import Spawny.Daemon.TryViews

/-! # What is watched is open

Whenever the daemon closes a descriptor it takes its registration out first, so every live registration
names a descriptor that is open.

* `WatchedOpen.closes`, `WatchedOpen.forks`: the ways the two tables change together;
* `WatchedOpen.activate`, `WatchedOpen.freed`, `WatchedOpen.clientData`: the callbacks;
* `watched_step`: **every step keeps the descriptors open that are watched**. -/

namespace Spawny.Daemon.WatchedFds

open Spawny.Lib.Wire Spawny.Lib.Descriptors Spawny.Lib.Runs Spawny.Protocol.Messages
open Spawny.Daemon.Manager Spawny.Daemon.SpawnRegistry
open Spawny.Daemon.SessionMgt Spawny.Daemon.State Spawny.Daemon.SpawnService
open Spawny.Daemon.GreeterTable Spawny.Daemon.Client Spawny.Daemon.Greeter Spawny.Daemon.Activations
open Spawny.Daemon.Server Spawny.Daemon.Loop Spawny.Daemon.Steps Spawny.Daemon.TryViews

variable {C : FieldCode SpawnField} {w w' : World}

/-- **The invariant**: the descriptor of every live registration is open. -/
def WatchedOpen (w : World) : Prop := ∀ r ∈ w.fds.live, lookup w.fdtab r.fd ≠ none

/-! ### How the tables change -/

theorem WatchedOpen.fewer (h : WatchedOpen w) (hfdtab : w'.fdtab = w.fdtab)
    (hlive : ∀ r ∈ w'.fds.live, r ∈ w.fds.live) : WatchedOpen w' := by
  intro r hr
  rw [hfdtab]
  exact h r (hlive r hr)

theorem WatchedOpen.same (h : WatchedOpen w) (hfdtab : w'.fdtab = w.fdtab) (hfds : w'.fds = w.fds) :
    WatchedOpen w' := h.fewer hfdtab fun r hr => by rwa [hfds] at hr

/-- A descriptor is unregistered and closed. -/
theorem WatchedOpen.closes (h : WatchedOpen w) {n : ℕ} (hfdtab : w'.fdtab = closeSlot w.fdtab n)
    (hfds : w'.fds = w.fds.unregisterFd n) : WatchedOpen w' := by
  intro r hr
  rw [hfds] at hr
  obtain ⟨hr, hne⟩ := FdTable.mem_live_unregisterFd.mp hr
  rw [hfdtab, lookup_close_of_ne hne]
  exact h r hr

theorem WatchedOpen.unregisterFd (h : WatchedOpen w) (n : ℕ) : WatchedOpen (w.unregisterFd n) :=
  h.fewer rfl fun _ hr => (FdTable.mem_live_unregisterFd.mp hr).1

/-- What is open stays open. -/
theorem WatchedOpen.opens (h : WatchedOpen w) (hfdtab : ∀ n, lookup w.fdtab n ≠ none →
    lookup w'.fdtab n ≠ none) (hlive : ∀ r ∈ w'.fds.live, r ∈ w.fds.live ∨
      lookup w'.fdtab r.fd ≠ none) : WatchedOpen w' := by
  intro r hr
  rcases hlive r hr with hold | hnew
  · exact hfdtab r.fd (h r hold)
  · exact hnew

/-! ### Tries and clients -/

/-- A child was forked: the read end of its pipe is open and watched. -/
theorem WatchedOpen.forks (h : WatchedOpen w) (req : SpawnRequest) (pid : ℕ) :
    WatchedOpen (childForked w.tries.length pid (openTry req w)) := by
  refine h.opens (fun n hn => ?_) fun r hr => ?_
  · rw [lookup_forked]
    exact lookup_open_ne hn _
  · rw [live_forked] at hr
    rcases List.mem_append.mp hr with hr | hr
    · exact Or.inl hr
    · rw [List.mem_singleton.mp hr, lookup_forked, lookup_open_self]
      exact Or.inr (Option.some_ne_none _)

theorem WatchedOpen.fails (h : WatchedOpen w) (noTty : Bool) (req : SpawnRequest) :
    WatchedOpen (tryFailed C noTty req w) := by
  refine h.opens (fun n hn => ?_) fun r hr => Or.inl (live_tryFailed C noTty req w r hr)
  obtain ⟨o, ho⟩ := Option.ne_none_iff_exists'.mp hn
  rw [lookup_tryFailed C noTty req ho]
  exact Option.some_ne_none o

theorem WatchedOpen.calledBack (h : WatchedOpen w) (t : ℕ) : WatchedOpen (calledBack t w) := by
  refine h.closes (fdtab_calledBack_eq t w) ?_
  simp [SpawnService.calledBack, closeRead]

theorem WatchedOpen.release (h : WatchedOpen w) (t : ℕ) : WatchedOpen (release t w) :=
  h.same (fdtab_release w t) (fds_release w t)

theorem WatchedOpen.modGreeter (h : WatchedOpen w) (g : ℕ) (f : SeatGreeter → SeatGreeter) :
    WatchedOpen (w.modGreeter g f) :=
  h.same (World.modGreeter_fdtab g f w) (World.modGreeter_fds g f w)

theorem WatchedOpen.modClient (h : WatchedOpen w) (c : ℕ) (f : State.Client → State.Client) :
    WatchedOpen (w.modClient c f) :=
  h.same (World.modClient_fdtab c f w) (World.modClient_fds c f w)

theorem WatchedOpen.log (h : WatchedOpen w) (o : Obs) : WatchedOpen (w.log o) := h

theorem WatchedOpen.fault (h : WatchedOpen w) : WatchedOpen w.fault := h

theorem WatchedOpen.greeterLockout (h : WatchedOpen w) (seat : Option String) :
    WatchedOpen (greeterLockout seat w) := by
  unfold GreeterTable.greeterLockout
  cases seat with
  | none =>
    dsimp only
    split_ifs <;> exact h
  | some s =>
    dsimp only
    cases greeterSearch s w <;> exact h

theorem WatchedOpen.sessionActivate (h : WatchedOpen w) (session : Option String) :
    WatchedOpen (sessionActivate session w) := by
  cases session <;> exact h

theorem WatchedOpen.forceQuit (h : WatchedOpen w) (t : ℕ) : WatchedOpen (forceQuit t w) := by
  unfold SpawnService.forceQuit
  split_ifs <;> exact h

theorem WatchedOpen.clientFree (h : WatchedOpen w) (c : ℕ) : WatchedOpen (clientFree c w) :=
  h.closes (n := (w.clientAt c).fd) rfl rfl

theorem WatchedOpen.goodbye (h : WatchedOpen w) (why : Sender) (c : ℕ) :
    WatchedOpen (clientGoodbye why c w) := (h.log _).clientFree c

theorem WatchedOpen.sessionDone (h : WatchedOpen w) (a : Answers) (t c : ℕ)
    (result : SpawnServiceEnd) : WatchedOpen (sessionDone a t c result w) := by
  have hfault : WatchedOpen (if (w.clientAt c).freed then w.fault else w) := by
    split_ifs <;> exact h
  unfold Client.sessionDone
  dsimp only
  generalize (if (w.clientAt c).freed then w.fault else w) = w₁ at hfault ⊢
  cases result.success with
  | error => exact hfault
  | success =>
    have hlock := hfault.greeterLockout (seatGet a.sd (w₁.clientAt c).pid)
    generalize GreeterTable.greeterLockout (seatGet a.sd (w₁.clientAt c).pid) w₁ = w₂ at hlock ⊢
    refine WatchedOpen.goodbye ?_ _ c
    exact hlock

theorem WatchedOpen.acceptReady (h : WatchedOpen w) (a : Answers) : WatchedOpen (acceptReady a w) := by
  have hopens : ∀ n, lookup w.fdtab n ≠ none →
      lookup (openSlot w.fdtab (.sock w.clients.length)) n ≠ none := fun n hn => lookup_open_ne hn _
  unfold Server.acceptReady
  cases a.peer with
  | none => exact h.opens hopens fun r hr => Or.inl hr
  | some pid =>
    refine h.opens hopens fun r hr => ?_
    have hmem : r ∈ w.fds.live ++ [⟨some (.clientData w.clients.length), lowestFree w.fdtab⟩] := by
      rw [← FdTable.live_registerFd]
      exact hr
    rcases List.mem_append.mp hmem with hr | hr
    · exact Or.inl hr
    · rw [List.mem_singleton.mp hr]
      refine Or.inr ?_
      change lookup (openSlot w.fdtab (.sock w.clients.length)) (lowestFree w.fdtab) ≠ none
      rw [lookup_open_self]
      exact Option.some_ne_none _

/-! ### The callbacks -/

theorem WatchedOpen.greeterFailed (h : WatchedOpen w) (noTty : Bool) (g : ℕ) (seat : String) :
    WatchedOpen (greeterFailed C noTty g seat w) :=
  ((h.fails noTty (greeterRequest g seat)).log _).modGreeter g _

theorem greeterOps_watched (a : Answers) : GreeterOps C a WatchedOpen where
  session _ h := h
  add _ h := h
  noPipe _ _ h := h
  forked _ _ _ h := (h.forks _ _).modGreeter _ _
  failed noTty _ _ _ _ _ h := h.greeterFailed noTty _ _
  returned {_ _ t _} _ _ _ _ _ h := (h.release t).modGreeter _ _

theorem WatchedOpen.activate (h : WatchedOpen w) (a : Answers) (seat : String) :
    WatchedOpen (greeterActivate C a seat w) := (greeterOps_watched a).activate C seat h

theorem WatchedOpen.startFailed (h : WatchedOpen w) (t g : ℕ) :
    WatchedOpen (greeterStartFailed t g w) := (h.log _).modGreeter g _

theorem WatchedOpen.started (h : WatchedOpen w) (t g t' : ℕ) :
    WatchedOpen (greeterStarted t g t' w) := h

theorem WatchedOpen.freed {a : Answers} {t : ℕ} (h : WatchedOpen w) (hf : Freed C a t w w') :
    WatchedOpen w' := by
  have hcalled := h.calledBack t
  cases hf with
  | login c _ => exact (hcalled.sessionDone a t c _).release t
  | lost g _ _ => exact WatchedOpen.release (hcalled.log _).fault t
  | restarted g r _ _ _ => exact ((hcalled.startFailed t g).activate a r.seat).release t
  | noTry g r _ _ _ _ => exact WatchedOpen.release ((hcalled.log _).log _).fault t
  | started g r t' _ _ _ _ =>
    exact (hcalled.started t g t').release t

theorem WatchedOpen.clientData {a : Answers} {c fd : ℕ} (h : WatchedOpen w)
    (hdoes : ClientData C a c fd w w') : WatchedOpen w' := by
  induction hdoes with
  | closed _ => exact (h.unregisterFd fd).clientFree c
  | dropped _ => exact h.clientFree c
  | replied msg => exact h.log _
  | activated _ session seat =>
    exact (((h.sessionActivate session).log _).greeterLockout seat).goodbye _ c
  | noLogin => exact h
  | noPipe _ => exact h
  | loginForked _ _ l pid => exact (h.forks _ _).modClient c _
  | loginFailed _ l noTty _ _ _ =>
    have hdone := (h.fails (C := C) noTty (loginRequest a c fd l w)).sessionDone a w.tries.length c
      ⟨.error, none⟩
    exact (hdone.release w.tries.length).modClient c _
  | started _ m _ _ _ => exact (h.activate a _).goodbye _ c
  | ignored => exact h
  | fallback w' _ ih => exact ih

theorem WatchedOpen.childData {a : Answers} {t fd : ℕ} (h : WatchedOpen w)
    (hdoes : ChildData C a t fd w w') : WatchedOpen w' := by
  have hread : WatchedOpen (w.modTry t SpawnTry.readPipe) := h
  cases hdoes with
  | undecodable _ => exact (hread.unregisterFd fd).forceQuit t
  | connect _ _ _ => exact hread
  | setupDone _ _ _ session =>
    refine WatchedOpen.sessionActivate ?_ session
    have hset : WatchedOpen ((w.modTry t SpawnTry.readPipe).modTry t
        fun tr => { tr with session := session }) := h
    split_ifs
    · exact hset.forceQuit t
    · exact hset
  | sessionActive _ _ _ w' hfree =>
    have hset : WatchedOpen (((w.modTry t SpawnTry.readPipe).unregisterFd (w.tryAt t).readFd).modTry t
        fun tr => { tr with success := .success }) := hread.unregisterFd _
    exact hset.freed hfree
  | errorExit _ _ _ reason _ => exact hread.unregisterFd _
  | noReason _ _ _ _ => exact hread.unregisterFd _

theorem WatchedOpen.greeterReset (h : WatchedOpen w) (g : ℕ) (o : Obs) :
    WatchedOpen (greeterReset g (w.log o)) := h

theorem WatchedOpen.called {a : Answers} {t : ℕ} {hd : Handler} (h : WatchedOpen w)
    (hcalled : Called C a t w hd w') : WatchedOpen w' := by
  cases hcalled with
  | disappeared t' w' hfree => exact h.freed hfree
  | lost g _ => exact h
  | ended g r _ _ => exact h.same rfl rfl
  | restarted g r _ _ => exact (h.greeterReset g _).activate a r.seat

/-- **What is watched is open**, in every state. -/
theorem watched_step {e : Event} (h : WatchedOpen w) : WatchedOpen (step C w e) := by
  have hdoes := step_does C w e
  generalize step C w e = w' at hdoes
  have hadvance : WatchedOpen (advance w) := h
  cases hdoes with
  | idle _ => exact h
  | select _ _ _ _ => exact h.fewer rfl (FdTable.live_selectReturns_subset _ _ _)
  | endPass _ _ => exact h.fewer rfl fun r hr => by rwa [FdTable.live_endPass] at hr
  | pass _ _ => exact hadvance
  | accept a _ _ _ => exact hadvance.acceptReady a
  | client a c fd w' _ _ hdoes _ => exact hadvance.clientData hdoes
  | child a t fd w' _ _ hdoes _ => exact hadvance.childData hdoes
  | sigchld _ => exact h
  | reap _ _ _ _ _ _ _ => exact h
  | scanEnd _ _ _ _ _ => exact h
  | scanPass _ _ _ _ _ _ _ => exact h
  | scanZeroed _ _ _ _ _ _ _ => exact h
  | visit a t i pid hd w' _ _ _ hcalled => exact WatchedOpen.same (h.called hcalled) rfl rfl
  | sigchldReturn _ => exact h
  | childWrite _ _ _ => exact h
  | childHangUp _ _ => exact h
  | childExit _ _ => exact h

theorem watched_start (debug : Bool) (templates : List Template) :
    WatchedOpen (World.start debug templates) := by
  intro r hr
  rw [List.mem_singleton.mp (FdTable.mem_live.mp hr).1]
  exact Option.some_ne_none _

end Spawny.Daemon.WatchedFds
