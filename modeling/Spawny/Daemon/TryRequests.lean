import Spawny.Daemon.Forks
import Spawny.Daemon.TryCells

/-! # The request of a try

A try keeps the arguments of the call of `spawnservice_spawn` that has made it, whatever becomes of it.

* `requests_step`: **no step changes the arguments of a try**;
* `hasTry_step`: **a call that forks has made its try when the step is over**. -/

namespace Spawny.Daemon.TryRequests

open Spawny.Lib.Wire Spawny.Lib.Descriptors Spawny.Protocol.Messages
open Spawny.Daemon.Manager Spawny.Daemon.SpawnRegistry
open Spawny.Daemon.SessionMgt Spawny.Daemon.State Spawny.Daemon.SpawnService
open Spawny.Daemon.GreeterTable Spawny.Daemon.Client Spawny.Daemon.Greeter Spawny.Daemon.Activations
open Spawny.Daemon.Server Spawny.Daemon.Loop Spawny.Daemon.Steps Spawny.Daemon.TryCells
open Spawny.Daemon.Forks

variable {C : FieldCode SpawnField} {w w' w'' : World}

/-! ### What keeps the requests -/

/-- The tries of `w` are still there, with their arguments. -/
def Requests (w w' : World) : Prop := ∀ (t : ℕ) (tr : SpawnTry), w.tries[t]? = some tr →
  ∃ tr', w'.tries[t]? = some tr' ∧ tr'.toSpawnRequest = tr.toSpawnRequest

theorem Requests.refl (w : World) : Requests w w := fun _ tr htr => ⟨tr, htr, rfl⟩

theorem Requests.trans (h : Requests w w') (h' : Requests w' w'') : Requests w w'' := by
  intro t tr htr
  obtain ⟨tr', htr', hreq⟩ := h t tr htr
  obtain ⟨tr'', htr'', hreq'⟩ := h' t tr' htr'
  exact ⟨tr'', htr'', hreq'.trans hreq⟩

theorem Requests.still (h : Requests w w') (htries : w''.tries = w'.tries) : Requests w w'' := by
  intro t tr htr
  rw [htries]
  exact h t tr htr

theorem Requests.modTry (h : Requests w w') {f : SpawnTry → SpawnTry}
    (hf : ∀ tr, (f tr).toSpawnRequest = tr.toSpawnRequest) (t : ℕ) : Requests w (w'.modTry t f) := by
  refine h.trans fun t' tr htr => ⟨_, by rw [World.getElem?_modTry, htr, Option.map_some], ?_⟩
  split_ifs
  · exact hf tr
  · rfl

theorem Requests.release (h : Requests w w') (t : ℕ) : Requests w (release t w') := by
  have hunlisten : Requests w (w'.unlisten (w'.tryAt t).pid (.spawnedSessionDisappear t)) := h.still rfl
  refine hunlisten.modTry ?_ t
  exact fun _ => rfl

theorem Requests.calledBack (h : Requests w w') (t : ℕ) : Requests w (calledBack t w') := by
  have hclosed : Requests w (closeRead t w') := h.still (by simp [closeRead])
  have hset : Requests w ((closeRead t w').modTry t fun tr => { tr with doneCalled := true }) := by
    refine hclosed.modTry ?_ t
    exact fun _ => rfl
  exact hset.still rfl

theorem Requests.forks (h : Requests w w') (req : SpawnRequest) (pid : ℕ) :
    Requests w (childForked w'.tries.length pid (openTry req w')) := by
  refine h.trans fun t tr htr => ⟨tr, ?_, rfl⟩
  have hne : t ≠ w'.tries.length := (List.getElem?_eq_some_iff.mp htr).1.ne
  rw [getElem?_childForked, getElem?_openTry, if_neg hne, htr, Option.map_some, if_neg hne.symm]

theorem Requests.fails (h : Requests w w') (noTty : Bool) (req : SpawnRequest) :
    Requests w (tryFailed C noTty req w') := by
  refine h.trans fun t tr htr => ⟨tr, ?_, rfl⟩
  have hne : t ≠ w'.tries.length := (List.getElem?_eq_some_iff.mp htr).1.ne
  rw [getElem?_tryFailed, if_neg hne, htr]

theorem greeterOps_requests (a : Answers) (w : World) : GreeterOps C a (Requests w) where
  session _ h := h.still rfl
  add _ h := h.still rfl
  noPipe _ _ h := h.still rfl
  forked _ _ _ h := (h.forks _ _).still rfl
  failed noTty _ _ _ _ _ h := (h.fails noTty _).still rfl
  returned _ _ _ _ _ h := (h.release _).still rfl

theorem Requests.activate (h : Requests w w') (a : Answers) (seat : String) :
    Requests w (greeterActivate C a seat w') := (greeterOps_requests a w).activate C seat h

theorem Requests.sessionDone (h : Requests w w') (a : Answers) (t c : ℕ) (result : SpawnServiceEnd) :
    Requests w (sessionDone a t c result w') := h.still (tries_sessionDone a t c result w')

/-! ### The callbacks -/

theorem requests_freed {a : Answers} {t : ℕ} (hf : Freed C a t w w') : Requests w w' := by
  have hcalled := (Requests.refl w).calledBack t
  cases hf with
  | login c _ => exact (hcalled.sessionDone a t c _).release t
  | lost g _ _ => exact Requests.release (hcalled.still rfl) t
  | restarted g r _ _ _ =>
    have hfailed : Requests w (greeterStartFailed t g (calledBack t w)) := hcalled.still rfl
    exact (hfailed.activate a r.seat).release t
  | noTry g r _ _ _ _ => exact Requests.release (hcalled.still rfl) t
  | started g r t' _ _ _ _ =>
    have hstarted : Requests w (greeterStarted t g t' (calledBack t w)) := hcalled.still rfl
    exact hstarted.release t

theorem requests_clientData {a : Answers} {c fd : ℕ} (hdoes : ClientData C a c fd w w') :
    Requests w w' := by
  have hrefl := Requests.refl w
  induction hdoes with
  | closed _ => exact hrefl.still rfl
  | dropped _ => exact hrefl.still rfl
  | replied msg => exact hrefl.still rfl
  | activated _ session seat =>
    refine hrefl.still ((tries_clientGoodbye _ _ _).trans ((tries_greeterLockout _ _).trans ?_))
    exact tries_sessionActivate session w
  | noLogin => exact hrefl.still rfl
  | noPipe _ => exact hrefl.still rfl
  | loginForked _ _ l pid => exact (hrefl.forks _ _).still (World.modClient_tries _ _ _)
  | loginFailed _ l noTty _ _ _ =>
    have hfailed : Requests w (tryFailed C noTty (loginRequest a c fd l w) w) := hrefl.fails noTty _
    exact ((hfailed.sessionDone a _ c _).release _).still (World.modClient_tries _ _ _)
  | started _ m _ _ _ => exact (hrefl.activate a _).still (tries_clientGoodbye _ _ _)
  | ignored => exact hrefl
  | fallback w' _ ih => exact ih.still rfl

theorem requests_childData {a : Answers} {t fd : ℕ} (hdoes : ChildData C a t fd w w') :
    Requests w w' := by
  have hread : Requests w (w.modTry t SpawnTry.readPipe) := by
    refine (Requests.refl w).modTry ?_ t
    exact fun _ => rfl
  cases hdoes with
  | undecodable _ => exact hread.still (tries_forceQuit t _)
  | connect _ _ _ => exact hread
  | setupDone _ _ _ session =>
    refine Requests.still ?_ (tries_sessionActivate session _)
    have hset : Requests w ((w.modTry t SpawnTry.readPipe).modTry t
        fun tr => { tr with session := session }) := by
      refine hread.modTry ?_ t
      exact fun _ => rfl
    split_ifs
    · exact hset.still (tries_forceQuit t _)
    · exact hset
  | sessionActive _ _ _ w' hfree =>
    refine Requests.trans ?_ (requests_freed hfree)
    have hunreg : Requests w ((w.modTry t SpawnTry.readPipe).unregisterFd (w.tryAt t).readFd) :=
      hread.still rfl
    refine hunreg.modTry ?_ t
    exact fun _ => rfl
  | errorExit _ _ _ reason _ =>
    have hunreg : Requests w ((w.modTry t SpawnTry.readPipe).unregisterFd (w.tryAt t).readFd) :=
      hread.still rfl
    refine hunreg.modTry ?_ t
    exact fun _ => rfl
  | noReason _ _ _ _ => exact hread.still rfl

theorem requests_called {a : Answers} {t : ℕ} {hd : Handler} (hcalled : Called C a t w hd w') :
    Requests w w' := by
  have hrefl := Requests.refl w
  cases hcalled with
  | disappeared t' w' hfree => exact requests_freed hfree
  | lost g _ => exact hrefl.still rfl
  | ended g r _ _ => exact hrefl.still rfl
  | restarted g r _ _ =>
    have hreset : Requests w (greeterReset g (w.log (.greeterCb t (some r.seat)))) := hrefl.still rfl
    exact hreset.activate a r.seat

/-- **No step changes the arguments of a try.** -/
theorem requests_step (w : World) (e : Event) : Requests w (step C w e) := by
  have hdoes := step_does C w e
  generalize step C w e = w' at hdoes
  have hrefl := Requests.refl w
  have hadvance : Requests w (advance w) := hrefl.still rfl
  cases hdoes with
  | idle _ => exact hrefl
  | select _ _ _ _ => exact hrefl.still rfl
  | endPass _ _ => exact hrefl.still rfl
  | pass _ _ => exact hadvance
  | accept a _ => exact hadvance.still (tries_acceptReady a _)
  | client a c fd w' _ _ hdoes => exact hadvance.trans (requests_clientData hdoes)
  | child a t fd w' _ _ hdoes => exact hadvance.trans (requests_childData hdoes)
  | sigchld _ => exact hrefl.still rfl
  | reap t tr _ _ _ _ _ =>
    have hset : Requests w (w.modTry t fun tr => { tr with exited := true, reaped := true }) := by
      refine hrefl.modTry ?_ t
      exact fun _ => rfl
    exact hset.still rfl
  | scanEnd _ _ _ _ _ => exact hrefl.still rfl
  | scanPass _ _ _ _ _ _ _ => exact hrefl.still rfl
  | scanZeroed _ _ _ _ _ _ _ => exact hrefl.still rfl
  | visit a t i pid hd w' _ _ _ hcalled => exact (requests_called hcalled).still rfl
  | sigchldReturn _ => exact hrefl.still rfl
  | childWrite t m _ =>
    refine hrefl.modTry ?_ t
    exact fun _ => rfl
  | childHangUp t _ =>
    refine hrefl.modTry ?_ t
    exact fun _ => rfl
  | childExit t _ =>
    refine hrefl.modTry ?_ t
    exact fun _ => rfl

/-! ### The call that forks -/

/-- The call has made its try. -/
def HasTry (s : SpawnCall) (w : World) : Prop :=
  ∃ tr, w.tries[s.1.tries.length]? = some tr ∧ tr.toSpawnRequest = s.2

theorem HasTry.kept {s : SpawnCall} (h : HasTry s w) (hreq : Requests w w') : HasTry s w' := by
  obtain ⟨tr, htr, heq⟩ := h
  obtain ⟨tr', htr', heq'⟩ := hreq _ tr htr
  exact ⟨tr', htr', heq'.trans heq⟩

theorem hasTry_forked (req : SpawnRequest) (pid : ℕ) (w : World) :
    HasTry (w, req) (childForked w.tries.length pid (openTry req w)) := by
  refine ⟨_, by rw [getElem?_childForked, getElem?_openTry, if_pos rfl, Option.map_some], ?_⟩
  rw [if_pos rfl]
  rfl

theorem hasTry_start {a : Answers} {activate : String → World → World}
    {nested : String → World → Option SpawnCall}
    (hnested : ∀ seat w s, nested seat w = some s → HasTry s (activate seat w)) {g : ℕ}
    {r : SeatGreeter} {s : SpawnCall} (hg : w.greeters[g]? = some r)
    (hs : startForks C nested a g r w = some s) :
    HasTry s (greeterStart C (doneCb a activate) a g r w) := by
  unfold startForks at hs
  split_ifs at hs with hok hfork
  · obtain ⟨hpipe, pid, hchild⟩ := spawnForks_iff.mp hfork
    unfold greeterStart
    rw [hok.1]
    dsimp only
    rw [if_pos hok.2.1, spawnserviceSpawn_forks C hpipe hchild, ← Option.some.inj hs]
    exact (hasTry_forked _ _ w).kept ((Requests.refl _).still rfl)
  · have hchild : ∀ pid, (a.spawn w.tries.length).child ≠ .forks pid :=
      fun pid hchild => hfork (spawnForks_iff.mpr ⟨hok.2.2, pid, hchild⟩)
    unfold greeterStart
    rw [hok.1]
    dsimp only
    rw [if_pos hok.2.1, spawnserviceSpawn_fails C hok.2.2 hchild, doneCb_tryFailed C hg]
    exact (hnested _ _ s hs).kept (((Requests.refl _).release _).still rfl)

theorem hasTry_activateUpTo (a : Answers) : ∀ (n : ℕ) (seat : String) (w : World) (s : SpawnCall),
    activateForksUpTo C n a seat w = some s → HasTry s (greeterActivateUpTo C n a seat w)
  | 0, _, _, _, hs => by cases hs
  | n + 1, seat, w, s, hs => by
    rcases greeterRecord_cases seat w with ⟨g, r, hrec, -, hg, -⟩ | ⟨-, hrec, hg⟩
    · simp only [greeterActivateUpTo, activateForksUpTo, hrec, hg, Option.getD_some] at hs ⊢
      exact hasTry_start (hasTry_activateUpTo a n) hg hs
    · simp only [greeterActivateUpTo, activateForksUpTo, hrec, hg, Option.getD_some] at hs ⊢
      exact hasTry_start (hasTry_activateUpTo a n) hg hs

theorem hasTry_activate {a : Answers} {seat : String} {s : SpawnCall}
    (hs : activateForks C a seat w = some s) : HasTry s (greeterActivate C a seat w) :=
  hasTry_activateUpTo a maxActivate seat w s hs

theorem hasTry_login {a : Answers} {c fd : ℕ} {l : Login} {s : SpawnCall}
    (hs : loginForks a c fd l w = some s) : HasTry s (loginTry C a c fd l w) := by
  unfold loginForks at hs
  split_ifs at hs with hok
  obtain ⟨hpipe, pid, hchild⟩ := spawnForks_iff.mp hok.2
  unfold loginTry
  rw [if_neg (by simp [hok.1]), spawnserviceSpawn_forks C hpipe hchild, ← Option.some.inj hs]
  exact (hasTry_forked _ _ w).kept ((Requests.refl _).still rfl)

theorem hasTry_clientData {a : Answers} {c fd : ℕ} {s : SpawnCall}
    (hs : clientForks C a c fd w = some s) : HasTry s (clientData C a c fd w) := by
  unfold clientForks at hs
  cases hinput : a.input with
  | eof | bad => simp [hinput] at hs
  | msg m =>
    simp only [hinput, messageForks] at hs
    have hmessage : HasTry s (clientMessage C a c fd m w) := by
      unfold clientMessage
      cases htype : m.type with
      | loginTry =>
        simp only [htype] at hs
        dsimp only
        split_ifs at hs with hgreeter
        obtain ⟨l, hl, hlogin⟩ := Option.bind_eq_some_iff.mp hs
        rw [if_pos hgreeter, hl]
        exact hasTry_login hlogin
      | greeterStart =>
        simp only [htype] at hs
        dsimp only
        split_ifs at hs with halive
        unfold greeterStartRequest
        rw [if_pos halive]
        exact (hasTry_activate hs).kept ((Requests.refl _).still (tries_clientGoodbye _ _ _))
      | hello | sessionActivation | unknown n => simp [htype] at hs
    unfold clientData
    rw [hinput]
    dsimp only
    split_ifs
    · exact hmessage.kept ((Requests.refl _).still rfl)
    · exact hmessage

theorem hasTry_freed {a : Answers} {t : ℕ} {s : SpawnCall} (hf : Freed C a t w w')
    (hs : freedForks C a t w = some s) : HasTry s w' := by
  unfold freedForks at hs
  split at hs
  · next g hdone herror =>
    obtain ⟨r, hg, hr⟩ := Option.bind_eq_some_iff.mp hs
    rw [hf.eq_restarted hdone hg herror]
    exact (hasTry_activate hr).kept ((Requests.refl _).release t)
  · cases hs

theorem hasTry_called {a : Answers} {t : ℕ} {hd : Handler} {s : SpawnCall}
    (hs : calledForks C a t hd w = some s) : HasTry s (callHandler C a t hd w) := by
  have hcalled := callHandler_called C a t hd w
  generalize callHandler C a t hd w = w' at hcalled
  cases hcalled with
  | disappeared t' w' hfree => exact hasTry_freed hfree hs
  | lost g hg =>
    rw [calledForks, doneForks, hg] at hs
    cases hs
  | ended g r hg hend =>
    rw [calledForks, doneForks, hg, Option.bind_some, if_pos hend] at hs
    cases hs
  | restarted g r hg hend =>
    rw [calledForks, doneForks, hg, Option.bind_some, if_neg (by simp [hend])] at hs
    exact hasTry_activate hs

/-- **The try of a call that forks** is there after the step, with its arguments. -/
theorem hasTry_step {e : Event} {s : SpawnCall} (hs : forking C w e = some s) :
    HasTry s (step C w e) := by
  cases e with
  | next a =>
    dsimp only [forking] at hs
    split_ifs at hs with hok
    obtain ⟨⟨cb, fd⟩, hready, hr⟩ := Option.bind_eq_some_iff.mp hs
    unfold dispatchForks at hr
    split at hr
    · next c hcb =>
      obtain rfl : cb = some (.clientData c) := hcb
      rw [step_client C hok.1 hok.2 hready]
      exact hasTry_clientData hr
    · cases hr
  | visit a =>
    obtain ⟨⟨t, hd⟩, hcalled, hs'⟩ := Option.bind_eq_some_iff.mp hs
    obtain ⟨i, pid, -, -, -, hstep⟩ := step_visit (C := C) (a := a) hcalled
    rw [hstep]
    exact (hasTry_called hs').kept ((Requests.refl _).still rfl)
  | select _ _ | sigchld | reap _ | sigchldReturn | childWrite _ _ | childHangUp _ | childExit _ =>
    cases hs

end Spawny.Daemon.TryRequests
