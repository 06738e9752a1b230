import Spawny.Daemon.Activations
import Spawny.Daemon.Loop

/-! # What a step can do

One relation for each callback, and one for the steps of the daemon: every state that a step can lead
to, with what is known where the code gets there. An invariant of the daemon is proved from these
relations, and never unfolds a callback.

* `spawnTryFree_freed`, `childData_does`, `clientData_does`: the callbacks;
* `step_does`: the steps. -/

namespace Spawny.Daemon.Steps

open Spawny.Lib.Wire Spawny.Lib.Descriptors Spawny.Protocol.Messages
open Spawny.Daemon.Manager Spawny.Daemon.SpawnRegistry
open Spawny.Daemon.SessionMgt Spawny.Daemon.State Spawny.Daemon.SpawnService
open Spawny.Daemon.GreeterTable Spawny.Daemon.Client Spawny.Daemon.Greeter Spawny.Daemon.Activations
open Spawny.Daemon.Server Spawny.Daemon.Loop

variable (C : FieldCode SpawnField)

/-! ### The end of a try -/

/-- `_greeter_start_done` for a success, where the record in slot `g` has the try `t'`. -/
def greeterStarted (t g t' : ℕ) (w : World) : World :=
  let w := (w.log (.greeterCb t (seatAt w g))).log (.startDone t (some t'))
  (w.modGreeter g fun r => { r with runTry := none, runPid := (w.tryAt t').pid }).listen
    (w.tryAt t').pid (.greeterDone g)

/-- What `_spawn_try_free` does to the try `t`. -/
inductive Freed (a : Answers) (t : ℕ) (w : World) : World → Prop
  | login (c : ℕ) (hdone : (w.tryAt t).done = .sessionDone c) :
    Freed a t w (release t (sessionDone a t c (SpawnTry.result (w.tryAt t)) (calledBack t w)))
  | lost (g : ℕ) (hdone : (w.tryAt t).done = .greeterStartDone g) (hg : w.greeters[g]? = none) :
    Freed a t w (release t ((calledBack t w).log (.greeterCb t none)).fault)
  | restarted (g : ℕ) (r : SeatGreeter) (hdone : (w.tryAt t).done = .greeterStartDone g)
    (hg : w.greeters[g]? = some r) (hres : (w.tryAt t).success = .error) :
    Freed a t w (release t
      (greeterActivate C a r.seat (greeterStartFailed t g (calledBack t w))))
  | noTry (g : ℕ) (r : SeatGreeter) (hdone : (w.tryAt t).done = .greeterStartDone g)
    (hg : w.greeters[g]? = some r) (hres : (w.tryAt t).success = .success)
    (htry : r.runTry = none) :
    Freed a t w (release t
      (((calledBack t w).log (.greeterCb t (some r.seat))).log (.startDone t none)).fault)
  | started (g : ℕ) (r : SeatGreeter) (t' : ℕ) (hdone : (w.tryAt t).done = .greeterStartDone g)
    (hg : w.greeters[g]? = some r) (hres : (w.tryAt t).success = .success)
    (htry : r.runTry = some t') :
    Freed a t w (release t (greeterStarted t g t' (calledBack t w)))

theorem tryAt_calledBack (t : ℕ) (w : World) (t' : ℕ) (ht : t' < w.tries.length) :
    (calledBack t w).tryAt t' =
      if t = t' then { w.tryAt t' with doneCalled := true } else w.tryAt t' := by
  have hget := List.getElem?_eq_getElem ht
  have h : (calledBack t w).tries[t']? = some (if t = t' then
      { w.tries[t'] with doneCalled := true } else w.tries[t']) := by
    refine (World.getElem?_modTry _ _ _ _).trans ?_
    change (w.tries[t']?).map _ = _
    rw [hget, Option.map_some]
  rw [World.tryAt_eq h, World.tryAt_eq hget]

theorem done_calledBack (t : ℕ) (w : World) :
    ((calledBack t w).tryAt t).done = (w.tryAt t).done := by
  by_cases ht : t < w.tries.length
  · rw [tryAt_calledBack t w t ht, if_pos rfl]
  · have hnone : w.tries[t]? = none := List.getElem?_eq_none (Nat.not_lt.mp ht)
    have h : (calledBack t w).tries[t]? = none := by
      refine (World.getElem?_modTry _ _ _ _).trans ?_
      change (w.tries[t]?).map _ = _
      rw [hnone, Option.map_none]
    rw [World.tryAt, World.tryAt, h, hnone]

theorem spawnTryFree_freed (a : Answers) (t : ℕ) (w : World) :
    Freed C a t w (spawnTryFree (onDone C a) t w) := by
  have hdone := done_calledBack t w
  have hgreeters : (calledBack t w).greeters = w.greeters := greeters_calledBack w t
  rw [spawnTryFree_eq]
  unfold onDone doneCb
  cases hd : (w.tryAt t).done with
  | sessionDone c =>
    rw [hdone, hd]
    exact .login c hd
  | greeterStartDone g =>
    rw [hdone, hd]
    dsimp only
    cases hg : w.greeters[g]? with
    | none =>
      have hlost : greeterStartDone (greeterActivate C a) t g (SpawnTry.result (w.tryAt t))
          (calledBack t w) = ((calledBack t w).log (.greeterCb t none)).fault := by
        unfold greeterStartDone
        simp [seatAt, hg]
      rw [hlost]
      exact .lost g hd hg
    | some r =>
      have h : (calledBack t w).greeters[g]? = some r := by rw [hgreeters, hg]
      cases hres : (w.tryAt t).success with
      | error =>
        have : SpawnTry.result (w.tryAt t) = ⟨.error, (w.tryAt t).errorMsg⟩ := by
          rw [SpawnTry.result, hres]
        rw [this, greeterStartDone_error h]
        exact .restarted g r hd hg hres
      | success =>
        cases htry : r.runTry with
        | none =>
          have hno : greeterStartDone (greeterActivate C a) t g (SpawnTry.result (w.tryAt t))
              (calledBack t w) =
                (((calledBack t w).log (.greeterCb t (some r.seat))).log
                  (.startDone t none)).fault := by
            unfold greeterStartDone
            simp [seatAt, hg, SpawnTry.result, hres, htry]
          rw [hno]
          exact .noTry g r hd hg hres htry
        | some t' =>
          have hyes : greeterStartDone (greeterActivate C a) t g (SpawnTry.result (w.tryAt t))
              (calledBack t w) = greeterStarted t g t' (calledBack t w) := by
            unfold greeterStartDone greeterStarted
            simp [seatAt, hg, SpawnTry.result, hres, htry]
          rw [hyes]
          exact .started g r t' hd hg hres htry

/-- The end of a greeter's try that has failed and finds a record. -/
theorem Freed.eq_restarted {C : FieldCode SpawnField} {a : Answers} {t g : ℕ} {r : SeatGreeter}
    {w w' : World} (hf : Freed C a t w w') (hdone : (w.tryAt t).done = .greeterStartDone g)
    (hg : w.greeters[g]? = some r) (herror : (w.tryAt t).success = .error) :
    w' = release t (greeterActivate C a r.seat (greeterStartFailed t g (calledBack t w))) := by
  have hslot : ∀ {g'}, (w.tryAt t).done = .greeterStartDone g' → g = g' :=
    fun hdone' => DoneCb.greeterStartDone.inj (hdone.symm.trans hdone')
  cases hf with
  | login c hdone' =>
    rw [hdone] at hdone'
    cases hdone'
  | lost g' hdone' hnone =>
    obtain rfl := hslot hdone'
    rw [hg] at hnone
    cases hnone
  | restarted g' r' hdone' hg' _ =>
    obtain rfl := hslot hdone'
    obtain rfl : r = r' := Option.some.inj (hg.symm.trans hg')
    rfl
  | noTry _ _ _ _ hres _ =>
    rw [herror] at hres
    cases hres
  | started _ _ _ _ _ hres _ =>
    rw [herror] at hres
    cases hres

/-! ### _child_data -/

/-- What `_child_data` does for the try `t`; `read` has emptied the pipe in `w₀`. -/
inductive ChildData (a : Answers) (t fd : ℕ) (w : World) : World → Prop
  | undecodable (hmsg : SpawnMessage.unpack C ((w.tryAt t).pipe.take MAX_MSG_SIZE) = none) :
    ChildData a t fd w (forceQuit t ((w.modTry t SpawnTry.readPipe).unregisterFd fd))
  | connect (m : SpawnMessage)
    (hmsg : SpawnMessage.unpack C ((w.tryAt t).pipe.take MAX_MSG_SIZE) = some m)
    (htype : m.type = .connect) :
    ChildData a t fd w (w.modTry t SpawnTry.readPipe)
  | setupDone (m : SpawnMessage)
    (hmsg : SpawnMessage.unpack C ((w.tryAt t).pipe.take MAX_MSG_SIZE) = some m)
    (htype : m.type = .setupDone) (session : Option String) :
    ChildData a t fd w (sessionActivate session
      (if session.isNone then forceQuit t ((w.modTry t SpawnTry.readPipe).modTry t
          fun tr => { tr with session := session })
        else (w.modTry t SpawnTry.readPipe).modTry t fun tr => { tr with session := session }))
  | sessionActive (m : SpawnMessage)
    (hmsg : SpawnMessage.unpack C ((w.tryAt t).pipe.take MAX_MSG_SIZE) = some m)
    (htype : m.type = .sessionActive) (w' : World)
    (hfree : Freed C a t (((w.modTry t SpawnTry.readPipe).unregisterFd (w.tryAt t).readFd).modTry t
      fun tr => { tr with success := .success }) w') :
    ChildData a t fd w w'
  | errorExit (m : SpawnMessage)
    (hmsg : SpawnMessage.unpack C ((w.tryAt t).pipe.take MAX_MSG_SIZE) = some m)
    (htype : m.type = .errorExit) (reason : String) (hexit : m.exit = some reason) :
    ChildData a t fd w (((w.modTry t SpawnTry.readPipe).unregisterFd (w.tryAt t).readFd).modTry t
      fun tr => { tr with errorMsg := some reason })
  | noReason (m : SpawnMessage)
    (hmsg : SpawnMessage.unpack C ((w.tryAt t).pipe.take MAX_MSG_SIZE) = some m)
    (htype : m.type = .errorExit) (hexit : m.exit = none) :
    ChildData a t fd w
      ((w.modTry t SpawnTry.readPipe).unregisterFd (w.tryAt t).readFd).fault

theorem readFd_readPipe (t : ℕ) (w : World) :
    ((w.modTry t SpawnTry.readPipe).tryAt t).readFd = (w.tryAt t).readFd := by
  unfold World.tryAt
  rw [World.getElem?_modTry]
  cases w.tries[t]? <;> simp [SpawnTry.readPipe]

theorem childData_does (a : Answers) (t fd : ℕ) (w : World) :
    ChildData C a t fd w (childData C (onDone C a) a t fd w) := by
  unfold childData
  cases hmsg : SpawnMessage.unpack C ((w.tryAt t).pipe.take MAX_MSG_SIZE) with
  | none => exact .undecodable hmsg
  | some m =>
    dsimp only
    unfold childMessage
    cases htype : m.type with
    | connect => exact .connect m hmsg htype
    | setupDone => exact .setupDone m hmsg htype _
    | sessionActive =>
      rw [readFd_readPipe]
      exact .sessionActive m hmsg htype _ (spawnTryFree_freed C a t _)
    | errorExit =>
      dsimp only
      rw [readFd_readPipe]
      cases hexit : m.exit with
      | none => exact .noReason m hmsg htype hexit
      | some reason => exact .errorExit m hmsg htype reason hexit

/-! ### _client_data -/

/-- The request that is read ends the connection of the client `c`: it is closed or sent nothing
readable, it may not make the call, or its request ends with a goodbye. -/
def releasesClient (a : Answers) (c : ℕ) (w : World) : Bool :=
  match a.input with
  | .eof => true
  | .bad => true
  | .msg m =>
    match m.type with
    | .hello => !clientIsGreeter a c w
    | .sessionActivation =>
      !clientIsGreeter a c w || (sessionDetails a.sd a.locals m.session none).isSome
    | .loginTry => !clientIsGreeter a c w
    | .greeterStart => true
    | .unknown _ => false

/-- A login of the client `c` has forked the child `pid`. -/
def loginForked (c : ℕ) (req : SpawnRequest) (pid : ℕ) (w : World) : World :=
  (childForked w.tries.length pid (openTry req w)).modClient c
    fun cl => { cl with spawnTry := some w.tries.length }

/-- A login of the client `c` has failed at once: its callback has run, it is freed, and the client
gets its address. -/
def loginFailed (a : Answers) (noTty : Bool) (c : ℕ) (req : SpawnRequest) (w : World) : World :=
  (release w.tries.length (sessionDone a w.tries.length c ⟨.error, none⟩
    (tryFailed C noTty req w))).modClient c fun cl => { cl with spawnTry := some w.tries.length }

/-- What `_client_data` does for the client `c`. -/
inductive ClientData (a : Answers) (c fd : ℕ) (w : World) : World → Prop
  | closed (hrel : releasesClient a c w = true) :
    ClientData a c fd w (clientFree c (w.unregisterFd fd))
  | dropped (hrel : releasesClient a c w = true) : ClientData a c fd w (clientFree c w)
  | replied (msg : ServerMessage) (hfail : ∀ fb, msg.feedback = some fb → fb.success = false)
    (hform : (∃ d, msg = ⟨.dataUpdate, none, some d⟩) ∨ ∃ fb, msg = ⟨.loginFeedback, some fb, none⟩) :
    ClientData a c fd w (w.log (.sent (.reply c) (lookup w.fdtab fd) msg))
  | activated (hrel : releasesClient a c w = true) (session seat : Option String) :
    ClientData a c fd w (clientGoodbye (.reply c) c (greeterLockout seat
      (serverSpawnserviceFeedback (.reply c) false
        (some "Activation is called on this session") fd (sessionActivate session w))))
  | noLogin : ClientData a c fd w w.fault
  | noPipe (hidle : (w.clientAt c).spawnTry = none) :
    ClientData a c fd w (serverSpawnserviceFeedback (.reply c) false (some "spawn failed.") fd
      (w.modClient c fun cl => { cl with spawnTry := none }))
  | loginForked (hrel : releasesClient a c w = false) (hidle : (w.clientAt c).spawnTry = none)
    (l : Login) (pid : ℕ) :
    ClientData a c fd w (loginForked c (loginRequest a c fd l w)
      ((openTry (loginRequest a c fd l w) w).freePid pid) w)
  | loginFailed (hidle : (w.clientAt c).spawnTry = none) (l : Login) (noTty : Bool)
    (htty : noTty = true → (a.spawn w.tries.length).child = .noTty)
    (hpipe : (a.spawn w.tries.length).pipeOk = true)
    (hchild : ∀ pid, (a.spawn w.tries.length).child ≠ .forks pid) :
    ClientData a c fd w (loginFailed C a noTty c (loginRequest a c fd l w) w)
  | started (hrel : releasesClient a c w = true) (m : GreeterMessage) (hinput : a.input = .msg m)
    (htype : m.type = .greeterStart) (halive : a.alive (w.clientAt c).pid = true) :
    ClientData a c fd w (clientGoodbye (.reply c) c
      (greeterActivate C a ((requestSeat a c w).getD FALLBACK_SEAT) w))
  | ignored : ClientData a c fd w w
  | fallback (w' : World) (h : ClientData a c fd w w') : ClientData a c fd w w'.fault

theorem loginTry_does {a : Answers} {c fd : ℕ} {l : Login} {w : World}
    (hrel : releasesClient a c w = false) : ClientData C a c fd w (loginTry C a c fd l w) := by
  unfold loginTry
  by_cases hbusy : (w.clientAt c).spawnTry.isSome = true
  · rw [if_pos hbusy]
    exact .replied _ (by simp) (by simp)
  have hidle : (w.clientAt c).spawnTry = none := by simpa using hbusy
  rw [if_neg hbusy]
  by_cases hpipe : (a.spawn w.tries.length).pipeOk = true
  · by_cases hfork : ∃ pid, (a.spawn w.tries.length).child = .forks pid
    · obtain ⟨pid, hchild⟩ := hfork
      rw [spawnserviceSpawn_forks C hpipe hchild]
      exact .loginForked hrel hidle l pid
    · have hreq : (loginRequest a c fd l w).done = .sessionDone c := rfl
      rw [spawnserviceSpawn_fails C hpipe (not_exists.mp hfork), onDone_tryFailed C hreq]
      exact .loginFailed hidle l _ of_decide_eq_true hpipe (not_exists.mp hfork)
  · rw [spawnserviceSpawn_pipeFails C (by simpa using hpipe)]
    exact .noPipe hidle

theorem clientMessage_does {a : Answers} {c fd : ℕ} {m : GreeterMessage} {w : World}
    (hinput : a.input = .msg m) : ClientData C a c fd w (clientMessage C a c fd m w) := by
  unfold clientMessage
  cases htype : m.type with
  | hello =>
    dsimp only
    split_ifs with hc
    · exact .replied _ (by simp) (by simp)
    · exact .dropped (by simp [releasesClient, hinput, htype, hc])
  | sessionActivation =>
    dsimp only
    split_ifs with hc
    · unfold sessionActivation
      cases hd : sessionDetails a.sd a.locals m.session none with
      | none => exact .replied _ (by simp) (by simp)
      | some d => exact .activated (by simp [releasesClient, hinput, htype, hd]) _ _
    · exact .dropped (by simp [releasesClient, hinput, htype, hc])
  | loginTry =>
    dsimp only
    by_cases hc : clientIsGreeter a c w = true
    · rw [if_pos hc]
      cases m.login with
      | none =>
        dsimp only
        split_ifs
        · exact .replied _ (by simp) (by simp)
        · exact .noLogin
      | some l => exact loginTry_does C (by simp [releasesClient, hinput, htype, hc])
    · rw [if_neg hc]
      exact .dropped (by simp [releasesClient, hinput, htype, hc])
  | greeterStart =>
    dsimp only
    unfold greeterStartRequest
    have hrel : releasesClient a c w = true := by simp [releasesClient, hinput, htype]
    split_ifs with halive
    · exact .started hrel m hinput htype halive
    · exact .dropped hrel
  | unknown n => exact .ignored

theorem clientData_does (a : Answers) (c fd : ℕ) (w : World) :
    ClientData C a c fd w (clientData C a c fd w) := by
  unfold clientData
  cases hinput : a.input with
  | eof => exact .closed (by simp [releasesClient, hinput])
  | bad => exact .closed (by simp [releasesClient, hinput])
  | msg m =>
    dsimp only
    split_ifs
    · exact .fallback _ (clientMessage_does C hinput)
    · exact clientMessage_does C hinput

/-! ### The steps -/

/-- The read pass goes to the next entry. -/
def advance (w : World) : World := { w with fds := { w.fds with next := w.fds.next + 1 } }

/-- The inner loop of `spawnregistery_eval` for the try `t` is at the index `i`. -/
def scanTo (t i : ℕ) (w : World) : World := { w with scan := some (t, i) }

/-- The entry whose callback the read pass runs next. -/
def ready (w : World) : Option (FdRegister FdCb) :=
  (w.fds.fds[w.fds.next]?).filter fun r => r.alive && decide (r.fd ∈ w.fds.ready)

/-- The listener that `spawnregistery_eval` calls next, with the try whose child was reaped. -/
def called (w : World) : Option (ℕ × Handler) :=
  w.scan.bind fun s => (w.registry.pending[s.2]?).bind fun e =>
    if e.pid = (w.tryAt s.1).childPid then e.handler.map fun h => (s.1, h) else none

theorem called_eq {w : World} {t i : ℕ} {pid : ℤ} {hd : Handler} (hscan : w.scan = some (t, i))
    (he : w.registry.pending[i]? = some ⟨pid, some hd⟩) (hpid : pid = (w.tryAt t).childPid) :
    called w = some (t, hd) := by
  simp [called, hscan, he, hpid]

/-- What `spawnregistery_eval` does for a listener, before it is removed. -/
inductive Called (a : Answers) (t : ℕ) (w : World) : Handler → World → Prop
  | disappeared (t' : ℕ) (w' : World) (hfree : Freed C a t' w w') :
    Called a t w (.spawnedSessionDisappear t') w'
  | lost (g : ℕ) (hg : w.greeters[g]? = none) :
    Called a t w (.greeterDone g) (w.log (.greeterCb t none)).fault
  | ended (g : ℕ) (r : SeatGreeter) (hg : w.greeters[g]? = some r) (hend : r.ended = true) :
    Called a t w (.greeterDone g) (greeterDel r.seat (w.log (.greeterCb t (some r.seat))))
  | restarted (g : ℕ) (r : SeatGreeter) (hg : w.greeters[g]? = some r) (hend : r.ended = false) :
    Called a t w (.greeterDone g)
      (greeterActivate C a r.seat (greeterReset g (w.log (.greeterCb t (some r.seat)))))

/-- **What a step does.** -/
inductive Does (w : World) : Event → World → Prop
  | idle (e : Event) : Does w e w
  | select (readable error : List ℕ) (hout : w.fds.readout = false)
    (heval : w.registry.evalMode = false) :
    Does w (.select readable error) { w with fds := w.fds.selectReturns readable error }
  | endPass (a : Answers) (heval : w.registry.evalMode = false) :
    Does w (.next a) { w with fds := w.fds.endPass }
  | pass (a : Answers) (heval : w.registry.evalMode = false) : Does w (.next a) (advance w)
  | accept (a : Answers) (heval : w.registry.evalMode = false) (fd : ℕ)
    (hready : ready w = some ⟨some .acceptReady, fd⟩) :
    Does w (.next a) (acceptReady a (advance w))
  | client (a : Answers) (c fd : ℕ) (w' : World) (heval : w.registry.evalMode = false)
    (hready : ready w = some ⟨some (.clientData c), fd⟩)
    (hdoes : ClientData C a c fd (advance w) w') (hread : w.fds.readout = true) :
    Does w (.next a) w'
  | child (a : Answers) (t fd : ℕ) (w' : World) (heval : w.registry.evalMode = false)
    (hready : ready w = some ⟨some (.childData t), fd⟩)
    (hdoes : ChildData C a t fd (advance w) w') (hread : w.fds.readout = true) :
    Does w (.next a) w'
  | sigchld (heval : w.registry.evalMode = false) :
    Does w .sigchld { w with registry := { w.registry with evalMode := true } }
  | reap (t : ℕ) (tr : SpawnTry) (ht : w.tries[t]? = some tr) (hpid : tr.childPid ≠ 0)
    (hreap : tr.reaped = false) (heval : w.registry.evalMode = true) (hscan : w.scan = none) :
    Does w (.reap t) (scanTo t 0 (w.modTry t fun tr => { tr with exited := true, reaped := true }))
  | scanEnd (a : Answers) (t i : ℕ) (hscan : w.scan = some (t, i))
    (hend : w.registry.pending[i]? = none) : Does w (.visit a) { w with scan := none }
  | scanPass (a : Answers) (t i : ℕ) (e : Waiting Handler) (hscan : w.scan = some (t, i))
    (he : w.registry.pending[i]? = some e) (hpid : e.pid ≠ (w.tryAt t).childPid) :
    Does w (.visit a) (scanTo t (i + 1) w)
  | scanZeroed (a : Answers) (t i : ℕ) (e : Waiting Handler) (hscan : w.scan = some (t, i))
    (he : w.registry.pending[i]? = some e) (hh : e.handler = none) :
    Does w (.visit a) (scanTo t (i + 1) w.fault)
  | visit (a : Answers) (t i : ℕ) (pid : ℤ) (h : Handler) (w' : World)
    (hscan : w.scan = some (t, i)) (he : w.registry.pending[i]? = some ⟨pid, some h⟩)
    (hpid : pid = (w.tryAt t).childPid) (hcalled : Called C a t w h w') :
    Does w (.visit a) (scanTo t (i + 1) (w'.unlisten pid h))
  | sigchldReturn (hscan : w.scan = none) :
    Does w .sigchldReturn
      { w with registry := { pending := cleanup w.registry.pending, evalMode := false } }
  | childWrite (t : ℕ) (m : ServiceMessage) (hrun : SpawnTry.running (w.tryAt t) = true) :
    Does w (.childWrite t m) (w.modTry t (SpawnTry.writePipe C m.message))
  | childHangUp (t : ℕ) (hrun : SpawnTry.running (w.tryAt t) = true) :
    Does w (.childHangUp t) (w.modTry t fun tr => { tr with hungUp := true })
  | childExit (t : ℕ) (hrun : SpawnTry.running (w.tryAt t) = true) :
    Does w (.childExit t) (w.modTry t fun tr => { tr with exited := true })

theorem callHandler_called (a : Answers) (t : ℕ) (h : Handler) (w : World) :
    Called C a t w h (callHandler C a t h w) := by
  cases h with
  | spawnedSessionDisappear t' => exact .disappeared t' _ (spawnTryFree_freed C a t' w)
  | greeterDone g =>
    unfold callHandler greeterDone
    cases hg : w.greeters[g]? with
    | none =>
      simp only [World.log_greeters, hg, seatAt]
      exact .lost g hg
    | some r =>
      simp only [World.log_greeters, hg, seatAt]
      split_ifs with hend
      · exact .ended g r hg hend
      · exact .restarted g r hg (by simpa using hend)

theorem nextStep_does {a : Answers} {w : World} (hread : w.fds.readout = true)
    (heval : w.registry.evalMode = false) :
    Does C w (.next a) (nextStep C a w) := by
  unfold nextStep
  cases hr : w.fds.fds[w.fds.next]? with
  | none => exact .endPass a heval
  | some r =>
    obtain ⟨_ | cb, fd⟩ := r
    · exact .pass a heval
    · dsimp only
      split_ifs with hfd
      · have hready : ready w = some ⟨some cb, fd⟩ := by
          simp [ready, hr, FdRegister.alive, hfd, Option.filter]
        cases cb with
        | acceptReady => exact .accept a heval fd hready
        | clientData c => exact .client a c fd _ heval hready (clientData_does C a c fd _) hread
        | childData t =>
          dsimp only
          split_ifs
          · exact .idle _
          · exact .child a t fd _ heval hready (childData_does C a t fd _) hread
      · exact .pass a heval

theorem visitStep_does {a : Answers} {t i : ℕ} {w : World} (hscan : w.scan = some (t, i)) :
    Does C w (.visit a) (visitStep C a t i w) := by
  unfold visitStep
  cases he : w.registry.pending[i]? with
  | none => exact .scanEnd a t i hscan he
  | some e =>
    dsimp only
    split_ifs with hpid
    · obtain ⟨pid, _ | h⟩ := e
      · exact .scanZeroed a t i _ hscan he rfl
      · exact .visit a t i pid h _ hscan he hpid (callHandler_called C a t h w)
    · exact .scanPass a t i e hscan he hpid

theorem reapStep_does {t : ℕ} {w : World} (heval : w.registry.evalMode = true)
    (hscan : w.scan = none) : Does C w (.reap t) (reapStep t w) := by
  unfold reapStep
  split_ifs with h
  · cases ht : w.tries[t]? with
    | none => exact absurd (by rw [World.tryAt, ht]; rfl) h.1
    | some tr =>
      rw [World.tryAt_eq ht] at h
      exact .reap t tr ht h.1 h.2 heval hscan
  · exact .idle _

/-- **Every step is one of these.** -/
theorem step_does (w : World) (e : Event) : Does C w e (step C w e) := by
  cases e with
  | select readable error =>
    dsimp only [step]
    split_ifs with h
    · exact .select readable error h.1 h.2
    · exact .idle _
  | next a =>
    dsimp only [step]
    split_ifs with h
    · exact nextStep_does C h.1 h.2
    · exact .idle _
  | sigchld =>
    dsimp only [step]
    split_ifs with h
    · exact .sigchld h
    · exact .idle _
  | reap t =>
    dsimp only [step]
    split_ifs with h
    · exact reapStep_does C h.1 h.2
    · exact .idle _
  | visit a =>
    dsimp only [step]
    cases hscan : w.scan with
    | none => exact .idle _
    | some s => exact visitStep_does C hscan
  | sigchldReturn =>
    dsimp only [step]
    split_ifs with h
    · exact .sigchldReturn h.2
    · exact .idle _
  | childWrite t m =>
    dsimp only [step]
    split_ifs with h
    · exact .childWrite t m (by simpa using (Bool.and_eq_true_iff.mp h).1)
    · exact .idle _
  | childHangUp t =>
    dsimp only [step]
    split_ifs with h
    · exact .childHangUp t h
    · exact .idle _
  | childExit t =>
    dsimp only [step]
    split_ifs with h
    · exact .childExit t h
    · exact .idle _

/-! ### The steps that run a callback -/

theorem ready_eq_some {w : World} {r : FdRegister FdCb} (h : ready w = some r) :
    w.fds.fds[w.fds.next]? = some r ∧ r.alive = true ∧ r.fd ∈ w.fds.ready := by
  obtain ⟨hget, hok⟩ := Option.filter_eq_some_iff.mp h
  obtain ⟨halive, hfd⟩ := Bool.and_eq_true_iff.mp hok
  exact ⟨hget, halive, of_decide_eq_true hfd⟩

theorem step_client {a : Answers} {c fd : ℕ} {w : World} (hread : w.fds.readout = true)
    (heval : w.registry.evalMode = false) (hready : ready w = some ⟨some (.clientData c), fd⟩) :
    step C w (.next a) = clientData C a c fd (advance w) := by
  obtain ⟨hget, -, hfd⟩ := ready_eq_some hready
  have hnext : step C w (.next a) = nextStep C a w := if_pos ⟨hread, heval⟩
  rw [hnext, nextStep, hget]
  dsimp only
  rw [if_pos hfd]
  rfl

theorem step_child {a : Answers} {t fd : ℕ} {w : World} (hread : w.fds.readout = true)
    (heval : w.registry.evalMode = false) (hready : ready w = some ⟨some (.childData t), fd⟩)
    (hblocks : SpawnTry.blocks (w.tryAt t) = false) :
    step C w (.next a) = childData C (onDone C a) a t fd (advance w) := by
  obtain ⟨hget, -, hfd⟩ := ready_eq_some hready
  have hnext : step C w (.next a) = nextStep C a w := if_pos ⟨hread, heval⟩
  rw [hnext, nextStep, hget]
  dsimp only
  rw [if_pos hfd, if_neg (by simp [hblocks])]
  rfl

theorem step_visit {a : Answers} {t : ℕ} {hd : Handler} {w : World}
    (hcalled : called w = some (t, hd)) : ∃ i pid, w.scan = some (t, i) ∧
      w.registry.pending[i]? = some ⟨pid, some hd⟩ ∧ pid = (w.tryAt t).childPid ∧
        step C w (.visit a) = scanTo t (i + 1) ((callHandler C a t hd w).unlisten pid hd) := by
  obtain ⟨⟨t', i⟩, hscan, hbind⟩ := Option.bind_eq_some_iff.mp hcalled
  obtain ⟨⟨pid, h⟩, he, hif⟩ := Option.bind_eq_some_iff.mp hbind
  split_ifs at hif with hpid
  obtain ⟨h', rfl, heq⟩ := Option.map_eq_some_iff.mp hif
  obtain ⟨rfl, rfl⟩ := Prod.mk.inj heq
  refine ⟨i, pid, hscan, he, hpid, ?_⟩
  have hpid' : pid = ((w.tryAt t').childPid : ℤ) := hpid
  simp only [step, hscan, visitStep, he, hpid', if_true]
  rfl

end Spawny.Daemon.Steps
