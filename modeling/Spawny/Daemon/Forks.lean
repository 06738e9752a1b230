import Spawny.Daemon.WatchedFds
import Spawny.Daemon.TryLife

/-! # Where the daemon forks

`child_run` is called for a login and from the activations of a seat, and a step of the daemon forks at
most once. `forking w e` is the state of the daemon, in the middle of the step, in which
`spawnservice_spawn` is called that forks, with its arguments.

* `spawned_activate`, `spawned_clientData`, `spawned_freed`: what the callbacks fork;
* `spawned_step`: **the forks that a step records are those of `forking`**;
* `watched_forking`: what is watched is open when the daemon forks. -/

namespace Spawny.Daemon.Forks

open Spawny.Lib.Wire Spawny.Lib.Descriptors Spawny.Protocol.Messages
open Spawny.Daemon.Manager Spawny.Daemon.SpawnRegistry
open Spawny.Daemon.SessionMgt Spawny.Daemon.State Spawny.Daemon.SpawnService
open Spawny.Daemon.GreeterTable Spawny.Daemon.Client Spawny.Daemon.Greeter Spawny.Daemon.Activations
open Spawny.Daemon.Server Spawny.Daemon.Loop Spawny.Daemon.Steps Spawny.Daemon.TryViews
open Spawny.Daemon.TryLife Spawny.Daemon.WatchedFds

variable {C : FieldCode SpawnField} {w w' w'' : World}

/-! ### The calls that fork -/

/-- A call of `spawnservice_spawn`: the state it is made in, and its arguments. -/
abbrev SpawnCall := World × SpawnRequest

/-- The spawn for a try of the number `t` forks. -/
def spawnForks (a : Answers) (t : ℕ) : Bool :=
  (a.spawn t).pipeOk &&
    match (a.spawn t).child with
    | .forks _ => true
    | _ => false

/-- `_client_data`: a `LOGIN_TRY`. -/
def loginForks (a : Answers) (c fd : ℕ) (l : Login) (w : World) : Option SpawnCall :=
  if (w.clientAt c).spawnTry = none ∧ spawnForks a w.tries.length = true then
    some (w, loginRequest a c fd l w) else none

variable (C) in
/-- `greeter_activate` on the record in slot `g`. -/
def startForks (nested : String → World → Option SpawnCall) (a : Answers) (g : ℕ) (r : SeatGreeter)
    (w : World) : Option SpawnCall :=
  if greeterSession a r w = none ∧ r.runGen ≤ FALLBACK_RUN_GENERATION ∧
      (a.spawn w.tries.length).pipeOk = true then
    if spawnForks a w.tries.length = true then some (w, greeterRequest g r.seat)
    else nested r.seat
      (greeterFailed C (decide ((a.spawn w.tries.length).child = .noTty)) g r.seat w)
  else none

variable (C) in
/-- `greeter_activate` with at most `n` nested calls. -/
def activateForksUpTo : ℕ → Answers → String → World → Option SpawnCall
  | 0, _, _, _ => none
  | n + 1, a, seat, w =>
    let s := greeterRecord seat w
    startForks C (activateForksUpTo n a) a s.2 ((s.1.greeters[s.2]?).getD default) s.1

variable (C) in
def activateForks (a : Answers) (seat : String) (w : World) : Option SpawnCall :=
  activateForksUpTo C maxActivate a seat w

variable (C) in
/-- The `switch` of `_client_data`. -/
def messageForks (a : Answers) (c fd : ℕ) (m : GreeterMessage) (w : World) : Option SpawnCall :=
  match m.type with
  | .loginTry => if clientIsGreeter a c w then m.login.bind fun l => loginForks a c fd l w else none
  | .greeterStart =>
    if a.alive (w.clientAt c).pid then
      activateForks C a ((requestSeat a c w).getD FALLBACK_SEAT) w else none
  | _ => none

variable (C) in
/-- `_client_data`. -/
def clientForks (a : Answers) (c fd : ℕ) (w : World) : Option SpawnCall :=
  match a.input with
  | .msg m => messageForks C a c fd m w
  | _ => none

variable (C) in
/-- `_spawn_try_free`: a greeter that has not started is started again. -/
def freedForks (a : Answers) (t : ℕ) (w : World) : Option SpawnCall :=
  match (w.tryAt t).done, (w.tryAt t).success with
  | .greeterStartDone g, .error => (w.greeters[g]?).bind fun r =>
      activateForks C a r.seat (greeterStartFailed t g (calledBack t w))
  | _, _ => none

variable (C) in
/-- `_greeter_done`. -/
def doneForks (a : Answers) (t g : ℕ) (w : World) : Option SpawnCall :=
  (w.greeters[g]?).bind fun r =>
    if r.ended then none
    else activateForks C a r.seat (greeterReset g (w.log (.greeterCb t (some r.seat))))

variable (C) in
/-- The callback of the entry `r`; no message of a child leads to a fork. -/
def dispatchForks (a : Answers) (r : FdRegister FdCb) (w : World) : Option SpawnCall :=
  match r.cb with
  | some (.clientData c) => clientForks C a c r.fd (advance w)
  | _ => none

variable (C) in
/-- The listener `hd`, called for the end of the child of the try `t`. -/
def calledForks (a : Answers) (t : ℕ) (hd : Handler) (w : World) : Option SpawnCall :=
  match hd with
  | .greeterDone g => doneForks C a t g w
  | .spawnedSessionDisappear t' => freedForks C a t' w

variable (C) in
/-- **The call of `spawnservice_spawn` that forks** in the step. -/
def forking (w : World) : Event → Option SpawnCall
  | .next a =>
    if w.fds.readout = true ∧ w.registry.evalMode = false then
      (ready w).bind fun r => dispatchForks C a r w
    else none
  | .visit a => (called w).bind fun s => calledForks C a s.1 s.2 w
  | _ => none

/-! ### What is recorded -/

/-- The tries whose children were forked. -/
def spawned (os : List Obs) : List ℕ :=
  os.filterMap fun o => match o with
    | .spawned t => some t
    | _ => none

@[simp] theorem spawned_append (os os' : List Obs) :
    spawned (os ++ os') = spawned os ++ spawned os' := List.filterMap_append

/-- The forks since `w` are those of the tries `ts`. -/
def Spawned (w : World) (ts : List ℕ) (w' : World) : Prop :=
  spawned w'.trace = spawned w.trace ++ ts

/-- The numbers of the tries that the call makes. -/
def tryOf (o : Option SpawnCall) : List ℕ := o.toList.map fun s => s.1.tries.length

theorem spawned_refl (w : World) : Spawned w [] w := (List.append_nil _).symm

theorem Spawned.append {ts : List ℕ} {os : List Obs} (h : Spawned w ts w')
    (htrace : w''.trace = w'.trace ++ os) (hos : spawned os = []) : Spawned w ts w'' := by
  unfold Spawned
  rw [htrace, spawned_append, hos, List.append_nil]
  exact h

theorem Spawned.still {ts : List ℕ} (h : Spawned w ts w') (htrace : w''.trace = w'.trace) :
    Spawned w ts w'' := by
  unfold Spawned
  rw [htrace]
  exact h

theorem Spawned.log {ts : List ℕ} (h : Spawned w ts w') {o : Obs} (ho : spawned [o] = []) :
    Spawned w ts (w'.log o) := h.append rfl ho

/-- Nothing was forked before. -/
theorem Spawned.from {ts : List ℕ} (h : Spawned w [] w') (h' : Spawned w' ts w'') :
    Spawned w ts w'' := by
  unfold Spawned at h h' ⊢
  rw [h', h, List.append_nil]

theorem spawned_forked (req : SpawnRequest) (pid : ℕ) (w : World) :
    Spawned w [w.tries.length] (childForked w.tries.length pid (openTry req w)) := by
  have htrace : (childForked w.tries.length pid (openTry req w)).trace =
      w.trace ++ [.spawned w.tries.length] := by rw [trace_childForked, trace_openTry]
  unfold Spawned
  rw [htrace, spawned_append]
  rfl

theorem Spawned.failed {ts : List ℕ} (h : Spawned w ts w') (noTty : Bool) (req : SpawnRequest) :
    Spawned w ts (tryFailed C noTty req w') := h.append (trace_tryFailed C w' noTty req) rfl

theorem Spawned.release {ts : List ℕ} (h : Spawned w ts w') (t : ℕ) :
    Spawned w ts (release t w') := h.still (trace_release w' t)

/-! ### Activations -/

theorem Spawned.greeterFailed {ts : List ℕ} (h : Spawned w ts w') (noTty : Bool) (g : ℕ)
    (seat : String) : Spawned w ts (greeterFailed C noTty g seat w') := by
  have hcb := (h.failed (C := C) noTty (greeterRequest g seat)).log (o := .greeterCb w'.tries.length
    (seatAt (tryFailed C noTty (greeterRequest g seat) w') g)) rfl
  exact hcb.still (World.modGreeter_trace _ _ _)

theorem spawnForks_iff {a : Answers} {t : ℕ} : spawnForks a t = true ↔
    (a.spawn t).pipeOk = true ∧ ∃ pid, (a.spawn t).child = .forks pid := by
  unfold spawnForks
  cases (a.spawn t).child <;> simp

theorem spawned_start {a : Answers} {activate : String → World → World}
    {nested : String → World → Option SpawnCall}
    (hnested : ∀ seat w, Spawned w (tryOf (nested seat w)) (activate seat w)) {g : ℕ}
    {r : SeatGreeter} (hg : w.greeters[g]? = some r) :
    Spawned w (tryOf (startForks C nested a g r w)) (greeterStart C (doneCb a activate) a g r w) := by
  unfold greeterStart startForks
  cases hs : greeterSession a r w with
  | some s => exact (spawned_refl w).log rfl
  | none =>
    dsimp only
    by_cases hgen : r.runGen ≤ FALLBACK_RUN_GENERATION
    · by_cases hpipe : (a.spawn w.tries.length).pipeOk = true
      · rw [if_pos hgen, if_pos ⟨rfl, hgen, hpipe⟩]
        by_cases hfork : ∃ pid, (a.spawn w.tries.length).child = .forks pid
        · obtain ⟨pid, hchild⟩ := hfork
          rw [if_pos (spawnForks_iff.mpr ⟨hpipe, pid, hchild⟩),
            spawnserviceSpawn_forks C hpipe hchild]
          exact (spawned_forked _ _ w).still (World.modGreeter_trace _ _ _)
        · rw [if_neg fun h => hfork (spawnForks_iff.mp h).2,
            spawnserviceSpawn_fails C hpipe (not_exists.mp hfork), doneCb_tryFailed C hg]
          have hfailed := (spawned_refl w).greeterFailed (C := C)
            (decide ((a.spawn w.tries.length).child = .noTty)) g r.seat
          exact ((hfailed.from (hnested r.seat _)).release w.tries.length).still
            (World.modGreeter_trace _ _ _)
      · rw [if_pos hgen, if_neg fun h => hpipe h.2.2,
          spawnserviceSpawn_pipeFails C (by simpa using hpipe)]
        exact (spawned_refl w).still (World.modGreeter_trace _ _ _)
    · rw [if_neg hgen, if_neg fun h => hgen h.2.1]
      exact spawned_refl w

theorem spawned_activateUpTo (a : Answers) : ∀ (n : ℕ) (seat : String) (w : World),
    Spawned w (tryOf (activateForksUpTo C n a seat w)) (greeterActivateUpTo C n a seat w)
  | 0, _, w => spawned_refl w
  | n + 1, seat, w => by
    rcases greeterRecord_cases seat w with ⟨g, r, hrec, -, hg, -⟩ | ⟨-, hrec, hg⟩
    · simp only [greeterActivateUpTo, activateForksUpTo, hrec, hg, Option.getD_some]
      exact spawned_start (spawned_activateUpTo a n) hg
    · simp only [greeterActivateUpTo, activateForksUpTo, hrec, hg, Option.getD_some]
      have hadd : Spawned w [] (greeterAdd seat w) := (spawned_refl w).still rfl
      exact hadd.from (spawned_start (spawned_activateUpTo a n) hg)

/-- **What an activation forks.** -/
theorem spawned_activate (a : Answers) (seat : String) (w : World) :
    Spawned w (tryOf (activateForks C a seat w)) (greeterActivate C a seat w) :=
  spawned_activateUpTo a maxActivate seat w

/-! ### The callbacks -/

theorem Spawned.greeterLockout {ts : List ℕ} (h : Spawned w ts w') (seat : Option String) :
    Spawned w ts (greeterLockout seat w') := by
  unfold GreeterTable.greeterLockout
  cases seat with
  | none =>
    dsimp only
    split_ifs
    · exact h
    · exact h.still rfl
  | some s =>
    dsimp only
    cases greeterSearch s w' with
    | none => exact h
    | some g => exact (h.still (World.modGreeter_trace g _ w')).log rfl

theorem Spawned.sessionActivate {ts : List ℕ} (h : Spawned w ts w') (session : Option String) :
    Spawned w ts (sessionActivate session w') := by
  cases session with
  | none => exact h.still rfl
  | some s => exact h.log rfl

theorem Spawned.clientFree {ts : List ℕ} (h : Spawned w ts w') (c : ℕ) :
    Spawned w ts (clientFree c w') := h.still rfl

theorem Spawned.goodbye {ts : List ℕ} (h : Spawned w ts w') (why : Sender) (c : ℕ) :
    Spawned w ts (clientGoodbye why c w') := Spawned.clientFree (h.log rfl) c

theorem Spawned.feedback {ts : List ℕ} (h : Spawned w ts w') (why : Sender) (success : Bool)
    (message : Option String) (fd : ℕ) :
    Spawned w ts (serverSpawnserviceFeedback why success message fd w') := h.log rfl

theorem Spawned.modClient {ts : List ℕ} (h : Spawned w ts w') (c : ℕ)
    (f : State.Client → State.Client) : Spawned w ts (w'.modClient c f) :=
  h.still (World.modClient_trace c f w')

theorem Spawned.sessionDone {ts : List ℕ} (h : Spawned w ts w') (a : Answers) (t c : ℕ)
    (result : SpawnServiceEnd) : Spawned w ts (sessionDone a t c result w') := by
  have hfault : Spawned w ts (if (w'.clientAt c).freed then w'.fault else w') := by
    split_ifs
    · exact h.still rfl
    · exact h
  unfold Client.sessionDone
  dsimp only
  generalize (if (w'.clientAt c).freed then w'.fault else w') = w₁ at hfault ⊢
  cases result.success with
  | error => exact (hfault.feedback _ _ _ _).modClient c _
  | success => exact (((hfault.greeterLockout _).feedback _ _ _ _).modClient c _).goodbye _ c

theorem spawned_calledBack (t : ℕ) (w : World) : Spawned w [] (calledBack t w) :=
  (spawned_refl w).append (trace_calledBack w t) rfl

/-- **What freeing a try forks.** -/
theorem spawned_freed {a : Answers} {t : ℕ} (hf : Freed C a t w w') :
    Spawned w (tryOf (freedForks C a t w)) w' := by
  have hcalled := spawned_calledBack t w
  cases hf with
  | login c hdone =>
    rw [freedForks, hdone]
    exact (hcalled.sessionDone a t c _).release t
  | lost g hdone hg =>
    have hnone : freedForks C a t w = none := by
      rw [freedForks, hdone]
      cases (w.tryAt t).success <;> simp [hg]
    rw [hnone]
    exact Spawned.release ((hcalled.log rfl).still (World.fault_trace _)) t
  | restarted g r hdone hg hres =>
    rw [freedForks, hdone, hres]
    dsimp only
    rw [hg, Option.bind_some]
    have hfailed : Spawned w [] (greeterStartFailed t g (calledBack t w)) :=
      Spawned.still (hcalled.log (o := .greeterCb t (seatAt (calledBack t w) g)) rfl)
        (World.modGreeter_trace _ _ _)
    exact (hfailed.from (spawned_activate a r.seat _)).release t
  | noTry g r hdone hg hres _ =>
    rw [freedForks, hdone, hres]
    exact Spawned.release (((hcalled.log rfl).log rfl).still (World.fault_trace _)) t
  | started g r t' hdone hg hres _ =>
    rw [freedForks, hdone, hres]
    have hlog := (hcalled.log (o := .greeterCb t (seatAt (calledBack t w) g)) rfl).log
      (o := .startDone t (some t')) rfl
    have hstarted : Spawned w [] (greeterStarted t g t' (calledBack t w)) :=
      (hlog.still (World.modGreeter_trace g _ _)).still (World.listen_trace _ _ _)
    exact hstarted.release t

theorem spawned_loginTry (a : Answers) (c fd : ℕ) (l : Login) (w : World) :
    Spawned w (tryOf (loginForks a c fd l w)) (loginTry C a c fd l w) := by
  unfold loginTry loginForks
  by_cases hbusy : (w.clientAt c).spawnTry.isSome = true
  · have hno : ¬((w.clientAt c).spawnTry = none ∧ spawnForks a w.tries.length = true) := by
      rintro ⟨hidle, -⟩
      simp [hidle] at hbusy
    rw [if_pos hbusy, if_neg hno]
    exact (spawned_refl w).feedback _ _ _ _
  have hidle : (w.clientAt c).spawnTry = none := by simpa using hbusy
  rw [if_neg hbusy]
  by_cases hpipe : (a.spawn w.tries.length).pipeOk = true
  · by_cases hfork : ∃ pid, (a.spawn w.tries.length).child = .forks pid
    · obtain ⟨pid, hchild⟩ := hfork
      rw [if_pos ⟨hidle, spawnForks_iff.mpr ⟨hpipe, pid, hchild⟩⟩,
        spawnserviceSpawn_forks C hpipe hchild]
      exact (spawned_forked _ _ w).modClient c _
    · have hreq : (loginRequest a c fd l w).done = .sessionDone c := rfl
      rw [if_neg fun h => hfork (spawnForks_iff.mp h.2).2,
        spawnserviceSpawn_fails C hpipe (not_exists.mp hfork), onDone_tryFailed C hreq]
      exact ((((spawned_refl w).failed _ _).sessionDone a _ c _).release _).modClient c _
  · rw [if_neg fun h => hpipe (spawnForks_iff.mp h.2).1,
      spawnserviceSpawn_pipeFails C (by simpa using hpipe)]
    exact ((spawned_refl w).modClient c _).feedback _ _ _ _

theorem spawned_clientMessage (a : Answers) (c fd : ℕ) (m : GreeterMessage) (w : World) :
    Spawned w (tryOf (messageForks C a c fd m w)) (clientMessage C a c fd m w) := by
  have hrefl := spawned_refl w
  unfold clientMessage messageForks
  cases m.type with
  | hello =>
    dsimp only
    split_ifs
    · exact hrefl.log rfl
    · exact hrefl.clientFree c
  | sessionActivation =>
    dsimp only
    split_ifs
    · unfold sessionActivation
      cases sessionDetails a.sd a.locals m.session none with
      | none => exact hrefl.feedback _ _ _ _
      | some d =>
        exact (((hrefl.sessionActivate m.session).feedback _ _ _ _).greeterLockout _).goodbye _ c
    · exact hrefl.clientFree c
  | loginTry =>
    dsimp only
    by_cases hc : clientIsGreeter a c w = true
    · rw [if_pos hc, if_pos hc]
      cases m.login with
      | none =>
        dsimp only
        by_cases hbusy : (w.clientAt c).spawnTry.isSome = true
        · rw [if_pos hbusy]
          exact hrefl.feedback _ _ _ _
        · rw [if_neg hbusy]
          exact hrefl.still rfl
      | some l => exact spawned_loginTry a c fd l w
    · rw [if_neg hc, if_neg hc]
      exact hrefl.clientFree c
  | greeterStart =>
    dsimp only
    unfold greeterStartRequest
    split_ifs
    · exact (spawned_activate a _ w).goodbye _ c
    · exact hrefl.clientFree c
  | unknown n => exact hrefl

/-- **What a request forks.** -/
theorem spawned_clientData (a : Answers) (c fd : ℕ) (w : World) :
    Spawned w (tryOf (clientForks C a c fd w)) (clientData C a c fd w) := by
  unfold clientData clientForks
  cases a.input with
  | eof => exact Spawned.clientFree ((spawned_refl w).still (World.unregisterFd_trace fd w)) c
  | bad => exact Spawned.clientFree ((spawned_refl w).still (World.unregisterFd_trace fd w)) c
  | msg m =>
    have hmessage := spawned_clientMessage (C := C) a c fd m w
    dsimp only
    split_ifs
    · exact hmessage.still (World.fault_trace _)
    · exact hmessage

theorem Spawned.forceQuit {ts : List ℕ} (h : Spawned w ts w') (t : ℕ) :
    Spawned w ts (forceQuit t w') := by
  unfold SpawnService.forceQuit
  split_ifs
  · exact h.log rfl
  · exact h.still rfl

/-- A message of a child forks nothing. -/
theorem spawned_childData {a : Answers} {t fd : ℕ} {v : TryView} (hv : view w t = some v)
    (hdoes : ChildData C a t fd w w') : Spawned w [] w' := by
  have hread : Spawned w [] (w.modTry t SpawnTry.readPipe) := (spawned_refl w).still rfl
  have hclosed : Spawned w [] ((w.modTry t SpawnTry.readPipe).unregisterFd (w.tryAt t).readFd) :=
    hread.still (World.unregisterFd_trace _ _)
  cases hdoes with
  | undecodable _ => exact (hread.still (World.unregisterFd_trace fd _)).forceQuit t
  | connect _ _ _ => exact hread
  | setupDone _ _ _ session =>
    refine Spawned.sessionActivate ?_ session
    have hset : Spawned w [] ((w.modTry t SpawnTry.readPipe).modTry t
        fun tr => { tr with session := session }) := (spawned_refl w).still rfl
    split_ifs
    · exact hset.forceQuit t
    · exact hset
  | sessionActive _ _ _ w' hfree =>
    set w₁ := ((w.modTry t SpawnTry.readPipe).unregisterFd (w.tryAt t).readFd).modTry t
      fun tr => { tr with success := .success } with hw₁
    have hset : Spawned w [] w₁ := (spawned_refl w).still rfl
    have hsuccess : (w₁.tryAt t).success = .success := by
      obtain ⟨tr, htr, -⟩ := view_eq_some.mp hv
      rw [World.tryAt_eq (getElem?_succeeded htr _)]
    have hnone : freedForks C a t w₁ = none := by
      rw [freedForks, hsuccess]
      cases (w₁.tryAt t).done <;> rfl
    have hfreed := spawned_freed hfree
    rw [hnone] at hfreed
    exact hset.from hfreed
  | errorExit _ _ _ reason _ => exact hclosed.still rfl
  | noReason _ _ _ _ => exact hclosed.still rfl

/-- What the end of a child forks. -/
theorem spawned_called {a : Answers} {t : ℕ} {hd : Handler} (hcalled : Called C a t w hd w') :
    Spawned w (tryOf (calledForks C a t hd w)) w' := by
  cases hcalled with
  | disappeared t' w' hfree => exact spawned_freed hfree
  | lost g hg =>
    rw [calledForks, doneForks, hg]
    exact ((spawned_refl w).log rfl).still (World.fault_trace _)
  | ended g r hg hend =>
    rw [calledForks, doneForks, hg, Option.bind_some, if_pos hend]
    exact ((spawned_refl w).log (o := .greeterCb t (some r.seat)) rfl).still rfl
  | restarted g r hg hend =>
    rw [calledForks, doneForks, hg, Option.bind_some, if_neg (by simp [hend])]
    have hreset : Spawned w [] (greeterReset g (w.log (.greeterCb t (some r.seat)))) :=
      ((spawned_refl w).log rfl).still (World.modGreeter_trace _ _ _)
    exact hreset.from (spawned_activate a r.seat _)

/-! ### The steps -/

theorem ready_of_get {r : FdRegister FdCb} (hr : w.fds.fds[w.fds.next]? = some r) :
    ready w = if r.alive = true ∧ r.fd ∈ w.fds.ready then some r else none := by
  simp [ready, hr, Option.filter]

theorem spawned_nextStep (hlife : Life none w) (a : Answers) :
    Spawned w (tryOf ((ready w).bind fun r => dispatchForks C a r w)) (nextStep C a w) := by
  have hrefl := spawned_refl w
  have hadvance : Spawned w [] (advance w) := hrefl.still rfl
  unfold nextStep
  cases hr : w.fds.fds[w.fds.next]? with
  | none =>
    have hnone : ready w = none := by rw [ready, hr, Option.filter_none]
    rw [hnone]
    exact hrefl.still rfl
  | some r =>
    have hready := ready_of_get hr
    obtain ⟨_ | cb, fd⟩ := r
    · rw [hready, if_neg (by simp [FdRegister.alive])]
      exact hadvance
    · dsimp only
      by_cases hfd : fd ∈ w.fds.ready
      · rw [if_pos ⟨rfl, hfd⟩] at hready
        rw [if_pos hfd, hready, Option.bind_some]
        cases cb with
        | acceptReady =>
          refine hadvance.still ?_
          change (acceptReady a (advance w)).trace = _
          unfold acceptReady
          cases a.peer <;> rfl
        | clientData c => exact hadvance.from (spawned_clientData a c fd (advance w))
        | childData t =>
          obtain ⟨v, hv, -⟩ := hlife.read (ready_mem_live hready) rfl
          dsimp only
          split_ifs
          · exact hrefl
          · exact hadvance.from (spawned_childData (w := advance w) hv (childData_does C a t fd _))
      · rw [if_neg fun h => hfd h.2] at hready
        rw [if_neg hfd, hready]
        exact hadvance

theorem spawned_visit (a : Answers) :
    Spawned w (tryOf ((called w).bind fun s => calledForks C a s.1 s.2 w)) (step C w (.visit a)) := by
  have hrefl := spawned_refl w
  cases hcalled : called w with
  | some s =>
    obtain ⟨t, hd⟩ := s
    obtain ⟨i, pid, -, -, -, hstep⟩ := step_visit (C := C) (a := a) hcalled
    rw [hstep, Option.bind_some]
    exact (spawned_called (callHandler_called C a t hd w)).still (World.unlisten_trace pid hd _)
  | none =>
    have hdoes := step_does C w (.visit a)
    generalize step C w (.visit a) = w' at hdoes
    cases hdoes with
    | idle _ => exact hrefl
    | scanEnd _ _ _ _ _ => exact hrefl.still rfl
    | scanPass _ _ _ _ _ _ _ => exact hrefl.still rfl
    | scanZeroed _ _ _ _ _ _ _ => exact hrefl.still rfl
    | visit _ t i pid hd w' hscan he hpid _ =>
      have hsome : called w = some (t, hd) := called_eq hscan he hpid
      rw [hcalled] at hsome
      cases hsome

/-- **What a step forks**: the forks that it records are those of the call. -/
theorem spawned_step (hlife : Life none w) (e : Event) :
    Spawned w (tryOf (forking C w e)) (step C w e) := by
  have hrefl := spawned_refl w
  cases e with
  | next a =>
    dsimp only [forking, step]
    split_ifs
    · exact spawned_nextStep hlife a
    · exact hrefl
  | visit a => exact spawned_visit a
  | select readable error | sigchld | sigchldReturn | childWrite t m | childHangUp t | childExit t =>
    dsimp only [step]
    split_ifs
    · exact hrefl.still rfl
    · exact hrefl
  | reap t =>
    dsimp only [step]
    split_ifs
    · unfold reapStep
      split_ifs
      · exact hrefl.still rfl
      · exact hrefl
    · exact hrefl

/-! ### The state at the fork -/

theorem startForks_keeps {a : Answers} {I : World → Prop} (h : GreeterOps C a I)
    {nested : String → World → Option SpawnCall}
    (hnested : ∀ seat w s, I w → nested seat w = some s → I s.1) {g : ℕ} {r : SeatGreeter}
    {s : SpawnCall} (hg : w.greeters[g]? = some r) (hw : I w)
    (hs : startForks C nested a g r w = some s) : I s.1 := by
  unfold startForks at hs
  split_ifs at hs with hok hfork
  · rw [← Option.some.inj hs]
    exact hw
  · have hchild : ∀ pid, (a.spawn w.tries.length).child ≠ .forks pid :=
      fun pid hchild => hfork (spawnForks_iff.mpr ⟨hok.2.2, pid, hchild⟩)
    exact hnested _ _ _ (h.failed _ of_decide_eq_true hg hok.1 hok.2.2 hchild hw) hs

/-- What the operations of an activation keep holds where it forks. -/
theorem activateForksUpTo_keeps {a : Answers} {I : World → Prop} (h : GreeterOps C a I) :
    ∀ (n : ℕ) (seat : String) (w : World) (s : SpawnCall), I w →
      activateForksUpTo C n a seat w = some s → I s.1
  | 0, _, _, _, _, hs => by cases hs
  | n + 1, seat, w, s, hw, hs => by
    rcases greeterRecord_cases seat w with ⟨g, r, hrec, -, hg, -⟩ | ⟨hnone, hrec, hg⟩
    · simp only [activateForksUpTo, hrec, hg, Option.getD_some] at hs
      exact startForks_keeps h (activateForksUpTo_keeps h n) hg hw hs
    · simp only [activateForksUpTo, hrec, hg, Option.getD_some] at hs
      exact startForks_keeps h (activateForksUpTo_keeps h n) hg (h.add hnone hw) hs

theorem watched_activateForks {a : Answers} {seat : String} {s : SpawnCall} (h : WatchedOpen w)
    (hs : activateForks C a seat w = some s) : WatchedOpen s.1 :=
  activateForksUpTo_keeps (greeterOps_watched a) maxActivate seat w s h hs

theorem watched_clientForks {a : Answers} {c fd : ℕ} {s : SpawnCall} (h : WatchedOpen w)
    (hs : clientForks C a c fd w = some s) : WatchedOpen s.1 := by
  unfold clientForks at hs
  cases hinput : a.input with
  | eof | bad => simp [hinput] at hs
  | msg m =>
    simp only [hinput, messageForks] at hs
    cases htype : m.type with
    | loginTry =>
      simp only [htype] at hs
      split_ifs at hs
      obtain ⟨l, -, hl⟩ := Option.bind_eq_some_iff.mp hs
      unfold loginForks at hl
      split_ifs at hl
      rw [← Option.some.inj hl]
      exact h
    | greeterStart =>
      simp only [htype] at hs
      split_ifs at hs
      exact watched_activateForks h hs
    | hello | sessionActivation | unknown n => simp [htype] at hs

theorem watched_calledForks {a : Answers} {t : ℕ} {hd : Handler} {s : SpawnCall} (h : WatchedOpen w)
    (hs : calledForks C a t hd w = some s) : WatchedOpen s.1 := by
  cases hd with
  | greeterDone g =>
    obtain ⟨r, -, hr⟩ := Option.bind_eq_some_iff.mp hs
    split_ifs at hr
    exact watched_activateForks (h.greeterReset g _) hr
  | spawnedSessionDisappear t' =>
    change freedForks C a t' w = some s at hs
    unfold freedForks at hs
    split at hs
    · obtain ⟨r, -, hr⟩ := Option.bind_eq_some_iff.mp hs
      exact watched_activateForks ((h.calledBack t').startFailed t' _) hr
    · cases hs

/-- **What is watched is open when the daemon forks.** -/
theorem watched_forking {e : Event} {s : SpawnCall} (h : WatchedOpen w)
    (hs : forking C w e = some s) : WatchedOpen s.1 := by
  cases e with
  | next a =>
    dsimp only [forking] at hs
    split_ifs at hs
    obtain ⟨r, -, hr⟩ := Option.bind_eq_some_iff.mp hs
    unfold dispatchForks at hr
    split at hr
    · exact watched_clientForks (w := advance w) h hr
    · cases hr
  | visit a =>
    obtain ⟨s', -, hs'⟩ := Option.bind_eq_some_iff.mp hs
    exact watched_calledForks h hs'
  | select _ _ | sigchld | reap _ | sigchldReturn | childWrite _ _ | childHangUp _ | childExit _ =>
    cases hs

end Spawny.Daemon.Forks
