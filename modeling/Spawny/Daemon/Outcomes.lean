import Spawny.Daemon.Processes
import Spawny.Daemon.TryCells

/-! # The outcome of a try

The child of a try writes how it went to the pipe, and its end is told by `SIGCHLD`. `Msgs` says what
the daemon has made of the messages it has read: none of them was that the session is active, and if
one gave the reason of an error, the try has such a reason. The try whose end is certain is its
parameter.

* `joined_spec`: of the messages that are read at once the last one decides;
* `Msgs.freed`, `Msgs.childData`, `Msgs.clientData`: the callbacks;
* `msgs_step`: every step keeps `Msgs` that loses no message;
* `right_results`: **the done callback gets what was written** in runs of such steps;
* `reason_lost`: a run in which it does not. -/

namespace Spawny.Daemon.Outcomes

open Spawny.Lib.Wire Spawny.Lib.Descriptors Spawny.Lib.Runs Spawny.Protocol Spawny.Protocol.Messages
open Spawny.Daemon.Manager Spawny.Daemon.SpawnRegistry
open Spawny.Daemon.SessionMgt Spawny.Daemon.State Spawny.Daemon.SpawnService
open Spawny.Daemon.GreeterTable Spawny.Daemon.Client Spawny.Daemon.Greeter Spawny.Daemon.Activations
open Spawny.Daemon.Server Spawny.Daemon.Loop Spawny.Daemon.Steps Spawny.Daemon.TryViews
open Spawny.Daemon.TryRule Spawny.Daemon.TryLife Spawny.Daemon.Processes Spawny.Daemon.TryCells

variable {C : FieldCode SpawnField}

/-! ### What was written -/

/-- `SESSION_ACTIVE`. -/
def active : SpawnMessage := ServiceMessage.sessionActive.message

/-- `ERROR_EXIT` with its reason. -/
def failure (reason : String) : SpawnMessage := (ServiceMessage.errorExit reason).message

/-- The result that is right for what was written to the pipe. -/
def RightResult (result : SpawnServiceEnd) (written : List SpawnMessage) : Prop :=
  if active ∈ written then result.success = .success
  else result.success = .error ∧ ((∃ reason, failure reason ∈ written) →
    ∃ reason, failure reason ∈ written ∧ result.message = some reason)

/-- The child of the try has told that its session is active, or it writes nothing more. -/
def Ended (tr : SpawnTry) : Prop := active ∈ tr.written ∨ tr.childPid = 0 ∨ tr.exited = true

/-- No message that is still in the pipe matters. -/
def nothingLost (tr : SpawnTry) : Bool :=
  tr.unread.all fun m =>
    decide (m.type ≠ .sessionActive) && (tr.errorMsg.isSome || decide (m.type ≠ .errorExit))

/-- No message that matters is in front of one that does not, and none is in front of
`SESSION_ACTIVE` but an `ERROR_EXIT`. -/
def lastDecides (ms : List SpawnMessage) : Bool :=
  ms.all fun m =>
    match m.type with
    | .sessionActive => ms.getLast?.map SpawnMessage.type == some .sessionActive
    | .errorExit => ms.getLast?.map SpawnMessage.type == some .sessionActive ||
        ms.getLast?.map SpawnMessage.type == some .errorExit
    | _ => true

theorem nothingLost_iff {tr : SpawnTry} : nothingLost tr = true ↔ ∀ m ∈ tr.unread,
    m.type ≠ .sessionActive ∧ (tr.errorMsg = none → m.type ≠ .errorExit) := by
  unfold nothingLost
  rw [List.all_eq_true]
  refine forall₂_congr fun m _ => ?_
  cases tr.errorMsg <;> simp

theorem service_of_active {m : SpawnMessage} (hm : ∃ sm : ServiceMessage, sm.message = m)
    (htype : m.type = .sessionActive) : m = active := by
  obtain ⟨sm, rfl⟩ := hm
  cases sm <;> first | rfl | cases htype

theorem service_of_failure {m : SpawnMessage} (hm : ∃ sm : ServiceMessage, sm.message = m)
    (htype : m.type = .errorExit) : ∃ reason, m = failure reason := by
  obtain ⟨sm, rfl⟩ := hm
  cases sm <;> first | exact ⟨_, rfl⟩ | cases htype

/-- **What is read at once** has the type of the last message, and its text if it has one. -/
theorem joined_spec {ms : List SpawnMessage} {m : SpawnMessage}
    (h : SpawnMessage.joined ms = some m) : ∃ last, ms.getLast? = some last ∧ last ∈ ms ∧
      m.type = last.type ∧ ∀ reason, last.exit = some reason → m.exit = some reason := by
  obtain ⟨last, hlast, rfl⟩ := Option.map_eq_some_iff.mp h
  obtain ⟨ms', rfl⟩ := List.getLast?_eq_some_iff.mp hlast
  refine ⟨last, hlast, by simp, rfl, fun reason hexit => ?_⟩
  simp [List.filterMap_append, hexit]

/-! ### The invariant -/

/-- What the daemon has made of the messages of a try whose callback is still to come. -/
structure Heard (C : FieldCode SpawnField) (tr : SpawnTry) : Prop where
  success : tr.success = .error
  pipe : tr.pipe = tr.unread.flatMap (SpawnMessage.pack C)
  service : ∀ m ∈ tr.unread, ∃ sm : ServiceMessage, sm.message = m
  read : ∃ ms, tr.written = ms ++ tr.unread ∧ active ∉ ms ∧
    (tr.errorMsg = none → ∀ reason, failure reason ∉ ms)
  reason : ∀ reason, tr.errorMsg = some reason → failure reason ∈ tr.written

/-- **The invariant of the messages.** `y` is the try whose callback will be called next, if there is
one. -/
structure Msgs (C : FieldCode SpawnField) (y : Option ℕ) (w : World) : Prop where
  exited : ∀ {t : ℕ} {tr : SpawnTry}, w.tries[t]? = some tr → tr.reaped = true → tr.exited = true
  pending : ∀ {t : ℕ} {tr : SpawnTry}, w.tries[t]? = some tr → tr.doneCalled = false →
    y ≠ some t → Heard C tr
  outcome : ∀ {t : ℕ} {result : SpawnServiceEnd}, (t, result) ∈ dones w →
    ∃ tr, w.tries[t]? = some tr ∧ RightResult result tr.written ∧ Ended tr

theorem Msgs.except {w : World} (h : Msgs C none w) (y : Option ℕ) : Msgs C y w :=
  ⟨h.exited, fun ht hdone _ => h.pending ht hdone nofun, h.outcome⟩

/-- When the child ends and nothing is lost, the try has the right result. -/
theorem Heard.rightResult {tr : SpawnTry} (h : Heard C tr) (hlost : nothingLost tr = true) :
    RightResult (SpawnTry.result tr) tr.written := by
  rw [nothingLost_iff] at hlost
  obtain ⟨ms, hwritten, hactive, hreason⟩ := h.read
  have hno : active ∉ tr.written := by
    rw [hwritten, List.mem_append, not_or]
    exact ⟨hactive, fun hmem => (hlost _ hmem).1 rfl⟩
  rw [RightResult, if_neg hno]
  refine ⟨h.success, fun ⟨reason, hmem⟩ => ?_⟩
  cases herr : tr.errorMsg with
  | some reason' => exact ⟨reason', h.reason reason' herr, herr⟩
  | none =>
    rw [hwritten] at hmem
    rcases List.mem_append.mp hmem with hread | hunread
    · exact absurd hread (hreason herr reason)
    · exact absurd rfl ((hlost _ hunread).2 herr)

theorem Heard.mem_written {tr : SpawnTry} (h : Heard C tr) {m : SpawnMessage}
    (hm : m ∈ tr.unread) : m ∈ tr.written := by
  obtain ⟨ms, hwritten, -⟩ := h.read
  rw [hwritten]
  exact List.mem_append_right _ hm

/-! ### What the invariant survives -/

theorem Msgs.quiet {y : Option ℕ} {w w' : World} (h : Msgs C y w) (htries : w'.tries = w.tries)
    (hdones : dones w' = dones w) : Msgs C y w' where
  exited := by rw [htries]; exact h.exited
  pending := by rw [htries]; exact h.pending
  outcome := by rw [htries, hdones]; exact h.outcome

theorem Msgs.still {y : Option ℕ} {w w' : World} (h : Msgs C y w) (htries : w'.tries = w.tries)
    (htrace : w'.trace = w.trace) : Msgs C y w' := h.quiet htries (dones_congr htrace)

theorem Msgs.log {y : Option ℕ} {w : World} (h : Msgs C y w) {o : Obs} (ho : Obs.done? o = none) :
    Msgs C y (w.log o) := h.quiet rfl (aside_log ho w).dones

/-- How the messages and the child of a try may change. -/
structure Evolves (tr tr' : SpawnTry) : Prop where
  exited : (tr.reaped = true → tr.exited = true) → tr'.reaped = true → tr'.exited = true
  written : tr'.written = tr.written ∨ (active ∈ tr.written → active ∈ tr'.written) ∧
    tr.childPid ≠ 0 ∧ tr.exited = false
  childPid : tr'.childPid = tr.childPid
  stays : tr.exited = true → tr'.exited = true

theorem Evolves.of_eq {tr tr' : SpawnTry} (hwritten : tr'.written = tr.written)
    (hchild : tr'.childPid = tr.childPid) (hexited : tr'.exited = tr.exited)
    (hreaped : tr'.reaped = tr.reaped) : Evolves tr tr' where
  exited h := by rw [hexited, hreaped]; exact h
  written := Or.inl hwritten
  childPid := hchild
  stays h := by rw [hexited, h]

theorem Evolves.outcome {tr tr' : SpawnTry} (h : Evolves tr tr') {result : SpawnServiceEnd}
    (hright : RightResult result tr.written) (hend : Ended tr) :
    RightResult result tr'.written ∧ Ended tr' := by
  rcases h.written with hsame | ⟨hgrows, hchild, hrun⟩
  · refine ⟨by rw [hsame]; exact hright, ?_⟩
    rcases hend with hactive | hchild | hexit
    · exact Or.inl (by rw [hsame]; exact hactive)
    · exact Or.inr (Or.inl (by rw [h.childPid, hchild]))
    · exact Or.inr (Or.inr (h.stays hexit))
  · -- only a child that has told of its session is still there
    have hactive : active ∈ tr.written := by
      rcases hend with hactive | hnone | hexit
      · exact hactive
      · exact absurd hnone hchild
      · rw [hrun] at hexit
        cases hexit
    rw [RightResult, if_pos hactive] at hright
    exact ⟨by rw [RightResult, if_pos (hgrows hactive)]; exact hright, Or.inl (hgrows hactive)⟩

theorem Msgs.modTry {y : Option ℕ} {w : World} (h : Msgs C y w) {t : ℕ} {f : SpawnTry → SpawnTry}
    (hf : ∀ tr, w.tries[t]? = some tr → Evolves tr (f tr))
    (hpending : ∀ tr, w.tries[t]? = some tr → y ≠ some t → (tr.doneCalled = false → Heard C tr) →
      (f tr).doneCalled = false → Heard C (f tr)) : Msgs C y (w.modTry t f) := by
  have hsplit : ∀ {t' : ℕ} {tr' : SpawnTry}, (w.modTry t f).tries[t']? = some tr' →
      ∃ tr, w.tries[t']? = some tr ∧ ((t ≠ t' ∧ tr' = tr) ∨ (t = t' ∧ tr' = f tr)) := by
    intro t' tr' ht'
    rw [World.getElem?_modTry] at ht'
    obtain ⟨tr, htr, rfl⟩ := Option.map_eq_some_iff.mp ht'
    refine ⟨tr, htr, ?_⟩
    split_ifs with heq
    · exact Or.inr ⟨heq, rfl⟩
    · exact Or.inl ⟨heq, rfl⟩
  refine ⟨fun {t' tr'} ht' hreaped => ?_, fun {t' tr'} ht' hdone hy => ?_,
    fun {t' result} hmem => ?_⟩
  · obtain ⟨tr, htr, ⟨-, rfl⟩ | ⟨rfl, rfl⟩⟩ := hsplit ht'
    · exact h.exited htr hreaped
    · exact (hf tr htr).exited (h.exited htr) hreaped
  · obtain ⟨tr, htr, ⟨-, rfl⟩ | ⟨rfl, rfl⟩⟩ := hsplit ht'
    · exact h.pending htr hdone hy
    · exact hpending tr htr hy (fun hd => h.pending htr hd hy) hdone
  · obtain ⟨tr, htr, hright, hend⟩ := h.outcome hmem
    by_cases heq : t = t'
    · subst heq
      obtain ⟨hright', hend'⟩ := (hf tr htr).outcome hright hend
      refine ⟨f tr, ?_, hright', hend'⟩
      rw [World.getElem?_modTry, htr, Option.map_some, if_pos rfl]
    · refine ⟨tr, ?_, hright, hend⟩
      rw [World.getElem?_modTry, htr, Option.map_some, if_neg heq]

/-- The fields that what was heard does not depend on. -/
theorem Heard.congr {tr tr' : SpawnTry} (h : Heard C tr) (hwritten : tr'.written = tr.written)
    (hunread : tr'.unread = tr.unread) (hpipe : tr'.pipe = tr.pipe)
    (hsuccess : tr'.success = tr.success) (herr : tr'.errorMsg = tr.errorMsg) : Heard C tr' where
  success := by rw [hsuccess]; exact h.success
  pipe := by rw [hpipe, hunread]; exact h.pipe
  service := by rw [hunread]; exact h.service
  read := by rw [hwritten, hunread, herr]; exact h.read
  reason := by rw [hwritten, herr]; exact h.reason

/-! ### The operations on tries -/

theorem heard_newTry (req : SpawnRequest) (readFd writeFd pid : ℕ) : Heard C
    { newTry req readFd writeFd with childPid := pid, pid := pid } where
  success := rfl
  pipe := rfl
  service := nofun
  read := ⟨[], rfl, nofun, nofun⟩
  reason := nofun

/-- A try with a child: it has not been heard of. -/
theorem Msgs.forks {w : World} (h : Msgs C none w) (req : SpawnRequest) (pid : ℕ) :
    Msgs C none (childForked w.tries.length pid (openTry req w)) := by
  have hget : ∀ t : ℕ, (childForked w.tries.length pid (openTry req w)).tries[t]? =
      if t = w.tries.length then some { newTry req (lowestFree w.fdtab)
        (lowestFree (w.openFd (.pipeRead w.tries.length)).fdtab) with childPid := pid, pid := pid }
      else w.tries[t]? := by
    intro t
    rw [getElem?_childForked, getElem?_openTry]
    by_cases ht : t = w.tries.length
    · simp [ht]
    · simp [ht, Ne.symm ht]
  refine ⟨fun {t tr} ht hreaped => ?_, fun {t tr} ht hdone _ => ?_, fun {t result} hmem => ?_⟩
  · rw [hget] at ht
    split_ifs at ht
    · obtain rfl := Option.some.inj ht
      cases hreaped
    · exact h.exited ht hreaped
  · rw [hget] at ht
    split_ifs at ht
    · obtain rfl := Option.some.inj ht
      exact heard_newTry _ _ _ _
    · exact h.pending ht hdone nofun
  · rw [dones_forked] at hmem
    obtain ⟨tr, htr, hright, hend⟩ := h.outcome hmem
    exact ⟨tr, by rw [hget, if_neg (List.getElem?_eq_some_iff.mp htr).1.ne, htr], hright, hend⟩

/-- A try whose child could not be forked: nothing was written. -/
theorem Msgs.fails {w : World} (h : Msgs C none w) (req : SpawnRequest) :
    Msgs C none (tryFailed C false req w) := by
  have hget := getElem?_tryFailed C false req w
  refine ⟨fun {t tr} ht hreaped => ?_, fun {t tr} ht hdone _ => ?_, fun {t result} hmem => ?_⟩
  · rw [hget] at ht
    split_ifs at ht
    · obtain rfl := Option.some.inj ht
      cases hreaped
    · exact h.exited ht hreaped
  · rw [hget] at ht
    split_ifs at ht
    · obtain rfl := Option.some.inj ht
      cases hdone
    · exact h.pending ht hdone nofun
  · rw [dones_tryFailed] at hmem
    rcases List.mem_append.mp hmem with hmem | hmem
    · obtain ⟨tr, htr, hright, hend⟩ := h.outcome hmem
      exact ⟨tr, by rw [hget, if_neg (List.getElem?_eq_some_iff.mp htr).1.ne, htr], hright, hend⟩
    · obtain ⟨rfl, rfl⟩ := Prod.mk.inj (List.mem_singleton.mp hmem)
      refine ⟨_, by rw [hget, if_pos rfl], ?_, Or.inr (Or.inl rfl)⟩
      have hno : active ∉ (failedTry C false (newTry req (lowestFree w.fdtab)
          (lowestFree (w.openFd (.pipeRead w.tries.length)).fdtab))).written := List.not_mem_nil
      rw [RightResult, if_neg hno]
      exact ⟨rfl, fun ⟨_, hmem⟩ => absurd hmem List.not_mem_nil⟩

/-- The callback of a try is called with the right result. -/
theorem Msgs.calls {w : World} {t : ℕ} {tr : SpawnTry} (h : Msgs C (some t) w)
    (ht : w.tries[t]? = some tr) (hright : RightResult (SpawnTry.result tr) tr.written)
    (hend : Ended tr) : Msgs C none (calledBack t w) := by
  have hget : ∀ t' : ℕ, (calledBack t w).tries[t']? = (w.tries[t']?).map fun tr =>
      if t = t' then { tr with doneCalled := true } else tr := by
    intro t'
    refine (World.getElem?_modTry _ _ _ _).trans ?_
    rw [show (closeRead t w).tries = w.tries from by simp [closeRead]]
  have hold : ∀ {t' : ℕ} {tr' : SpawnTry}, w.tries[t']? = some tr' →
      ∃ tr'', (calledBack t w).tries[t']? = some tr'' ∧ tr''.written = tr'.written ∧
        tr''.childPid = tr'.childPid ∧ tr''.exited = tr'.exited := by
    intro t' tr' htr'
    rw [hget, htr', Option.map_some]
    split_ifs
    · exact ⟨_, rfl, rfl, rfl, rfl⟩
    · exact ⟨_, rfl, rfl, rfl, rfl⟩
  refine ⟨fun {t' tr'} ht' hreaped => ?_, fun {t' tr'} ht' hdone _ => ?_,
    fun {t' result} hmem => ?_⟩
  · rw [hget] at ht'
    obtain ⟨tr₀, htr₀, rfl⟩ := Option.map_eq_some_iff.mp ht'
    have hexited := h.exited htr₀
    split_ifs at hreaped ⊢
    · exact hexited hreaped
    · exact hexited hreaped
  · rw [hget] at ht'
    obtain ⟨tr₀, htr₀, rfl⟩ := Option.map_eq_some_iff.mp ht'
    split_ifs at hdone ⊢ with heq
    exact h.pending htr₀ hdone fun hy => heq (Option.some.inj hy)
  · rw [dones_calledBack, World.tryAt_eq ht] at hmem
    have houtcome : ∃ tr', w.tries[t']? = some tr' ∧ RightResult result tr'.written ∧ Ended tr' := by
      rcases List.mem_append.mp hmem with hmem | hmem
      · exact h.outcome hmem
      · obtain ⟨rfl, rfl⟩ := Prod.mk.inj (List.mem_singleton.mp hmem)
        exact ⟨tr, ht, hright, hend⟩
    obtain ⟨tr', htr', hright', hend'⟩ := houtcome
    obtain ⟨tr'', htr'', hwritten, hchild, hexited⟩ := hold htr'
    exact ⟨tr'', htr'', by rw [hwritten]; exact hright', by
      rw [Ended, hwritten, hchild, hexited]; exact hend'⟩

theorem Msgs.releases {w : World} (h : Msgs C none w) (t : ℕ) : Msgs C none (release t w) := by
  have hunlisten : Msgs C none (w.unlisten (w.tryAt t).pid (.spawnedSessionDisappear t)) :=
    h.still rfl rfl
  exact hunlisten.modTry (fun _ _ => .of_eq rfl rfl rfl rfl)
    fun _ _ _ hheard hdone => (hheard hdone).congr rfl rfl rfl rfl rfl

/-! ### The callbacks -/

/-- No spawn finds that no terminal is left. -/
def TtyLeft (a : Answers) : Prop := ∀ t, (a.spawn t).pipeOk = true → (a.spawn t).child ≠ .noTty

theorem TtyLeft.eq_false {a : Answers} (h : TtyLeft a) {t : ℕ} {noTty : Bool}
    (hpipe : (a.spawn t).pipeOk = true) (htty : noTty = true → (a.spawn t).child = .noTty) :
    noTty = false := by
  by_contra hne
  exact h t hpipe (htty (by simpa using hne))

theorem msgs_greeterOps {a : Answers} (htty : TtyLeft a) : GreeterOps C a (Msgs C none) where
  session s h := h.log rfl
  add _ h := h.still rfl rfl
  noPipe _ _ h := h.still rfl rfl
  forked {w g r} pid _ _ h := by
    have hforked := h.forks (greeterRequest g r.seat)
      ((openTry (greeterRequest g r.seat) w).freePid pid)
    exact hforked.still (World.modGreeter_tries _ _ _) (World.modGreeter_trace _ _ _)
  failed {w g r} noTty hno _ _ hpipe _ h := by
    obtain rfl := htty.eq_false hpipe hno
    exact ((h.fails (greeterRequest g r.seat)).log rfl).still rfl rfl
  returned {w g t tr} _ _ _ _ _ h := (h.releases t).still rfl rfl

theorem Msgs.activate {w : World} (h : Msgs C none w) {a : Answers} (htty : TtyLeft a)
    (seat : String) : Msgs C none (greeterActivate C a seat w) :=
  (msgs_greeterOps htty).activate C seat h

theorem Msgs.freed {a : Answers} {w w' : World} {t : ℕ} {tr : SpawnTry} (htty : TtyLeft a)
    (h : Msgs C (some t) w) (ht : w.tries[t]? = some tr)
    (hright : RightResult (SpawnTry.result tr) tr.written) (hend : Ended tr)
    (hf : Freed C a t w w') : Msgs C none w' := by
  have hcalled := h.calls ht hright hend
  cases hf with
  | login c _ =>
    exact (hcalled.quiet (tries_sessionDone _ _ _ _ _) (steady_sessionDone _ _ _ _ _).dones).releases t
  | lost g _ _ =>
    refine Msgs.releases ?_ t
    exact (hcalled.log rfl).still rfl rfl
  | restarted g r _ _ _ =>
    have hfailed : Msgs C none (greeterStartFailed t g (calledBack t w)) :=
      (hcalled.log rfl).still rfl rfl
    exact (hfailed.activate htty r.seat).releases t
  | noTry g r _ _ _ _ =>
    refine Msgs.releases ?_ t
    exact ((hcalled.log rfl).log rfl).still rfl rfl
  | started g r t' _ _ _ _ =>
    have hstarted : Msgs C none (greeterStarted t g t' (calledBack t w)) :=
      ((hcalled.log rfl).log rfl).still rfl rfl
    exact hstarted.releases t

theorem Msgs.clientData {a : Answers} {c fd : ℕ} {w w' : World} (htty : TtyLeft a)
    (h : Msgs C none w) (hdoes : ClientData C a c fd w w') : Msgs C none w' := by
  have hsteady : ∀ {w₁ w₂ : World}, Msgs C none w₁ → Steady w₁ w₂ → w₂.tries = w₁.tries →
      Msgs C none w₂ := fun h₁ hs htries => h₁.quiet htries hs.dones
  induction hdoes with
  | closed _ => exact hsteady h ((steady_unregisterFd _ _).trans (steady_clientFree _ _)) rfl
  | dropped _ => exact hsteady h (steady_clientFree _ _) rfl
  | replied msg => exact hsteady h (steady_log rfl rfl _) rfl
  | activated _ session seat =>
    refine hsteady h (((steady_sessionActivate session _).trans (steady_sendMessage _ _ _ _ _ _)).trans
      ((steady_greeterLockout seat _).trans (steady_clientGoodbye _ _ _))) ?_
    refine (tries_greeterLockout _ _).trans ?_
    cases session <;> rfl
  | noLogin => exact hsteady h (steady_fault _) rfl
  | noPipe _ => exact hsteady h ((steady_modClient _ _ _).trans (steady_sendMessage _ _ _ _ _ _)) rfl
  | loginForked _ _ l pid => exact hsteady (h.forks _ _) (steady_modClient _ _ _) rfl
  | loginFailed _ l noTty hno hpipe _ =>
    obtain rfl := htty.eq_false hpipe hno
    have hfailed := h.fails (loginRequest a c fd l w)
    have hdone := hsteady hfailed (steady_sessionDone a w.tries.length c ⟨.error, none⟩ _)
      (tries_sessionDone _ _ _ _ _)
    exact hsteady (hdone.releases _) (steady_modClient _ _ _) rfl
  | started _ m _ _ _ =>
    exact hsteady (h.activate htty _) (steady_clientGoodbye _ _ _) (tries_clientGoodbye _ _ _)
  | ignored => exact h
  | fallback w' _ ih => exact hsteady ih (steady_fault _) rfl

/-! ### _child_data -/

/-- What `_child_data` reads while the pipe holds no more than one buffer. -/
theorem Heard.unpack {tr : SpawnTry} (h : Heard C tr) (hlen : tr.pipe.length ≤ MAX_MSG_SIZE) :
    SpawnMessage.unpack C (tr.pipe.take MAX_MSG_SIZE) = SpawnMessage.joined tr.unread := by
  rw [List.take_of_length_le hlen, h.pipe, SpawnMessage.unpack_joined]

/-- The messages in the pipe are read, and none of them is lost. -/
theorem Heard.readPipe {tr : SpawnTry} (h : Heard C tr) (hlen : tr.pipe.length ≤ MAX_MSG_SIZE)
    (hactive : ∀ m ∈ tr.unread, m.type ≠ .sessionActive) {err : Option String}
    (herr : (err = tr.errorMsg ∧ nothingLost tr = true) ∨
      ∃ reason, err = some reason ∧ failure reason ∈ tr.written) :
    Heard C { SpawnTry.readPipe tr with errorMsg := err } := by
  obtain ⟨ms, hwritten, hms, hreason⟩ := h.read
  refine ⟨h.success, ?_, nofun, ⟨tr.written, (List.append_nil _).symm, ?_, fun hnone reason hmem => ?_⟩,
    fun reason hsome => ?_⟩
  · exact List.drop_eq_nil_of_le hlen
  · rw [hwritten, List.mem_append, not_or]
    exact ⟨hms, fun hmem => hactive _ hmem rfl⟩
  · rcases herr with ⟨rfl, hlost⟩ | ⟨reason', rfl, -⟩
    · rw [hwritten] at hmem
      rcases List.mem_append.mp hmem with hread | hunread
      · exact hreason hnone reason hread
      · exact (nothingLost_iff.mp hlost _ hunread).2 hnone rfl
    · cases hnone
  · rcases herr with ⟨rfl, -⟩ | ⟨reason', rfl, hmem⟩
    · exact h.reason reason hsome
    · obtain rfl := Option.some.inj hsome
      exact hmem

/-- If the last message tells of no outcome, none of them does. -/
theorem lastDecides_idle {ms : List SpawnMessage} (h : lastDecides ms = true) {last : SpawnMessage}
    (hlast : ms.getLast? = some last) (hactive : last.type ≠ .sessionActive)
    (hfailure : last.type ≠ .errorExit) :
    ∀ m ∈ ms, m.type ≠ .sessionActive ∧ m.type ≠ .errorExit := by
  intro m hm
  have hall := List.all_eq_true.mp h m hm
  rw [hlast, Option.map_some] at hall
  cases hmt : m.type <;> simp_all

/-- If the last message is an `ERROR_EXIT`, the session is not active. -/
theorem lastDecides_failure {ms : List SpawnMessage} (h : lastDecides ms = true)
    {last : SpawnMessage} (hlast : ms.getLast? = some last) (hfailure : last.type = .errorExit) :
    ∀ m ∈ ms, m.type ≠ .sessionActive := by
  intro m hm
  have hall := List.all_eq_true.mp h m hm
  rw [hlast, Option.map_some] at hall
  cases hmt : m.type <;> simp_all

/-- The try `t` changes while its callback is still to come, and what it is then was heard. -/
theorem Msgs.hears {w : World} {t : ℕ} (h : Msgs C (some t) w) {tr : SpawnTry}
    (ht : w.tries[t]? = some tr) {f : SpawnTry → SpawnTry} (hev : Evolves tr (f tr))
    (hheard : Heard C (f tr)) : Msgs C none (w.modTry t f) := by
  have hmod : Msgs C (some t) (w.modTry t f) := by
    refine h.modTry (fun tr' ht' => ?_) fun _ _ hy => absurd rfl hy
    obtain rfl := Option.some.inj (ht.symm.trans ht')
    exact hev
  refine ⟨hmod.exited, fun {t' tr'} ht' hdone _ => ?_, hmod.outcome⟩
  by_cases heq : t = t'
  · subst heq
    rw [World.getElem?_modTry, ht, Option.map_some, if_pos rfl] at ht'
    rw [← Option.some.inj ht']
    exact hheard
  · exact hmod.pending ht' hdone fun hy => heq (Option.some.inj hy)

theorem Msgs.forceQuit {w : World} (h : Msgs C none w) (t : ℕ) : Msgs C none (forceQuit t w) :=
  h.quiet (tries_forceQuit t w) (steady_forceQuit t w).dones

/-- **Reading the pipe of a try** whose last message decides. -/
theorem Msgs.childData {a : Answers} {t fd : ℕ} {w w' : World} (htty : TtyLeft a)
    (h : Msgs C none w) {tr : SpawnTry} (ht : w.tries[t]? = some tr) (hdone : tr.doneCalled = false)
    (hlen : tr.pipe.length ≤ MAX_MSG_SIZE) (hlast : lastDecides tr.unread = true)
    (hdoes : ChildData C a t fd w w') : Msgs C none w' := by
  have hheard := h.pending ht hdone nofun
  have hev : Evolves tr (SpawnTry.readPipe tr) := .of_eq rfl rfl rfl rfl
  have hread : ∀ {m}, SpawnMessage.unpack C ((w.tryAt t).pipe.take MAX_MSG_SIZE) = m →
      SpawnMessage.joined tr.unread = m := by
    intro m hm
    rw [← hm, World.tryAt_eq ht, hheard.unpack hlen]
  -- what is read tells of no outcome
  have hidle : (∀ m ∈ tr.unread, m.type ≠ .sessionActive ∧ m.type ≠ .errorExit) →
      Heard C (SpawnTry.readPipe tr) := by
    intro hno
    have hlost : nothingLost tr = true :=
      nothingLost_iff.mpr fun m hm => ⟨(hno m hm).1, fun _ => (hno m hm).2⟩
    exact hheard.readPipe hlen (fun m hm => (hno m hm).1) (Or.inl ⟨rfl, hlost⟩)
  have hget : (w.modTry t SpawnTry.readPipe).tries[t]? = some (SpawnTry.readPipe tr) := by
    rw [World.getElem?_modTry, ht, Option.map_some, if_pos rfl]
  have hfirst : Msgs C (some t) (w.modTry t SpawnTry.readPipe) :=
    (h.except (some t)).modTry (fun _ _ => .of_eq rfl rfl rfl rfl) fun _ _ hy => absurd rfl hy
  cases hdoes with
  | undecodable hmsg =>
    have hempty : tr.unread = [] := by
      have hnone := hread hmsg
      rwa [SpawnMessage.joined, Option.map_eq_none_iff, List.getLast?_eq_none_iff] at hnone
    have hno : Heard C (SpawnTry.readPipe tr) := hidle fun m hm => by
      rw [hempty] at hm
      cases hm
    have hunreg : Msgs C none ((w.modTry t SpawnTry.readPipe).unregisterFd fd) :=
      ((h.except (some t)).hears ht hev hno).still rfl rfl
    exact hunreg.forceQuit t
  | connect m hmsg htype =>
    obtain ⟨last, hl, -, htype', -⟩ := joined_spec (hread hmsg)
    rw [htype'] at htype
    exact (h.except (some t)).hears ht hev
      (hidle (lastDecides_idle hlast hl (by simp [htype]) (by simp [htype])))
  | setupDone m hmsg htype session =>
    obtain ⟨last, hl, -, htype', -⟩ := joined_spec (hread hmsg)
    rw [htype'] at htype
    have hno := hidle (lastDecides_idle hlast hl (by simp [htype]) (by simp [htype]))
    have hset : Msgs C none ((w.modTry t SpawnTry.readPipe).modTry t
        fun tr => { tr with session := session }) :=
      (((h.except (some t)).hears ht hev hno).except (some t)).hears hget (.of_eq rfl rfl rfl rfl)
        (hno.congr rfl rfl rfl rfl rfl)
    have hquit : Msgs C none (if session.isNone then SpawnService.forceQuit t
        ((w.modTry t SpawnTry.readPipe).modTry t fun tr => { tr with session := session })
        else (w.modTry t SpawnTry.readPipe).modTry t fun tr => { tr with session := session }) := by
      split_ifs
      · exact hset.forceQuit t
      · exact hset
    refine hquit.quiet ?_ (steady_sessionActivate _ _).dones
    cases session <;> rfl
  | sessionActive m hmsg htype w' hfree =>
    obtain ⟨last, hl, hmem, htype', -⟩ := joined_spec (hread hmsg)
    rw [htype'] at htype
    obtain rfl := service_of_active (hheard.service last hmem) htype
    have hactive : active ∈ tr.written := hheard.mem_written hmem
    have hset : Msgs C (some t) (((w.modTry t SpawnTry.readPipe).unregisterFd
        (w.tryAt t).readFd).modTry t fun tr => { tr with success := .success }) := by
      have hunreg : Msgs C (some t)
          ((w.modTry t SpawnTry.readPipe).unregisterFd (w.tryAt t).readFd) := hfirst.still rfl rfl
      exact hunreg.modTry (fun _ _ => .of_eq rfl rfl rfl rfl) fun _ _ hy => absurd rfl hy
    refine hset.freed htty (getElem?_succeeded ht _) ?_ (Or.inl hactive) hfree
    rw [RightResult, if_pos (show active ∈ (SpawnTry.readPipe tr).written from hactive)]
    rfl
  | errorExit m hmsg htype reason hexit =>
    obtain ⟨last, hl, hmem, htype', hexit'⟩ := joined_spec (hread hmsg)
    rw [htype'] at htype
    obtain ⟨reason', rfl⟩ := service_of_failure (hheard.service last hmem) htype
    obtain rfl := Option.some.inj (hexit.symm.trans (hexit' reason' rfl))
    have hwritten : failure reason ∈ tr.written := hheard.mem_written hmem
    have hset := hfirst.hears hget (f := fun tr => { tr with errorMsg := some reason })
      (.of_eq rfl rfl rfl rfl)
      (hheard.readPipe hlen (lastDecides_failure hlast hl rfl) (Or.inr ⟨reason, rfl, hwritten⟩))
    exact hset.still rfl rfl
  | noReason m hmsg htype hexit =>
    obtain ⟨last, hl, hmem, htype', hexit'⟩ := joined_spec (hread hmsg)
    rw [htype'] at htype
    obtain ⟨reason', rfl⟩ := service_of_failure (hheard.service last hmem) htype
    rw [hexit' reason' rfl] at hexit
    cases hexit

/-! ### The steps -/

/-- The step loses no message that matters: a read takes all that is in the pipe and the last message
decides, and a try whose child disappears has none left in its pipe. -/
def losesNothing (w : World) : Event → Bool
  | .next _ =>
    match ready w with
    | some ⟨some (.childData t), _⟩ =>
      decide ((w.tryAt t).pipe.length ≤ MAX_MSG_SIZE) && lastDecides (w.tryAt t).unread
    | _ => true
  | .visit _ =>
    match called w with
    | some (_, .spawnedSessionDisappear t) => nothingLost (w.tryAt t)
    | _ => true
  | _ => true

/-- No spawn of the step finds that no terminal is left. -/
def hasTtys : Event → Prop
  | .next a => TtyLeft a
  | .visit a => TtyLeft a
  | _ => True

/-- A message is written to the pipe of a try whose child runs. -/
theorem Msgs.writes {w : World} (h : Msgs C none w) {t : ℕ} (m : ServiceMessage)
    (hrun : SpawnTry.running (w.tryAt t) = true) :
    Msgs C none (w.modTry t (SpawnTry.writePipe C m.message)) := by
  refine h.modTry (fun tr ht => ?_) fun tr ht _ hheard hdone => ?_
  · rw [World.tryAt_eq ht] at hrun
    obtain ⟨hchild, hexited⟩ := Bool.and_eq_true_iff.mp hrun
    refine ⟨id, Or.inr ⟨fun hmem => List.mem_append_left _ hmem, by simpa using hchild,
      by simpa using hexited⟩, rfl, id⟩
  · have htr := hheard hdone
    obtain ⟨ms, hwritten, hactive, hreason⟩ := htr.read
    refine ⟨htr.success, ?_, fun m' hm' => ?_, ⟨ms, ?_, hactive, hreason⟩,
      fun reason herr => List.mem_append_left _ (htr.reason reason herr)⟩
    · dsimp only [SpawnTry.writePipe]
      rw [htr.pipe, List.flatMap_append, List.flatMap_singleton]
    · rcases List.mem_append.mp hm' with hold | hnew
      · exact htr.service m' hold
      · exact ⟨m, (List.mem_singleton.mp hnew).symm⟩
    · dsimp only [SpawnTry.writePipe]
      rw [hwritten, List.append_assoc]

/-- The listener that is visited is called, and a try whose child has disappeared ends. -/
theorem Msgs.visited {a : Answers} {w w' : World} (hlife : Life none w) (hpids : Pids none w)
    (h : Msgs C none w) (hloses : losesNothing w (.visit a) = true) (htty : TtyLeft a) {t i : ℕ}
    {pid : ℤ} {hd : Handler} (hscan : w.scan = some (t, i))
    (he : w.registry.pending[i]? = some ⟨pid, some hd⟩) (hpid : pid = (w.tryAt t).childPid)
    (hcalled : Called C a t w hd w') : Msgs C none w' := by
  cases hcalled with
  | disappeared t' w' hfree =>
    obtain ⟨v, hv, hdone⟩ := hlife.pending_of_handler he t' rfl
    obtain ⟨tr, htr, rfl⟩ := view_eq_some.mp hv
    have hcalled' : called w = some (t, .spawnedSessionDisappear t') := called_eq hscan he hpid
    have hlost : nothingLost tr = true := by
      rw [← World.tryAt_eq htr]
      simpa [losesNothing, hcalled'] using hloses
    have hreaped : tr.reaped = true := hpids.reaped_of_visited hlife hscan he hpid hv hdone
    have hdone' : tr.doneCalled = false := hdone
    exact (h.except (some t')).freed htty htr ((h.pending htr hdone' nofun).rightResult hlost)
      (Or.inr (Or.inr (h.exited htr hreaped))) hfree
  | lost g _ => exact (h.log rfl).still rfl rfl
  | ended g r _ _ => exact (h.log rfl).still rfl rfl
  | restarted g r _ _ =>
    have hreset : Msgs C none (greeterReset g (w.log (.greeterCb t (some r.seat)))) :=
      (h.log rfl).still rfl rfl
    exact hreset.activate htty r.seat

/-- **Every step that loses no message keeps the invariant.** -/
theorem msgs_step {w : World} {e : Event} (hlife : Life none w) (hpids : Pids none w)
    (h : Msgs C none w) (hloses : losesNothing w e = true) (htty : hasTtys e) :
    Msgs C none (step C w e) := by
  have hdoes := step_does C w e
  generalize step C w e = w' at hdoes
  have hadvance : Msgs C none (advance w) := h.still rfl rfl
  cases hdoes with
  | idle _ => exact h
  | select _ _ _ _ => exact h.still rfl rfl
  | endPass _ _ => exact h.still rfl rfl
  | pass _ _ => exact hadvance
  | accept a _ =>
    refine hadvance.quiet ?_ (steady_acceptReady a (advance w)).dones
    unfold acceptReady
    cases a.peer <;> rfl
  | client a c fd w' _ _ hdoes => exact hadvance.clientData htty hdoes
  | child a t fd w' _ hready hdoes =>
    obtain ⟨v, hv, hdone, -⟩ := hlife.read (ready_mem_live hready) rfl
    obtain ⟨tr, htr, rfl⟩ := view_eq_some.mp hv
    have hdone' : tr.doneCalled = false := hdone
    simp only [losesNothing, hready, World.tryAt_eq htr, Bool.and_eq_true, decide_eq_true_eq] at hloses
    exact hadvance.childData htty htr hdone' hloses.1 hloses.2 hdoes
  | sigchld _ => exact h.still rfl rfl
  | reap t tr _ _ _ _ _ =>
    have hreap : Msgs C none (w.modTry t fun tr => { tr with exited := true, reaped := true }) :=
      h.modTry (fun _ _ => ⟨fun _ _ => rfl, Or.inl rfl, rfl, fun _ => rfl⟩)
        fun _ _ _ hheard hdone => (hheard hdone).congr rfl rfl rfl rfl rfl
    exact hreap.still rfl rfl
  | scanEnd a t i _ _ => exact h.still rfl rfl
  | scanPass a t i e _ _ _ => exact h.still rfl rfl
  | scanZeroed a t i e _ _ _ => exact h.still rfl rfl
  | visit a t i pid hd w' hscan he hpid hcalled =>
    exact (h.visited hlife hpids hloses htty hscan he hpid hcalled).still rfl rfl
  | sigchldReturn _ => exact h.still rfl rfl
  | childWrite t m hrun => exact h.writes m hrun
  | childHangUp t _ =>
    exact h.modTry (fun _ _ => .of_eq rfl rfl rfl rfl)
      fun _ _ _ hheard hdone => (hheard hdone).congr rfl rfl rfl rfl rfl
  | childExit t _ =>
    exact h.modTry (fun _ _ => ⟨fun _ _ => rfl, Or.inl rfl, rfl, fun _ => rfl⟩)
      fun _ _ _ hheard hdone => (hheard hdone).congr rfl rfl rfl rfl rfl

/-! ### Runs -/

/-- Every done callback so far was called with the result that is right for what was written. -/
def RightResults (w : World) : Prop :=
  ∀ t result, .done t result ∈ w.trace → RightResult result (w.tryAt t).written

theorem rightResults_of_msgs {w : World} (h : Msgs C none w) : RightResults w := by
  intro t result hdone
  have hmem : (t, result) ∈ dones w := List.mem_filterMap.mpr ⟨_, hdone, rfl⟩
  obtain ⟨tr, htr, hright, -⟩ := h.outcome hmem
  rw [World.tryAt_eq htr]
  exact hright

theorem msgs_start (debug : Bool) (templates : List Template) :
    Msgs C none (World.start debug templates) where
  exited ht := by simp [World.start] at ht
  pending ht := by simp [World.start] at ht
  outcome hmem := absurd hmem List.not_mem_nil

theorem hasTtys_turn {a : Answers} (h : TtyLeft a) (fds : List ℕ) : ∀ e ∈ turn fds a, hasTtys e := by
  intro e he
  rcases List.mem_cons.mp he with rfl | he
  · trivial
  · rw [List.eq_of_mem_replicate he]
    exact h

theorem ttyLeft_plain (input : ClientInput) : TtyLeft { Answers.plain with input := input } :=
  fun _ _ h => by cases h

/-- The child of the try 0 writes a message, and the daemon reads it. -/
def tells (m : ServiceMessage) : List Event := .childWrite 0 m :: turn [5] Answers.plain

/-- The child of the try 0 ends, and its listeners are visited. -/
def disappears : List Event :=
  [.childExit 0, .sigchld, .reap 0] ++ List.replicate 2 (.visit Answers.plain)

end Spawny.Daemon.Outcomes
