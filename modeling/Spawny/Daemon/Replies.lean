import Spawny.Daemon.Activation
import Spawny.Daemon.GreeterStarts
import Spawny.Daemon.Pipes

/-! # server.c: what a step tells the clients

A step tells a client of a success only when it ends a login whose `SESSION_ACTIVE` it has read.
`loginEnds` says from the state before the step which login it ends, and how; all other steps are
`Plain`.

* `Plain.activate`, `Plain.clientData`, `Plain.childData`, `Plain.called`: what is plain;
* `told_ends`: a step that ends a login;
* `told_step`: **what a step tells the clients about logins**. -/

namespace Spawny.Daemon.Replies

open Spawny.Lib.Wire Spawny.Lib.Descriptors Spawny.Lib.Runs Spawny.Protocol Spawny.Protocol.Messages
open Spawny.Daemon.Manager Spawny.Daemon.SpawnRegistry
open Spawny.Daemon.SessionMgt Spawny.Daemon.State Spawny.Daemon.SpawnService
open Spawny.Daemon.GreeterTable Spawny.Daemon.Client Spawny.Daemon.Greeter Spawny.Daemon.Activations
open Spawny.Daemon.Server Spawny.Daemon.SafeCalls Spawny.Daemon.Loop Spawny.Daemon.Steps
open Spawny.Daemon.TryViews Spawny.Daemon.TryLife Spawny.Daemon.TryCells Spawny.Daemon.Outcomes
open Spawny.Daemon.Pipes Spawny.Daemon.Activation

variable {C : FieldCode SpawnField} {w₀ w w' : World}

/-! ### Answers -/

/-- `why` has sent a `LOGIN_FEEDBACK` with `success` set. -/
def Succeeds (why : Sender) (os : List Obs) : Prop :=
  ∃ dest fb, .sent why dest ⟨.loginFeedback, some fb, none⟩ ∈ os ∧ fb.success = true

/-- No success is told. -/
def Obs.Modest (o : Obs) : Prop :=
  ∀ why dest msg, o = .sent why dest msg → ∀ fb, msg.feedback = some fb → fb.success = false

/-- If the done callback of a login is called, its session is not active. -/
def Obs.Spares (w : World) (o : Obs) : Prop :=
  ∀ t result, o = .done t result → ∃ tr, w.tries[t]? = some tr ∧
    ((∀ c, tr.done ≠ .sessionDone c) ∨ active ∉ tr.written)

/-- Since `w₀` no success was told, and no login with an active session has ended. -/
def Plain (w₀ w : World) : Prop :=
  ∃ os, w.trace = w₀.trace ++ os ∧ ∀ o ∈ os, Obs.Modest o ∧ Obs.Spares w o

theorem Plain.of_trace (h : w'.trace = w.trace) : Plain w w' := ⟨[], by simp [h], by simp⟩

/-- More is recorded, and the tries that were there are kept. -/
theorem Plain.append (h : Plain w₀ w) {os : List Obs} (htrace : w'.trace = w.trace ++ os)
    (htries : Kept w w') (hos : ∀ o ∈ os, Obs.Modest o ∧ Obs.Spares w' o) : Plain w₀ w' := by
  obtain ⟨os₀, hos₀, hall⟩ := h
  refine ⟨os₀ ++ os, by rw [htrace, hos₀, List.append_assoc], fun o ho => ?_⟩
  rcases List.mem_append.mp ho with ho | ho
  · refine ⟨(hall o ho).1, fun t result hdone => ?_⟩
    obtain ⟨tr, htr, hspare⟩ := (hall o ho).2 t result hdone
    obtain ⟨tr', htr', hdone', -, hwritten⟩ := htries t tr htr
    exact ⟨tr', htr', by rw [hdone', hwritten]; exact hspare⟩
  · exact hos o ho

theorem Plain.kept (h : Plain w₀ w) (htrace : w'.trace = w.trace) (htries : Kept w w') :
    Plain w₀ w' := by
  have hnil : w'.trace = w.trace ++ [] := by rw [htrace, List.append_nil]
  exact h.append hnil htries (by simp)

theorem Plain.still (h : Plain w₀ w) (htrace : w'.trace = w.trace) (htries : w'.tries = w.tries) :
    Plain w₀ w' := h.kept htrace (.of_eq htries)

theorem Plain.log (h : Plain w₀ w) {o : Obs} (hsent : Obs.Modest o) (hdone : ∀ t r, o ≠ .done t r) :
    Plain w₀ (w.log o) := by
  refine h.append rfl (.of_eq rfl) fun o' ho' => ?_
  obtain rfl := List.mem_singleton.mp ho'
  exact ⟨hsent, fun t r ho => absurd ho (hdone t r)⟩

/-! ### What is plain -/

theorem Plain.modGreeter (h : Plain w₀ w) (g : ℕ) (f : SeatGreeter → SeatGreeter) :
    Plain w₀ (w.modGreeter g f) :=
  h.still (World.modGreeter_trace _ _ _) (World.modGreeter_tries _ _ _)

theorem Plain.modClient (h : Plain w₀ w) (c : ℕ) (f : State.Client → State.Client) :
    Plain w₀ (w.modClient c f) :=
  h.still (World.modClient_trace _ _ _) (World.modClient_tries _ _ _)

theorem Plain.forks (h : Plain w₀ w) (req : SpawnRequest) (pid : ℕ) :
    Plain w₀ (childForked w.tries.length pid (openTry req w)) := by
  have htrace := trace_childForked (openTry req w) w.tries.length pid
  refine h.append htrace (kept_forked req pid w) fun o ho => ?_
  obtain rfl := List.mem_singleton.mp ho
  exact ⟨by simp [Obs.Modest], by simp [Obs.Spares]⟩

/-- What fails at once has no session. -/
theorem active_notMem_failedTry (noTty : Bool) (req : SpawnRequest) (readFd writeFd : ℕ) :
    active ∉ (failedTry C noTty (newTry req readFd writeFd)).written := by
  cases noTty <;> simp [failedTry, SpawnTry.writePipe, newTry, active, ServiceMessage.message]

theorem Plain.fails (h : Plain w₀ w) (noTty : Bool) (req : SpawnRequest) :
    Plain w₀ (tryFailed C noTty req w) := by
  refine h.append (trace_tryFailed C w noTty req) (kept_tryFailed noTty req w) fun o ho => ?_
  obtain rfl := List.mem_singleton.mp ho
  refine ⟨by simp [Obs.Modest], fun t result hdone => ?_⟩
  obtain ⟨rfl, -⟩ := Obs.done.inj hdone
  exact ⟨_, by rw [getElem?_tryFailed, if_pos rfl], Or.inr (active_notMem_failedTry _ _ _ _)⟩

theorem Plain.release (h : Plain w₀ w) (t : ℕ) : Plain w₀ (release t w) :=
  h.kept (trace_release w t) (kept_release t w)

/-- The callback of a try that is no login is called. -/
theorem Plain.calledBack (h : Plain w₀ w) {t : ℕ} {tr : SpawnTry} (htr : w.tries[t]? = some tr)
    (hgreeter : ∀ c, tr.done ≠ .sessionDone c) : Plain w₀ (calledBack t w) := by
  refine h.append (trace_calledBack w t) (kept_calledBack t w) fun o ho => ?_
  obtain rfl := List.mem_singleton.mp ho
  refine ⟨by simp [Obs.Modest], fun t' result hdone => ?_⟩
  obtain ⟨rfl, -⟩ := Obs.done.inj hdone
  obtain ⟨tr', htr', hdone', -⟩ := kept_calledBack t w t tr htr
  exact ⟨tr', htr', Or.inl (by rw [hdone']; exact hgreeter)⟩

theorem Plain.greeterCb (h : Plain w₀ w) (t : ℕ) (found : Option String) :
    Plain w₀ (w.log (.greeterCb t found)) := h.log (by simp [Obs.Modest]) (by simp)

theorem greeterOps_plain (w₀ : World) (a : Answers) : GreeterOps C a (Plain w₀) where
  session s h := h.log (by simp [Obs.Modest]) (by simp)
  add _ h := h.still rfl rfl
  noPipe _ _ h := h.modGreeter _ _
  forked pid _ _ h := (h.forks _ _).modGreeter _ _
  failed noTty _ _ _ _ _ h := ((h.fails noTty _).greeterCb _ _).modGreeter _ _
  returned _ _ _ _ _ h := (h.release _).modGreeter _ _

theorem Plain.activate (h : Plain w₀ w) (a : Answers) (seat : String) :
    Plain w₀ (greeterActivate C a seat w) := (greeterOps_plain w₀ a).activate C seat h

/-- **The end of a try that is no login** is plain. -/
theorem Plain.freed (h : Plain w₀ w) {a : Answers} {t : ℕ} {tr : SpawnTry}
    (htr : w.tries[t]? = some tr) (hgreeter : ∀ c, tr.done ≠ .sessionDone c)
    (hf : Freed C a t w w') : Plain w₀ w' := by
  have hcalled := h.calledBack htr hgreeter
  cases hf with
  | login c hdone =>
    rw [World.tryAt_eq htr] at hdone
    exact absurd hdone (hgreeter c)
  | lost g _ _ => exact ((hcalled.greeterCb t none).still rfl rfl).release t
  | restarted g r _ _ _ =>
    have hfailed : Plain w₀ (greeterStartFailed t g (SpawnService.calledBack t w)) :=
      (hcalled.greeterCb t _).modGreeter _ _
    exact (hfailed.activate a r.seat).release t
  | noTry g r _ _ _ _ =>
    have hstart := (hcalled.greeterCb t (some r.seat)).log (o := .startDone t none)
      (by simp [Obs.Modest]) (by simp)
    exact (hstart.still rfl rfl).release t
  | started g r t' _ _ _ _ =>
    have hstart := (hcalled.greeterCb t (seatAt (SpawnService.calledBack t w) g)).log
      (o := .startDone t (some t')) (by simp [Obs.Modest]) (by simp)
    exact (hstart.still rfl rfl).release t

theorem Plain.sent (h : Plain w₀ w) {why : Sender} {dest : Option FdObj} {msg : ServerMessage}
    (hfail : ∀ fb, msg.feedback = some fb → fb.success = false) :
    Plain w₀ (w.log (.sent why dest msg)) := by
  refine h.log (fun why' dest' msg' heq => ?_) (by simp)
  obtain ⟨-, -, rfl⟩ := Obs.sent.inj heq
  exact hfail

theorem Plain.clientGoodbye (h : Plain w₀ w) (why : Sender) (c : ℕ) :
    Plain w₀ (clientGoodbye why c w) := by
  have hleave : Plain w₀ (sendMessage why .leave none none (w.clientAt c).fd w) := h.sent (by simp)
  exact hleave.still rfl rfl

theorem Plain.greeterLockout (h : Plain w₀ w) (seat : Option String) :
    Plain w₀ (greeterLockout seat w) := by
  rcases trace_greeterLockout seat w with htrace | ⟨s, htrace⟩
  · exact h.still htrace (tries_greeterLockout seat w)
  · refine h.append htrace (.of_eq (tries_greeterLockout seat w)) fun o ho => ?_
    obtain rfl := List.mem_singleton.mp ho
    exact ⟨by simp [Obs.Modest], by simp [Obs.Spares]⟩

theorem Plain.sessionActivate (h : Plain w₀ w) (session : Option String) :
    Plain w₀ (sessionActivate session w) := by
  cases session with
  | none => exact h
  | some s => exact h.log (by simp [Obs.Modest]) (by simp)

theorem Plain.forceQuit (h : Plain w₀ w) (t : ℕ) : Plain w₀ (forceQuit t w) := by
  unfold SpawnService.forceQuit
  split_ifs
  · exact h.log (by simp [Obs.Modest]) (by simp)
  · exact h

/-- A login that failed. -/
theorem Plain.loginFails (h : Plain w₀ w) (a : Answers) (t c : ℕ) (message : Option String) :
    Plain w₀ (sessionDone a t c ⟨.error, message⟩ w) := by
  have hfault : Plain w₀ (if (w.clientAt c).freed then w.fault else w) := by
    split_ifs
    · exact h.still rfl rfl
    · exact h
  unfold sessionDone
  dsimp only
  generalize (if (w.clientAt c).freed then w.fault else w) = w' at hfault ⊢
  have hsent : Plain w₀ (serverSpawnserviceFeedback (.sessionDone t) false message
      (w'.clientAt c).fd w') := hfault.sent (by simp)
  exact hsent.still rfl rfl

/-- **The answers of `_client_data` itself** tell no success. -/
theorem Plain.clientData (h : Plain w₀ w) {a : Answers} {c fd : ℕ} (hdoes : ClientData C a c fd w w') :
    Plain w₀ w' := by
  induction hdoes with
  | closed _ => exact h.still rfl rfl
  | dropped _ => exact h.still rfl rfl
  | replied msg hfail => exact h.sent hfail
  | activated _ session seat =>
    have hreply : Plain w₀ (serverSpawnserviceFeedback (.reply c) false
        (some "Activation is called on this session") fd (SpawnService.sessionActivate session w)) :=
      (h.sessionActivate session).sent (by simp)
    exact (hreply.greeterLockout seat).clientGoodbye _ c
  | noLogin => exact h.still rfl rfl
  | noPipe _ =>
    exact (h.modClient c fun cl => { cl with spawnTry := none }).sent (by simp)
  | loginForked _ _ l pid => exact (h.forks _ _).modClient c _
  | loginFailed _ l noTty _ _ _ =>
    have hfails : Plain w₀ (tryFailed C noTty (loginRequest a c fd l w) w) := h.fails noTty _
    have hreleased := (hfails.loginFails a w.tries.length c none).release w.tries.length
    exact hreleased.modClient c _
  | started _ m _ _ _ => exact (h.activate a _).clientGoodbye _ c
  | ignored => exact h
  | fallback w' _ ih => exact ih.still rfl rfl

/-! ### Which login a step ends -/

/-- The done callback of the try is that of a login. -/
def isLogin (w : World) (t : ℕ) : Bool :=
  match (w.tryAt t).done with
  | .sessionDone _ => true
  | .greeterStartDone _ => false

/-- The login whose `SESSION_ACTIVE` the step reads. -/
def loginActive (C : FieldCode SpawnField) (w : World) : Event → Option ℕ
  | .next _ =>
    match ready w with
    | some ⟨some (.childData t), _⟩ =>
      if w.fds.readout = true ∧ w.registry.evalMode = false ∧ isLogin w t = true ∧
          (SpawnMessage.unpack C ((w.tryAt t).pipe.take MAX_MSG_SIZE)).map SpawnMessage.type =
            some .sessionActive then some t else none
    | _ => none
  | _ => none

/-- The login whose listener the step calls, for the end of its child. -/
def loginGone (w : World) : Event → Option ℕ
  | .visit _ =>
    match called w with
    | some (_, .spawnedSessionDisappear t) => if isLogin w t = true then some t else none
    | _ => none
  | _ => none

theorem isLogin_of_done {t c : ℕ} (h : (w.tryAt t).done = .sessionDone c) : isLogin w t = true := by
  rw [isLogin, h]

theorem done_of_isLogin {t : ℕ} (h : isLogin w t = true) : ∃ c, (w.tryAt t).done = .sessionDone c := by
  unfold isLogin at h
  cases hdone : (w.tryAt t).done with
  | sessionDone c => exact ⟨c, rfl⟩
  | greeterStartDone g => simp [hdone] at h

theorem not_login {t : ℕ} {tr : SpawnTry} (htr : w.tries[t]? = some tr) (h : isLogin w t ≠ true)
    (c : ℕ) : tr.done ≠ .sessionDone c := by
  intro hdone
  rw [← World.tryAt_eq htr] at hdone
  exact h (isLogin_of_done hdone)

theorem loginActive_eq_some {e : Event} {t : ℕ} (h : loginActive C w e = some t) :
    ∃ a fd m, e = .next a ∧ w.fds.readout = true ∧ w.registry.evalMode = false ∧
      ready w = some ⟨some (.childData t), fd⟩ ∧ isLogin w t = true ∧
        SpawnMessage.unpack C ((w.tryAt t).pipe.take MAX_MSG_SIZE) = some m ∧
          m.type = .sessionActive := by
  cases e with
  | next a =>
    unfold loginActive at h
    dsimp only at h
    split at h
    · rename_i t' fd hready
      split_ifs at h with hok
      obtain rfl := Option.some.inj h
      obtain ⟨hread, heval, hlogin, htype⟩ := hok
      obtain ⟨m, hmsg, htype⟩ := Option.map_eq_some_iff.mp htype
      exact ⟨a, fd, m, rfl, hread, heval, hready, hlogin, hmsg, htype⟩
    · cases h
  | _ => cases h

theorem loginGone_eq_some {e : Event} {t : ℕ} (h : loginGone w e = some t) :
    ∃ a t', e = .visit a ∧ called w = some (t', .spawnedSessionDisappear t) ∧
      isLogin w t = true := by
  cases e with
  | visit a =>
    unfold loginGone at h
    dsimp only at h
    split at h
    · rename_i t' t'' hcalled
      split_ifs at h with hlogin
      obtain rfl := Option.some.inj h
      exact ⟨a, t', rfl, hcalled, hlogin⟩
    · cases h
  | _ => cases h

/-! ### The end of a login -/

/-- What is sent for a success, after the lockout. -/
theorem trace_feedback (t c : ℕ) (w : World) : ∃ dest dest', (clientGoodbye (.sessionDone t) c
    ((serverSpawnserviceFeedback (.sessionDone t) true (some "You are logged in!")
      (w.clientAt c).fd w).modClient c fun cl => { cl with spawnTry := none })).trace = w.trace ++
        [.sent (.sessionDone t) dest ⟨.loginFeedback, some ⟨true, "You are logged in!"⟩, none⟩,
          .sent (.sessionDone t) dest' ⟨.leave, none, none⟩] :=
  ⟨_, _, List.append_assoc w.trace [_] [_]⟩

/-- `_session_done` for the try `t` tells a success exactly if that is the result. -/
theorem trace_sessionDone (a : Answers) (t c : ℕ) (result : SpawnServiceEnd) (w : World) :
    ∃ os, (sessionDone a t c result w).trace = w.trace ++ os ∧ (∀ o ∈ os, Obs.done? o = none) ∧
      (∀ c', ¬Succeeds (.reply c') os) ∧
        ∀ t', Succeeds (.sessionDone t') os ↔ t' = t ∧ result.success = .success := by
  have hfault : (if (w.clientAt c).freed then w.fault else w).trace = w.trace := by
    split_ifs <;> rfl
  unfold sessionDone
  dsimp only
  generalize (if (w.clientAt c).freed then w.fault else w) = w' at hfault ⊢
  rw [← hfault]
  cases result.success with
  | error => exact ⟨_, rfl, by simp [Obs.done?], by simp [Succeeds], by simp [Succeeds]⟩
  | success =>
    set seat := seatGet a.sd (w'.clientAt c).pid
    -- the lockout, if there is a record for the seat, then the feedback and the goodbye
    obtain ⟨os, hos, hlock⟩ : ∃ os, (greeterLockout seat w').trace = w'.trace ++ os ∧
        ∀ o ∈ os, ∃ s, o = .lockout s := by
      rcases trace_greeterLockout seat w' with h | ⟨s, h⟩
      · exact ⟨[], by rw [h, List.append_nil], by simp⟩
      · exact ⟨[.lockout s], h, by simp⟩
    have hsent : ∀ why dest msg, .sent why dest msg ∉ os := by
      intro why dest msg hmem
      obtain ⟨s, hs⟩ := hlock _ hmem
      cases hs
    obtain ⟨dest, dest', hfeedback⟩ := trace_feedback t c (greeterLockout seat w')
    refine ⟨_, hfeedback.trans (by rw [hos, List.append_assoc]), fun o ho => ?_, ?_, ?_⟩
    · rcases List.mem_append.mp ho with ho | ho
      · obtain ⟨s, rfl⟩ := hlock o ho
        rfl
      · rcases List.mem_pair.mp ho with rfl | rfl <;> rfl
    · simp [Succeeds, hsent]
    · simp [Succeeds, hsent]

/-- The done callback of a login whose session is active was called. -/
def EndsActive (os : List Obs) (w' : World) (t : ℕ) : Prop :=
  ∃ tr c result, .done t result ∈ os ∧ w'.tries[t]? = some tr ∧ tr.done = .sessionDone c ∧
    active ∈ tr.written

/-- What was told between `w` and `w'`: no success by `_client_data` itself, a success for the logins
in `said`; the logins in `held` have ended and their sessions are active. -/
structure Told (said held : ℕ → Prop) (w w' : World) : Prop where
  reply : ∀ c, ¬Succeeds (.reply c) (since w w')
  login : ∀ t, Succeeds (.sessionDone t) (since w w') ↔ said t
  ended : ∀ t, EndsActive (since w w') w' t ↔ held t

theorem Plain.told (h : Plain w w') : Told (fun _ => False) (fun _ => False) w w' := by
  obtain ⟨os, htrace, hall⟩ := h
  have hmodest : ∀ why, ¬Succeeds why (since w w') := by
    rintro why ⟨dest, fb, hmem, hsuccess⟩
    rw [since_append htrace] at hmem
    rw [(hall _ hmem).1 _ _ _ rfl fb rfl] at hsuccess
    cases hsuccess
  refine ⟨fun c => hmodest _, fun t => iff_of_false (hmodest _) id, fun t => iff_of_false ?_ id⟩
  rintro ⟨tr, c, result, hmem, htr, hdone, hactive⟩
  rw [since_append htrace] at hmem
  obtain ⟨tr', htr', hspare⟩ := (hall _ hmem).2 t result rfl
  rw [htr] at htr'
  obtain rfl := Option.some.inj htr'
  rcases hspare with hgreeter | hnone
  · exact hgreeter c hdone
  · exact hnone hactive

/-- **The end of a login.** -/
theorem told_ends {a : Answers} {t c : ℕ} {tr : SpawnTry} (htr : w.tries[t]? = some tr)
    (hdone : tr.done = .sessionDone c) (hf : Freed C a t w w') :
    Told (fun t' => t' = t ∧ tr.success = .success) (fun t' => t' = t ∧ active ∈ tr.written) w w' := by
  cases hf with
  | login c' hc' =>
    obtain ⟨os, hos, hquiet, hreply, hlogin⟩ :=
      trace_sessionDone a t c' (SpawnTry.result (w.tryAt t)) (calledBack t w)
    have htrace : (SpawnService.release t (sessionDone a t c' (SpawnTry.result (w.tryAt t))
        (calledBack t w))).trace = w.trace ++ .done t (SpawnTry.result (w.tryAt t)) :: os := by
      rw [trace_release, hos, trace_calledBack, List.append_assoc]
      rfl
    obtain ⟨tr', htr', hdone', -, hwritten⟩ : ∃ tr', (SpawnService.release t (sessionDone a t c'
        (SpawnTry.result (w.tryAt t)) (calledBack t w))).tries[t]? = some tr' ∧ tr'.done = tr.done ∧
          tr'.pipe = tr.pipe ∧ tr'.written = tr.written :=
      ((kept_calledBack t w).trans (.of_eq (tries_sessionDone _ _ _ _ _))).trans
        (kept_release t _) t tr htr
    have hskip : ∀ why, Succeeds why (.done t (SpawnTry.result (w.tryAt t)) :: os) ↔
        Succeeds why os := by
      intro why
      simp [Succeeds]
    refine ⟨fun c => ?_, fun t' => ?_, fun t' => ?_⟩
    · rw [since_append htrace, hskip]
      exact hreply c
    · rw [since_append htrace, hskip, hlogin, World.tryAt_eq htr]
      rfl
    · rw [since_append htrace]
      constructor
      · rintro ⟨tr'', c'', result, hmem, htr'', -, hactive⟩
        rcases List.mem_cons.mp hmem with heq | hmem
        · obtain ⟨rfl, -⟩ := Obs.done.inj heq
          rw [htr'] at htr''
          obtain rfl := Option.some.inj htr''
          exact ⟨rfl, hwritten ▸ hactive⟩
        · cases hquiet _ hmem
      · rintro ⟨rfl, hactive⟩
        exact ⟨tr', c, _, List.mem_cons_self, htr', hdone'.trans hdone, hwritten ▸ hactive⟩
  | lost g hg _ | restarted g _ hg _ _ | noTry g _ hg _ _ _ | started g _ _ hg _ _ _ =>
    rw [World.tryAt_eq htr, hdone] at hg
    cases hg

/-! ### The steps -/

/-- A read that gives a message does not block. -/
theorem blocks_of_unpack {tr : SpawnTry} {m : SpawnMessage}
    (hmsg : SpawnMessage.unpack C (tr.pipe.take MAX_MSG_SIZE) = some m) :
    SpawnTry.blocks tr = false := by
  cases hpipe : tr.pipe with
  | nil => simp [hpipe, SpawnMessage.unpack, SpawnMessage.assemble] at hmsg
  | cons b bs => simp [SpawnTry.blocks, hpipe]

/-- `_child_data` for a try that is no login, or for a message that ends none. -/
theorem Plain.childData {a : Answers} {t fd : ℕ} {tr : SpawnTry} (htr : w.tries[t]? = some tr)
    (hlogin : ∀ m, SpawnMessage.unpack C ((w.tryAt t).pipe.take MAX_MSG_SIZE) = some m →
      m.type = .sessionActive → isLogin w t ≠ true)
    (hdoes : ChildData C a t fd w w') : Plain w w' := by
  cases hdoes with
  | undecodable _ =>
    have hread : Plain w ((w.modTry t SpawnTry.readPipe).unregisterFd fd) := .of_trace rfl
    exact hread.forceQuit t
  | connect _ _ _ => exact .of_trace rfl
  | setupDone _ _ _ session =>
    have hset : Plain w ((w.modTry t SpawnTry.readPipe).modTry t
        fun tr => { tr with session := session }) := .of_trace rfl
    refine Plain.sessionActivate ?_ session
    split_ifs
    · exact hset.forceQuit t
    · exact hset
  | sessionActive m hmsg htype w' hfree =>
    have hset : Plain w (((w.modTry t SpawnTry.readPipe).unregisterFd (w.tryAt t).readFd).modTry t
        fun tr => { tr with success := .success }) := .of_trace rfl
    have hno := not_login htr (hlogin m hmsg htype)
    exact hset.freed (getElem?_succeeded htr _) hno hfree
  | errorExit _ _ _ reason _ => exact .of_trace rfl
  | noReason _ _ _ _ => exact .of_trace rfl

theorem Plain.called {a : Answers} {t : ℕ} {hd : Handler}
    (hlogin : ∀ t', hd = .spawnedSessionDisappear t' →
      ∃ tr, w.tries[t']? = some tr ∧ isLogin w t' ≠ true)
    (hcalled : Called C a t w hd w') : Plain w w' := by
  have hfirst : Plain w w := .of_trace rfl
  cases hcalled with
  | disappeared t' w' hfree =>
    obtain ⟨tr, htr, hno⟩ := hlogin t' rfl
    exact hfirst.freed htr (not_login htr hno) hfree
  | lost g _ => exact (hfirst.greeterCb t none).still rfl rfl
  | ended g r _ _ => exact (hfirst.greeterCb t (some r.seat)).still rfl rfl
  | restarted g r _ _ =>
    have hreset : Plain w (greeterReset g (w.log (.greeterCb t (some r.seat)))) :=
      (hfirst.greeterCb t (some r.seat)).modGreeter _ _
    exact hreset.activate a r.seat

/-- **A step that ends no login** is plain. -/
theorem plain_step {e : Event} (hlife : Life none w) (hactive : loginActive C w e = none)
    (hgone : loginGone w e = none) : Plain w (step C w e) := by
  have hdoes := step_does C w e
  generalize step C w e = w' at hdoes
  cases hdoes with
  | client a c fd w' _ _ hdoes _ =>
    have hfirst : Plain w (advance w) := .of_trace rfl
    exact hfirst.clientData hdoes
  | child a t fd w' heval hready hdoes hread =>
    obtain ⟨v, hv, -⟩ := hlife.read (ready_mem_live hready) rfl
    obtain ⟨tr, htr, -⟩ := view_eq_some.mp hv
    refine Plain.childData (w := advance w) htr (fun m hmsg htype hlogin => ?_) hdoes
    have hlogin' : isLogin w t = true := hlogin
    have hmsg' : SpawnMessage.unpack C ((w.tryAt t).pipe.take MAX_MSG_SIZE) = some m := hmsg
    simp [loginActive, hready, hread, heval, hlogin', hmsg', htype] at hactive
  | visit a t i pid hd w' hscan he hpid hcalled =>
    refine (Plain.called (fun t' ht' => ?_) hcalled).still rfl rfl
    subst ht'
    obtain ⟨v, hv, -⟩ := hlife.listens (Registry.mem_live.mpr ⟨List.mem_of_getElem? he, rfl⟩) rfl
    obtain ⟨tr, htr, -⟩ := view_eq_some.mp hv
    have hnext : Steps.called w = some (t, .spawnedSessionDisappear t') :=
      Steps.called_eq hscan he hpid
    exact ⟨tr, htr, fun hlogin => by simp [loginGone, hnext, hlogin] at hgone⟩
  | accept a _ =>
    have haccept : (acceptReady a (advance w)).trace = w.trace := by
      unfold acceptReady
      cases a.peer <;> rfl
    exact .of_trace haccept
  | _ => exact .of_trace rfl

/-- **What a step tells the clients**: a success for the login whose `SESSION_ACTIVE` it reads, and
for no other; the logins that it ends are that one and the one whose child has gone. -/
theorem told_step (hlife : Life none w) (hcells : Cells Undecided w) (hreads : Reads C w) (e : Event) :
    Told (fun t => loginActive C w e = some t)
      (fun t => loginActive C w e = some t ∨
        loginGone w e = some t ∧ active ∈ (w.tryAt t).written) w (step C w e) := by
  cases hactive : loginActive C w e with
  | some t =>
    obtain ⟨a, fd, m, rfl, hread, heval, hready, hlogin, hmsg, htype⟩ := loginActive_eq_some hactive
    obtain ⟨c, hdone⟩ := done_of_isLogin hlogin
    obtain ⟨v, hv, -⟩ := hlife.read (ready_mem_live hready) rfl
    obtain ⟨tr, htr, -⟩ := view_eq_some.mp hv
    have hwritten := hreads.active (ready_mem_live hready) hmsg htype
    rw [World.tryAt_eq htr] at hdone hwritten
    rw [step_child C hread heval hready (blocks_of_unpack hmsg)]
    have hdoes := childData_does C a t fd (advance w)
    generalize childData C (onDone C a) a t fd (advance w) = w' at hdoes
    have hmsg' : SpawnMessage.unpack C (((advance w).tryAt t).pipe.take MAX_MSG_SIZE) = some m := hmsg
    have hfree : Freed C a t ((((advance w).modTry t SpawnTry.readPipe).unregisterFd
        ((advance w).tryAt t).readFd).modTry t fun tr => { tr with success := .success }) w' := by
      cases hdoes with
      | sessionActive _ _ _ _ hfree => exact hfree
      | undecodable hnone => simp [hnone] at hmsg'
      | connect m' h htype' | setupDone m' h htype' _ | errorExit m' h htype' _ _
      | noReason m' h htype' _ =>
        obtain rfl : m' = m := Option.some.inj (h.symm.trans hmsg')
        rw [htype] at htype'
        cases htype'
    have htr' : (advance w).tries[t]? = some tr := htr
    have htold := told_ends (getElem?_succeeded htr' _) hdone hfree
    refine ⟨htold.reply, fun t' => (htold.login t').trans ?_, fun t' => (htold.ended t').trans ?_⟩
    · simp [eq_comm]
    · have hgone : loginGone w (.next a) = none := rfl
      simp [hgone, SpawnTry.readPipe, hwritten, eq_comm]
  | none =>
    cases hgone : loginGone w e with
    | some t =>
      obtain ⟨a, t', rfl, hcalled, hlogin⟩ := loginGone_eq_some hgone
      obtain ⟨c, hdone⟩ := done_of_isLogin hlogin
      obtain ⟨i, pid, hscan, he, hpid, hstep⟩ := step_visit C (a := a) hcalled
      obtain ⟨v, hv, -, -, hpending | hx⟩ :=
        hlife.listens (Registry.mem_live.mpr ⟨List.mem_of_getElem? he, rfl⟩) rfl
      · obtain ⟨tr, htr, rfl⟩ := view_eq_some.mp hv
        have herror := hcells.undecided hv hpending
        rw [World.tryAt_eq htr] at hdone herror
        rw [hstep]
        have htold := told_ends htr hdone (spawnTryFree_freed C a t w)
        refine ⟨htold.reply, fun t'' => (htold.login t'').trans ?_,
          fun t'' => (htold.ended t'').trans ?_⟩
        · simp [herror]
        · rw [← World.tryAt_eq htr]
          constructor
          · rintro ⟨rfl, hwritten⟩
            exact Or.inr ⟨rfl, hwritten⟩
          · rintro (hno | ⟨heq, hwritten⟩)
            · cases hno
            · obtain rfl := Option.some.inj heq
              exact ⟨rfl, hwritten⟩
      · cases hx
    | none =>
      have htold := (plain_step hlife hactive hgone).told
      refine ⟨htold.reply, fun t => (htold.login t).trans ?_, fun t => (htold.ended t).trans ?_⟩
      · simp
      · simp

end Spawny.Daemon.Replies
