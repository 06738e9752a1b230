import Spawny.Daemon.TrueAnswers

/-! # The calls of greeter_lockout

`_session_done` locks out the greeter of the seat that logind gives for the process of the client,
when the session is active; a `SESSION_ACTIVATION` locks out the one of the seat it has looked up
itself. `lockoutCall` says from the state before a step which call it makes. `greeter_activate` takes
a seat that is not `NULL`: that of a record, or the fallback.

* `Harmless`, `Adds`: what is recorded without a success;
* `adds_step`: **what is recorded with one**, and the step that does;
* `makes_step`: the calls are those of `lockoutCall`;
* `right_calls`: **when their seats are right**, in every run. -/

namespace Spawny.Daemon.LockoutCalls

open Spawny.Lib.Wire Spawny.Lib.Descriptors Spawny.Lib.Runs Spawny.Protocol Spawny.Protocol.Messages
open Spawny.Daemon.Manager Spawny.Daemon.SpawnRegistry
open Spawny.Daemon.SessionMgt Spawny.Daemon.State Spawny.Daemon.SpawnService
open Spawny.Daemon.GreeterTable Spawny.Daemon.Client Spawny.Daemon.Greeter Spawny.Daemon.Activations
open Spawny.Daemon.Server Spawny.Daemon.SafeCalls Spawny.Daemon.Loop Spawny.Daemon.Steps
open Spawny.Daemon.Trace Spawny.Daemon.TryViews Spawny.Daemon.TryLife Spawny.Daemon.TryCells
open Spawny.Daemon.Outcomes Spawny.Daemon.Activation Spawny.Daemon.Replies Spawny.Daemon.TrueAnswers

variable {C : FieldCode SpawnField} {P : Obs → Prop} {w₀ w w' : World}

/-! ### What is recorded -/

/-- `P` holds of all that was recorded since `w₀`. -/
def Adds (P : Obs → Prop) (w₀ w : World) : Prop := ∃ os, w.trace = w₀.trace ++ os ∧ ∀ o ∈ os, P o

/-- The feedback of `_session_done` for a success. -/
def loggedIn : ServerMessage := ⟨.loginFeedback, some ⟨true, "You are logged in!"⟩, none⟩

/-- `P` holds of what is recorded without a success. -/
structure Harmless (P : Obs → Prop) : Prop where
  system : ∀ command, P (.system command)
  spawned : ∀ t, P (.spawned t)
  killed : ∀ pid, P (.killed pid)
  greeterCb : ∀ t found, P (.greeterCb t found)
  startDone : ∀ t runTry, P (.startDone t runTry)
  failed : ∀ t message, P (.done t ⟨.error, message⟩)
  refused : ∀ why dest msg, (∀ fb, msg.feedback = some fb → fb.success = false) →
    P (.sent why dest msg)

theorem Adds.of_trace (h : w'.trace = w.trace) : Adds P w w' := ⟨[], by simp [h], by simp⟩

theorem Adds.append (h : Adds P w₀ w) {os : List Obs} (htrace : w'.trace = w.trace ++ os)
    (hos : ∀ o ∈ os, P o) : Adds P w₀ w' := by
  obtain ⟨os₀, hos₀, hall⟩ := h
  refine ⟨os₀ ++ os, by rw [htrace, hos₀, List.append_assoc], fun o ho => ?_⟩
  rcases List.mem_append.mp ho with ho | ho
  · exact hall o ho
  · exact hos o ho

theorem Adds.still (h : Adds P w₀ w) (htrace : w'.trace = w.trace) : Adds P w₀ w' := by
  have hnil : w'.trace = w.trace ++ [] := by rw [htrace, List.append_nil]
  exact h.append hnil (by simp)

theorem Adds.log (h : Adds P w₀ w) {o : Obs} (ho : P o) : Adds P w₀ (w.log o) := by
  refine h.append rfl fun o' ho' => ?_
  rwa [List.mem_singleton.mp ho']

theorem Adds.tells (h : Adds P w₀ w) {t : ℕ} (htold : ∀ dest, P (.sent (.sessionDone t) dest loggedIn))
    (fd : ℕ) : Adds P w₀ (serverSpawnserviceFeedback (.sessionDone t) true
      (some "You are logged in!") fd w) := h.log (htold _)

theorem Adds.since (h : Adds P w w') : ∀ o ∈ since w w', P o := by
  obtain ⟨os, htrace, hall⟩ := h
  rwa [since_append htrace]

theorem Adds.greeterLockout (h : Adds P w₀ w) {seat : Option String}
    (hseat : ∀ s, seat = some s → P (.lockout s)) : Adds P w₀ (greeterLockout seat w) := by
  unfold GreeterTable.greeterLockout
  cases seat with
  | none =>
    dsimp only
    split_ifs
    · exact h
    · exact h.still rfl
  | some s =>
    dsimp only
    cases greeterSearch s w with
    | none => exact h
    | some g => exact (h.still (World.modGreeter_trace _ _ _)).log (hseat s rfl)

namespace Harmless

theorem sessionActivate (hP : Harmless P) (h : Adds P w₀ w) (session : Option String) :
    Adds P w₀ (sessionActivate session w) := by
  cases session with
  | none => exact h
  | some s => exact h.log (hP.system _)

theorem forceQuit (hP : Harmless P) (h : Adds P w₀ w) (t : ℕ) : Adds P w₀ (forceQuit t w) := by
  unfold SpawnService.forceQuit
  split_ifs
  · exact h.log (hP.killed _)
  · exact h

theorem feedback (hP : Harmless P) (h : Adds P w₀ w) (why : Sender) (message : Option String)
    (fd : ℕ) : Adds P w₀ (serverSpawnserviceFeedback why false message fd w) :=
  h.log (hP.refused _ _ _ (by simp))

theorem clientGoodbye (hP : Harmless P) (h : Adds P w₀ w) (why : Sender) (c : ℕ) :
    Adds P w₀ (clientGoodbye why c w) := by
  have hleave : Adds P w₀ (sendMessage why .leave none none (w.clientAt c).fd w) :=
    h.log (hP.refused _ _ _ (by simp))
  exact hleave.still rfl

theorem forks (hP : Harmless P) (h : Adds P w₀ w) (req : SpawnRequest) (pid : ℕ) :
    Adds P w₀ (childForked w.tries.length pid (openTry req w)) := by
  refine h.append (trace_childForked (openTry req w) w.tries.length pid) fun o ho => ?_
  rw [List.mem_singleton.mp ho]
  exact hP.spawned _

theorem fails (hP : Harmless P) (h : Adds P w₀ w) (noTty : Bool) (req : SpawnRequest) :
    Adds P w₀ (tryFailed C noTty req w) := by
  refine h.append (trace_tryFailed C w noTty req) fun o ho => ?_
  rw [List.mem_singleton.mp ho]
  exact hP.failed _ _

theorem greeterOps (hP : Harmless P) (w₀ : World) (a : Answers) : GreeterOps C a (Adds P w₀) where
  session _ h := h.log (hP.system _)
  add _ h := h.still rfl
  noPipe _ _ h := h.still (World.modGreeter_trace _ _ _)
  forked _ _ _ h := (hP.forks h _ _).still (World.modGreeter_trace _ _ _)
  failed noTty _ _ _ _ _ h :=
    ((hP.fails h noTty _).log (hP.greeterCb _ _)).still (World.modGreeter_trace _ _ _)
  returned _ _ _ _ _ h :=
    (h.still (trace_release _ _)).still (World.modGreeter_trace _ _ _)

theorem activate (hP : Harmless P) (h : Adds P w₀ w) (a : Answers) (seat : String) :
    Adds P w₀ (greeterActivate C a seat w) := (hP.greeterOps w₀ a).activate C seat h

/-- `_session_done` for the try `t`. -/
theorem sessionDone (hP : Harmless P) (h : Adds P w₀ w) {a : Answers} {t c : ℕ}
    {result : SpawnServiceEnd}
    (hlock : result.success = .success →
      ∀ s, seatGet a.sd (w.clientAt c).pid = some s → P (.lockout s))
    (htold : result.success = .success → ∀ dest, P (.sent (.sessionDone t) dest loggedIn)) :
    Adds P w₀ (sessionDone a t c result w) := by
  unfold Client.sessionDone
  dsimp only
  have hfault : Adds P w₀ (if (w.clientAt c).freed then w.fault else w) := by
    split_ifs
    · exact h.still rfl
    · exact h
  have hclient : (if (w.clientAt c).freed then w.fault else w).clientAt c = w.clientAt c := by
    split_ifs <;> rfl
  rw [← hclient] at hlock
  generalize (if (w.clientAt c).freed then w.fault else w) = w' at hfault hlock ⊢
  cases hres : result.success with
  | error =>
    exact (hP.feedback hfault (.sessionDone t) result.message (w'.clientAt c).fd).still
      (World.modClient_trace c (fun cl => { cl with spawnTry := none }) _)
  | success =>
    have hlocked := hfault.greeterLockout (hlock hres)
    have htells := hlocked.tells (htold hres) ((GreeterTable.greeterLockout
      (seatGet a.sd (w'.clientAt c).pid) w').clientAt c).fd
    have hidle := htells.still (World.modClient_trace c (fun cl => { cl with spawnTry := none }) _)
    exact hP.clientGoodbye hidle _ c

/-- **The end of a try**: the result of its callback, and what a login with a success does. -/
theorem freed (hP : Harmless P) (h : Adds P w₀ w) {a : Answers} {t : ℕ}
    (hdone : P (.done t (SpawnTry.result (w.tryAt t))))
    (hlogin : ∀ c, (w.tryAt t).done = .sessionDone c → (w.tryAt t).success = .success →
      (∀ s, seatGet a.sd (w.clientAt c).pid = some s → P (.lockout s)) ∧
        ∀ dest, P (.sent (.sessionDone t) dest loggedIn))
    (hf : Freed C a t w w') : Adds P w₀ w' := by
  have hcalled : Adds P w₀ (calledBack t w) := by
    refine h.append (trace_calledBack w t) fun o ho => ?_
    rwa [List.mem_singleton.mp ho]
  cases hf with
  | login c hc =>
    have hclient : (calledBack t w).clientAt c = w.clientAt c :=
      World.clientAt_congr (clients_calledBack w t) c
    refine Adds.still (hP.sessionDone hcalled (fun hres => ?_) fun hres => ?_) (trace_release _ t)
    · rw [hclient]
      exact (hlogin c hc hres).1
    · exact (hlogin c hc hres).2
  | lost g _ _ => exact ((hcalled.log (hP.greeterCb t none)).still rfl).still (trace_release _ t)
  | restarted g r _ _ _ =>
    have hfailed : Adds P w₀ (greeterStartFailed t g (calledBack t w)) :=
      (hcalled.log (hP.greeterCb t _)).still (World.modGreeter_trace _ _ _)
    exact (hP.activate hfailed a r.seat).still (trace_release _ t)
  | noTry g r _ _ _ _ =>
    have hstart := (hcalled.log (hP.greeterCb t (some r.seat))).log (hP.startDone t none)
    exact (hstart.still rfl).still (trace_release _ t)
  | started g r t' _ _ _ _ =>
    have hstart := (hcalled.log (hP.greeterCb t (seatAt (calledBack t w) g))).log
      (hP.startDone t (some t'))
    exact (hstart.still rfl).still (trace_release _ t)

/-! ### The callbacks -/

theorem loginTry (hP : Harmless P) (h : Adds P w₀ w) (a : Answers) (c fd : ℕ) (l : Login) :
    Adds P w₀ (loginTry C a c fd l w) := by
  unfold Server.loginTry
  by_cases hbusy : (w.clientAt c).spawnTry.isSome = true
  · rw [if_pos hbusy]
    exact hP.feedback h _ _ _
  rw [if_neg hbusy]
  by_cases hpipe : (a.spawn w.tries.length).pipeOk = true
  · by_cases hfork : ∃ pid, (a.spawn w.tries.length).child = .forks pid
    · obtain ⟨pid, hchild⟩ := hfork
      rw [spawnserviceSpawn_forks C hpipe hchild]
      exact (hP.forks h _ _).still (World.modClient_trace _ _ _)
    · have hreq : (loginRequest a c fd l w).done = .sessionDone c := rfl
      rw [spawnserviceSpawn_fails C hpipe (not_exists.mp hfork), onDone_tryFailed C hreq]
      set noTty := decide ((a.spawn w.tries.length).child = .noTty)
      have hfails : Adds P w₀ (tryFailed C noTty (loginRequest a c fd l w) w) := hP.fails h _ _
      have hdone : Adds P w₀ (SpawnService.release w.tries.length (Client.sessionDone a
          w.tries.length c ⟨.error, none⟩ (tryFailed C noTty (loginRequest a c fd l w) w))) :=
        (hP.sessionDone hfails (by rintro ⟨⟩) (by rintro ⟨⟩)).still (trace_release _ _)
      exact hdone.still (World.modClient_trace _ _ _)
  · rw [spawnserviceSpawn_pipeFails C (by simpa using hpipe)]
    exact hP.feedback (h.still (World.modClient_trace _ _ _)) _ _ _

theorem clientMessage (hP : Harmless P) (h : Adds P w₀ w) {a : Answers} {c : ℕ} (fd : ℕ)
    {m : GreeterMessage} (hlock : m.type = .sessionActivation → clientIsGreeter a c w = true →
      sessionDetails a.sd a.locals m.session none ≠ none →
        ∀ s, requestSeat a c w = some s → P (.lockout s)) :
    Adds P w₀ (clientMessage C a c fd m w) := by
  have hfree : Adds P w₀ (clientFree c w) := h.still rfl
  unfold Server.clientMessage
  cases htype : m.type with
  | hello =>
    dsimp only
    split_ifs
    · exact h.log (hP.refused _ _ _ (by simp))
    · exact hfree
  | sessionActivation =>
    dsimp only
    split_ifs with hc
    · unfold sessionActivation
      cases hd : sessionDetails a.sd a.locals m.session none with
      | none => exact hP.feedback h _ _ _
      | some d =>
        have hreply := hP.feedback (hP.sessionActivate h m.session) (.reply c)
          (some "Activation is called on this session") fd
        have hlocked := hreply.greeterLockout (hlock htype hc (by simp [hd]))
        exact hP.clientGoodbye hlocked _ c
    · exact hfree
  | loginTry =>
    dsimp only
    by_cases hc : clientIsGreeter a c w = true
    · rw [if_pos hc]
      cases m.login with
      | none =>
        dsimp only
        split_ifs
        · exact hP.feedback h _ _ _
        · exact h.still rfl
      | some l => exact hP.loginTry h a c fd l
    · rw [if_neg hc]
      exact hfree
  | greeterStart =>
    dsimp only
    unfold greeterStartRequest
    split_ifs
    · exact hP.clientGoodbye (hP.activate h a _) _ c
    · exact hfree
  | unknown n => exact h

theorem clientData (hP : Harmless P) (h : Adds P w₀ w) {a : Answers} {c fd : ℕ}
    (hlock : ∀ m, a.input = .msg m → m.type = .sessionActivation →
      clientIsGreeter a c w = true → sessionDetails a.sd a.locals m.session none ≠ none →
        ∀ s, requestSeat a c w = some s → P (.lockout s)) :
    Adds P w₀ (clientData C a c fd w) := by
  unfold Server.clientData
  cases hinput : a.input with
  | eof => exact h.still rfl
  | bad => exact h.still rfl
  | msg m =>
    have hmessage := hP.clientMessage (C := C) h fd (hlock m hinput)
    dsimp only
    split_ifs
    · exact hmessage.still rfl
    · exact hmessage

theorem childData (hP : Harmless P) (h : Adds P w₀ w) {a : Answers} {t fd : ℕ} {tr : SpawnTry}
    (htr : w.tries[t]? = some tr)
    (hactive : ∀ m, SpawnMessage.unpack C ((w.tryAt t).pipe.take MAX_MSG_SIZE) = some m →
      m.type = .sessionActive → (∀ message, P (.done t ⟨.success, message⟩)) ∧
        ∀ c, tr.done = .sessionDone c →
          (∀ s, seatGet a.sd (w.clientAt c).pid = some s → P (.lockout s)) ∧
            ∀ dest, P (.sent (.sessionDone t) dest loggedIn))
    (hdoes : ChildData C a t fd w w') : Adds P w₀ w' := by
  cases hdoes with
  | undecodable _ =>
    have hread : Adds P w₀ ((w.modTry t SpawnTry.readPipe).unregisterFd fd) := h.still rfl
    exact hP.forceQuit hread t
  | connect _ _ _ => exact h.still rfl
  | setupDone _ _ _ session =>
    have hset : Adds P w₀ ((w.modTry t SpawnTry.readPipe).modTry t
        fun tr => { tr with session := session }) := h.still rfl
    refine hP.sessionActivate ?_ session
    split_ifs
    · exact hP.forceQuit hset t
    · exact hset
  | sessionActive m hmsg htype w' hfree =>
    obtain ⟨hdone, hlogin⟩ := hactive m hmsg htype
    have hset : Adds P w₀ (((w.modTry t SpawnTry.readPipe).unregisterFd (w.tryAt t).readFd).modTry t
        fun tr => { tr with success := .success }) := h.still rfl
    have hcell := World.tryAt_eq (getElem?_succeeded htr (w.tryAt t).readFd)
    refine hP.freed hset ?_ (fun c hc _ => ?_) hfree
    · rw [hcell]
      exact hdone _
    · rw [hcell] at hc
      exact hlogin c hc
  | errorExit _ _ _ reason _ => exact h.still rfl
  | noReason _ _ _ _ => exact h.still rfl

theorem called (hP : Harmless P) (h : Adds P w₀ w) {a : Answers} {t : ℕ} {hd : Handler}
    (herror : ∀ t', hd = .spawnedSessionDisappear t' → (w.tryAt t').success = .error)
    (hcalled : Called C a t w hd w') : Adds P w₀ w' := by
  cases hcalled with
  | disappeared t' w' hfree =>
    have hres := herror t' rfl
    refine hP.freed h ?_ (fun c _ hsuccess => ?_) hfree
    · unfold SpawnTry.result
      rw [hres]
      exact hP.failed _ _
    · rw [hres] at hsuccess
      cases hsuccess
  | lost g _ => exact (h.log (hP.greeterCb t none)).still rfl
  | ended g r _ _ => exact (h.log (hP.greeterCb t (some r.seat))).still rfl
  | restarted g r _ _ =>
    have hreset : Adds P w₀ (greeterReset g (w.log (.greeterCb t (some r.seat)))) :=
      (h.log (hP.greeterCb t (some r.seat))).still (World.modGreeter_trace _ _ _)
    exact hP.activate hreset a r.seat

end Harmless

/-! ### The calls of a step -/

/-- The try whose `SESSION_ACTIVE` the step reads. -/
def activeRead (C : FieldCode SpawnField) (w : World) : Event → Option ℕ
  | .next _ =>
    match ready w with
    | some ⟨some (.childData t), _⟩ =>
      if w.fds.readout = true ∧ w.registry.evalMode = false ∧
          (SpawnMessage.unpack C ((w.tryAt t).pipe.take MAX_MSG_SIZE)).map SpawnMessage.type =
            some .sessionActive then some t else none
    | _ => none
  | _ => none

/-- The client whose `SESSION_ACTIVATION` the step carries out. -/
def activating (a : Answers) (w : World) : Option ℕ :=
  if w.fds.readout = true ∧ w.registry.evalMode = false then
    (ready w).bind fun r =>
      match r.cb, a.input with
      | some (.clientData c), .msg m =>
        if m.type = .sessionActivation ∧ clientIsGreeter a c w = true ∧
            (sessionDetails a.sd a.locals m.session none).isSome = true then some c else none
      | _, _ => none
  else none

/-- A call of `greeter_lockout` with its argument; `login` is the try whose `_session_done` makes it,
and none for a `SESSION_ACTIVATION`. -/
structure LockoutCall where
  login : Option ℕ
  seat : Option String
  deriving DecidableEq, Repr

/-- The call that the step makes. -/
def lockoutCall (C : FieldCode SpawnField) (w : World) (e : Event) : Option LockoutCall :=
  match e with
  | .next a =>
    match activeRead C w e with
    | some t =>
      match (w.tryAt t).done with
      | .sessionDone c => some ⟨some t, seatGet a.sd (w.clientAt c).pid⟩
      | .greeterStartDone _ => none
    | none => (activating a w).map fun c => ⟨none, requestSeat a c w⟩
  | _ => none

theorem activeRead_eq_some {e : Event} {t : ℕ} : activeRead C w e = some t ↔
    ∃ a fd m, e = .next a ∧ w.fds.readout = true ∧ w.registry.evalMode = false ∧
      ready w = some ⟨some (.childData t), fd⟩ ∧
        SpawnMessage.unpack C ((w.tryAt t).pipe.take MAX_MSG_SIZE) = some m ∧
          m.type = .sessionActive := by
  constructor
  · intro h
    cases e with
    | next a =>
      unfold activeRead at h
      dsimp only at h
      split at h
      · rename_i t' fd hready
        split_ifs at h with hok
        obtain rfl := Option.some.inj h
        obtain ⟨hread, heval, htype⟩ := hok
        obtain ⟨m, hmsg, htype⟩ := Option.map_eq_some_iff.mp htype
        exact ⟨a, fd, m, rfl, hread, heval, hready, hmsg, htype⟩
      · cases h
    | _ => cases h
  · rintro ⟨a, fd, m, rfl, hread, heval, hready, hmsg, htype⟩
    simp [activeRead, hready, hread, heval, hmsg, htype]

theorem activating_eq_some {a : Answers} {c : ℕ} : activating a w = some c ↔
    ∃ fd m, Handles w (.next a) a c fd m ∧ m.type = .sessionActivation ∧
      clientIsGreeter a c w = true ∧ sessionDetails a.sd a.locals m.session none ≠ none := by
  constructor
  · intro h
    unfold activating at h
    split_ifs at h with hidle
    obtain ⟨⟨cb, fd⟩, hready, hmatch⟩ := Option.bind_eq_some_iff.mp h
    dsimp only at hmatch
    split at hmatch
    · rename_i c' m hinput
      split_ifs at hmatch with hm
      obtain rfl := Option.some.inj hmatch
      obtain ⟨htype, hgreeter, hdetails⟩ := hm
      exact ⟨fd, m, ⟨rfl, hidle.1, hidle.2, hready, hinput⟩, htype, hgreeter,
        Option.isSome_iff_ne_none.mp hdetails⟩
    · cases hmatch
  · rintro ⟨fd, m, ⟨-, hread, heval, hready, hinput⟩, htype, hgreeter, hdetails⟩
    have hsome := Option.isSome_iff_ne_none.mpr hdetails
    simp [activating, hread, heval, hready, hinput, htype, hgreeter, hsome]

/-- A login is ended by the `SESSION_ACTIVE` that is read. -/
theorem lockoutCall_login {a : Answers} {t c : ℕ} (h : activeRead C w (.next a) = some t)
    (hdone : (w.tryAt t).done = .sessionDone c) :
    lockoutCall C w (.next a) = some ⟨some t, seatGet a.sd (w.clientAt c).pid⟩ := by
  unfold lockoutCall
  simp only [h, hdone]

/-- The two calls exclude each other. -/
theorem activeRead_of_activating {a : Answers} {c : ℕ} (h : activating a w = some c) :
    activeRead C w (.next a) = none := by
  obtain ⟨fd, m, hreq, -⟩ := activating_eq_some.mp h
  unfold activeRead
  rw [hreq.ready]

theorem lockoutCall_activation {a : Answers} {c : ℕ} (h : activating a w = some c) :
    lockoutCall C w (.next a) = some ⟨none, requestSeat a c w⟩ := by
  unfold lockoutCall
  simp only [activeRead_of_activating h, h, Option.map_some]

/-- **The calls**: one for each kind. -/
theorem lockoutCall_eq_some {e : Event} {call : LockoutCall} (h : lockoutCall C w e = some call) :
    ∃ a, e = .next a ∧
      ((∃ t c, activeRead C w e = some t ∧ (w.tryAt t).done = .sessionDone c ∧
        call = ⟨some t, seatGet a.sd (w.clientAt c).pid⟩) ∨
      ∃ c, activating a w = some c ∧ call = ⟨none, requestSeat a c w⟩) := by
  cases e with
  | next a =>
    refine ⟨a, rfl, ?_⟩
    unfold lockoutCall at h
    cases hread : activeRead C w (.next a) with
    | some t =>
      simp only [hread] at h
      cases hdone : (w.tryAt t).done with
      | sessionDone c =>
        simp only [hdone] at h
        exact Or.inl ⟨t, c, rfl, hdone, (Option.some.inj h).symm⟩
      | greeterStartDone g => simp [hdone] at h
    | none =>
      simp only [hread] at h
      obtain ⟨c, hc, rfl⟩ := Option.map_eq_some_iff.mp h
      exact Or.inr ⟨c, hc, rfl⟩
  | _ => cases h

/-! ### What a step records -/

/-- **What a step records with a success**: the callback of the try whose `SESSION_ACTIVE` it reads,
the feedback if it is a login, and the lockout of its call. -/
theorem adds_step (hP : Harmless P) {e : Event} (hlife : Life none w) (hcells : Cells Undecided w)
    (hdone : ∀ t message, activeRead C w e = some t → P (.done t ⟨.success, message⟩))
    (htold : ∀ t dest, activeRead C w e = some t → isLogin w t = true →
      P (.sent (.sessionDone t) dest loggedIn))
    (hlock : ∀ call s, lockoutCall C w e = some call → call.seat = some s → P (.lockout s)) :
    Adds P w (step C w e) := by
  have hdoes := step_does C w e
  have hfirst : Adds P w w := .of_trace rfl
  have hadvance : Adds P w (advance w) := .of_trace rfl
  generalize hw' : step C w e = w' at hdoes
  cases hdoes with
  | client a c fd w' heval hready _ hread =>
    rw [← hw', step_client C hread heval hready]
    refine hP.clientData hadvance fun m hinput htype hgreeter hdetails s hs => ?_
    have hreq : activating a w = some c := activating_eq_some.mpr
      ⟨fd, m, ⟨rfl, hread, heval, hready, hinput⟩, htype, hgreeter, hdetails⟩
    exact hlock _ s (lockoutCall_activation hreq) hs
  | child a t fd w' heval hready hdoes hread =>
    obtain ⟨v, hv, -⟩ := hlife.read (ready_mem_live hready) rfl
    obtain ⟨tr, htr, -⟩ := view_eq_some.mp hv
    refine hP.childData hadvance (w := advance w) htr (fun m hmsg htype => ?_) hdoes
    have hactive : activeRead C w (.next a) = some t :=
      activeRead_eq_some.mpr ⟨a, fd, m, rfl, hread, heval, hready, hmsg, htype⟩
    refine ⟨fun message => hdone t message hactive, fun c hc => ?_⟩
    rw [← World.tryAt_eq htr] at hc
    refine ⟨fun s hs => hlock _ s (lockoutCall_login hactive hc) hs, fun dest => ?_⟩
    exact htold t dest hactive (isLogin_of_done hc)
  | visit a t i pid hd w' hscan he hpid hcalled =>
    refine Adds.still (hP.called hfirst (fun t' ht' => ?_) hcalled) rfl
    subst ht'
    obtain ⟨v, hv, -, -, hpending | hx⟩ :=
      hlife.listens (Registry.mem_live.mpr ⟨List.mem_of_getElem? he, rfl⟩) rfl
    · exact hcells.undecided hv hpending
    · cases hx
  | accept a _ =>
    have haccept : (acceptReady a (advance w)).trace = w.trace := by
      unfold acceptReady
      cases a.peer <;> rfl
    exact .of_trace haccept
  | _ => exact .of_trace rfl

/-- What the calls of `lockoutCall` stand for: a seat is locked out if it is that of the call and has a
record, and `_session_done` gets a success for the login of the call. -/
structure Makes (C : FieldCode SpawnField) (w : World) (e : Event) : Prop where
  only : ∀ s, .lockout s ∈ since w (step C w e) →
    ∃ call, lockoutCall C w e = some call ∧ call.seat = some s
  locks : ∀ call s, lockoutCall C w e = some call → call.seat = some s → s ∈ seats w →
    .lockout s ∈ since w (step C w e)
  login : ∀ t, (∃ call, lockoutCall C w e = some call ∧ call.login = some t) ↔
    isLogin w t = true ∧ ∃ message, .done t ⟨.success, message⟩ ∈ since w (step C w e)

theorem mem_since (os : List Obs) {o : Obs} (h : w.trace ++ os ++ [o] <+: w'.trace) :
    o ∈ since w w' := by
  obtain ⟨v, hv⟩ := h
  unfold since
  rw [← hv]
  simp

theorem trace_locked {s : String} (hs : s ∈ seats w) :
    (greeterLockout (some s) w).trace = w.trace ++ [.lockout s] := by
  unfold greeterLockout
  cases hsearch : greeterSearch s w with
  | none =>
    obtain ⟨r, hr, hseat⟩ := List.mem_map.mp hs
    exact absurd hseat (greeterSearch_eq_none.mp hsearch r hr)
  | some g => simp [hsearch]

/-- The lockout of a login with a success. -/
theorem locked_sessionDone {a : Answers} {t c : ℕ} {message : Option String} {s : String}
    (hseat : seatGet a.sd (w.clientAt c).pid = some s) (hs : s ∈ seats w) :
    w.trace ++ [.lockout s] <+: (sessionDone a t c ⟨.success, message⟩ w).trace := by
  have hlocked : ∀ w' : World, w'.trace = w.trace → w'.greeters = w.greeters →
      w'.clients = w.clients → w.trace ++ [.lockout s] <+:
        (clientGoodbye (.sessionDone t) c ((serverSpawnserviceFeedback (.sessionDone t) true
          (some "You are logged in!") ((greeterLockout (seatGet a.sd (w'.clientAt c).pid)
            w').clientAt c).fd (greeterLockout (seatGet a.sd (w'.clientAt c).pid) w')).modClient c
              fun cl => { cl with spawnTry := none })).trace := by
    intro w' htrace hgreeters hclients
    rw [World.clientAt_congr hclients, hseat, ← htrace, ← trace_locked (w := w')
      (by rwa [seats, hgreeters])]
    have hbegan : Began (greeterLockout (some s) w').trace (greeterLockout (some s) w') :=
      List.prefix_rfl
    exact ((hbegan.feedback _ _ _ _).modClient c _).clientGoodbye _ c
  unfold sessionDone
  dsimp only
  split_ifs
  · exact hlocked w.fault rfl rfl rfl
  · exact hlocked w rfl rfl rfl

/-- **A login whose `SESSION_ACTIVE` is read** ends with a success. -/
theorem step_login {a : Answers} {t c : ℕ} (hlife : Life none w)
    (hactive : activeRead C w (.next a) = some t) (hdone : (w.tryAt t).done = .sessionDone c) :
    ∃ w₁ message, w₁.trace = w.trace ++ [.done t ⟨.success, message⟩] ∧ w₁.clients = w.clients ∧
      w₁.greeters = w.greeters ∧
        step C w (.next a) = release t (sessionDone a t c ⟨.success, message⟩ w₁) := by
  obtain ⟨a', fd, m, heq, hread, heval, hready, hmsg, htype⟩ := activeRead_eq_some.mp hactive
  obtain rfl := Event.next.inj heq
  obtain ⟨v, hv, -⟩ := hlife.read (ready_mem_live hready) rfl
  obtain ⟨tr, htr, -⟩ := view_eq_some.mp hv
  have htr' : (advance w).tries[t]? = some tr := htr
  set w₀ := (((advance w).modTry t SpawnTry.readPipe).unregisterFd
    ((advance w).tryAt t).readFd).modTry t fun tr => { tr with success := .success } with hw₀
  have hcell := World.tryAt_eq (getElem?_succeeded htr' ((advance w).tryAt t).readFd)
  rw [World.tryAt_eq htr] at hdone
  have hcb : ((calledBack t w₀).tryAt t).done = .sessionDone c := by
    rw [done_calledBack, hcell]
    exact hdone
  have hresult : SpawnTry.result (w₀.tryAt t) = ⟨.success, tr.errorMsg⟩ := by
    rw [hcell]
    rfl
  have hfree : step C w (.next a) = spawnTryFree (onDone C a) t w₀ := by
    have hmsg' : SpawnMessage.unpack C (((advance w).tryAt t).pipe.take MAX_MSG_SIZE) = some m := hmsg
    rw [step_child C hread heval hready (blocks_of_unpack hmsg), childData, hmsg']
    dsimp only
    rw [childMessage, htype]
    dsimp only
    rw [readFd_readPipe]
  refine ⟨calledBack t w₀, tr.errorMsg, ?_, ?_, ?_, ?_⟩
  · rw [trace_calledBack, hresult]
    rfl
  · exact clients_calledBack w₀ t
  · exact greeters_calledBack w₀ t
  · rw [hfree, spawnTryFree_eq, hresult]
    unfold onDone doneCb
    rw [hcb]

/-- **A `SESSION_ACTIVATION` that is carried out**: the reply is sent before the lockout. -/
theorem step_activation {a : Answers} {c : ℕ} (h : activating a w = some c) :
    ∃ w₁ os, w₁.trace = w.trace ++ os ∧ w₁.greeters = w.greeters ∧
      (step C w (.next a) = clientGoodbye (.reply c) c (greeterLockout (requestSeat a c w) w₁) ∨
        step C w (.next a) =
          (clientGoodbye (.reply c) c (greeterLockout (requestSeat a c w) w₁)).fault) := by
  obtain ⟨fd, m, hreq, htype, hgreeter, hdetails⟩ := activating_eq_some.mp h
  obtain ⟨d, hd⟩ := Option.ne_none_iff_exists'.mp hdetails
  obtain ⟨os, hos⟩ := prefix_sessionActivate m.session (advance w)
  have hgreeter' : clientIsGreeter a c (advance w) = true := hgreeter
  set w₁ := serverSpawnserviceFeedback (.reply c) false
    (some "Activation is called on this session") fd (sessionActivate m.session (advance w)) with hw₁
  have hmessage : clientMessage C a c fd m (advance w) =
      clientGoodbye (.reply c) c (greeterLockout (requestSeat a c w) w₁) := by
    simp only [clientMessage, htype, hgreeter', if_true, sessionActivation, hd]
    rfl
  have htrace : w₁.trace = w.trace ++ (os ++ [.sent (.reply c)
      (lookup (sessionActivate m.session (advance w)).fdtab fd) ⟨.loginFeedback,
        some ⟨false, "Activation is called on this session"⟩, none⟩]) := by
    rw [← List.append_assoc]
    exact congrArg (· ++ _) hos.symm
  refine ⟨w₁, _, htrace, ?_, ?_⟩
  · have hactivate : (sessionActivate m.session (advance w)).greeters = w.greeters := by
      unfold sessionActivate
      cases m.session <;> rfl
    exact hactivate
  · rw [hreq.step]
    unfold clientData
    rw [hreq.input]
    dsimp only
    rw [hmessage]
    split_ifs
    · exact Or.inr rfl
    · exact Or.inl rfl

/-- **The calls are those of `lockoutCall`.** -/
theorem makes_step (hlife : Life none w) (hcells : Cells Undecided w) (e : Event) : Makes C w e := by
  have hlogin : ∀ {a : Answers} {t c : ℕ}, activeRead C w (.next a) = some t →
      (w.tryAt t).done = .sessionDone c →
        ∃ message, .done t ⟨.success, message⟩ ∈ since w (step C w (.next a)) := by
    intro a t c hactive hdone
    obtain ⟨w₁, message, htrace, -, -, hstep⟩ := step_login hlife hactive hdone
    refine ⟨message, mem_since [] ?_⟩
    rw [List.append_nil, hstep, ← htrace]
    have hbegan : Began w₁.trace w₁ := List.prefix_rfl
    exact (hbegan.sessionDone a t c _).release t
  refine ⟨fun s hs => ?_, fun call s hcall hseat hs => ?_, fun t => ⟨?_, ?_⟩⟩
  · have hadds : Adds (fun o => ∀ s, o = .lockout s →
        ∃ call, lockoutCall C w e = some call ∧ call.seat = some s) w (step C w e) := by
      refine adds_step ?_ hlife hcells (by simp) (by simp) fun call s hcall hseat s' hs' => ?_
      · constructor <;> simp
      · obtain rfl := Obs.lockout.inj hs'
        exact ⟨call, hcall, hseat⟩
    exact hadds.since _ hs s rfl
  · obtain ⟨a, rfl, ⟨t, c, hactive, hdone, rfl⟩ | ⟨c, hc, rfl⟩⟩ := lockoutCall_eq_some hcall
    · obtain ⟨w₁, message, htrace, hclients, hgreeters, hstep⟩ := step_login hlife hactive hdone
      refine mem_since [.done t ⟨.success, message⟩] ?_
      rw [hstep, ← htrace, trace_release]
      refine locked_sessionDone ?_ (by rwa [seats, hgreeters])
      rw [World.clientAt_congr hclients]
      exact hseat
    · obtain ⟨w₁, os, htrace, hgreeters, hstep⟩ := step_activation (C := C) hc
      have hseat' : requestSeat a c w = some s := hseat
      refine mem_since os ?_
      rw [← htrace, ← trace_locked (w := w₁) (by rwa [seats, hgreeters]), ← hseat']
      have hbegan : Began (greeterLockout (requestSeat a c w) w₁).trace
        (greeterLockout (requestSeat a c w) w₁) := List.prefix_rfl
      rcases hstep with hstep | hstep <;> rw [hstep] <;> exact hbegan.clientGoodbye _ c
  · rintro ⟨call, hcall, hlog⟩
    obtain ⟨a, rfl, ⟨t', c, hactive, hdone, rfl⟩ | ⟨c, hc, rfl⟩⟩ := lockoutCall_eq_some hcall
    · obtain rfl := Option.some.inj hlog
      exact ⟨isLogin_of_done hdone, hlogin hactive hdone⟩
    · cases hlog
  · rintro ⟨hlog, message, hmem⟩
    have hadds : Adds (fun o => ∀ t message, o = .done t ⟨.success, message⟩ →
        activeRead C w e = some t) w (step C w e) := by
      refine adds_step ?_ hlife hcells (fun t message hactive t' message' heq => ?_) (by simp) (by simp)
      · constructor <;> simp
      · obtain ⟨rfl, -⟩ := Obs.done.inj heq
        exact hactive
    have hactive := hadds.since _ hmem t message rfl
    obtain ⟨a, -, -, rfl, -⟩ := activeRead_eq_some.mp hactive
    obtain ⟨c, hdone⟩ := done_of_isLogin hlog
    exact ⟨_, lockoutCall_login hactive hdone, rfl⟩

/-! ### Right calls -/

/-- **The call is right**: its seat is not `NULL`; that of a login is the one that was given to
`spawnservice_spawn`, and the client it is looked up for is still there. -/
structure RightCall (C : FieldCode SpawnField) (w : World) (e : Event) : Prop where
  seat : ∀ call, lockoutCall C w e = some call → call.seat ≠ none
  login : ∀ call t, lockoutCall C w e = some call → call.login = some t →
    call.seat = (w.tryAt t).settings.sessionSeat
  client : ∀ call t c, lockoutCall C w e = some call → call.login = some t →
    (w.tryAt t).done = .sessionDone c → (w.clientAt c).freed = false

/-- logind has the process in a session of the seat. -/
def OnSeat (sd : SdLogin) (pid : ℤ) (seat : String) : Prop :=
  ∃ session, sd.pidSession pid = some session ∧ sd.sessionSeat session = some seat

/-- When a login is ended by its `SESSION_ACTIVE`, its client was not released, and logind has the
process of the client on the seat of the try; and it has the process of a client that activates a
session on some seat, or debug mode is on. -/
structure SeatKept (C : FieldCode SpawnField) (w : World) (e : Event) : Prop where
  login : ∀ a t c, e = .next a → activeRead C w e = some t → (w.tryAt t).done = .sessionDone c →
    (w.clientAt c).freed = false ∧
      ∃ seat, OnSeat a.sd (w.clientAt c).pid seat ∧ (w.tryAt t).settings.sessionSeat = some seat
  activation : ∀ a c, e = .next a → activating a w = some c →
    w.debug = true ∨ ∃ seat, OnSeat a.sd (w.clientAt c).pid seat

theorem seatGet_eq_some {sd : SdLogin} {pid : ℤ} {seat : String} :
    seatGet sd pid = some seat ↔ OnSeat sd pid seat := Option.bind_eq_some_iff

theorem requestSeat_ne_none {a : Answers} {c : ℕ} :
    requestSeat a c w ≠ none ↔ w.debug = true ∨ ∃ seat, OnSeat a.sd (w.clientAt c).pid seat := by
  unfold requestSeat
  cases hseat : seatGet a.sd (w.clientAt c).pid with
  | some seat =>
    have hon : OnSeat a.sd (w.clientAt c).pid seat := seatGet_eq_some.mp hseat
    exact iff_of_true (by simp) (Or.inr ⟨seat, hon⟩)
  | none =>
    have hno : ¬∃ seat, OnSeat a.sd (w.clientAt c).pid seat := by
      rintro ⟨seat, hon⟩
      rw [seatGet_eq_some.mpr hon] at hseat
      cases hseat
    cases w.debug <;> simp [hno]

theorem rightCall_iff {e : Event} : RightCall C w e ↔ SeatKept C w e := by
  constructor
  · intro h
    refine ⟨fun a t c he hactive hdone => ?_, fun a c he hc => ?_⟩
    · subst he
      have hcall := lockoutCall_login hactive hdone
      refine ⟨h.client _ t c hcall rfl hdone, ?_⟩
      obtain ⟨seat, hseat⟩ := Option.ne_none_iff_exists'.mp (h.seat _ hcall)
      exact ⟨seat, seatGet_eq_some.mp hseat, (h.login _ t hcall rfl).symm.trans hseat⟩
    · subst he
      exact requestSeat_ne_none.mp (h.seat _ (lockoutCall_activation hc))
  · intro h
    refine ⟨fun call hcall => ?_, fun call t hcall hlog => ?_, fun call t c hcall hlog hdone => ?_⟩
    all_goals obtain ⟨a, rfl, ⟨t', c', hactive, hdone', rfl⟩ | ⟨c', hc, rfl⟩⟩ :=
      lockoutCall_eq_some hcall
    · obtain ⟨-, seat, hon, -⟩ := h.login a t' c' rfl hactive hdone'
      simp [seatGet_eq_some.mpr hon]
    · exact requestSeat_ne_none.mpr (h.activation a c' rfl hc)
    · obtain rfl := Option.some.inj hlog
      obtain ⟨-, seat, hon, hsettings⟩ := h.login a _ c' rfl hactive hdone'
      rw [hsettings]
      exact seatGet_eq_some.mpr hon
    · cases hlog
    · obtain rfl := Option.some.inj hlog
      rw [hdone] at hdone'
      obtain rfl := DoneCb.sessionDone.inj hdone'
      exact (h.login a _ c rfl hactive hdone).1
    · cases hlog

/-- **When the seats of the calls are right**, in every run: the calls that the steps make are those
of `lockoutCall`, and all are right exactly if each step keeps the seat. -/
theorem right_calls (C : FieldCode SpawnField) (debug : Bool) (templates : List Template)
    (es : List Event) :
    Meets (step C) (Makes C) (World.start debug templates) es ∧
      (Meets (step C) (RightCall C) (World.start debug templates) es ↔
        Meets (step C) (SeatKept C) (World.start debug templates) es) := by
  constructor
  · refine meets_of_invariant (I := fun w => Life none w ∧ Cells Undecided w) (fun w e h => ?_)
      (fun w e h => makes_step h.1 h.2 e) es _
        ⟨life_start debug templates, undecided_start debug templates⟩
    exact ⟨life_step h.1, undecided_step h.2 e⟩
  · have hsame : RightCall C = SeatKept C := funext fun w => funext fun e => propext rightCall_iff
    rw [hsame]

/-- A daemon with one template. -/
def gnomeStart : World := World.start false [⟨"t0", "GNOME", none, "wayland"⟩]

/-- The greeter of seat0 asks for a login. -/
def loginAsks : List Event :=
  greeterAsks ++ [.next { Answers.plain with
      input := .msg ⟨.loginTry, some ⟨"user", "secret", "t0"⟩, none⟩, sd := twoSessions }] ++
    List.replicate 4 (.next Answers.plain)

/-- The child has its session, and the daemon comes to its pipe. -/
def loginWorks : List Event :=
  loginAsks ++ [.childWrite 1 .sessionActive, .select [6] []] ++ List.replicate 3 (.next Answers.plain)

set_option maxRecDepth 8000 in
/-- **The process of the greeter has ended by then**: `greeter_lockout` is called with `NULL`, which
is compared with the seat of the record. -/
theorem lockout_null :
    let w := run (step Encoding.spawnCode) gnomeStart loginWorks
    (w.tryAt 1).settings.sessionSeat = some "seat0" ∧
      lockoutCall Encoding.spawnCode w (.next Answers.plain) = some ⟨some 1, none⟩ ∧
      w.ub = false ∧ (step Encoding.spawnCode w (.next Answers.plain)).ub = true ∧
      ¬Meets (step Encoding.spawnCode) (RightCall Encoding.spawnCode) gnomeStart
        (loginWorks ++ [.next Answers.plain]) := by
  intro w
  have hcall : lockoutCall Encoding.spawnCode w (.next Answers.plain) = some ⟨some 1, none⟩ := by
    decide
  refine ⟨by decide, hcall, by decide, by decide, fun h => ?_⟩
  have hlast := ((meets_append _ _ _).mp h).2.1
  exact hlast.seat _ hcall rfl

end Spawny.Daemon.LockoutCalls
