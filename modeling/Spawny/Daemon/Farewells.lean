import Spawny.Daemon.Connections
import Spawny.Daemon.LockoutCalls

/-! # What is sent on a connection

A client gets replies until it is told to leave, and a `LEAVE` is the last message on its connection.
The descriptor may be one that the daemon has closed before and that another client has by now; the
messages then reach that client, and its own connection ends.

* `received`: the messages that went to a connection;
* `Talk`: replies, and at most one farewell behind them;
* `talks_step`: **a step continues every talk**;
* `talk_received`: **nothing follows a farewell**, on every connection in every run. -/

namespace Spawny.Daemon.Farewells

open Spawny.Lib.Wire Spawny.Lib.Descriptors Spawny.Lib.Runs Spawny.Protocol.Messages
open Spawny.Daemon.Manager Spawny.Daemon.SpawnRegistry
open Spawny.Daemon.SessionMgt Spawny.Daemon.State Spawny.Daemon.SpawnService
open Spawny.Daemon.GreeterTable Spawny.Daemon.Client Spawny.Daemon.Greeter Spawny.Daemon.Activations
open Spawny.Daemon.Server Spawny.Daemon.SafeCalls Spawny.Daemon.Loop Spawny.Daemon.Steps
open Spawny.Daemon.TryViews Spawny.Daemon.Connections Spawny.Daemon.LockoutCalls

variable {C : FieldCode SpawnField} {w w' w'' : World} {c : ℕ}

/-! ### Talks -/

/-- The messages that went to the connection `c`. -/
def received (c : ℕ) (os : List Obs) : List ServerMessage :=
  os.filterMap fun o => match o with
    | .sent _ dest msg => if dest = some (.sock c) then some msg else none
    | _ => none

@[simp] theorem received_append (c : ℕ) (os os' : List Obs) :
    received c (os ++ os') = received c os ++ received c os' := List.filterMap_append

theorem received_sent (c : ℕ) (why : Sender) (dest : Option FdObj) (msg : ServerMessage) :
    received c [.sent why dest msg] = if dest = some (.sock c) then [msg] else [] := by
  by_cases hdest : dest = some (.sock c) <;> simp [received, hdest]

def leaveMessage : ServerMessage := ⟨.leave, none, none⟩

/-- The data, or the answer to a request that was not carried out or ends with an activation. -/
inductive IsReply : ServerMessage → Prop
  | data (d : Data) : IsReply ⟨.dataUpdate, none, some d⟩
  | refused (text : String) : IsReply ⟨.loginFeedback, some ⟨false, text⟩, none⟩

/-- How a talk ends. -/
inductive Farewell : List ServerMessage → Prop
  | leave : Farewell [leaveMessage]
  | login : Farewell [loggedIn, leaveMessage]

/-- **Replies, and at most one farewell behind them.** -/
def Talk (ms : List ServerMessage) : Prop :=
  ∃ replies rest, ms = replies ++ rest ∧ (∀ m ∈ replies, IsReply m) ∧ (rest = [] ∨ Farewell rest)

theorem Talk.of_replies {ms : List ServerMessage} (h : ∀ m ∈ ms, IsReply m) : Talk ms :=
  ⟨ms, [], (List.append_nil ms).symm, h, Or.inl rfl⟩

/-! ### The invariant -/

/-- **The talks of the daemon**: a connection that is open has got replies only, and each connection
has one descriptor. -/
structure Talks (w : World) : Prop where
  unique : ∀ {n m c}, lookup w.fdtab n = some (.sock c) → lookup w.fdtab m = some (.sock c) → n = m
  known : ∀ {n c}, lookup w.fdtab n = some (.sock c) → c < w.clients.length
  silent : ∀ {c}, w.clients.length ≤ c → received c w.trace = []
  replies : ∀ {n c}, lookup w.fdtab n = some (.sock c) → ∀ m ∈ received c w.trace, IsReply m
  talk : ∀ c, Talk (received c w.trace)

/-- Nothing is sent, and no connection is made. -/
theorem Talks.still (h : Talks w) (hsent : ∀ c, received c w'.trace = received c w.trace)
    (hfdtab : ∀ {n c}, lookup w'.fdtab n = some (.sock c) → lookup w.fdtab n = some (.sock c))
    (hclients : w'.clients.length = w.clients.length) : Talks w' where
  unique hn hm := h.unique (hfdtab hn) (hfdtab hm)
  known hn := by
    rw [hclients]
    exact h.known (hfdtab hn)
  silent hc := by
    rw [hclients] at hc
    rw [hsent]
    exact h.silent hc
  replies hn := by
    rw [hsent]
    exact h.replies (hfdtab hn)
  talk c := by
    rw [hsent]
    exact h.talk c

theorem Talks.same (h : Talks w) (htrace : w'.trace = w.trace) (hfdtab : w'.fdtab = w.fdtab)
    (hclients : w'.clients = w.clients) : Talks w' :=
  h.still (fun c => by rw [htrace]) (fun hn => by rwa [hfdtab] at hn) (by rw [hclients])

theorem Talks.fault (h : Talks w) : Talks w.fault := h.same rfl rfl rfl

theorem Talks.unregisterFd (h : Talks w) (fd : ℕ) : Talks (w.unregisterFd fd) := h.same rfl rfl rfl

/-- Something else is recorded. -/
theorem Talks.log (h : Talks w) {o : Obs} (ho : ∀ c, received c [o] = []) : Talks (w.log o) :=
  h.still (fun c => by rw [World.log, received_append, ho, List.append_nil]) (fun hn => hn) rfl

/-- A reply goes to what the descriptor `fd` refers to. -/
theorem Talks.reply (h : Talks w) (why : Sender) (fd : ℕ) {msg : ServerMessage} (hmsg : IsReply msg) :
    Talks (w.log (.sent why (lookup w.fdtab fd) msg)) where
  unique := h.unique
  known := h.known
  silent {c} hc := by
    rw [World.log, received_append, received_sent, h.silent hc, if_neg fun hdest => ?_]
    · rfl
    · exact absurd (h.known hdest) (Nat.not_lt.mpr hc)
  replies {n c} hn m hm := by
    rw [World.log, received_append, received_sent] at hm
    rcases List.mem_append.mp hm with hm | hm
    · exact h.replies hn m hm
    · split_ifs at hm
      · rw [List.mem_singleton.mp hm]
        exact hmsg
      · cases hm
  talk c := by
    rw [World.log, received_append, received_sent]
    split_ifs with hdest
    · refine Talk.of_replies fun m hm => ?_
      rcases List.mem_append.mp hm with hm | hm
      · exact h.replies hdest m hm
      · rw [List.mem_singleton.mp hm]
        exact hmsg
    · rw [List.append_nil]
      exact h.talk c

/-- A farewell goes to what the descriptor `fd` refers to, and then it is closed. -/
theorem Talks.farewell (h : Talks w) {fd : ℕ} {why : Sender} {ms : List ServerMessage}
    (hms : Farewell ms) (hfdtab : w'.fdtab = closeSlot w.fdtab fd)
    (htrace : w'.trace = w.trace ++ ms.map fun m => .sent why (lookup w.fdtab fd) m)
    (hclients : w'.clients.length = w.clients.length) : Talks w' := by
  have hsent : ∀ c, received c w'.trace =
      received c w.trace ++ if lookup w.fdtab fd = some (.sock c) then ms else [] := by
    intro c
    rw [htrace, received_append]
    by_cases hdest : lookup w.fdtab fd = some (.sock c)
    · simp [received, hdest, List.filterMap_map]
    · simp [received, hdest]
  have hopen : ∀ {n c}, lookup w'.fdtab n = some (.sock c) →
      lookup w.fdtab n = some (.sock c) ∧ lookup w.fdtab fd ≠ some (.sock c) := by
    intro n c hn
    rw [hfdtab, lookup_close] at hn
    split_ifs at hn with hne
    refine ⟨hn, fun hfd => hne ?_⟩
    exact h.unique hn hfd
  refine ⟨fun hn hm => h.unique (hopen hn).1 (hopen hm).1, fun hn => ?_, fun hc => ?_, fun hn => ?_,
    fun c => ?_⟩
  · rw [hclients]
    exact h.known (hopen hn).1
  · rw [hclients] at hc
    rw [hsent, h.silent hc, if_neg fun hdest => absurd (h.known hdest) (Nat.not_lt.mpr hc)]
    rfl
  · rw [hsent, if_neg (hopen hn).2, List.append_nil]
    exact h.replies (hopen hn).1
  · rw [hsent]
    split_ifs with hdest
    · exact ⟨_, ms, rfl, h.replies hdest, Or.inr hms⟩
    · rw [List.append_nil]
      exact h.talk c

/-! ### Tries and clients -/

theorem Talks.modClient (h : Talks w) (c : ℕ) (f : State.Client → State.Client) :
    Talks (w.modClient c f) :=
  h.still (fun c' => by rw [World.modClient_trace]) (fun hn => by rwa [World.modClient_fdtab] at hn)
    (List.length_modify f w.clients c)

theorem Talks.modGreeter (h : Talks w) (g : ℕ) (f : SeatGreeter → SeatGreeter) :
    Talks (w.modGreeter g f) :=
  h.same (World.modGreeter_trace g f w) (World.modGreeter_fdtab g f w) rfl

theorem Talks.forks (h : Talks w) (req : SpawnRequest) (pid : ℕ) :
    Talks (childForked w.tries.length pid (openTry req w)) := by
  refine h.still (fun c => ?_) (fun {n c} hn => ?_) ?_
  · rw [trace_childForked, trace_openTry, received_append]
    exact List.append_nil _
  · rw [lookup_forked, lookup_open] at hn
    split_ifs at hn
    · cases Option.some.inj hn
    · exact hn
  · rw [clients_childForked, clients_openTry]

theorem Talks.fails (h : Talks w) (noTty : Bool) (req : SpawnRequest) :
    Talks (tryFailed C noTty req w) := by
  refine h.still (fun c => ?_) (fun {n c} hn => ?_) ?_
  · rw [trace_tryFailed, received_append]
    exact List.append_nil _
  · rw [fdtab_tryFailed, lookup_close] at hn
    change (if _ then _ else lookup (openSlot (openSlot w.fdtab (.pipeRead _)) (.pipeWrite _)) n) = _ at hn
    rw [lookup_open, lookup_open] at hn
    split_ifs at hn
    · cases Option.some.inj hn
    · exact hn
  · rw [clients_tryFailed]

theorem Talks.calledBack (h : Talks w) (t : ℕ) : Talks (calledBack t w) := by
  refine h.still (fun c => ?_) (fun {n c} hn => ?_) ?_
  · rw [trace_calledBack, received_append]
    exact List.append_nil _
  · rw [fdtab_calledBack_eq, lookup_close] at hn
    split_ifs at hn
    exact hn
  · rw [clients_calledBack]

theorem Talks.release (h : Talks w) (t : ℕ) : Talks (release t w) :=
  h.same (trace_release w t) (fdtab_release w t) (clients_release w t)

theorem Talks.greeterLockout (h : Talks w) (seat : Option String) : Talks (greeterLockout seat w) := by
  have hquiet := quiet_greeterLockout seat w
  refine h.still (fun c => ?_) (fun hn => by rwa [hquiet.fdtab] at hn) (by rw [hquiet.clients])
  rcases trace_greeterLockout seat w with htrace | ⟨s, htrace⟩
  · rw [htrace]
  · rw [htrace, received_append]
    exact List.append_nil _

theorem Talks.sessionActivate (h : Talks w) (session : Option String) :
    Talks (sessionActivate session w) := by
  cases session with
  | none => exact h
  | some s => exact h.log fun _ => rfl

theorem Talks.forceQuit (h : Talks w) (t : ℕ) : Talks (forceQuit t w) := by
  unfold SpawnService.forceQuit
  split_ifs
  · exact h.log fun _ => rfl
  · exact h

theorem Talks.clientFree (h : Talks w) (c : ℕ) : Talks (clientFree c w) := by
  refine h.still (fun _ => rfl) (fun {n c'} hn => ?_) (List.length_modify _ w.clients c)
  have hclose : lookup (closeSlot w.fdtab (w.clientAt c).fd) n = some (.sock c') := hn
  rw [lookup_close] at hclose
  split_ifs at hclose
  exact hclose

theorem Talks.goodbye (h : Talks w) (why : Sender) (c : ℕ) : Talks (clientGoodbye why c w) :=
  h.farewell Farewell.leave rfl rfl (List.length_modify _ w.clients c)

/-- `_session_done`: a failure is a reply, a success is a farewell. -/
theorem Talks.sessionDone (h : Talks w) (a : Answers) (t c : ℕ) (result : SpawnServiceEnd) :
    Talks (sessionDone a t c result w) := by
  have hfault : Talks (if (w.clientAt c).freed then w.fault else w) := by
    split_ifs
    · exact h.fault
    · exact h
  unfold Client.sessionDone
  dsimp only
  generalize (if (w.clientAt c).freed then w.fault else w) = w₁ at hfault ⊢
  cases result.success with
  | error =>
    exact (hfault.reply _ _ (.refused (result.message.getD ""))).modClient c _
  | success =>
    have hlock := hfault.greeterLockout (seatGet a.sd (w₁.clientAt c).pid)
    generalize GreeterTable.greeterLockout (seatGet a.sd (w₁.clientAt c).pid) w₁ = w₂ at hlock ⊢
    have hfd : ((w₂.modClient c fun cl => { cl with spawnTry := none }).clientAt c).fd =
        (w₂.clientAt c).fd := by
      unfold World.clientAt
      rw [World.getElem?_modClient]
      cases w₂.clients[c]? <;> simp
    have hclients : ∀ (f f' : State.Client → State.Client),
        ((w₂.clients.modify c f).modify c f').length = w₂.clients.length := by
      intro f f'
      rw [List.length_modify, List.length_modify]
    have hsent : (w₂.trace ++ [.sent (.sessionDone t) (lookup w₂.fdtab (w₂.clientAt c).fd) loggedIn]) ++
        [.sent (.sessionDone t) (lookup w₂.fdtab
          ((w₂.modClient c fun cl => { cl with spawnTry := none }).clientAt c).fd) leaveMessage] =
        w₂.trace ++ [loggedIn, leaveMessage].map fun m =>
          .sent (.sessionDone t) (lookup w₂.fdtab (w₂.clientAt c).fd) m := by
      rw [hfd, List.append_assoc]
      rfl
    exact hlock.farewell Farewell.login (congrArg (closeSlot w₂.fdtab) hfd) hsent (hclients _ _)

/-- A new connection has got nothing yet. -/
theorem Talks.accepts (h : Talks w) {cl : State.Client} {w' : World} (htrace : w'.trace = w.trace)
    (hfdtab : w'.fdtab = openSlot w.fdtab (.sock w.clients.length))
    (hclients : w'.clients = w.clients ++ [cl]) : Talks w' := by
  have hopen : ∀ {n c}, lookup w'.fdtab n = some (.sock c) →
      (n = lowestFree w.fdtab ∧ c = w.clients.length) ∨ lookup w.fdtab n = some (.sock c) := by
    intro n c hn
    rw [hfdtab, lookup_open] at hn
    split_ifs at hn with hlow
    · exact Or.inl ⟨hlow, (FdObj.sock.inj (Option.some.inj hn)).symm⟩
    · exact Or.inr hn
  have hlength : w'.clients.length = w.clients.length + 1 := by
    rw [hclients, List.length_append, List.length_singleton]
  refine ⟨fun {n m c} hn hm => ?_, fun {n c} hn => ?_, fun {c} hc => ?_, fun {n c} hn => ?_, fun c => ?_⟩
  · rcases hopen hn with ⟨rfl, rfl⟩ | hn
    · rcases hopen hm with ⟨rfl, -⟩ | hm
      · rfl
      · exact absurd (h.known hm) (Nat.lt_irrefl _)
    · rcases hopen hm with ⟨rfl, rfl⟩ | hm
      · exact absurd (h.known hn) (Nat.lt_irrefl _)
      · exact h.unique hn hm
  · rw [hlength]
    rcases hopen hn with ⟨-, rfl⟩ | hn
    · exact Nat.lt_succ_self _
    · exact Nat.lt_succ_of_lt (h.known hn)
  · rw [hlength] at hc
    rw [htrace]
    exact h.silent (Nat.le_of_succ_le hc)
  · rw [htrace]
    rcases hopen hn with ⟨-, rfl⟩ | hn
    · rw [h.silent (Nat.le_refl _)]
      exact fun m hm => absurd hm List.not_mem_nil
    · exact h.replies hn
  · rw [htrace]
    exact h.talk c

theorem Talks.acceptReady (h : Talks w) (a : Answers) : Talks (acceptReady a w) := by
  unfold Server.acceptReady
  cases a.peer with
  | none => exact h.accepts rfl rfl rfl
  | some pid => exact h.accepts rfl rfl rfl

/-! ### The callbacks -/

theorem greeterOps_talks (a : Answers) : GreeterOps C a Talks where
  session _ h := h.log fun _ => rfl
  add _ h := h.same rfl rfl rfl
  noPipe _ _ h := h.same rfl rfl rfl
  forked _ _ _ h := (h.forks _ _).modGreeter _ _
  failed noTty _ _ _ _ _ h := (((h.fails noTty _).log fun _ => rfl).modGreeter _ _)
  returned {_ _ t _} _ _ _ _ _ h := (h.release t).modGreeter _ _

theorem Talks.activate (h : Talks w) (a : Answers) (seat : String) :
    Talks (greeterActivate C a seat w) := (greeterOps_talks a).activate C seat h

theorem Talks.freed {a : Answers} {t : ℕ} (h : Talks w) (hf : Freed C a t w w') : Talks w' := by
  have hcalled := h.calledBack t
  cases hf with
  | login c _ => exact (hcalled.sessionDone a t c _).release t
  | lost g _ _ =>
    have hlogged := hcalled.log (o := .greeterCb t none) fun _ => rfl
    exact hlogged.fault.release t
  | restarted g r _ _ _ =>
    have hreset : Talks (greeterStartFailed t g (SpawnService.calledBack t w)) :=
      (hcalled.log fun _ => rfl).modGreeter g _
    exact (hreset.activate a r.seat).release t
  | noTry g r _ _ _ _ =>
    have hlogged := (hcalled.log (o := .greeterCb t (some r.seat)) fun _ => rfl).log
      (o := .startDone t none) fun _ => rfl
    exact hlogged.fault.release t
  | started g r t' _ _ _ _ =>
    have hlogged := (hcalled.log (o := .greeterCb t (seatAt (SpawnService.calledBack t w) g))
      fun _ => rfl).log (o := .startDone t (some t')) fun _ => rfl
    have hstarted : Talks (greeterStarted t g t' (SpawnService.calledBack t w)) :=
      hlogged.same rfl rfl rfl
    exact hstarted.release t

theorem Talks.clientData {a : Answers} {c fd : ℕ} (h : Talks w) (hdoes : ClientData C a c fd w w') :
    Talks w' := by
  induction hdoes with
  | closed _ => exact (h.unregisterFd fd).clientFree c
  | dropped _ => exact h.clientFree c
  | replied msg hfail hform =>
    refine h.reply _ fd ?_
    rcases hform with ⟨d, rfl⟩ | ⟨⟨success, text⟩, rfl⟩
    · exact .data d
    · obtain rfl : success = false := hfail _ rfl
      exact .refused text
  | activated _ session seat =>
    have hsaid := (h.sessionActivate session).reply (.reply c) fd
      (.refused "Activation is called on this session")
    exact (hsaid.greeterLockout seat).goodbye _ c
  | noLogin => exact h.fault
  | noPipe _ =>
    exact (h.modClient c _).reply _ fd (.refused "spawn failed.")
  | loginForked _ _ l pid => exact (h.forks _ _).modClient c _
  | loginFailed _ l noTty _ _ _ =>
    have hdone := (h.fails (C := C) noTty (loginRequest a c fd l w)).sessionDone a w.tries.length c
      ⟨.error, none⟩
    exact (hdone.release w.tries.length).modClient c _
  | started _ m _ _ _ => exact (h.activate a _).goodbye _ c
  | ignored => exact h
  | fallback w' _ ih => exact ih.fault

theorem Talks.childData {a : Answers} {t fd : ℕ} (h : Talks w) (hdoes : ChildData C a t fd w w') :
    Talks w' := by
  have hread : Talks (w.modTry t SpawnTry.readPipe) := h.same rfl rfl rfl
  cases hdoes with
  | undecodable _ => exact (hread.unregisterFd fd).forceQuit t
  | connect _ _ _ => exact hread
  | setupDone _ _ _ session =>
    refine Talks.sessionActivate ?_ session
    have hset : Talks ((w.modTry t SpawnTry.readPipe).modTry t
        fun tr => { tr with session := session }) := hread.same rfl rfl rfl
    split_ifs
    · exact hset.forceQuit t
    · exact hset
  | sessionActive _ _ _ w' hfree =>
    have hset : Talks (((w.modTry t SpawnTry.readPipe).unregisterFd (w.tryAt t).readFd).modTry t
        fun tr => { tr with success := .success }) := hread.same rfl rfl rfl
    exact hset.freed hfree
  | errorExit _ _ _ reason _ => exact hread.same rfl rfl rfl
  | noReason _ _ _ _ => exact hread.same rfl rfl rfl

theorem Talks.called {a : Answers} {t : ℕ} {hd : Handler} (h : Talks w)
    (hcalled : Called C a t w hd w') : Talks w' := by
  cases hcalled with
  | disappeared t' w' hfree => exact h.freed hfree
  | lost g _ => exact (h.log fun _ => rfl).fault
  | ended g r _ _ =>
    have hlogged : Talks (w.log (.greeterCb t (some r.seat))) := h.log fun _ => rfl
    exact hlogged.same rfl rfl rfl
  | restarted g r _ _ =>
    have hreset : Talks (greeterReset g (w.log (.greeterCb t (some r.seat)))) :=
      (h.log fun _ => rfl).modGreeter g _
    exact hreset.activate a r.seat

/-! ### Steps and runs -/

/-- **A step continues every talk.** -/
theorem talks_step {e : Event} (h : Talks w) : Talks (step C w e) := by
  have hdoes := step_does C w e
  generalize step C w e = w' at hdoes
  have hadvance : Talks (advance w) := h.same rfl rfl rfl
  cases hdoes with
  | idle _ => exact h
  | select _ _ _ _ => exact h.same rfl rfl rfl
  | endPass _ _ => exact h.same rfl rfl rfl
  | pass _ _ => exact hadvance
  | accept a _ _ _ => exact hadvance.acceptReady a
  | client a c fd w' _ _ hdoes _ => exact hadvance.clientData hdoes
  | child a t fd w' _ _ hdoes _ => exact hadvance.childData hdoes
  | sigchld _ => exact h.same rfl rfl rfl
  | reap _ _ _ _ _ _ _ => exact h.same rfl rfl rfl
  | scanEnd _ _ _ _ _ => exact h.same rfl rfl rfl
  | scanPass _ _ _ _ _ _ _ => exact h.same rfl rfl rfl
  | scanZeroed _ _ _ _ _ _ _ => exact h.same rfl rfl rfl
  | visit a t i pid hd w' _ _ _ hcalled => exact (h.called hcalled).same rfl rfl rfl
  | sigchldReturn _ => exact h.same rfl rfl rfl
  | childWrite _ _ _ => exact h.same rfl rfl rfl
  | childHangUp _ _ => exact h.same rfl rfl rfl
  | childExit _ _ => exact h.same rfl rfl rfl

theorem lookup_start (debug : Bool) (templates : List Template) (n c : ℕ) :
    lookup (World.start debug templates).fdtab n ≠ some (.sock c) := by
  intro hn
  have hmem : some (.sock c) ∈ (World.start debug templates).fdtab :=
    List.mem_of_getElem? (Option.join_eq_some_iff.mp hn)
  simp [World.start] at hmem

theorem talks_start (debug : Bool) (templates : List Template) :
    Talks (World.start debug templates) where
  unique hn _ := absurd hn (lookup_start debug templates _ _)
  known hn := absurd hn (lookup_start debug templates _ _)
  silent _ := rfl
  replies hn := absurd hn (lookup_start debug templates _ _)
  talk _ := Talk.of_replies fun _ hm => absurd hm List.not_mem_nil

theorem talks_run (debug : Bool) (templates : List Template) (es : List Event) :
    Talks (run (step C) (World.start debug templates) es) :=
  run_induction (I := Talks) (fun _ _ h => talks_step h) es _ (talks_start debug templates)

end Spawny.Daemon.Farewells
