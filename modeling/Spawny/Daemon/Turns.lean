import Spawny.Daemon.Farewells
import Spawny.Daemon.LoginAnswers

/-! # One answer for each request

A request is answered at once, or when the login ends that it has started. A `LEAVE` is no answer: it
is said when nothing more will be read.

* `reads`: the client whose socket a step reads;
* `spent`: the answers that a connection has got, and one for a login of it in flight;
* `spent_step`: **a step spends at most the request that it reads**, if no client is released with a
  login in flight. -/

namespace Spawny.Daemon.Turns

open Spawny.Lib.Wire Spawny.Lib.Descriptors Spawny.Protocol.Messages
open Spawny.Daemon.Manager Spawny.Daemon.SpawnRegistry
open Spawny.Daemon.SessionMgt Spawny.Daemon.State Spawny.Daemon.SpawnService
open Spawny.Daemon.GreeterTable Spawny.Daemon.Client Spawny.Daemon.Greeter Spawny.Daemon.Activations
open Spawny.Daemon.Server Spawny.Daemon.SafeCalls Spawny.Daemon.Loop Spawny.Daemon.Steps
open Spawny.Daemon.TryViews Spawny.Daemon.TryLife Spawny.Daemon.Connections Spawny.Daemon.LoginAnswers
open Spawny.Daemon.LockoutCalls Spawny.Daemon.Farewells

variable {C : FieldCode SpawnField} {w w' w'' : World} {c d : ℕ}

/-! ### Answers -/

def isAnswer (msg : ServerMessage) : Bool := msg.type != .leave

/-- How many answers went to the connection `c`. -/
def answers (c : ℕ) (w : World) : ℕ := (received c w.trace).countP isAnswer

/-- The answers that the connection `c` has got, and the one that is still to come for a login. -/
def spent (c : ℕ) (w : World) : ℕ := answers c w + (loginPending c w).toNat

/-- The client whose socket a step reads. -/
def reads (w : World) : Event → Option ℕ
  | .next _ =>
    if w.fds.readout = true ∧ w.registry.evalMode = false then
      (ready w).bind fun r => match r.cb with
        | some (.clientData c) => some c
        | _ => none
    else none
  | _ => none

theorem reads_client {a : Answers} {fd : ℕ} (hread : w.fds.readout = true)
    (heval : w.registry.evalMode = false) (hready : ready w = some ⟨some (.clientData c), fd⟩) :
    reads w (.next a) = some c := by
  unfold reads
  rw [if_pos ⟨hread, heval⟩, hready]
  rfl

theorem answers_append {l : List Obs} (htrace : w'.trace = w.trace ++ l) :
    answers c w' = answers c w + (received c l).countP isAnswer := by
  rw [answers, htrace, received_append, List.countP_append]
  rfl

theorem answers_log (o : Obs) :
    answers c (w.log o) = answers c w + (received c [o]).countP isAnswer := answers_append rfl

theorem spent_of_pending (h : ∃ t, LoginOf w t c) : spent c w = answers c w + 1 := by
  rw [spent, loginPending_iff.mpr h]
  rfl

theorem spent_of_idle (h : ∀ t, ¬LoginOf w t c) : spent c w = answers c w := by
  have hnot : loginPending c w = false := by
    rw [Bool.eq_false_iff]
    intro hpending
    obtain ⟨t, ht⟩ := loginPending_iff.mp hpending
    exact h t ht
  rw [spent, hnot]
  rfl

theorem answers_le_spent : answers c w ≤ spent c w := Nat.le_add_right ..

theorem spent_le : spent c w ≤ answers c w + 1 := Nat.add_le_add_left (Bool.toNat_le _) _

/-- From `w₀` to `w` at most `n` answers went to the connection, and it got no new login. -/
structure Gets (c n : ℕ) (w₀ w : World) : Prop where
  answers : answers c w ≤ answers c w₀ + n
  login : ∀ {t}, LoginOf w t c → LoginOf w₀ t c

namespace Gets

variable {n : ℕ} {w₀ : World}

theorem spent (h : Gets c n w₀ w) : spent c w ≤ Turns.spent c w₀ + n := by
  by_cases hlogin : ∃ t, LoginOf w t c
  · have ⟨t, ht⟩ := hlogin
    rw [spent_of_pending hlogin, spent_of_pending ⟨t, h.login ht⟩, Nat.add_right_comm]
    exact Nat.add_le_add_right h.answers 1
  · rw [spent_of_idle (not_exists.mp hlogin)]
    exact h.answers.trans (Nat.add_le_add_right answers_le_spent n)

theorem refl (c : ℕ) (w : World) : Gets c 0 w w := ⟨Nat.le_refl _, id⟩

/-- Nothing goes to the connection. -/
theorem silent (h : Gets c n w₀ w) {l : List Obs} (htrace : w'.trace = w.trace ++ l)
    (hl : received c l = []) (hlogin : ∀ {t}, LoginOf w' t c → LoginOf w t c) : Gets c n w₀ w' where
  answers := by
    rw [answers_append htrace, hl]
    exact h.answers
  login ht := h.login (hlogin ht)

theorem same (h : Gets c n w₀ w) (htrace : w'.trace = w.trace) (hviews : view w' = view w) :
    Gets c n w₀ w' :=
  h.silent (l := []) (by rw [htrace, List.append_nil]) rfl fun ht => ht.congr hviews

theorem log (h : Gets c n w₀ w) {o : Obs} (ho : received c [o] = []) : Gets c n w₀ (w.log o) :=
  h.silent rfl ho id

theorem fault (h : Gets c n w₀ w) : Gets c n w₀ w.fault := h.same rfl rfl

theorem unregisterFd (h : Gets c n w₀ w) (fd : ℕ) : Gets c n w₀ (w.unregisterFd fd) := h.same rfl rfl

theorem modClient (h : Gets c n w₀ w) (d : ℕ) (f : State.Client → State.Client) :
    Gets c n w₀ (w.modClient d f) := h.same rfl rfl

theorem modGreeter (h : Gets c n w₀ w) (g : ℕ) (f : SeatGreeter → SeatGreeter) :
    Gets c n w₀ (w.modGreeter g f) := h.same rfl rfl

theorem modTry (h : Gets c n w₀ w) {f : SpawnTry → SpawnTry}
    (hf : ∀ tr, SpawnTry.view (f tr) = SpawnTry.view tr) (t : ℕ) : Gets c n w₀ (w.modTry t f) :=
  h.same rfl (view_modTry_same hf t w)

/-- An answer goes to the connection of the client `d`. -/
theorem message (h : Gets c 0 w₀ w) (why : Sender) {fd : ℕ} (msg : ServerMessage)
    (hmine : lookup w.fdtab fd = some (.sock d)) :
    Gets c (if d = c then 1 else 0) w₀ (w.log (.sent why (lookup w.fdtab fd) msg)) where
  answers := by
    rw [answers_log, received_sent, hmine]
    by_cases hdc : d = c
    · subst hdc
      rw [if_pos rfl, if_pos rfl]
      exact Nat.add_le_add h.answers List.countP_le_length
    · rw [if_neg fun heq => hdc (FdObj.sock.inj (Option.some.inj heq)), if_neg hdc]
      exact h.answers
  login := h.login

theorem leave (h : Gets c n w₀ w) (why : Sender) (dest : Option FdObj) :
    Gets c n w₀ (w.log (.sent why dest leaveMessage)) where
  answers := by
    rw [answers_log, received_sent]
    split_ifs
    · exact h.answers
    · exact h.answers
  login := h.login

theorem clientFree (h : Gets c n w₀ w) (d : ℕ) : Gets c n w₀ (clientFree d w) := h.same rfl rfl

theorem goodbye (h : Gets c n w₀ w) (why : Sender) (d : ℕ) : Gets c n w₀ (clientGoodbye why d w) :=
  (h.leave why _).clientFree d

theorem release (h : Gets c n w₀ w) (t : ℕ) : Gets c n w₀ (release t w) :=
  h.silent (l := []) (by rw [trace_release, List.append_nil]) rfl LoginOf.of_release

theorem calledBack (h : Gets c n w₀ w) (t : ℕ) : Gets c n w₀ (calledBack t w) :=
  h.silent (trace_calledBack w t) rfl fun ht => (loginOf_calledBack.mp ht).2

theorem fails (h : Gets c n w₀ w) (noTty : Bool) (req : SpawnRequest) :
    Gets c n w₀ (tryFailed C noTty req w) :=
  h.silent (trace_tryFailed C w noTty req) rfl LoginOf.of_tryFailed

theorem forks (h : Gets c n w₀ w) {req : SpawnRequest} (hreq : req.done ≠ .sessionDone c) (pid : ℕ) :
    Gets c n w₀ (childForked w.tries.length pid (openTry req w)) := by
  refine h.silent (l := [.spawned w.tries.length]) ?_ rfl fun ht => ?_
  · rw [trace_childForked, trace_openTry]
  · exact ht.of_forked.resolve_left fun hnew => hreq hnew.2

theorem greeterLockout (h : Gets c n w₀ w) (seat : Option String) :
    Gets c n w₀ (greeterLockout seat w) := by
  have hviews := (quiet_greeterLockout seat w).views
  rcases trace_greeterLockout seat w with htrace | ⟨s, htrace⟩
  · exact h.same htrace hviews
  · exact h.silent htrace rfl fun ht => ht.congr hviews

theorem sessionActivate (h : Gets c n w₀ w) (session : Option String) :
    Gets c n w₀ (sessionActivate session w) := by
  cases session with
  | none => exact h
  | some s => exact h.log rfl

theorem forceQuit (h : Gets c n w₀ w) (t : ℕ) : Gets c n w₀ (forceQuit t w) := by
  unfold SpawnService.forceQuit
  split_ifs
  · exact h.log rfl
  · exact h

/-- **`_session_done`** answers the client whose login has ended. -/
theorem sessionDone (h : Gets c 0 w₀ w) (a : Answers) (t : ℕ) (result : SpawnServiceEnd)
    (hmine : lookup w.fdtab (w.clientAt d).fd = some (.sock d)) :
    Gets c (if d = c then 1 else 0) w₀ (sessionDone a t d result w) := by
  have hfault : Gets c 0 w₀ (if (w.clientAt d).freed then w.fault else w) := by
    split_ifs
    · exact h.fault
    · exact h
  have hmine₁ : lookup (if (w.clientAt d).freed then w.fault else w).fdtab
      ((if (w.clientAt d).freed then w.fault else w).clientAt d).fd = some (.sock d) := by
    split_ifs
    · exact hmine
    · exact hmine
  unfold Client.sessionDone
  dsimp only
  generalize (if (w.clientAt d).freed then w.fault else w) = w₁ at hfault hmine₁ ⊢
  cases result.success with
  | error => exact (hfault.message _ _ hmine₁).modClient d _
  | success =>
    have hlock := quiet_greeterLockout (seatGet a.sd (w₁.clientAt d).pid) w₁
    have hquiet := hfault.greeterLockout (seatGet a.sd (w₁.clientAt d).pid)
    dsimp only
    generalize GreeterTable.greeterLockout (seatGet a.sd (w₁.clientAt d).pid) w₁ = w₂ at hlock hquiet ⊢
    have hmine₂ : lookup w₂.fdtab (w₂.clientAt d).fd = some (.sock d) := by
      rw [hlock.fdtab, World.clientAt_congr hlock.clients]
      exact hmine₁
    exact ((hquiet.message _ loggedIn hmine₂).modClient d _).goodbye _ d

end Gets

/-! ### The callbacks -/

theorem greeterOps_gets (a : Answers) (n : ℕ) (w₀ : World) (c : ℕ) :
    GreeterOps C a (Gets c n w₀) where
  session _ h := h.log rfl
  add _ h := h.same rfl rfl
  noPipe _ _ h := h.modGreeter _ _
  forked _ _ _ h := (h.forks noLogin_greeterRequest _).modGreeter _ _
  failed noTty _ _ _ _ _ h := ((h.fails noTty _).log rfl).modGreeter _ _
  returned {_ _ t _} _ _ _ _ _ h := (h.release t).modGreeter _ _

theorem Gets.activate {n : ℕ} {w₀ : World} (h : Gets c n w₀ w) (a : Answers) (seat : String) :
    Gets c n w₀ (greeterActivate C a seat w) := (greeterOps_gets a n w₀ c).activate C seat h

/-- **The end of a try** answers a login that was in flight. -/
theorem spent_freed {a : Answers} {t : ℕ} {v : TryView} (h : Conns none w) (hv : view w t = some v)
    (hdone : v.doneCalled = false) (hf : Freed C a t w w') : spent c w' ≤ spent c w := by
  have hcalled : Gets c 0 w (calledBack t w) := (Gets.refl c w).calledBack t
  cases hf with
  | login d hd =>
    have hreq : v.req.done = .sessionDone d := by rw [← view_tryAt hv]; exact hd
    have hlogin : LoginOf w t d := ⟨v, hv, hdone, hreq⟩
    obtain ⟨cl, hcl, hfree⟩ := h.login hlogin
    have hmine : lookup (calledBack t w).fdtab ((calledBack t w).clientAt d).fd = some (.sock d) := by
      have hcl' : (calledBack t w).clients[d]? = some cl := by rw [clients_calledBack, hcl]
      rw [World.clientAt_eq hcl']
      exact (h.calledBack hv hdone).sock hcl' hfree
    have hgets := (hcalled.sessionDone a t (SpawnTry.result (w.tryAt t)) hmine).release t
    by_cases hdc : d = c
    · subst hdc
      rw [if_pos rfl] at hgets
      -- the login that has ended was the only one
      have hidle : ∀ t', ¬LoginOf (release t (sessionDone a t d (SpawnTry.result (w.tryAt t))
          (calledBack t w))) t' d := by
        intro t' ht'
        have hbefore := ((Gets.refl d (calledBack t w)).sessionDone a t
          (SpawnTry.result (w.tryAt t)) hmine).login ht'.of_release
        obtain ⟨hne, ht'⟩ := loginOf_calledBack.mp hbefore
        exact hne (h.one ht' hlogin)
      rw [spent_of_idle hidle, spent_of_pending ⟨t, hlogin⟩]
      exact hgets.answers
    · rw [if_neg hdc] at hgets
      exact hgets.spent
  | lost g _ _ =>
    have hlogged := hcalled.log (o := .greeterCb t none) rfl
    exact (hlogged.fault.release t).spent
  | restarted g r _ _ _ =>
    have hfailed : Gets c 0 w (greeterStartFailed t g (calledBack t w)) :=
      (hcalled.log (o := .greeterCb t _) rfl).modGreeter g _
    exact ((hfailed.activate a r.seat).release t).spent
  | noTry g r _ _ _ _ =>
    have hlogged := (hcalled.log (o := .greeterCb t (some r.seat)) rfl).log (o := .startDone t none) rfl
    exact (hlogged.fault.release t).spent
  | started g r t' _ _ _ _ =>
    have hlogged := (hcalled.log (o := .greeterCb t (seatAt (calledBack t w) g)) rfl).log
      (o := .startDone t (some t')) rfl
    have hstarted : Gets c 0 w (greeterStarted t g t' (calledBack t w)) := hlogged.same rfl rfl
    exact (hstarted.release t).spent

/-- **`_client_data`** spends the request that it has read. -/
theorem spent_clientData {a : Answers} {fd : ℕ} {cl : State.Client} (h : Conns none w)
    (hcl : w.clients[d]? = some cl) (hfree : cl.freed = false) (hfd : cl.fd = fd)
    (hdoes : ClientData C a d fd w w') : spent c w' ≤ spent c w + if d = c then 1 else 0 := by
  have hmine : lookup w.fdtab fd = some (.sock d) := hfd ▸ h.sock hcl hfree
  have hrefl := Gets.refl c w
  have hsilent : ∀ {w'}, Gets c 0 w w' → spent c w' ≤ spent c w + if d = c then 1 else 0 :=
    fun hgets => hgets.spent.trans (Nat.add_le_add_left (Nat.zero_le _) _)
  induction hdoes with
  | closed _ => exact hsilent ((hrefl.unregisterFd fd).clientFree d)
  | dropped _ => exact hsilent (hrefl.clientFree d)
  | replied msg _ _ => exact (hrefl.message _ msg hmine).spent
  | activated _ session seat =>
    have hmine' : lookup (sessionActivate session w).fdtab fd = some (.sock d) := by
      rw [(quiet_sessionActivate session w).fdtab]
      exact hmine
    exact ((((hrefl.sessionActivate session).message _ _ hmine').greeterLockout seat).goodbye _ d).spent
  | noLogin => exact hsilent hrefl.fault
  | noPipe _ => exact ((hrefl.modClient d _).message _ _ hmine).spent
  | loginForked _ hidle l pid =>
    by_cases hdc : d = c
    · subst hdc
      have hanswers : answers d (loginForked d (loginRequest a d fd l w)
          ((openTry (loginRequest a d fd l w) w).freePid pid) w) = answers d w := by
        refine (answers_append (l := [.spawned w.tries.length]) ?_).trans rfl
        exact (trace_childForked _ _ _).trans (by rw [trace_openTry])
      rw [if_pos rfl]
      refine spent_le.trans ?_
      rw [hanswers]
      exact Nat.add_le_add_right answers_le_spent 1
    · have hreq : (loginRequest a d fd l w).done ≠ .sessionDone c :=
        fun heq => hdc (DoneCb.sessionDone.inj heq)
      exact hsilent ((hrefl.forks hreq _).modClient d _)
  | loginFailed hidle l noTty _ _ _ =>
    have hmine' : lookup (tryFailed C noTty (loginRequest a d fd l w) w).fdtab
        ((tryFailed C noTty (loginRequest a d fd l w) w).clientAt d).fd = some (.sock d) := by
      rw [World.clientAt_congr (clients_tryFailed C w noTty _), World.clientAt_eq hcl]
      exact lookup_tryFailed C noTty _ (h.sock hcl hfree)
    exact ((((hrefl.fails noTty _).sessionDone a _ _ hmine').release _).modClient d _).spent
  | started _ m _ _ _ => exact hsilent ((hrefl.activate a _).goodbye _ d)
  | ignored => exact hsilent hrefl
  | fallback w' _ ih => exact ((Gets.refl c w').fault.spent).trans ih

theorem spent_childData {a : Answers} {t fd : ℕ} {v : TryView} (h : Conns none w) (hv : view w t = some v)
    (hdone : v.doneCalled = false) (hdoes : ChildData C a t fd w w') : spent c w' ≤ spent c w := by
  have hread : Gets c 0 w (w.modTry t SpawnTry.readPipe) :=
    (Gets.refl c w).modTry (f := SpawnTry.readPipe) (fun _ => rfl) t
  cases hdoes with
  | undecodable _ => exact ((hread.unregisterFd fd).forceQuit t).spent
  | connect _ _ _ => exact hread.spent
  | setupDone _ _ _ session =>
    have hset : Gets c 0 w ((w.modTry t SpawnTry.readPipe).modTry t
        fun tr => { tr with session := session }) := by
      refine hread.modTry ?_ t
      exact fun _ => rfl
    refine Gets.spent (n := 0) (Gets.sessionActivate ?_ session)
    split_ifs
    · exact hset.forceQuit t
    · exact hset
  | sessionActive _ _ _ w' hfree =>
    have hq : Quiet w (((w.modTry t SpawnTry.readPipe).unregisterFd (w.tryAt t).readFd).modTry t
        fun tr => { tr with success := .success }) := by
      refine ((quiet_modTry (f := SpawnTry.readPipe) (fun _ => rfl) t w).trans
        (quiet_unregisterFd _ _)).trans (quiet_modTry ?_ t _)
      exact fun _ => rfl
    have hgets : Gets c 0 w (((w.modTry t SpawnTry.readPipe).unregisterFd (w.tryAt t).readFd).modTry t
        fun tr => { tr with success := .success }) := (Gets.refl c w).same rfl hq.views
    exact (spent_freed (h.quiet hq) (by rw [hq.views, hv]) hdone hfree).trans hgets.spent
  | errorExit _ _ _ reason _ =>
    refine ((hread.unregisterFd _).modTry ?_ t).spent
    exact fun _ => rfl
  | noReason _ _ _ _ => exact (hread.unregisterFd _).fault.spent

theorem spent_called {a : Answers} {t : ℕ} {pid : ℤ} {hd : Handler} (h : Conns none w)
    (hlife : Life none w) (hlive : ⟨pid, some hd⟩ ∈ w.registry.live) (hcalled : Called C a t w hd w') :
    spent c w' ≤ spent c w := by
  have hrefl := Gets.refl c w
  cases hcalled with
  | disappeared t' w' hfree =>
    obtain ⟨v, hv, -, -, hdone | hx⟩ := hlife.listens hlive rfl
    · exact spent_freed h hv hdone hfree
    · cases hx
  | lost g _ => exact (hrefl.log (o := .greeterCb t none) rfl).fault.spent
  | ended g r _ _ =>
    have hdeleted : Gets c 0 w (greeterDel r.seat (w.log (.greeterCb t (some r.seat)))) :=
      (hrefl.log (o := .greeterCb t (some r.seat)) rfl).same rfl rfl
    exact hdeleted.spent
  | restarted g r _ _ =>
    have hreset : Gets c 0 w (greeterReset g (w.log (.greeterCb t (some r.seat)))) :=
      (hrefl.log (o := .greeterCb t (some r.seat)) rfl).modGreeter g _
    exact (hreset.activate a r.seat).spent

/-! ### Steps -/

/-- **A step spends at most the request that it reads.** -/
theorem spent_step {e : Event} (hlife : Life none w) (h : Conns none w) :
    spent c (step C w e) ≤ spent c w + if reads w e = some c then 1 else 0 := by
  have hdoes := step_does C w e
  generalize step C w e = w' at hdoes
  have hadvance : Quiet w (advance w) := quiet_fds fun _ hr => hr
  have hspent : spent c (advance w) = spent c w := rfl
  have hrefl := Gets.refl c w
  have hmodTry : ∀ {t f}, (∀ tr, SpawnTry.view (f tr) = SpawnTry.view tr) → Gets c 0 w (w.modTry t f) :=
    fun hf => hrefl.modTry hf _
  have hsilent : ∀ {w'}, Gets c 0 w w' → spent c w' ≤ spent c w + if reads w e = some c then 1 else 0 :=
    fun hgets => hgets.spent.trans (Nat.add_le_add_left (Nat.zero_le _) _)
  cases hdoes with
  | idle _ => exact hsilent hrefl
  | select _ _ _ _ => exact hsilent (hrefl.same rfl rfl)
  | endPass _ _ => exact hsilent (hrefl.same rfl rfl)
  | pass _ _ => exact hsilent (hrefl.same rfl rfl)
  | accept a _ _ _ =>
    refine hsilent ?_
    unfold Server.acceptReady
    cases a.peer with
    | none => exact hrefl.same rfl rfl
    | some pid => exact hrefl.same rfl rfl
  | client a d fd w' heval hready hdoes hread =>
    obtain ⟨cl, hcl, hfree, hfd⟩ := h.entry (ready_mem_live hready) rfl
    have hclient := spent_clientData (c := c) (h.quiet hadvance) hcl hfree hfd hdoes
    rw [hspent] at hclient
    rw [reads_client hread heval hready]
    simpa using hclient
  | child a t fd w' _ hready hdoes _ =>
    obtain ⟨v, hv, hdone, -⟩ := hlife.read (ready_mem_live hready) rfl
    have hchild := spent_childData (c := c) (h.quiet hadvance) (v := v) hv hdone hdoes
    exact hchild.trans (Nat.le_add_right _ _)
  | sigchld _ => exact hsilent (hrefl.same rfl rfl)
  | reap t tr _ _ _ _ _ =>
    refine hsilent (hrefl.silent (l := []) (List.append_nil _).symm rfl fun {t'} ht' => ?_)
    obtain ⟨v, hv, hdone, hreq⟩ := ht'
    rw [view_reap] at hv
    split_ifs at hv
    · obtain ⟨v₀, hv₀, rfl⟩ := Option.map_eq_some_iff.mp hv
      exact ⟨v₀, hv₀, hdone, hreq⟩
    · exact ⟨v, hv, hdone, hreq⟩
  | scanEnd _ _ _ _ _ => exact hsilent (hrefl.same rfl rfl)
  | scanPass _ _ _ _ _ _ _ => exact hsilent (hrefl.same rfl rfl)
  | scanZeroed _ _ _ _ _ _ _ => exact hsilent (hrefl.same rfl rfl)
  | visit a t i pid hd w' _ he _ hcalled =>
    have hlive : ⟨pid, some hd⟩ ∈ w.registry.live :=
      Registry.mem_live.mpr ⟨List.mem_of_getElem? he, rfl⟩
    have hcalls : spent c w' ≤ spent c w := spent_called h hlife hlive hcalled
    exact Nat.le_trans hcalls (Nat.le_add_right _ _)
  | sigchldReturn _ => exact hsilent (hrefl.same rfl rfl)
  | childWrite t m _ =>
    refine hsilent (hmodTry ?_)
    exact fun _ => rfl
  | childHangUp t _ =>
    refine hsilent (hmodTry ?_)
    exact fun _ => rfl
  | childExit t _ =>
    refine hsilent (hmodTry ?_)
    exact fun _ => rfl

end Spawny.Daemon.Turns
