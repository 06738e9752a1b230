import Spawny.Daemon.Connections
import Spawny.Daemon.TryCells
import Spawny.Daemon.TryFields

/-! # Which descriptors are open

What the daemon opens are connections and pipes. A connection belongs to its client and the read end
of a pipe to its try; the write end is closed in the parent. `Accounted` says that nothing else stays
open.

* `OpenExactly.opens`, `OpenExactly.closes`: the two ways the table changes;
* `Accounted.clientData`, `Accounted.freed`, `Accounted.acceptReady`: the callbacks;
* `open_fds`: **exactly the descriptors that belong to something are open**, in runs in which the
  credentials of new clients can be read, no spawn fails at once, and no login ends well for a client
  that is gone;
* `write_end_left`, `connection_left`: what stays open otherwise. -/

namespace Spawny.Daemon.OpenFds

open Spawny.Lib.Wire Spawny.Lib.Descriptors Spawny.Lib.Runs Spawny.Protocol Spawny.Protocol.Messages
open Spawny.Daemon.Manager Spawny.Daemon.SpawnRegistry
open Spawny.Daemon.SessionMgt Spawny.Daemon.State Spawny.Daemon.SpawnService
open Spawny.Daemon.GreeterTable Spawny.Daemon.Client Spawny.Daemon.Greeter Spawny.Daemon.Activations
open Spawny.Daemon.Server Spawny.Daemon.Loop Spawny.Daemon.Steps Spawny.Daemon.TryViews
open Spawny.Daemon.TryLife Spawny.Daemon.Connections Spawny.Daemon.TryCells Spawny.Daemon.TryFields

variable {C : FieldCode SpawnField}

/-! ### Owners -/

/-- The descriptor `n` belongs to something that needs it open as `o`: it is one of the three that
were there from the start, the server socket, the connection of a client that was not released, or the
read end of the pipe of a try in flight. -/
def Owned (w : World) (n : ℕ) : FdObj → Prop
  | .std => n < 3
  | .listen => n = 3
  | .sock c => ∃ cl, w.clients[c]? = some cl ∧ cl.freed = false ∧ cl.fd = n
  | .pipeRead t => ∃ tr, w.tries[t]? = some tr ∧ tr.doneCalled = false ∧ tr.readFd = n
  | .pipeWrite _ => False

/-- **Open is exactly what belongs to something.** -/
def OpenExactly (w : World) : Prop := ∀ n o, lookup w.fdtab n = some o ↔ Owned w n o

theorem owned_pipeRead {w : World} {n t : ℕ} : Owned w n (.pipeRead t) ↔
    ∃ v, view w t = some v ∧ v.doneCalled = false ∧ v.readFd = n := by
  constructor
  · rintro ⟨tr, ht, hdone, hfd⟩
    exact ⟨_, view_of_get ht, hdone, hfd⟩
  · rintro ⟨v, hv, hdone, hfd⟩
    obtain ⟨tr, htr, rfl⟩ := view_eq_some.mp hv
    exact ⟨tr, htr, hdone, hfd⟩

/-- Only the clients and the views of the tries matter. -/
theorem owned_congr {w w' : World} (hclients : w'.clients = w.clients) (hviews : view w' = view w)
    (n : ℕ) (o : FdObj) : Owned w' n o ↔ Owned w n o := by
  cases o with
  | std => exact Iff.rfl
  | listen => exact Iff.rfl
  | sock c => simp only [Owned, hclients]
  | pipeRead t => rw [owned_pipeRead, owned_pipeRead, hviews]
  | pipeWrite t => exact Iff.rfl

/-- A client or a try owns one descriptor. -/
theorem Owned.unique {w : World} {n m : ℕ} {o : FdObj} (h : Owned w n o) (h' : Owned w m o)
    (ho : o ≠ .std) : n = m := by
  cases o with
  | std => exact absurd rfl ho
  | listen => exact h.trans h'.symm
  | sock c =>
    obtain ⟨cl, hcl, -, rfl⟩ := h
    obtain ⟨cl', hcl', -, rfl⟩ := h'
    rw [Option.some.inj (hcl.symm.trans hcl')]
  | pipeRead t =>
    obtain ⟨tr, htr, -, rfl⟩ := h
    obtain ⟨tr', htr', -, rfl⟩ := h'
    rw [Option.some.inj (htr.symm.trans htr')]
  | pipeWrite t => exact h.elim

/-- The client `c` was not released. -/
def Connected (c : ℕ) (w : World) : Prop := ∃ cl, w.clients[c]? = some cl ∧ cl.freed = false

theorem Connected.congr {c : ℕ} {w w' : World} (h : Connected c w) (hclients : w'.clients = w.clients) :
    Connected c w' := by
  rw [Connected, hclients]
  exact h

/-- **The invariant of the descriptors.** -/
structure Accounted (w : World) : Prop where
  exactly : OpenExactly w
  /-- only clients that were not released are read -/
  entry : ∀ {r c}, r ∈ w.fds.live → r.cb = some (.clientData c) →
    ∃ cl, w.clients[c]? = some cl ∧ cl.freed = false ∧ cl.fd = r.fd

/-! ### The table changes -/

variable {w w' : World}

theorem Accounted.quiet (h : Accounted w) (hq : Quiet w w') : Accounted w' where
  exactly n o := by
    rw [hq.fdtab, owned_congr hq.clients hq.views]
    exact h.exactly n o
  entry hr hcb := by
    rw [hq.clients]
    exact h.entry (hq.fds _ hr _ hcb) hcb

/-- A descriptor is opened for a new owner. -/
theorem OpenExactly.opens (h : OpenExactly w) {o : FdObj}
    (hfdtab : ∀ n, lookup w'.fdtab n = lookup (openSlot w.fdtab o) n)
    (howned : ∀ n o', Owned w' n o' ↔ (n = lowestFree w.fdtab ∧ o' = o) ∨ Owned w n o') :
    OpenExactly w' := by
  intro n o'
  rw [hfdtab, howned, ← h, lookup_open]
  by_cases hn : n = lowestFree w.fdtab
  · rw [if_pos hn, hn, lookup_lowestFree]
    simp [eq_comm]
  · simp [hn]

/-- The descriptor of an owner is closed, and the owner goes. -/
theorem OpenExactly.closes (h : OpenExactly w) {n₀ : ℕ} {o₀ : FdObj} (hown : Owned w n₀ o₀)
    (ho₀ : o₀ ≠ .std) (hfdtab : w'.fdtab = closeSlot w.fdtab n₀)
    (howned : ∀ n o, Owned w' n o ↔ Owned w n o ∧ o ≠ o₀) : OpenExactly w' := by
  intro n o
  rw [hfdtab, howned, lookup_close, ← h]
  split_ifs with hn
  · subst hn
    constructor
    · intro hnone
      cases hnone
    · rintro ⟨ho, hne⟩
      rw [(h n o₀).mpr hown] at ho
      exact absurd (Option.some.inj ho).symm hne
  · refine ⟨fun ho => ⟨ho, ?_⟩, And.left⟩
    rintro rfl
    exact hn (((h n o).mp ho).unique hown ho₀)

/-! ### The operations -/

/-- A child was forked: the read end of its pipe stays open. -/
theorem Accounted.forks (h : Accounted w) (req : SpawnRequest) (pid : ℕ) :
    Accounted (childForked w.tries.length pid (openTry req w)) := by
  have hclients : (childForked w.tries.length pid (openTry req w)).clients = w.clients := by
    rw [clients_childForked, clients_openTry]
  refine ⟨h.exactly.opens (lookup_forked req pid w) fun n o => ?_, fun {r c} hr hcb => ?_⟩
  · cases o with
    | std => simp [Owned]
    | listen => simp [Owned]
    | sock c => simp [Owned]
    | pipeRead t =>
      rw [owned_pipeRead, owned_pipeRead, view_forked]
      split_ifs with ht
      · have hnone : view w t = none := ht ▸ TryRule.view_length w
        rw [hnone]
        constructor
        · rintro ⟨v, hv, -, rfl⟩
          obtain rfl := Option.some.inj hv
          exact Or.inl ⟨rfl, congrArg FdObj.pipeRead ht⟩
        · rintro (⟨rfl, -⟩ | ⟨v, hv, -⟩)
          · exact ⟨_, rfl, rfl, rfl⟩
          · cases hv
      · simp [ht]
    | pipeWrite t => simp [Owned]
  · rw [live_forked] at hr
    rw [hclients]
    rcases List.mem_append.mp hr with hr | hr
    · exact h.entry hr hcb
    · rw [List.mem_singleton.mp hr] at hcb
      cases hcb

/-- The callback of a try in flight is called: its pipe is closed. -/
theorem Accounted.calledBack (h : Accounted w) {t : ℕ} {v : TryView} (hv : view w t = some v)
    (hdone : v.doneCalled = false) : Accounted (calledBack t w) := by
  have hown : Owned w v.readFd (.pipeRead t) := owned_pipeRead.mpr ⟨v, hv, hdone, rfl⟩
  refine ⟨h.exactly.closes hown FdObj.noConfusion (fdtab_calledBack hv) fun n o => ?_,
    fun {r c} hr hcb => ?_⟩
  · cases o with
    | std => simp [Owned]
    | listen => simp [Owned]
    | sock c => simp [Owned, clients_calledBack]
    | pipeRead t' =>
      rw [owned_pipeRead, owned_pipeRead, view_calledBack]
      split_ifs with ht
      · subst ht
        simp [hv]
      · simp [Ne.symm ht]
    | pipeWrite t' => simp [Owned]
  · rw [live_calledBack hv] at hr
    rw [clients_calledBack]
    exact h.entry (List.mem_filter.mp hr).1 hcb

theorem Accounted.release (h : Accounted w) (t : ℕ) : Accounted (release t w) := by
  refine ⟨fun n o => ?_, fun {r c} hr hcb => ?_⟩
  · rw [fdtab_release, h.exactly n o]
    cases o with
    | std => exact Iff.rfl
    | listen => exact Iff.rfl
    | sock c => simp only [Owned, clients_release]
    | pipeRead t' =>
      rw [owned_pipeRead, owned_pipeRead, view_release]
      split_ifs with ht
      · subst ht
        cases view w t <;> simp
      · exact Iff.rfl
    | pipeWrite t' => exact Iff.rfl
  · rw [fds_release] at hr
    rw [clients_release]
    exact h.entry hr hcb

/-- The field `try` of a client is set. -/
theorem Accounted.setTry (h : Accounted w) (c : ℕ) (s : Option ℕ) :
    Accounted (w.modClient c fun cl => { cl with spawnTry := s }) := by
  have hget : ∀ c' n : ℕ, (∃ cl : State.Client,
      (w.modClient c fun cl => { cl with spawnTry := s }).clients[c']? = some cl ∧
        cl.freed = false ∧ cl.fd = n) ↔
          ∃ cl : State.Client, w.clients[c']? = some cl ∧ cl.freed = false ∧ cl.fd = n := by
    intro c' n
    rw [World.getElem?_modClient]
    cases w.clients[c']? with
    | none => simp
    | some cl => by_cases hc : c = c' <;> simp [hc]
  refine ⟨fun n o => ?_, fun {r c'} hr hcb => (hget c' r.fd).mpr (h.entry hr hcb)⟩
  have hsame := h.exactly n o
  cases o with
  | sock c' => exact hsame.trans (hget c' n).symm
  | _ => exact hsame

/-- A client that is connected is released. -/
theorem Accounted.clientFree (h : Accounted w) {c : ℕ} (hc : Connected c w) :
    Accounted (clientFree c w) := by
  obtain ⟨cl, hcl, hfree⟩ := hc
  have hfd : (w.clientAt c).fd = cl.fd := by rw [World.clientAt_eq hcl]
  have hget : ∀ c' n : ℕ, (∃ cl', (Client.clientFree c w).clients[c']? = some cl' ∧ cl'.freed = false ∧
      cl'.fd = n) ↔ (∃ cl', w.clients[c']? = some cl' ∧ cl'.freed = false ∧ cl'.fd = n) ∧ c' ≠ c := by
    intro c' n
    have hmod : (Client.clientFree c w).clients[c']? =
        (w.clients[c']?).map fun cl => if c = c' then { cl with freed := true } else cl :=
      World.getElem?_modClient ((w.unregisterFd (w.clientAt c).fd).closeFd (w.clientAt c).fd) c c' _
    rw [hmod]
    by_cases hc : c = c'
    · subst hc
      simp [hcl]
    · cases w.clients[c']? <;> simp [hc, Ne.symm hc]
  have hown : Owned w cl.fd (.sock c) := ⟨cl, hcl, hfree, rfl⟩
  refine ⟨h.exactly.closes hown FdObj.noConfusion ?_ fun n o => ?_, fun {r c'} hr hcb => ?_⟩
  · rw [← hfd]
    rfl
  · cases o with
    | std => simp [Owned]
    | listen => simp [Owned]
    | sock c' => simpa [Owned] using hget c' n
    | pipeRead t =>
      rw [owned_pipeRead, owned_pipeRead]
      simp [view_congr (show (Client.clientFree c w).tries = w.tries from rfl)]
    | pipeWrite t => simp [Owned]
  · obtain ⟨hr, hne⟩ := FdTable.mem_live_unregisterFd.mp hr
    refine (hget c' r.fd).mpr ⟨h.entry hr hcb, ?_⟩
    obtain ⟨cl', hcl', -, hfd'⟩ := h.entry hr hcb
    rintro rfl
    rw [World.clientAt_eq hcl'] at hne
    exact hne hfd'.symm

/-! ### The callbacks -/

theorem Accounted.log (h : Accounted w) (o : Obs) : Accounted (w.log o) :=
  ⟨h.exactly, fun hr hcb => h.entry hr hcb⟩

theorem Accounted.goodbye (h : Accounted w) (why : Sender) {c : ℕ} (hc : Connected c w) :
    Accounted (clientGoodbye why c w) := (h.log _).clientFree hc

/-- **An activation** whose spawn does not fail at once. -/
theorem Accounted.activate (h : Accounted w) {a : Answers} (hworks : spawnWorks a w = true)
    (seat : String) : Accounted (greeterActivate C a seat w) := by
  obtain ⟨w₁, g, r, hw₁, -, -, hdoes⟩ := greeterActivate_works C hworks seat
  have h₁ : Accounted w₁ := by
    rcases hw₁ with rfl | ⟨-, rfl⟩
    · exact h
    · exact h.quiet (quiet_greeterAdd seat w)
  generalize greeterActivate C a seat w = w₂ at hdoes
  cases hdoes with
  | session s _ => exact h₁.log _
  | givesUp => exact h₁
  | noPipe _ => exact h₁.quiet (quiet_modGreeter _ _ _)
  | forked pid _ => exact (h₁.forks _ _).quiet (quiet_modGreeter _ _ _)

theorem greeterOps_clients (a : Answers) (cs : List State.Client) :
    GreeterOps C a fun w => w.clients = cs where
  session _ h := h
  add _ h := h
  noPipe _ _ h := h
  forked _ _ _ h := by simp [greeterForked, h]
  failed _ _ _ _ _ _ h := by simp [greeterFailed, greeterStartFailed, greeterReset, h]
  returned _ _ _ _ _ h := by simp [greeterReturned, h]

theorem clients_activate (a : Answers) (seat : String) (w : World) :
    (greeterActivate C a seat w).clients = w.clients :=
  (greeterOps_clients a w.clients).activate C seat rfl

/-- **`_session_done`**, for a client that was not released if the login was successful. -/
theorem Accounted.sessionDone (h : Accounted w) (a : Answers) (t : ℕ) {c : ℕ}
    {result : SpawnServiceEnd} (hc : result.success = .success → Connected c w) :
    Accounted (sessionDone a t c result w) := by
  have hfault : Quiet w (if (w.clientAt c).freed then w.fault else w) := by
    split_ifs
    · exact quiet_fault w
    · exact Quiet.refl w
  unfold Client.sessionDone
  dsimp only
  generalize (if (w.clientAt c).freed then w.fault else w) = w₁ at hfault ⊢
  have h₁ := h.quiet hfault
  cases hres : result.success with
  | error => exact (h₁.log _).setTry c none
  | success =>
    dsimp only
    have hlock := quiet_greeterLockout (seatGet a.sd (w₁.clientAt c).pid) w₁
    set w₂ := greeterLockout (seatGet a.sd (w₁.clientAt c).pid) w₁
    obtain ⟨cl, hcl, hfree⟩ := (hc hres).congr (hlock.clients.trans hfault.clients)
    refine Accounted.goodbye (((h₁.quiet hlock).log _).setTry c none) _
      ⟨{ cl with spawnTry := none }, ?_, hfree⟩
    rw [World.getElem?_modClient]
    exact (congrArg _ hcl).trans (by simp)

/-- **Freeing a try** whose callback is still to come; if it is a login that has succeeded, its client
was not released. -/
theorem Accounted.freed {a : Answers} (h : Accounted w) (hworks : spawnWorks a w = true) {t : ℕ}
    {v : TryView} (hv : view w t = some v) (hdone : v.doneCalled = false)
    (hlogin : ∀ c, (w.tryAt t).done = .sessionDone c → (w.tryAt t).success = .success →
      Connected c w) (hf : Freed C a t w w') : Accounted w' := by
  have hcalled := h.calledBack hv hdone
  have hworks' : spawnWorks a (SpawnService.calledBack t w) = true := by
    refine spawnWorks_congr ?_ hworks
    simp [SpawnService.calledBack, closeRead]
  cases hf with
  | login c hc =>
    refine (hcalled.sessionDone a t fun hres => ?_).release t
    exact (hlogin c hc hres).congr (clients_calledBack w t)
  | lost g _ _ => exact ((hcalled.log _).quiet (quiet_fault _)).release t
  | restarted g r _ _ _ =>
    have hfailed : Accounted (greeterStartFailed t g (SpawnService.calledBack t w)) :=
      (hcalled.log _).quiet (quiet_modGreeter _ _ _)
    exact (hfailed.activate (spawnWorks_congr rfl hworks') r.seat).release t
  | noTry g r _ _ _ _ => exact (((hcalled.log _).log _).quiet (quiet_fault _)).release t
  | started g r t' _ _ _ _ =>
    have hstarted : Accounted (greeterStarted t g t' (SpawnService.calledBack t w)) :=
      (((hcalled.log _).log _).quiet (quiet_modGreeter _ _ _)).quiet (quiet_listen _ _ _)
    exact hstarted.release t

/-- **`_client_data`** for a client that was not released. -/
theorem Accounted.clientData {a : Answers} {c fd : ℕ} (h : Accounted w)
    (hworks : spawnWorks a w = true) (hc : Connected c w) (hdoes : ClientData C a c fd w w') :
    Accounted w' := by
  induction hdoes with
  | closed _ =>
    exact (h.quiet (quiet_unregisterFd fd w)).clientFree (hc.congr (World.unregisterFd_clients fd w))
  | dropped _ => exact h.clientFree hc
  | replied msg => exact h.log _
  | activated _ session seat =>
    have hq := ((quiet_sessionActivate session w).trans (quiet_reply c .loginFeedback
      (some ⟨false, "Activation is called on this session"⟩) none fd _)).trans
        (quiet_greeterLockout seat _)
    exact (h.quiet hq).goodbye _ (hc.congr hq.clients)
  | noLogin => exact h.quiet (quiet_fault w)
  | noPipe _ => exact (h.setTry c none).log _
  | loginForked _ _ l pid => exact (h.forks _ _).setTry c _
  | loginFailed _ l noTty _ hpipe hchild =>
    obtain ⟨pid, hforks⟩ := forks_of_spawnWorks hworks hpipe
    exact absurd hforks (hchild pid)
  | started _ m _ _ _ =>
    exact (h.activate hworks _).goodbye _ (hc.congr (clients_activate a _ w))
  | ignored => exact h
  | fallback w' _ ih => exact ih.quiet (quiet_fault w')

/-- **`_child_data`** for a try in flight; if it is a login that succeeds now, its client was not
released. -/
theorem Accounted.childData {a : Answers} {t fd : ℕ} (h : Accounted w)
    (hworks : spawnWorks a w = true) {v : TryView} (hv : view w t = some v)
    (hdone : v.doneCalled = false)
    (hlogin : ∀ m c, SpawnMessage.unpack C ((w.tryAt t).pipe.take MAX_MSG_SIZE) = some m →
      m.type = .sessionActive → (w.tryAt t).done = .sessionDone c → Connected c w)
    (hdoes : ChildData C a t fd w w') : Accounted w' := by
  have hread : Quiet w (w.modTry t SpawnTry.readPipe) :=
    quiet_modTry (f := SpawnTry.readPipe) (fun _ => rfl) t w
  cases hdoes with
  | undecodable _ => exact h.quiet ((hread.trans (quiet_unregisterFd _ _)).trans (quiet_forceQuit _ _))
  | connect _ _ _ => exact h.quiet hread
  | setupDone _ _ _ session =>
    have hset : Quiet w ((w.modTry t SpawnTry.readPipe).modTry t
        fun tr => { tr with session := session }) := by
      refine hread.trans (quiet_modTry ?_ t _)
      exact fun _ => rfl
    refine h.quiet (Quiet.trans ?_ (quiet_sessionActivate _ _))
    split_ifs
    · exact hset.trans (quiet_forceQuit _ _)
    · exact hset
  | sessionActive m hmsg htype w' hfree =>
    have hset : Quiet w (((w.modTry t SpawnTry.readPipe).unregisterFd (w.tryAt t).readFd).modTry t
        fun tr => { tr with success := .success }) := by
      refine (hread.trans (quiet_unregisterFd _ _)).trans (quiet_modTry ?_ t _)
      exact fun _ => rfl
    refine (h.quiet hset).freed (spawnWorks_congr (by simp) hworks) (by rw [hset.views, hv]) hdone
      (fun c hc _ => ?_) hfree
    refine (hlogin m c hmsg htype ?_).congr hset.clients
    have hreq := congrArg TryView.req (view_tryAt (show view _ t = some v by rw [hset.views, hv]))
    rw [← view_tryAt hv] at hreq
    exact (congrArg SpawnRequest.done hreq).symm.trans hc
  | errorExit _ _ _ reason _ =>
    refine h.quiet ((hread.trans (quiet_unregisterFd _ _)).trans (quiet_modTry ?_ t _))
    exact fun _ => rfl
  | noReason _ _ _ _ => exact h.quiet ((hread.trans (quiet_unregisterFd _ _)).trans (quiet_fault _))

/-- **A connection is accepted** whose credentials can be read. -/
theorem Accounted.acceptReady (h : Accounted w) {a : Answers} (hpeer : a.peer.isSome = true) :
    Accounted (acceptReady a w) := by
  obtain ⟨pid, hpid⟩ := Option.isSome_iff_exists.mp hpeer
  have hget : ∀ c n : ℕ, (∃ cl : State.Client, (Server.acceptReady a w).clients[c]? = some cl ∧
      cl.freed = false ∧ cl.fd = n) ↔ (n = lowestFree w.fdtab ∧ c = w.clients.length) ∨
        ∃ cl : State.Client, w.clients[c]? = some cl ∧ cl.freed = false ∧ cl.fd = n := by
    intro c n
    have hclients : (Server.acceptReady a w).clients =
        w.clients ++ [⟨lowestFree w.fdtab, pid, none, false⟩] := by
      simp [Server.acceptReady, hpid]
    rw [hclients]
    rcases Nat.lt_trichotomy c w.clients.length with hlt | rfl | hgt
    · rw [List.getElem?_append_left hlt]
      simp [hlt.ne]
    · rw [List.getElem?_concat_length, List.getElem?_eq_none (Nat.le_refl _)]
      simpa using eq_comm
    · rw [List.getElem?_eq_none (by simp; omega), List.getElem?_eq_none (Nat.le_of_lt hgt)]
      simp [hgt.ne']
  refine ⟨h.exactly.opens (o := .sock w.clients.length) (fun n => ?_) fun n o => ?_,
    fun {r c} hr hcb => (hget c r.fd).mpr ?_⟩
  · simp [Server.acceptReady, hpid]
  · cases o with
    | std => simp [Owned]
    | listen => simp [Owned]
    | sock c => simpa [Owned] using hget c n
    | pipeRead t =>
      have htries := tries_acceptReady a w
      simp [Owned, htries]
    | pipeWrite t => simp [Owned]
  · have hmem : r ∈ w.fds.live ++ [⟨some (.clientData w.clients.length), lowestFree w.fdtab⟩] := by
      rw [← FdTable.live_registerFd]
      simpa [Server.acceptReady, hpid] using hr
    rcases List.mem_append.mp hmem with hr | hr
    · exact Or.inr (h.entry hr hcb)
    · rw [List.mem_singleton.mp hr] at hcb ⊢
      exact Or.inl ⟨rfl, by simpa using hcb.symm⟩

/-! ### The steps -/

/-- The client of a login. -/
def DoneCb.client : DoneCb → Option ℕ
  | .sessionDone c => some c
  | .greeterStartDone _ => none

variable (C) in
/-- The client whose login the step ends well: `SESSION_ACTIVE` is read. -/
def loggedIn (w : World) : Event → Option ℕ
  | .next _ =>
    match ready w with
    | some ⟨some (.childData t), _⟩ =>
      if w.registry.evalMode = false ∧
          (SpawnMessage.unpack C ((w.tryAt t).pipe.take MAX_MSG_SIZE)).any fun m =>
            m.type == .sessionActive then
        DoneCb.client (w.tryAt t).done
      else none
    | _ => none
  | _ => none

/-- If the step accepts a connection, the credentials can be read. -/
def peerKnown (w : World) : Event → Bool
  | .next a =>
    match ready w with
    | some ⟨some .acceptReady, _⟩ => a.peer.isSome
    | _ => true
  | _ => true

variable (C) in
/-- The step leaves nothing open: the credentials of a new client can be read, no spawn fails at once,
and the client of a login that ends well was not released. -/
def leavesNothing (w : World) (e : Event) : Bool :=
  peerKnown w e && stepWorks w e &&
    (loggedIn C w e).all fun c => (w.clients[c]?).any fun cl => !cl.freed

theorem connected_of_loggedIn {a : Answers} {t fd c : ℕ} {m : SpawnMessage}
    (hleaves : leavesNothing C w (.next a) = true) (heval : w.registry.evalMode = false)
    (hready : ready w = some ⟨some (.childData t), fd⟩)
    (hmsg : SpawnMessage.unpack C ((w.tryAt t).pipe.take MAX_MSG_SIZE) = some m)
    (htype : m.type = .sessionActive) (hc : (w.tryAt t).done = .sessionDone c) : Connected c w := by
  have hlogged : loggedIn C w (.next a) = some c := by
    simp [loggedIn, hready, heval, hmsg, htype, hc, DoneCb.client]
  have hany := (Bool.and_eq_true_iff.mp hleaves).2
  rw [hlogged, Option.all_some, Option.any_eq_true] at hany
  obtain ⟨cl, hcl, hfree⟩ := hany
  exact ⟨cl, hcl, by simpa using hfree⟩

/-- **A step that leaves nothing open keeps the invariant.** -/
theorem accounted_step {e : Event} (hlife : Life none w) (hcells : Cells Undecided w)
    (h : Accounted w) (hleaves : leavesNothing C w e = true) : Accounted (step C w e) := by
  have hworks : stepWorks w e = true :=
    (Bool.and_eq_true_iff.mp (Bool.and_eq_true_iff.mp hleaves).1).2
  have hpeer : peerKnown w e = true :=
    (Bool.and_eq_true_iff.mp (Bool.and_eq_true_iff.mp hleaves).1).1
  have hdoes := step_does C w e
  generalize step C w e = w' at hdoes
  have hadvance : Quiet w (advance w) := quiet_fds fun _ hr => hr
  cases hdoes with
  | idle _ => exact h
  | select readable error _ _ =>
    exact h.quiet (quiet_fds (FdTable.live_selectReturns_subset _ _ _))
  | endPass a _ => exact h.quiet (quiet_fds fun r hr => by rwa [FdTable.live_endPass] at hr)
  | pass a _ => exact h.quiet hadvance
  | accept a _ fd hready =>
    have hsome : a.peer.isSome = true := by simpa [peerKnown, hready] using hpeer
    exact (h.quiet hadvance).acceptReady hsome
  | client a c fd w' _ hready hdoes =>
    obtain ⟨cl, hcl, hfree, -⟩ := h.entry (ready_mem_live hready) rfl
    exact (h.quiet hadvance).clientData hworks ⟨cl, hcl, hfree⟩ hdoes
  | child a t fd w' heval hready hdoes =>
    obtain ⟨v, hv, hdone, -⟩ := hlife.read (ready_mem_live hready) rfl
    refine (h.quiet hadvance).childData hworks (v := v) hv hdone (fun m c hmsg htype hc => ?_) hdoes
    have hconn : Connected c w := connected_of_loggedIn hleaves heval hready hmsg htype hc
    exact hconn
  | sigchld _ => exact h.quiet ⟨rfl, rfl, rfl, fun _ hr _ _ => hr, fun _ _ _ ho => ho⟩
  | reap t tr _ _ _ _ _ =>
    refine ⟨fun n o => (h.exactly n o).trans ?_, fun hr hcb => h.entry hr hcb⟩
    cases o with
    | pipeRead t' =>
      rw [owned_pipeRead, owned_pipeRead, view_reap]
      split_ifs with ht
      · cases view w t <;> simp
      · exact Iff.rfl
    | _ => exact Iff.rfl
  | scanEnd a t i _ _ => exact h.quiet ⟨rfl, rfl, rfl, fun _ hr _ _ => hr, fun _ _ _ ho => ho⟩
  | scanPass a t i e _ _ _ => exact h.quiet (quiet_scanTo _ _ _)
  | scanZeroed a t i e _ _ _ => exact (h.quiet (quiet_fault w)).quiet (quiet_scanTo _ _ _)
  | visit a t i pid hd w' _ he _ hcalled =>
    have hlive : ⟨pid, some hd⟩ ∈ w.registry.live :=
      Registry.mem_live.mpr ⟨List.mem_of_getElem? he, rfl⟩
    refine Accounted.quiet (w := w') ?_ ((quiet_unlisten _ _ _).trans (quiet_scanTo _ _ _))
    cases hcalled with
    | disappeared t' w' hfree =>
      obtain ⟨v, hv, -, -, hdone | hx⟩ := hlife.listens hlive rfl
      · -- its callback gets an error
        refine h.freed hworks hv hdone (fun c _ hsuccess => ?_) hfree
        rw [hcells.undecided hv hdone] at hsuccess
        cases hsuccess
      · cases hx
    | lost g _ => exact (h.log _).quiet (quiet_fault _)
    | ended g r _ _ => exact (h.log _).quiet (quiet_greeterDel _ _)
    | restarted g r _ _ =>
      have hreset : Accounted (greeterReset g (w.log (.greeterCb t (some r.seat)))) :=
        (h.log _).quiet (quiet_modGreeter _ _ _)
      exact hreset.activate (spawnWorks_congr rfl hworks) r.seat
  | sigchldReturn _ => exact h.quiet ⟨rfl, rfl, rfl, fun _ hr _ _ => hr, fun _ _ _ ho => ho⟩
  | childWrite t m _ =>
    refine h.quiet (quiet_modTry ?_ t w)
    exact fun _ => rfl
  | childHangUp t _ =>
    refine h.quiet (quiet_modTry ?_ t w)
    exact fun _ => rfl
  | childExit t _ =>
    refine h.quiet (quiet_modTry ?_ t w)
    exact fun _ => rfl

/-! ### Runs -/

theorem accounted_start (debug : Bool) (templates : List Template) :
    Accounted (World.start debug templates) where
  exactly n o := by
    have hlookup : lookup (World.start debug templates).fdtab n =
        if n < 3 then some .std else if n = 3 then some .listen else none := by
      unfold lookup
      match n with
      | 0 | 1 | 2 | 3 => rfl
      | n + 4 => simp [World.start]
    rw [hlookup]
    cases o with
    | std => simp [Owned]
    | listen =>
      simp only [Owned]
      split_ifs <;> simp <;> omega
    | sock c =>
      simp only [Owned, World.start]
      split_ifs <;> simp
    | pipeRead t =>
      simp only [Owned, World.start]
      split_ifs <;> simp
    | pipeWrite t =>
      simp only [Owned]
      split_ifs <;> simp
  entry hr hcb := by
    rw [List.mem_singleton.mp (FdTable.mem_live.mp hr).1] at hcb
    cases hcb

/-- **What is open**: in every state of a run whose steps leave nothing open, the three descriptors
from the start, the server socket, the connections of the clients, and the read ends of the pipes of
the tries in flight. -/
theorem open_fds (debug : Bool) (templates : List Template) (es : List Event)
    (hleaves : Meets (step C) (fun w e => leavesNothing C w e = true)
      (World.start debug templates) es) :
    Throughout (step C) OpenExactly (World.start debug templates) es :=
  hleaves.throughout (I := fun w => Life none w ∧ Cells Undecided w ∧ Accounted w)
    (fun _ e ⟨hlife, hcells, h⟩ hok =>
      ⟨life_step hlife, undecided_step hcells e, accounted_step hlife hcells h hok⟩)
    (fun _ h => h.2.2.exactly) es _
    ⟨life_start debug templates, undecided_start debug templates, accounted_start debug templates⟩

/-- A process of a greeter connects and logs a user in, and another client comes and goes. -/
def loginEnds : List Event :=
  greeterStarts ++ turn [3] { Answers.plain with peer := some 100 } ++
    turn [4] { Answers.plain with input := .msg ⟨.loginTry, some ⟨"user", "secret", "shell"⟩, none⟩ } ++
      .childWrite 1 .sessionActive :: turn [6] Answers.plain ++ connects ++ turn [4] Answers.plain

set_option maxRecDepth 4000 in
theorem open_fds_login : Throughout (step Encoding.spawnCode) OpenExactly (World.start false [])
    loginEnds := open_fds false [] loginEnds (by decide)

/-- No terminal is left for the first spawn. -/
def noTtyLeft : Answers :=
  { Answers.plain with
    input := .msg ⟨.greeterStart, none, none⟩
    spawn := fun t => ⟨true, if t = 0 then .noTty else .forks (100 + t)⟩ }

/-- **A write end stays open**: a greeter is asked for when no terminal is left. -/
theorem write_end_left : ¬Throughout (step Encoding.spawnCode) OpenExactly (World.start false [])
    (connects ++ turn [4] noTtyLeft) := by
  intro h
  exact (h.at_end _ _ 6 (.pipeWrite 0)).mp (by decide)

/-- **A connection stays open** whose credentials cannot be read. -/
theorem connection_left : ¬Throughout (step Encoding.spawnCode) OpenExactly (World.start false [])
    (turn [3] { Answers.plain with peer := none }) := by
  intro h
  obtain ⟨cl, hcl, hfree, -⟩ := (h.at_end _ _ 4 (.sock 0)).mp (by decide)
  have hgone : (run (step Encoding.spawnCode) (World.start false [])
      (turn [3] { Answers.plain with peer := none })).clients[0]? = some ⟨0, 0, none, true⟩ := by decide
  rw [← Option.some.inj (hgone.symm.trans hcl)] at hfree
  cases hfree

end Spawny.Daemon.OpenFds
