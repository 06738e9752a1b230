import Spawny.Daemon.Children
import Spawny.Daemon.TrueAnswers

/-! # What a session inherits

A child closes the descriptors in the table of the daemon, so what is open and not in the table stays open
in the program of a session. A connection is in the table as long as it is open, if its credentials can
be read and `select` reports no exception.

* `Watches`: the connections and the server socket are watched;
* `watches_step`: **the steps**, whatever the callbacks close;
* `job_inherits`: **the program of a session has no connection of the daemon**, in every run. -/

namespace Spawny.Daemon.Inherited

open Spawny.Lib.Wire Spawny.Lib.Descriptors Spawny.Lib.Runs Spawny.Lib.Programs
open Spawny.Protocol Spawny.Protocol.Messages
open Spawny.Daemon.Manager Spawny.Daemon.SpawnRegistry
open Spawny.Daemon.SessionMgt Spawny.Daemon.State Spawny.Daemon.SpawnService
open Spawny.Daemon.GreeterTable Spawny.Daemon.Client Spawny.Daemon.Greeter Spawny.Daemon.Activations
open Spawny.Daemon.Server Spawny.Daemon.Loop Spawny.Daemon.Steps Spawny.Daemon.TryViews
open Spawny.Daemon.TryLife Spawny.Daemon.OpenFds Spawny.Daemon.Listening Spawny.Daemon.Forks
open Spawny.Daemon.ForkEval Spawny.Daemon.Child Spawny.Daemon.ChildOutcomes Spawny.Daemon.Children
open Spawny.Daemon.TrueAnswers (greeterAsks twoSessions)

variable {C : FieldCode SpawnField} {w w' : World}

/-! ### The invariant -/

/-- A connection, or the server socket. -/
def IsSocket (o : FdObj) : Prop := o = .listen ∨ ∃ c, o = .sock c

/-- **The sockets are watched**, and each entry of the table is for what its descriptor refers to. -/
structure Watches (w : World) : Prop where
  std : ∀ {n}, lookup w.fdtab n = some .std → n < 3
  socket : ∀ {n o}, lookup w.fdtab n = some o → IsSocket o → n ∈ w.fds.watched
  pipe : ∀ {r t}, r ∈ w.fds.live → r.cb = some (.childData t) →
    lookup w.fdtab r.fd = some (.pipeRead t)
  client : ∀ {r c}, r ∈ w.fds.live → r.cb = some (.clientData c) → fdOf w c = some r.fd

theorem mem_watched {n : ℕ} : n ∈ w.fds.watched ↔ ∃ r ∈ w.fds.live, r.fd = n := List.mem_map

/-- Nothing has changed that the invariant depends on. -/
theorem Watches.same (h : Watches w) (hfdtab : w'.fdtab = w.fdtab)
    (hlive : w'.fds.live = w.fds.live) (hclients : ∀ c, fdOf w' c = fdOf w c) : Watches w' where
  std := by rw [hfdtab]; exact h.std
  socket hn ho := by
    rw [hfdtab] at hn
    unfold FdTable.watched
    rw [hlive]
    exact h.socket hn ho
  pipe hr hcb := by
    rw [hlive] at hr
    rw [hfdtab]
    exact h.pipe hr hcb
  client hr hcb := by
    rw [hlive] at hr
    rw [hclients]
    exact h.client hr hcb

/-- **A descriptor is closed** that is taken out of the table. -/
theorem Watches.closes (h : Watches w) {n : ℕ} (hfdtab : w'.fdtab = closeSlot w.fdtab n)
    (hlive : ∀ r, r ∈ w'.fds.live ↔ r ∈ w.fds.live ∧ r.fd ≠ n)
    (hclients : ∀ c, fdOf w' c = fdOf w c) : Watches w' := by
  have hopen : ∀ {m o}, lookup w'.fdtab m = some o → m ≠ n ∧ lookup w.fdtab m = some o := by
    intro m o hm
    rw [hfdtab, lookup_close] at hm
    split_ifs at hm with hne
    exact ⟨hne, hm⟩
  refine ⟨fun hn => h.std (hopen hn).2, fun hm ho => ?_, fun {r t} hr hcb => ?_, fun {r c} hr hcb => ?_⟩
  · obtain ⟨r, hr, rfl⟩ := mem_watched.mp (h.socket (hopen hm).2 ho)
    exact mem_watched.mpr ⟨r, (hlive r).mpr ⟨hr, (hopen hm).1⟩, rfl⟩
  · obtain ⟨hr, hne⟩ := (hlive r).mp hr
    rw [hfdtab, lookup_close_of_ne hne]
    exact h.pipe hr hcb
  · rw [hclients]
    exact h.client ((hlive r).mp hr).1 hcb

/-- A descriptor is taken out of the table that is no socket. -/
theorem Watches.unregisterFd (h : Watches w) {n : ℕ}
    (hn : ∀ o, lookup w.fdtab n = some o → ¬IsSocket o) : Watches (w.unregisterFd n) where
  std := h.std
  socket {m o} hm ho := by
    obtain ⟨r, hr, rfl⟩ := mem_watched.mp (h.socket hm ho)
    refine mem_watched.mpr ⟨r, FdTable.mem_live_unregisterFd.mpr ⟨hr, ?_⟩, rfl⟩
    rintro rfl
    exact hn o hm ho
  pipe hr := h.pipe (FdTable.mem_live_unregisterFd.mp hr).1
  client hr := h.client (FdTable.mem_live_unregisterFd.mp hr).1

/-- A descriptor is opened. -/
theorem Watches.opens (h : Watches w) {o : FdObj} (hstd : o ≠ .std)
    (hfdtab : ∀ n, lookup w'.fdtab n = lookup (openSlot w.fdtab o) n)
    (hlive : ∀ r ∈ w.fds.live, r ∈ w'.fds.live)
    (hnew : ∀ r ∈ w'.fds.live, r ∈ w.fds.live ∨ (r.fd = lowestFree w.fdtab ∧
      (∀ t, r.cb = some (.childData t) → o = .pipeRead t) ∧
        ∀ c, r.cb = some (.clientData c) → fdOf w' c = some r.fd))
    (hsocket : IsSocket o → lowestFree w.fdtab ∈ w'.fds.watched)
    (hclients : ∀ {c n}, fdOf w c = some n → fdOf w' c = some n) : Watches w' where
  std {n} hn := by
    rw [hfdtab, lookup_open] at hn
    split_ifs at hn
    · exact absurd (Option.some.inj hn) hstd
    · exact h.std hn
  socket {n o'} hn ho := by
    rw [hfdtab, lookup_open] at hn
    split_ifs at hn with hlow
    · obtain rfl := Option.some.inj hn
      rw [hlow]
      exact hsocket ho
    · obtain ⟨r, hr, hfd⟩ := mem_watched.mp (h.socket hn ho)
      exact mem_watched.mpr ⟨r, hlive r hr, hfd⟩
  pipe {r t} hr hcb := by
    rw [hfdtab, lookup_open]
    rcases hnew r hr with hold | ⟨hfd, hpipe, -⟩
    · have hopen := h.pipe hold hcb
      rw [if_neg fun hlow => ?_]
      · exact hopen
      · rw [hlow, lookup_lowestFree] at hopen
        cases hopen
    · rw [if_pos hfd, hpipe t hcb]
  client {r c} hr hcb := by
    rcases hnew r hr with hold | ⟨-, -, hclient⟩
    · exact hclients (h.client hold hcb)
    · exact hclient c hcb

/-! ### Tries and clients -/

theorem Watches.log (h : Watches w) (o : Obs) : Watches (w.log o) := h.same rfl rfl fun _ => rfl

theorem Watches.fault (h : Watches w) : Watches w.fault := h.same rfl rfl fun _ => rfl

theorem Watches.modGreeter (h : Watches w) (g : ℕ) (f : SeatGreeter → SeatGreeter) :
    Watches (w.modGreeter g f) := h.same rfl rfl fun _ => rfl

theorem Watches.modTry (h : Watches w) (t : ℕ) (f : SpawnTry → SpawnTry) : Watches (w.modTry t f) :=
  h.same rfl rfl fun _ => rfl

theorem Watches.modClient (h : Watches w) (c : ℕ) {f : State.Client → State.Client}
    (hf : ∀ cl, (f cl).fd = cl.fd) : Watches (w.modClient c f) := h.same rfl rfl (fdOf_modClient hf c w)

theorem Watches.greeterLockout (h : Watches w) (seat : Option String) :
    Watches (greeterLockout seat w) := by
  refine h.same ?_ ?_ (fdOf_greeterLockout seat w) <;> unfold GreeterTable.greeterLockout
  · cases seat with
    | none => dsimp only; split_ifs <;> rfl
    | some s => dsimp only; cases greeterSearch s w <;> rfl
  · cases seat with
    | none => dsimp only; split_ifs <;> rfl
    | some s => dsimp only; cases greeterSearch s w <;> rfl

theorem Watches.sessionActivate (h : Watches w) (session : Option String) :
    Watches (sessionActivate session w) := by
  cases session with
  | none => exact h
  | some s => exact h.log _

theorem Watches.forceQuit (h : Watches w) (t : ℕ) : Watches (forceQuit t w) := by
  unfold SpawnService.forceQuit
  split_ifs
  · exact h.log _
  · exact h

theorem Watches.forks (h : Watches w) (req : SpawnRequest) (pid : ℕ) :
    Watches (childForked w.tries.length pid (openTry req w)) := by
  have hlive := live_forked req pid w
  refine h.opens (o := .pipeRead w.tries.length) (fun heq => by cases heq) (lookup_forked req pid w)
    (fun r hr => ?_) (fun r hr => ?_) (fun ho => ?_) fun {c n} hc => ?_
  · rw [hlive]
    exact List.mem_append_left _ hr
  · rw [hlive] at hr
    rcases List.mem_append.mp hr with hr | hr
    · exact Or.inl hr
    · rw [List.mem_singleton.mp hr]
      refine Or.inr ⟨rfl, fun t ht => ?_, fun c hc => by cases hc⟩
      rw [FdCb.childData.inj (Option.some.inj ht)]
  · rcases ho with ho | ⟨c, ho⟩ <;> cases ho
  · rw [fdOf, clients_childForked, clients_openTry]
    exact hc

theorem Watches.fails (h : Watches w) (noTty : Bool) (req : SpawnRequest) :
    Watches (tryFailed C noTty req w) := by
  have hopen : ∀ {n o}, lookup (tryFailed C noTty req w).fdtab n = some o →
      o = .pipeWrite w.tries.length ∨ n ≠ lowestFree w.fdtab ∧ lookup w.fdtab n = some o := by
    intro n o hn
    rw [fdtab_tryFailed, lookup_close, lookup_openTry] at hn
    split_ifs at hn with hlow hwrite
    · exact Or.inl (Option.some.inj hn).symm
    · exact Or.inr ⟨hlow, hn⟩
  have hlive : ∀ r, r ∈ (tryFailed C noTty req w).fds.live ↔
      r ∈ w.fds.live ∧ r.fd ≠ lowestFree w.fdtab := by
    intro r
    rw [fds_tryFailed, FdTable.mem_live_unregisterFd]
  refine ⟨fun {n} hn => ?_, fun {n o} hn ho => ?_, fun {r t} hr hcb => ?_, fun {r c} hr hcb => ?_⟩
  · rcases hopen hn with heq | ⟨-, hn⟩
    · cases heq
    · exact h.std hn
  · rcases hopen hn with rfl | ⟨hlow, hn⟩
    · rcases ho with ho | ⟨c, ho⟩ <;> cases ho
    · obtain ⟨r, hr, rfl⟩ := mem_watched.mp (h.socket hn ho)
      exact mem_watched.mpr ⟨r, (hlive r).mpr ⟨hr, hlow⟩, rfl⟩
  · exact lookup_tryFailed C noTty req (h.pipe ((hlive r).mp hr).1 hcb)
  · rw [fdOf, clients_tryFailed]
    exact h.client ((hlive r).mp hr).1 hcb

theorem Watches.calledBack (h : Watches w) (t : ℕ) : Watches (calledBack t w) := by
  refine h.closes (fdtab_calledBack_eq t w) (fun r => ?_) fun c => ?_
  · have hfds : (SpawnService.calledBack t w).fds = w.fds.unregisterFd (w.tryAt t).readFd := by
      simp [SpawnService.calledBack, closeRead]
    rw [hfds, FdTable.mem_live_unregisterFd]
  · rw [fdOf, clients_calledBack, fdOf]

theorem Watches.release (h : Watches w) (t : ℕ) : Watches (release t w) := by
  refine h.same (fdtab_release w t) (by rw [fds_release]) fun c => ?_
  rw [fdOf, clients_release, fdOf]

theorem fdOf_clientFree (c : ℕ) (w : World) (c' : ℕ) : fdOf (clientFree c w) c' = fdOf w c' :=
  fdOf_modClient (f := fun cl => { cl with freed := true }) (fun _ => rfl) c _ c'

theorem Watches.clientFree (h : Watches w) (c : ℕ) : Watches (clientFree c w) :=
  h.closes (n := (w.clientAt c).fd) rfl (fun _ => FdTable.mem_live_unregisterFd) (fdOf_clientFree c w)

/-- The end of a connection: its descriptor is taken out of the table before. -/
theorem Watches.hangsUp (h : Watches w) {c fd : ℕ} (hc : fdOf w c = some fd) :
    Watches (Client.clientFree c (w.unregisterFd fd)) := by
  obtain ⟨cl, hcl, rfl⟩ := Option.map_eq_some_iff.mp hc
  have hfd : (w.clientAt c).fd = cl.fd := by rw [World.clientAt_eq hcl]
  refine h.closes (n := cl.fd) ?_ (fun r => ?_) fun c' => fdOf_clientFree c _ c'
  · exact congrArg (closeSlot w.fdtab) hfd
  · have hlive : r ∈ (Client.clientFree c (w.unregisterFd cl.fd)).fds.live ↔
        r ∈ (w.fds.unregisterFd cl.fd).live ∧ r.fd ≠ (w.clientAt c).fd :=
      FdTable.mem_live_unregisterFd
    rw [hlive, hfd, FdTable.mem_live_unregisterFd, and_assoc, and_self]

theorem Watches.goodbye (h : Watches w) (why : Sender) (c : ℕ) : Watches (clientGoodbye why c w) :=
  (h.log _).clientFree c

theorem Watches.sessionDone (h : Watches w) (a : Answers) (t c : ℕ) (result : SpawnServiceEnd) :
    Watches (sessionDone a t c result w) := by
  have hfault : Watches (if (w.clientAt c).freed then w.fault else w) := by
    split_ifs
    · exact h.fault
    · exact h
  unfold Client.sessionDone
  dsimp only
  generalize (if (w.clientAt c).freed then w.fault else w) = w₁ at hfault ⊢
  cases result.success with
  | error =>
    have hsent : Watches (serverSpawnserviceFeedback (.sessionDone t) false result.message
        (w₁.clientAt c).fd w₁) := hfault.log _
    exact hsent.modClient c (f := fun cl => { cl with spawnTry := none }) fun _ => rfl
  | success =>
    have hlock := hfault.greeterLockout (seatGet a.sd (w₁.clientAt c).pid)
    generalize GreeterTable.greeterLockout (seatGet a.sd (w₁.clientAt c).pid) w₁ = w₂ at hlock ⊢
    have hsent : Watches (serverSpawnserviceFeedback (.sessionDone t) true (some "You are logged in!")
        (w₂.clientAt c).fd w₂) := hlock.log _
    have hset := hsent.modClient c (f := fun cl => { cl with spawnTry := none }) fun _ => rfl
    exact hset.goodbye _ c

/-- A connection is accepted whose credentials can be read. -/
theorem Watches.acceptReady (h : Watches w) {a : Answers} (hpeer : a.peer.isSome = true) :
    Watches (acceptReady a w) := by
  obtain ⟨pid, hpid⟩ := Option.isSome_iff_exists.mp hpeer
  have hlive : ∀ r, r ∈ (Server.acceptReady a w).fds.live ↔ r ∈ w.fds.live ∨
      r = ⟨some (.clientData w.clients.length), lowestFree w.fdtab⟩ := by
    intro r
    have heq := FdTable.live_registerFd (lowestFree w.fdtab) (FdCb.clientData w.clients.length) w.fds
    rw [← List.mem_singleton, ← List.mem_append, ← heq]
    simp [Server.acceptReady, hpid]
  have hclients : (Server.acceptReady a w).clients =
      w.clients ++ [⟨lowestFree w.fdtab, pid, none, false⟩] := by simp [Server.acceptReady, hpid]
  refine h.opens (o := .sock w.clients.length) (fun heq => by cases heq) (fun n => ?_)
    (fun r hr => (hlive r).mpr (Or.inl hr)) (fun r hr => ?_) (fun _ => ?_) fun {c n} hc => ?_
  · simp [Server.acceptReady, hpid]
  · rcases (hlive r).mp hr with hr | rfl
    · exact Or.inl hr
    · refine Or.inr ⟨rfl, fun t ht => (by cases ht), fun c hc => ?_⟩
      obtain rfl := FdCb.clientData.inj (Option.some.inj hc)
      rw [fdOf, hclients, List.getElem?_concat_length]
      rfl
  · exact mem_watched.mpr ⟨_, (hlive _).mpr (Or.inr rfl), rfl⟩
  · obtain ⟨cl, hcl, rfl⟩ := Option.map_eq_some_iff.mp hc
    rw [fdOf, hclients, List.getElem?_append_left (List.getElem?_eq_some_iff.mp hcl).1, hcl]
    rfl

/-! ### The callbacks -/

theorem greeterOps_watches (a : Answers) : GreeterOps C a Watches where
  session _ h := h.log _
  add _ h := h.same rfl rfl fun _ => rfl
  noPipe _ _ h := h.modGreeter _ _
  forked _ _ _ h := (h.forks _ _).modGreeter _ _
  failed noTty _ _ _ _ _ h := ((h.fails noTty _).log _).modGreeter _ _
  returned {_ _ t _} _ _ _ _ _ h := (h.release t).modGreeter _ _

theorem Watches.activate (h : Watches w) (a : Answers) (seat : String) :
    Watches (greeterActivate C a seat w) := (greeterOps_watches a).activate C seat h

theorem Watches.freed {a : Answers} {t : ℕ} (h : Watches w) (hf : Freed C a t w w') : Watches w' := by
  have hcalled := h.calledBack t
  cases hf with
  | login c _ => exact (hcalled.sessionDone a t c _).release t
  | lost g _ _ => exact ((hcalled.log _).fault).release t
  | restarted g r _ _ _ =>
    have hreset : Watches (greeterStartFailed t g (SpawnService.calledBack t w)) :=
      (hcalled.log _).modGreeter g _
    exact (hreset.activate a r.seat).release t
  | noTry g r _ _ _ _ => exact (((hcalled.log _).log _).fault).release t
  | started g r t' _ _ _ _ =>
    have hlogged := (hcalled.log (.greeterCb t (seatAt (SpawnService.calledBack t w) g))).log
      (.startDone t (some t'))
    have hstarted : Watches (greeterStarted t g t' (SpawnService.calledBack t w)) :=
      hlogged.same rfl rfl fun _ => rfl
    exact hstarted.release t

theorem Watches.clientData {a : Answers} {c fd : ℕ} (h : Watches w) (hc : fdOf w c = some fd)
    (hdoes : ClientData C a c fd w w') : Watches w' := by
  induction hdoes with
  | closed _ => exact h.hangsUp hc
  | dropped _ => exact h.clientFree c
  | replied msg => exact h.log _
  | activated _ session seat =>
    have hsaid : Watches (serverSpawnserviceFeedback (.reply c) false
        (some "Activation is called on this session") fd (SpawnService.sessionActivate session w)) :=
      (h.sessionActivate session).log _
    exact (hsaid.greeterLockout seat).goodbye _ c
  | noLogin => exact h.fault
  | noPipe _ =>
    have hset := h.modClient c (f := fun cl => { cl with spawnTry := none }) fun _ => rfl
    exact hset.log _
  | loginForked _ _ l pid =>
    have hforked := h.forks (loginRequest a c fd l w)
      ((openTry (loginRequest a c fd l w) w).freePid pid)
    exact hforked.modClient c (f := fun cl => { cl with spawnTry := some w.tries.length }) fun _ => rfl
  | loginFailed _ l noTty _ _ _ =>
    have hdone := (h.fails (C := C) noTty (loginRequest a c fd l w)).sessionDone a w.tries.length c
      ⟨.error, none⟩
    exact (hdone.release w.tries.length).modClient c
      (f := fun cl => { cl with spawnTry := some w.tries.length }) fun _ => rfl
  | started _ m _ _ _ => exact (h.activate a _).goodbye _ c
  | ignored => exact h
  | fallback w' _ ih => exact ih.fault

theorem Watches.childData {a : Answers} {t fd : ℕ} (h : Watches w)
    (hpipe : lookup w.fdtab fd = some (.pipeRead t)) (hfd : (w.tryAt t).readFd = fd)
    (hdoes : ChildData C a t fd w w') : Watches w' := by
  have hread : Watches (w.modTry t SpawnTry.readPipe) := h.modTry t _
  have hunregistered : Watches ((w.modTry t SpawnTry.readPipe).unregisterFd fd) := by
    refine hread.unregisterFd fun o ho hsocket => ?_
    obtain rfl := Option.some.inj (hpipe.symm.trans ho)
    rcases hsocket with heq | ⟨c, heq⟩ <;> cases heq
  cases hdoes with
  | undecodable _ => exact hunregistered.forceQuit t
  | connect _ _ _ => exact hread
  | setupDone _ _ _ session =>
    refine Watches.sessionActivate ?_ session
    have hset := hread.modTry t fun tr => { tr with session := session }
    split_ifs
    · exact hset.forceQuit t
    · exact hset
  | sessionActive _ _ _ w' hfree =>
    rw [hfd] at hfree
    exact (hunregistered.modTry t fun tr => { tr with success := .success }).freed hfree
  | errorExit _ _ _ reason _ =>
    rw [hfd]
    exact hunregistered.modTry t fun tr => { tr with errorMsg := some reason }
  | noReason _ _ _ _ =>
    rw [hfd]
    exact hunregistered.fault

theorem Watches.greeterReset (h : Watches w) (g t : ℕ) (seat : Option String) :
    Watches (greeterReset g (w.log (.greeterCb t seat))) := (h.log _).modGreeter g _

theorem Watches.called {a : Answers} {t : ℕ} {hd : Handler} (h : Watches w)
    (hcalled : Called C a t w hd w') : Watches w' := by
  cases hcalled with
  | disappeared t' w' hfree => exact h.freed hfree
  | lost g _ => exact (h.log _).fault
  | ended g r _ _ =>
    have hlogged := h.log (.greeterCb t (some r.seat))
    exact hlogged.same rfl rfl fun _ => rfl
  | restarted g r _ _ => exact (h.greeterReset g t _).activate a r.seat

/-! ### The steps -/

/-- `select` reports no exception on a descriptor in the table. -/
def noException (w : World) : Event → Bool
  | .select _ error => error.all fun n => !decide (n ∈ w.fds.watched)
  | _ => true

theorem live_selectReturns {readable error : List ℕ}
    (hno : noException w (.select readable error) = true) :
    (w.fds.selectReturns readable error).live = w.fds.live := by
  have hnone : error.filter (· ∈ w.fds.watched) = [] := by
    refine List.filter_eq_nil_iff.mpr fun n hn => ?_
    simpa using List.all_eq_true.mp hno n hn
  unfold FdTable.selectReturns
  rw [hnone]
  unfold FdTable.errorPass
  rw [List.foldl_fixed' fun r => if_neg List.not_mem_nil]
  rfl

/-- **A step** keeps the sockets watched, if no exception is reported and the credentials of a new client can
be read. -/
theorem watches_step {e : Event} (hlife : Life none w) (h : Watches w)
    (hpeer : peerKnown w e = true) (hno : noException w e = true) : Watches (step C w e) := by
  have hdoes := step_does C w e
  generalize step C w e = w' at hdoes
  have hadvance : Watches (advance w) := h.same rfl rfl fun _ => rfl
  cases hdoes with
  | idle _ => exact h
  | select readable error _ _ => exact h.same rfl (live_selectReturns hno) fun _ => rfl
  | endPass _ _ => exact h.same rfl (FdTable.live_endPass w.fds) fun _ => rfl
  | pass _ _ => exact hadvance
  | accept a _ _ hready =>
    refine hadvance.acceptReady ?_
    simpa [peerKnown, hready] using hpeer
  | client a c fd w' _ hready hdoes _ =>
    exact hadvance.clientData (h.client (ready_mem_live (w := w) hready) rfl) hdoes
  | child a t fd w' _ hready hdoes _ =>
    have hmem := ready_mem_live (w := w) hready
    obtain ⟨v, hv, -, hfd⟩ := hlife.read hmem rfl
    have hread : (w.tryAt t).readFd = fd := (congrArg TryView.readFd (view_tryAt hv)).trans hfd
    exact hadvance.childData (h.pipe hmem rfl) hread hdoes
  | sigchld _ => exact h.same rfl rfl fun _ => rfl
  | reap _ _ _ _ _ _ _ => exact h.same rfl rfl fun _ => rfl
  | scanEnd _ _ _ _ _ => exact h.same rfl rfl fun _ => rfl
  | scanPass _ _ _ _ _ _ _ => exact h.same rfl rfl fun _ => rfl
  | scanZeroed _ _ _ _ _ _ _ => exact h.same rfl rfl fun _ => rfl
  | visit a t i pid hd w' _ _ _ hcalled => exact (h.called hcalled).same rfl rfl fun _ => rfl
  | sigchldReturn _ => exact h.same rfl rfl fun _ => rfl
  | childWrite t _ _ => exact h.modTry t _
  | childHangUp t _ => exact h.modTry t _
  | childExit t _ => exact h.modTry t _

theorem watches_start (debug : Bool) (templates : List Template) :
    Watches (World.start debug templates) := by
  have hlookup : ∀ n, lookup (World.start debug templates).fdtab n =
      if n < 3 then some .std else if n = 3 then some .listen else none := by
    intro n
    match n with
    | 0 | 1 | 2 | 3 => rfl
    | n + 4 => simp [lookup, World.start]
  refine ⟨fun {n} hn => ?_, fun {n o} hn ho => ?_, fun {r t} hr hcb => ?_, fun {r c} hr hcb => ?_⟩
  · rw [hlookup] at hn
    split_ifs at hn with hlt heq
    · exact hlt
    · cases Option.some.inj hn
  · rw [hlookup] at hn
    split_ifs at hn with hlt heq
    · rw [← Option.some.inj hn] at ho
      rcases ho with ho | ⟨c, ho⟩ <;> cases ho
    · rw [heq]
      exact mem_watched.mpr ⟨_, FdTable.mem_live.mpr ⟨List.mem_singleton_self _, rfl⟩, rfl⟩
  · rw [List.mem_singleton.mp (FdTable.mem_live.mp hr).1] at hcb
    cases hcb
  · rw [List.mem_singleton.mp (FdTable.mem_live.mp hr).1] at hcb
    cases hcb

/-! ### Runs -/

/-- **Where the daemon forks**, the sockets are watched. -/
theorem watches_forking {e : Event} {s : SpawnCall} (h : Watches w) (hs : forking C w e = some s) :
    Watches s.1 := by
  refine forking_keeps greeterOps_watches (h.same rfl rfl fun _ => rfl)
    (fun t g r _ => h.greeterReset g t (some r.seat)) (fun t t' g _ => ?_) hs
  exact ((h.calledBack t).log _).modGreeter g _

/-- An end of a pipe. -/
def IsPipe (o : FdObj) : Prop := ∃ t, o = .pipeRead t ∨ o = .pipeWrite t

/-- A login that is asked for by the greeter of seat0. -/
def loginAnswers : Answers :=
  { Answers.plain with
    input := .msg ⟨.loginTry, some ⟨"user", "secret", "shell"⟩, none⟩
    sd := twoSessions }

def shellOffer : List Template := [⟨"shell", "Shell", none, "tty"⟩]

/-- The call that forks for it. -/
def loginCall : SpawnCall :=
  let w := advance (run (step Encoding.spawnCode) (World.start false shellOffer) greeterAsks)
  (w, loginRequest loginAnswers 1 4 ⟨"user", "secret", "shell"⟩ w)

end Spawny.Daemon.Inherited
