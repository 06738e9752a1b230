import Spawny.Daemon.OpenFds

/-! # The server socket stays open

The daemon closes descriptors by the numbers that it has written down in its clients and tries, and
these may be out of date. But they are always numbers of something that was opened after the server
socket, so whatever clients and children do, the socket stays open, and the daemon goes on to accept
connections as long as `select` reports no exception on it.

* `Base.calledBack`, `Base.clientFree`: what the daemon closes has a higher number;
* `base_step`: the steps;
* `listening_iff`: **when the daemon listens in every state of a run**. -/

namespace Spawny.Daemon.Listening

open Spawny.Lib.Wire Spawny.Lib.Descriptors Spawny.Lib.Runs Spawny.Protocol Spawny.Protocol.Messages
open Spawny.Daemon.Manager Spawny.Daemon.SpawnRegistry
open Spawny.Daemon.SessionMgt Spawny.Daemon.State Spawny.Daemon.SpawnService
open Spawny.Daemon.GreeterTable Spawny.Daemon.Client Spawny.Daemon.Greeter Spawny.Daemon.Activations
open Spawny.Daemon.Server Spawny.Daemon.Loop Spawny.Daemon.Steps Spawny.Daemon.TryViews
open Spawny.Daemon.TryLife Spawny.Daemon.TryCells

variable {C : FieldCode SpawnField} {w w' : World} {p : Prop}

/-! ### The invariant -/

/-- The descriptor that is written down in the client `c`. -/
def fdOf (w : World) (c : ℕ) : Option ℕ := (w.clients[c]?).map State.Client.fd

/-- The connection of the client `c` was accepted behind the server socket. -/
def Accepted (w : World) (c : ℕ) : Prop := ∃ n, fdOf w c = some n ∧ 4 ≤ n

/-- The client `c` is read, or it is the client of a login. -/
def Refers (w : World) (c : ℕ) : Prop :=
  (∃ r ∈ w.fds.live, r.cb = some (.clientData c)) ∨
    ∃ t v, view w t = some v ∧ v.req.done = .sessionDone c

/-- **The invariant of the first four descriptors.** `p` says that the server socket is still
registered. -/
structure Base (p : Prop) (w : World) : Prop where
  std : ∀ n < 3, lookup w.fdtab n = some .std
  listen : lookup w.fdtab 3 = some .listen
  pipe : ∀ {t v}, view w t = some v → 4 ≤ v.readFd
  client : ∀ {c}, Refers w c → Accepted w c
  entry : ∀ {r c}, r ∈ w.fds.live → r.cb = some (.clientData c) → 4 ≤ r.fd
  accepts : p → ⟨some .acceptReady, 3⟩ ∈ w.fds.live

theorem Base.low (h : Base p w) : ∀ n < 4, lookup w.fdtab n ≠ none := by
  intro n hn
  rcases Nat.lt_succ_iff_lt_or_eq.mp hn with hlt | rfl
  · rw [h.std n hlt]
    exact Option.some_ne_none _
  · rw [h.listen]
    exact Option.some_ne_none _

/-- New descriptors have higher numbers. -/
theorem Base.four_le (h : Base p w) : 4 ≤ lowestFree w.fdtab := by
  by_contra hlt
  exact h.low _ (Nat.not_le.mp hlt) (lookup_lowestFree w.fdtab)

theorem Refers.congr {c : ℕ} (h : Refers w' c) (hviews : view w' = view w)
    (hlive : ∀ r ∈ w'.fds.live, r.cb = some (.clientData c) → r ∈ w.fds.live) : Refers w c := by
  rcases h with ⟨r, hr, hcb⟩ | ⟨t, v, hv, hdone⟩
  · exact Or.inl ⟨r, hlive r hr hcb, hcb⟩
  · rw [hviews] at hv
    exact Or.inr ⟨t, v, hv, hdone⟩

theorem accepted_congr {c : ℕ} (hfd : ∀ c, fdOf w' c = fdOf w c) : Accepted w' c ↔ Accepted w c := by
  unfold Accepted
  rw [hfd]

/-- Nothing has changed that the invariant depends on. -/
theorem Base.same (h : Base p w) (hclients : ∀ c, fdOf w' c = fdOf w c) (hviews : view w' = view w)
    (hfdtab : w'.fdtab = w.fdtab) (hlive : w'.fds.live = w.fds.live) : Base p w' where
  std := by rw [hfdtab]; exact h.std
  listen := by rw [hfdtab]; exact h.listen
  pipe := by rw [hviews]; exact h.pipe
  client hc := (accepted_congr hclients).mpr
    (h.client (hc.congr hviews fun r hr _ => hlive ▸ hr))
  entry := by rw [hlive]; exact h.entry
  accepts := by rw [hlive]; exact h.accepts

/-! ### What the daemon does to the tables -/

theorem Base.unregisterFd (h : Base p w) {n : ℕ} (hn : 4 ≤ n) : Base p (w.unregisterFd n) where
  std := h.std
  listen := h.listen
  pipe := h.pipe
  client hc := h.client (hc.congr rfl fun _ hr _ => (FdTable.mem_live_unregisterFd.mp hr).1)
  entry hr := h.entry (FdTable.mem_live_unregisterFd.mp hr).1
  accepts hp := FdTable.mem_live_unregisterFd.mpr ⟨h.accepts hp, fun heq => by
    have : (3 : ℕ) = n := heq
    omega⟩

theorem Base.closeFd (h : Base p w) {n : ℕ} (hn : 4 ≤ n) : Base p (w.closeFd n) where
  std m hm := by
    refine (lookup_close_of_ne ?_).trans (h.std m hm)
    omega
  listen := by
    refine (lookup_close_of_ne ?_).trans h.listen
    omega
  pipe := h.pipe
  client := h.client
  entry := h.entry
  accepts := h.accepts

theorem Base.modGreeter (h : Base p w) (g : ℕ) (f : SeatGreeter → SeatGreeter) :
    Base p (w.modGreeter g f) := h.same (fun _ => rfl) rfl rfl rfl

theorem Base.log (h : Base p w) (o : Obs) : Base p (w.log o) := h.same (fun _ => rfl) rfl rfl rfl

theorem Base.fault (h : Base p w) : Base p w.fault := h.same (fun _ => rfl) rfl rfl rfl

theorem fdOf_modClient {f : State.Client → State.Client} (hf : ∀ cl, (f cl).fd = cl.fd) (c : ℕ)
    (w : World) (c' : ℕ) : fdOf (w.modClient c f) c' = fdOf w c' := by
  rw [fdOf, World.getElem?_modClient, Option.map_map, fdOf]
  refine congrArg (fun k => (w.clients[c']?).map k) (funext fun cl => ?_)
  dsimp only [Function.comp_apply]
  split_ifs
  · exact hf cl
  · rfl

theorem Base.modClient (h : Base p w) (c : ℕ) {f : State.Client → State.Client}
    (hf : ∀ cl, (f cl).fd = cl.fd) : Base p (w.modClient c f) :=
  h.same (fdOf_modClient hf c w) rfl rfl rfl

/-- Most fields of a try do not matter. -/
theorem Base.modTry (h : Base p w) {f : SpawnTry → SpawnTry}
    (hf : ∀ tr, SpawnTry.view (f tr) = SpawnTry.view tr) (t : ℕ) : Base p (w.modTry t f) :=
  h.same (fun _ => rfl) (view_modTry_same hf t w) rfl rfl

theorem Base.greeterLockout (h : Base p w) (seat : Option String) : Base p (greeterLockout seat w) := by
  unfold GreeterTable.greeterLockout
  cases seat with
  | none =>
    dsimp only
    split_ifs
    · exact h
    · exact h.fault
  | some s =>
    dsimp only
    cases greeterSearch s w with
    | none => exact h
    | some g => exact (h.modGreeter g _).log _

theorem Base.sessionActivate (h : Base p w) (session : Option String) :
    Base p (sessionActivate session w) := by
  cases session with
  | none => exact h
  | some s => exact h.log _

theorem Base.forceQuit (h : Base p w) (t : ℕ) : Base p (forceQuit t w) := by
  unfold SpawnService.forceQuit
  split_ifs
  · exact h.log _
  · exact h

/-! ### Tries -/

/-- The views of the tries change, but not their pipes and callbacks. -/
theorem Base.reviewed (h : Base p w) {t : ℕ} {f : TryView → TryView}
    (hf : ∀ v, (f v).readFd = v.readFd ∧ (f v).req = v.req)
    (hviews : ∀ t', view w' t' = if t = t' then (view w t').map f else view w t')
    (hclients : ∀ c, fdOf w' c = fdOf w c) (hfdtab : w'.fdtab = w.fdtab)
    (hlive : w'.fds.live = w.fds.live) : Base p w' := by
  have hold : ∀ {t' v}, view w' t' = some v →
      ∃ v₀, view w t' = some v₀ ∧ v.readFd = v₀.readFd ∧ v.req = v₀.req := by
    intro t' v hv
    rw [hviews] at hv
    split_ifs at hv
    · obtain ⟨v₀, hv₀, rfl⟩ := Option.map_eq_some_iff.mp hv
      exact ⟨v₀, hv₀, hf v₀⟩
    · exact ⟨v, hv, rfl, rfl⟩
  refine ⟨by rw [hfdtab]; exact h.std, by rw [hfdtab]; exact h.listen, fun hv => ?_,
    fun hc => (accepted_congr hclients).mpr (h.client ?_), by rw [hlive]; exact h.entry,
    by rw [hlive]; exact h.accepts⟩
  · obtain ⟨v₀, hv₀, hread, -⟩ := hold hv
    rw [hread]
    exact h.pipe hv₀
  · rcases hc with ⟨r, hr, hcb⟩ | ⟨t', v, hv, hdone⟩
    · exact Or.inl ⟨r, hlive ▸ hr, hcb⟩
    · obtain ⟨v₀, hv₀, -, hreq⟩ := hold hv
      exact Or.inr ⟨t', v₀, hv₀, hreq ▸ hdone⟩

theorem Base.release (h : Base p w) (t : ℕ) : Base p (release t w) := by
  refine h.reviewed (f := fun v => { v with pid := -1, freed := true }) (fun _ => ⟨rfl, rfl⟩)
    (view_release t w) (fun c => ?_) (fdtab_release w t) (by rw [fds_release])
  rw [fdOf, clients_release, fdOf]

/-- **The pipe of a try is closed.** -/
theorem Base.calledBack (h : Base p w) {t : ℕ} {v : TryView} (hv : view w t = some v) :
    Base p (calledBack t w) := by
  have hfd : (w.tryAt t).readFd = v.readFd := congrArg TryView.readFd (view_tryAt hv)
  have hread : 4 ≤ (w.tryAt t).readFd := by
    rw [hfd]
    exact h.pipe hv
  have hclosed : Base p (closeRead t w) := (h.unregisterFd hread).closeFd hread
  have hset : Base p ((closeRead t w).modTry t fun tr => { tr with doneCalled := true }) :=
    hclosed.reviewed (f := fun v => { v with doneCalled := true }) (fun _ => ⟨rfl, rfl⟩)
      (view_modTry (fun _ => rfl) t _) (fun _ => rfl) rfl rfl
  exact hset.log _

/-- A new try; a login is for a client whose connection was accepted. -/
theorem Base.forks (h : Base p w) (req : SpawnRequest) (pid : ℕ)
    (hreq : ∀ c, req.done = .sessionDone c → Accepted w c) :
    Base p (childForked w.tries.length pid (openTry req w)) := by
  have hlow := h.four_le
  have hopen : ∀ {n o}, lookup w.fdtab n = some o →
      lookup (childForked w.tries.length pid (openTry req w)).fdtab n = some o := by
    intro n o hn
    rw [lookup_forked]
    exact lookup_open_of_some hn _
  have hclients : ∀ c, fdOf (childForked w.tries.length pid (openTry req w)) c = fdOf w c := by
    intro c
    rw [fdOf, clients_childForked, clients_openTry, fdOf]
  have hlive := live_forked req pid w
  refine ⟨fun n hn => hopen (h.std n hn), hopen h.listen, fun {t v} hv => ?_,
    fun {c} hc => (accepted_congr hclients).mpr ?_, fun {r c} hr hcb => ?_, fun hp => ?_⟩
  · rw [view_forked] at hv
    split_ifs at hv
    · rw [← Option.some.inj hv]
      exact hlow
    · exact h.pipe hv
  · rcases hc with ⟨r, hr, hcb⟩ | ⟨t, v, hv, hdone⟩
    · rw [hlive] at hr
      rcases List.mem_append.mp hr with hr | hr
      · exact h.client (Or.inl ⟨r, hr, hcb⟩)
      · rw [List.mem_singleton.mp hr] at hcb
        cases hcb
    · rw [view_forked] at hv
      split_ifs at hv
      · rw [← Option.some.inj hv] at hdone
        exact hreq c hdone
      · exact h.client (Or.inr ⟨t, v, hv, hdone⟩)
  · rw [hlive] at hr
    rcases List.mem_append.mp hr with hr | hr
    · exact h.entry hr hcb
    · rw [List.mem_singleton.mp hr] at hcb
      cases hcb
  · rw [hlive]
    exact List.mem_append_left _ (h.accepts hp)

theorem fds_tryFailed (noTty : Bool) (req : SpawnRequest) (w : World) :
    (tryFailed C noTty req w).fds = w.fds.unregisterFd (lowestFree w.fdtab) := by
  have hfd := readFd_modTry_openTry req w
    (SpawnTry.writePipe C ⟨.errorExit, some "Failed to find tty"⟩) fun _ => rfl
  unfold tryFailed
  cases noTty
  · simp [closeRead, tryAt_openTry, newTry]
  · simp [closeRead, serviceComExit, hfd]

/-- A try that fails at once closes the read end of its own pipe. -/
theorem Base.fails (h : Base p w) (noTty : Bool) {req : SpawnRequest}
    (hreq : ∀ c, req.done = .sessionDone c → Accepted w c) : Base p (tryFailed C noTty req w) := by
  have hlow := h.four_le
  have hclients : ∀ c, fdOf (tryFailed C noTty req w) c = fdOf w c := by
    intro c
    rw [fdOf, clients_tryFailed, fdOf]
  have hlive := live_tryFailed C noTty req w
  refine ⟨fun n hn => lookup_tryFailed C noTty req (h.std n hn), lookup_tryFailed C noTty req h.listen,
    fun {t v} hv => ?_, fun {c} hc => (accepted_congr hclients).mpr ?_,
    fun {r c} hr hcb => h.entry (hlive r hr) hcb, fun hp => ?_⟩
  · rw [view_tryFailed] at hv
    split_ifs at hv
    · rw [← Option.some.inj hv]
      exact hlow
    · exact h.pipe hv
  · rcases hc with ⟨r, hr, hcb⟩ | ⟨t, v, hv, hdone⟩
    · exact h.client (Or.inl ⟨r, hlive r hr, hcb⟩)
    · rw [view_tryFailed] at hv
      split_ifs at hv
      · rw [← Option.some.inj hv] at hdone
        exact hreq c hdone
      · exact h.client (Or.inr ⟨t, v, hv, hdone⟩)
  · rw [fds_tryFailed]
    refine FdTable.mem_live_unregisterFd.mpr ⟨h.accepts hp, fun heq => ?_⟩
    have : 3 = lowestFree w.fdtab := heq
    omega

/-! ### Clients -/

/-- **The connection of a client is closed.** -/
theorem Base.clientFree (h : Base p w) {c : ℕ} (hc : Accepted w c) : Base p (clientFree c w) := by
  obtain ⟨n, hn, hle⟩ := hc
  obtain ⟨cl, hcl, rfl⟩ := Option.map_eq_some_iff.mp hn
  rw [← World.clientAt_eq hcl] at hle
  have hclosed : Base p ((w.unregisterFd (w.clientAt c).fd).closeFd (w.clientAt c).fd) :=
    (h.unregisterFd hle).closeFd hle
  exact hclosed.modClient c (f := fun cl => { cl with freed := true }) fun _ => rfl

theorem Base.goodbye (h : Base p w) (why : Sender) {c : ℕ} (hc : Accepted w c) :
    Base p (clientGoodbye why c w) := (h.log _).clientFree hc

theorem fdOf_greeterLockout (seat : Option String) (w : World) (c : ℕ) :
    fdOf (greeterLockout seat w) c = fdOf w c := by
  unfold GreeterTable.greeterLockout
  cases seat with
  | none =>
    dsimp only
    split_ifs <;> rfl
  | some s =>
    dsimp only
    cases greeterSearch s w <;> rfl

theorem Base.sessionDone (h : Base p w) (a : Answers) (t : ℕ) {c : ℕ} (hc : Accepted w c)
    (result : SpawnServiceEnd) : Base p (sessionDone a t c result w) := by
  have hfault : Base p (if (w.clientAt c).freed then w.fault else w) := by
    split_ifs
    · exact h.fault
    · exact h
  have hacc : Accepted (if (w.clientAt c).freed then w.fault else w) c := by
    split_ifs <;> exact hc
  unfold Client.sessionDone
  dsimp only
  generalize (if (w.clientAt c).freed then w.fault else w) = w₁ at hfault hacc ⊢
  cases result.success with
  | error =>
    have hsent : Base p (serverSpawnserviceFeedback (.sessionDone t) false result.message
        (w₁.clientAt c).fd w₁) := hfault.log _
    exact hsent.modClient c (f := fun cl => { cl with spawnTry := none }) fun _ => rfl
  | success =>
    dsimp only
    have hlock := hfault.greeterLockout (seatGet a.sd (w₁.clientAt c).pid)
    have hacc₂ := (accepted_congr (c := c)
      (fdOf_greeterLockout (seatGet a.sd (w₁.clientAt c).pid) w₁)).mpr hacc
    generalize GreeterTable.greeterLockout (seatGet a.sd (w₁.clientAt c).pid) w₁ = w₂ at hlock hacc₂ ⊢
    have hsent : Base p (serverSpawnserviceFeedback (.sessionDone t) true (some "You are logged in!")
        (w₂.clientAt c).fd w₂) := hlock.log _
    have hset := hsent.modClient c (f := fun cl => { cl with spawnTry := none }) fun _ => rfl
    refine hset.goodbye _ ((accepted_congr fun c' => ?_).mpr hacc₂)
    exact fdOf_modClient (f := fun cl => { cl with spawnTry := none }) (fun _ => rfl) c _ c'

/-- A new connection has a higher number. -/
theorem Base.acceptReady (h : Base p w) (a : Answers) : Base p (acceptReady a w) := by
  have hlow := h.four_le
  have hopen : ∀ {n o}, lookup w.fdtab n = some o →
      lookup (openSlot w.fdtab (.sock w.clients.length)) n = some o :=
    fun hn => lookup_open_of_some hn _
  have hold : ∀ {cl : State.Client} {c : ℕ}, Accepted w c →
      ∃ n, ((w.clients ++ [cl])[c]?).map State.Client.fd = some n ∧ 4 ≤ n := by
    rintro cl c ⟨n, hn, hle⟩
    refine ⟨n, ?_, hle⟩
    obtain ⟨cl', hcl', -⟩ := Option.map_eq_some_iff.mp hn
    rw [List.getElem?_append_left (List.getElem?_eq_some_iff.mp hcl').1]
    exact hn
  unfold Server.acceptReady
  cases a.peer with
  | none =>
    exact ⟨fun n hn => hopen (h.std n hn), hopen h.listen, h.pipe, fun hc => hold (h.client hc), h.entry,
      h.accepts⟩
  | some pid =>
    dsimp only
    set cl : State.Client := ⟨lowestFree w.fdtab, pid, none, false⟩ with hcl
    have hlive : ∀ r, r ∈ (World.registerFd (lowestFree w.fdtab) (.clientData w.clients.length)
        { w.openFd (.sock w.clients.length) with clients := w.clients ++ [cl] }).fds.live ↔
          r ∈ w.fds.live ∨ r = ⟨some (.clientData w.clients.length), lowestFree w.fdtab⟩ := by
      intro r
      have heq := FdTable.live_registerFd (lowestFree w.fdtab) (FdCb.clientData w.clients.length) w.fds
      refine (iff_of_eq (congrArg (r ∈ ·) heq)).trans ?_
      rw [List.mem_append, List.mem_singleton]
    refine ⟨fun n hn => hopen (h.std n hn), hopen h.listen, h.pipe, fun {c} hc => ?_,
      fun {r c} hr hcb => ?_, fun hp => (hlive _).mpr (Or.inl (h.accepts hp))⟩
    · rcases hc with ⟨r, hr, hcb⟩ | ⟨t, v, hv, hdone⟩
      · rcases (hlive r).mp hr with hr | rfl
        · exact hold (h.client (Or.inl ⟨r, hr, hcb⟩))
        · obtain rfl := FdCb.clientData.inj (Option.some.inj hcb)
          refine ⟨lowestFree w.fdtab, ?_, hlow⟩
          change ((w.clients ++ [cl])[w.clients.length]?).map State.Client.fd = _
          rw [List.getElem?_concat_length]
          rfl
      · exact hold (h.client (Or.inr ⟨t, v, hv, hdone⟩))
    · rcases (hlive r).mp hr with hr | rfl
      · exact h.entry hr hcb
      · exact hlow

/-! ### The callbacks -/

theorem Base.greeterFailed (h : Base p w) (noTty : Bool) (g : ℕ) (seat : String) :
    Base p (greeterFailed C noTty g seat w) := by
  have hfailed : Base p (tryFailed C noTty (greeterRequest g seat) w) :=
    h.fails noTty fun c hc => by cases hc
  exact (hfailed.log _).modGreeter g _

theorem greeterOps_base (a : Answers) : GreeterOps C a (Base p) where
  session _ h := h.log _
  add _ h := h.same (fun _ => rfl) rfl rfl rfl
  noPipe _ _ h := h.modGreeter _ _
  forked pid _ _ h := (h.forks _ _ fun c hc => by cases hc).modGreeter _ _
  failed noTty _ _ _ _ _ h := h.greeterFailed noTty _ _
  returned {_ _ t _} _ _ _ _ _ h := (h.release t).modGreeter _ _

theorem Base.activate (h : Base p w) (a : Answers) (seat : String) :
    Base p (greeterActivate C a seat w) := (greeterOps_base a).activate C seat h

theorem Base.freed {a : Answers} {t : ℕ} {v : TryView} (h : Base p w) (hv : view w t = some v)
    (hf : Freed C a t w w') : Base p w' := by
  have hcalled := h.calledBack hv
  cases hf with
  | login c hdone =>
    have hreq : v.req.done = .sessionDone c := by
      rw [← view_tryAt hv]
      exact hdone
    have hacc : Accepted (SpawnService.calledBack t w) c := by
      refine (accepted_congr fun c' => ?_).mpr (h.client (Or.inr ⟨t, v, hv, hreq⟩))
      rw [fdOf, clients_calledBack, fdOf]
    exact (hcalled.sessionDone a t hacc _).release t
  | lost g _ _ => exact ((hcalled.log _).fault).release t
  | restarted g r _ _ _ =>
    have hfailed : Base p (greeterStartFailed t g (SpawnService.calledBack t w)) :=
      (hcalled.log _).modGreeter g _
    exact (hfailed.activate a r.seat).release t
  | noTry g r _ _ _ _ => exact (((hcalled.log _).log _).fault).release t
  | started g r t' _ _ _ _ =>
    have hset : Base p ((((SpawnService.calledBack t w).log
        (.greeterCb t (seatAt (SpawnService.calledBack t w) g))).log (.startDone t (some t'))).modGreeter
          g fun r => { r with runTry := none, runPid :=
            (((SpawnService.calledBack t w).log (.greeterCb t
              (seatAt (SpawnService.calledBack t w) g))).log (.startDone t (some t'))).tryAt t' |>.pid }) :=
      ((hcalled.log _).log _).modGreeter g _
    have hstarted : Base p (greeterStarted t g t' (SpawnService.calledBack t w)) :=
      hset.same (fun _ => rfl) rfl rfl rfl
    exact hstarted.release t

theorem Base.clientData {a : Answers} {c fd : ℕ} (h : Base p w) (hc : Accepted w c) (hfd : 4 ≤ fd)
    (hdoes : ClientData C a c fd w w') : Base p w' := by
  induction hdoes with
  | closed _ => exact (h.unregisterFd hfd).clientFree hc
  | dropped _ => exact h.clientFree hc
  | replied msg => exact h.log _
  | activated _ session seat =>
    have hsent : Base p (serverSpawnserviceFeedback (.reply c) false
        (some "Activation is called on this session") fd (SpawnService.sessionActivate session w)) :=
      (h.sessionActivate session).log _
    refine (hsent.greeterLockout seat).goodbye _ ((accepted_congr fun c' => ?_).mpr hc)
    refine (fdOf_greeterLockout seat _ c').trans ?_
    cases session <;> rfl
  | noLogin => exact h.fault
  | noPipe _ =>
    have hset := h.modClient c (f := fun cl => { cl with spawnTry := none }) fun _ => rfl
    exact hset.log _
  | loginForked _ _ l pid =>
    have hforked := h.forks (loginRequest a c fd l w)
      ((openTry (loginRequest a c fd l w) w).freePid pid) fun c' hc' => DoneCb.sessionDone.inj hc' ▸ hc
    exact hforked.modClient c (f := fun cl => { cl with spawnTry := some w.tries.length }) fun _ => rfl
  | loginFailed _ l noTty _ _ _ =>
    have hfailed : Base p (tryFailed C noTty (loginRequest a c fd l w) w) :=
      h.fails noTty fun c' hc' => DoneCb.sessionDone.inj hc' ▸ hc
    have hacc : Accepted (tryFailed C noTty (loginRequest a c fd l w) w) c := by
      refine (accepted_congr fun c' => ?_).mpr hc
      rw [fdOf, clients_tryFailed, fdOf]
    have hdone := (hfailed.sessionDone a w.tries.length hacc ⟨.error, none⟩).release w.tries.length
    exact hdone.modClient c (f := fun cl => { cl with spawnTry := some w.tries.length }) fun _ => rfl
  | started _ m _ _ _ =>
    refine (h.activate a _).goodbye _ ((accepted_congr fun c' => ?_).mpr hc)
    rw [fdOf, OpenFds.clients_activate, fdOf]
  | ignored => exact h
  | fallback w' _ ih => exact ih.fault

theorem Base.childData {a : Answers} {t fd : ℕ} {v : TryView} (h : Base p w) (hv : view w t = some v)
    (hfd : 4 ≤ fd) (hdoes : ChildData C a t fd w w') : Base p w' := by
  have hset : ∀ {w : World} (f : SpawnTry → SpawnTry),
      (∀ tr, SpawnTry.view (f tr) = SpawnTry.view tr) → Base p w → Base p (w.modTry t f) :=
    fun _ hf h => h.modTry hf t
  have hread : Base p (w.modTry t SpawnTry.readPipe) := hset SpawnTry.readPipe (fun _ => rfl) h
  have hpipe : 4 ≤ (w.tryAt t).readFd := by
    have heq : (w.tryAt t).readFd = v.readFd := congrArg TryView.readFd (view_tryAt hv)
    rw [heq]
    exact h.pipe hv
  cases hdoes with
  | undecodable _ => exact (hread.unregisterFd hfd).forceQuit t
  | connect _ _ _ => exact hread
  | setupDone _ _ _ session =>
    refine Base.sessionActivate ?_ session
    have hsession := hset (fun tr => { tr with session := session }) (fun _ => rfl) hread
    split_ifs
    · exact hsession.forceQuit t
    · exact hsession
  | sessionActive _ _ _ w' hfree =>
    have hsucceeded := hset (fun tr => { tr with success := .success }) (fun _ => rfl)
      (hread.unregisterFd hpipe)
    have hviews : view (((w.modTry t SpawnTry.readPipe).unregisterFd (w.tryAt t).readFd).modTry t
        fun tr => { tr with success := .success }) = view w := by
      refine (view_modTry_same ?_ t _).trans (view_modTry_same (f := SpawnTry.readPipe) ?_ t w)
      · exact fun _ => rfl
      · exact fun _ => rfl
    exact hsucceeded.freed ((congrFun hviews t).trans hv) hfree
  | errorExit _ _ _ reason _ =>
    exact hset (fun tr => { tr with errorMsg := some reason }) (fun _ => rfl) (hread.unregisterFd hpipe)
  | noReason _ _ _ _ => exact (hread.unregisterFd hpipe).fault

theorem Base.called {a : Answers} {t : ℕ} {hd : Handler} (h : Base p w)
    (hfree : ∀ t', hd = .spawnedSessionDisappear t' → ∃ v, view w t' = some v)
    (hcalled : Called C a t w hd w') : Base p w' := by
  cases hcalled with
  | disappeared t' w' hdoes =>
    obtain ⟨v, hv⟩ := hfree t' rfl
    exact h.freed hv hdoes
  | lost g _ => exact (h.log _).fault
  | ended g r _ _ =>
    have hlog := h.log (.greeterCb t (some r.seat))
    exact hlog.same (fun _ => rfl) rfl rfl rfl
  | restarted g r _ _ =>
    have hreset : Base p (greeterReset g (w.log (.greeterCb t (some r.seat)))) :=
      (h.log _).modGreeter g _
    exact hreset.activate a r.seat

/-! ### The steps -/

/-- `select` reports an exception on the server socket. -/
def socketFails (w : World) : Event → Bool
  | .select _ error => !w.fds.readout && !w.registry.evalMode && decide (3 ∈ error)
  | _ => false

/-- What is not in the error set is kept. -/
theorem mem_live_errorPass {error : List ℕ} {m : FdTable FdCb} {r : FdRegister FdCb} (hr : r ∈ m.live)
    (hfd : r.fd ∉ error) : r ∈ (m.errorPass error).live := by
  unfold FdTable.errorPass
  suffices h : ∀ (l : List (FdRegister FdCb)) (m' : FdTable FdCb), r ∈ m'.live →
      r ∈ (l.foldl (fun m e => if e.fd ∈ error then m.unregisterFd e.fd else m) m').live from
    h m.fds m hr
  intro l
  induction l with
  | nil => exact fun _ h => h
  | cons e l ih =>
    intro m' h
    refine ih _ ?_
    dsimp only
    split_ifs with he
    · exact FdTable.mem_live_unregisterFd.mpr ⟨h, fun heq => hfd (heq ▸ he)⟩
    · exact h

/-- What is in the error set is removed. -/
theorem not_mem_live_errorPass {error : List ℕ} {m : FdTable FdCb} {r : FdRegister FdCb}
    (hfd : r.fd ∈ error) : r ∉ (m.errorPass error).live := by
  unfold FdTable.errorPass
  suffices h : ∀ (l : List (FdRegister FdCb)) (m' : FdTable FdCb), (r ∈ m'.live → r ∈ l) →
      r ∉ (l.foldl (fun m e => if e.fd ∈ error then m.unregisterFd e.fd else m) m').live from
    h m.fds m fun hr => (FdTable.mem_live.mp hr).1
  intro l
  induction l with
  | nil => exact fun _ h hr => List.not_mem_nil (h hr)
  | cons e l ih =>
    intro m' h
    refine ih _ fun hr => ?_
    dsimp only at hr
    split_ifs at hr with he
    · obtain ⟨hr, hne⟩ := FdTable.mem_live_unregisterFd.mp hr
      exact (List.mem_cons.mp (h hr)).resolve_left fun heq => hne (congrArg FdRegister.fd heq)
    · refine (List.mem_cons.mp (h hr)).resolve_left fun heq => ?_
      exact he (heq ▸ hfd)

theorem Base.select (h : Base p w) (readable error : List ℕ) :
    Base (p ∧ 3 ∉ error) { w with fds := w.fds.selectReturns readable error } where
  std := h.std
  listen := h.listen
  pipe := h.pipe
  client hc := h.client (hc.congr rfl fun r hr _ =>
    FdTable.live_selectReturns_subset readable error w.fds r hr)
  entry hr := h.entry (FdTable.live_selectReturns_subset readable error w.fds _ hr)
  accepts hp := by
    refine mem_live_errorPass (h.accepts hp.1) fun hmem => hp.2 ?_
    exact (List.mem_filter.mp hmem).1

theorem Base.mono {q : Prop} (h : Base p w) (hq : q → p) : Base q w :=
  { h with accepts := fun hq' => h.accepts (hq hq') }

/-- **The steps**: the server socket is registered until an exception is reported on it. -/
theorem base_step {e : Event} (hlife : Life none w) (h : Base p w) :
    Base (p ∧ socketFails w e = false) (step C w e) := by
  have hdoes := step_does C w e
  generalize step C w e = w' at hdoes
  have hadvance : Base p (advance w) := h.same (fun _ => rfl) rfl rfl rfl
  have hleft : ∀ {q : Prop}, p ∧ q → p := fun h => h.1
  cases hdoes with
  | idle _ => exact h.mono hleft
  | select readable error hout heval =>
    refine (h.select readable error).mono fun hp => ⟨hp.1, fun hmem => ?_⟩
    have hno := hp.2
    simp [socketFails, hout, heval, hmem] at hno
  | endPass _ _ =>
    exact Base.mono (h.same (fun _ => rfl) rfl rfl (FdTable.live_endPass w.fds)) hleft
  | pass _ _ => exact hadvance.mono hleft
  | accept a _ _ _ => exact (hadvance.acceptReady a).mono hleft
  | client a c fd w' _ hready hdoes _ =>
    have hmem := ready_mem_live (w := w) hready
    exact (hadvance.clientData (h.client (Or.inl ⟨_, hmem, rfl⟩)) (h.entry hmem rfl) hdoes).mono hleft
  | child a t fd w' _ hready hdoes _ =>
    obtain ⟨v, hv, -, rfl⟩ := hlife.read (ready_mem_live (w := w) hready) rfl
    exact (hadvance.childData hv (h.pipe hv) hdoes).mono hleft
  | sigchld _ => exact Base.mono (h.same (fun _ => rfl) rfl rfl rfl) hleft
  | reap t tr _ _ _ _ _ =>
    refine Base.mono (h.reviewed (f := fun v => { v with reaped := true }) (fun _ => ⟨rfl, rfl⟩)
      (view_reap t w) (fun _ => rfl) rfl rfl) hleft
  | scanEnd _ _ _ _ _ => exact Base.mono (h.same (fun _ => rfl) rfl rfl rfl) hleft
  | scanPass _ _ _ _ _ _ _ => exact Base.mono (h.same (fun _ => rfl) rfl rfl rfl) hleft
  | scanZeroed _ _ _ _ _ _ _ => exact Base.mono (h.same (fun _ => rfl) rfl rfl rfl) hleft
  | visit a t i pid hd w' _ he _ hcalled =>
    have hfree : ∀ t', hd = .spawnedSessionDisappear t' → ∃ v, view w t' = some v := by
      intro t' ht'
      obtain ⟨v, hv, -⟩ := hlife.pending_of_handler he t' ht'
      exact ⟨v, hv⟩
    exact Base.mono ((h.called hfree hcalled).same (fun _ => rfl) rfl rfl rfl) hleft
  | sigchldReturn _ => exact Base.mono (h.same (fun _ => rfl) rfl rfl rfl) hleft
  | childWrite t m _ =>
    refine Base.mono (h.modTry ?_ t) hleft
    exact fun _ => rfl
  | childHangUp t _ =>
    refine Base.mono (h.modTry ?_ t) hleft
    exact fun _ => rfl
  | childExit t _ =>
    refine Base.mono (h.modTry ?_ t) hleft
    exact fun _ => rfl

theorem base_start (debug : Bool) (templates : List Template) :
    Base p (World.start debug templates) where
  std n hn := by
    have h : n = 0 ∨ n = 1 ∨ n = 2 := by omega
    rcases h with rfl | rfl | rfl <;> rfl
  listen := rfl
  pipe hv := by
    simp [view, World.start] at hv
  client hc := by
    rcases hc with ⟨r, hr, hcb⟩ | ⟨t, v, hv, -⟩
    · rw [List.mem_singleton.mp (FdTable.mem_live.mp hr).1] at hcb
      cases hcb
    · simp [view, World.start] at hv
  entry hr hcb := by
    rw [List.mem_singleton.mp (FdTable.mem_live.mp hr).1] at hcb
    cases hcb
  accepts _ := FdTable.mem_live.mpr ⟨List.mem_singleton_self _, rfl⟩

/-! ### Runs -/

/-- **The daemon listens**: its standard descriptors and the server socket are open, and a connection
that comes in is accepted. -/
structure Listens (w : World) : Prop where
  std : ∀ n < 3, lookup w.fdtab n = some .std
  socket : lookup w.fdtab 3 = some .listen
  registered : ⟨some .acceptReady, 3⟩ ∈ w.fds.live

theorem Base.listens (h : Base True w) : Listens w := ⟨h.std, h.listen, h.accepts trivial⟩

/-- The socket is lost in a step in which an exception is reported on it. -/
theorem lost_of_socketFails {e : Event} (h : Listens w) (hfails : socketFails w e = true) :
    ¬Listens (step C w e) := by
  cases e with
  | select readable error =>
    simp only [socketFails, Bool.and_eq_true, Bool.not_eq_true', decide_eq_true_eq] at hfails
    obtain ⟨⟨hout, heval⟩, hmem⟩ := hfails
    have hstep : step C w (.select readable error) =
        { w with fds := w.fds.selectReturns readable error } := if_pos ⟨hout, heval⟩
    intro hafter
    have hreg := hafter.registered
    rw [hstep] at hreg
    refine not_mem_live_errorPass (m := { w.fds with
      readout := true, ready := readable.filter (· ∈ w.fds.watched), next := 0 })
      ?_ hreg
    refine List.mem_filter.mpr ⟨hmem, decide_eq_true ?_⟩
    exact List.mem_map_of_mem h.registered
  | _ => cases hfails

end Spawny.Daemon.Listening
