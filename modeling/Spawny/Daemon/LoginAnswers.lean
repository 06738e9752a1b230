import Spawny.Daemon.Connections

/-! # Who is told how a login ended: the runs

`Conns` is kept by every step that releases no client with a login in flight.

* `conns_step`: the steps;
* `answered_of_spares`: **in a run of such steps every answer to a login goes to the connection the
  login came from, and no login in flight is for a client that was released**;
* `answer_to_stranger`: otherwise the answer goes to whoever got the descriptor. -/

namespace Spawny.Daemon.LoginAnswers

open Spawny.Lib.Wire Spawny.Lib.Descriptors Spawny.Lib.Runs Spawny.Protocol Spawny.Protocol.Messages
open Spawny.Daemon.Manager Spawny.Daemon.SpawnRegistry
open Spawny.Daemon.SessionMgt Spawny.Daemon.State Spawny.Daemon.SpawnService
open Spawny.Daemon.GreeterTable Spawny.Daemon.Client Spawny.Daemon.Greeter Spawny.Daemon.Activations
open Spawny.Daemon.Server Spawny.Daemon.Loop Spawny.Daemon.Steps Spawny.Daemon.TryViews
open Spawny.Daemon.TryLife Spawny.Daemon.Connections

variable {C : FieldCode SpawnField}

/-! ### Activations -/

theorem noLogin_greeterRequest {g c : ℕ} {seat : String} :
    (greeterRequest g seat).done ≠ .sessionDone c := DoneCb.noConfusion

theorem greeterOps_conns (a : Answers) (x : Option ℕ) : GreeterOps C a (Conns x) where
  session _ h := h.quiet (quiet_log (by simp) _)
  add _ h := h.quiet (quiet_greeterAdd _ _)
  noPipe _ _ h := h.quiet (quiet_modGreeter _ _ _)
  forked pid _ _ h :=
    (h.forks _ (fun _ hx => hx) fun _ hc => absurd hc noLogin_greeterRequest).quiet
      (quiet_modGreeter _ _ _)
  failed noTty _ _ _ _ _ h :=
    ((h.fails noTty fun _ hc => absurd hc noLogin_greeterRequest).quiet
      (quiet_log (by simp) _)).quiet (quiet_modGreeter _ _ _)
  returned _ _ _ _ _ h := (h.release _).quiet (quiet_modGreeter _ _ _)

/-- An activation starts no login and releases no client. -/
theorem greeterOps_idle (a : Answers) (c : ℕ) : GreeterOps C a (Idle c) where
  session _ h := h.congr rfl rfl
  add _ h := h.congr rfl rfl
  noPipe _ _ h := h.congr rfl rfl
  forked _ _ _ h := by
    refine Idle.quiet ⟨?_, fun t ht => ?_⟩ (quiet_modGreeter _ _ _)
    · rw [clients_childForked, clients_openTry]
      exact h.connected
    · rcases ht.of_forked with ⟨-, hc⟩ | ht
      · exact noLogin_greeterRequest hc
      · exact h.noLogin t ht
  failed {w g r} noTty _ _ _ _ _ h := by
    have hfailed : Idle c (tryFailed C noTty (greeterRequest g r.seat) w) :=
      ⟨by rw [clients_tryFailed]; exact h.connected, fun t ht => h.noLogin t ht.of_tryFailed⟩
    exact hfailed.congr rfl rfl
  returned _ _ _ _ _ h := (h.release _).quiet (quiet_modGreeter _ _ _)

theorem Conns.activate {x : Option ℕ} {w : World} (h : Conns x w) (a : Answers) (seat : String) :
    Conns x (greeterActivate C a seat w) := (greeterOps_conns a x).activate C seat h

theorem Idle.activate {c : ℕ} {w : World} (h : Idle c w) (a : Answers) (seat : String) :
    Idle c (greeterActivate C a seat w) := (greeterOps_idle a c).activate C seat h

/-! ### The callbacks -/

theorem Conns.goodbye {x : Option ℕ} {w : World} (h : Conns x w) {c : ℕ} (hidle : Idle c w) :
    Conns x (clientGoodbye (.reply c) c w) :=
  (h.quiet (quiet_reply c _ _ _ _ w)).clientFree (hidle.quiet (quiet_reply c _ _ _ _ w))

/-- **Freeing a try** whose callback is still to come. -/
theorem Conns.freed {a : Answers} {w w' : World} (h : Conns none w) {t : ℕ} {v : TryView}
    (hv : view w t = some v) (hdone : v.doneCalled = false) (hf : Freed C a t w w') :
    Conns none w' := by
  have hcalled := h.calledBack hv hdone
  cases hf with
  | login c hc =>
    have hreq : v.req.done = .sessionDone c := by rw [← view_tryAt hv]; exact hc
    have hlogin : LoginOf w t c := ⟨v, hv, hdone, hreq⟩
    have hidle : Idle c (calledBack t w) := by
      refine ⟨by rw [clients_calledBack]; exact h.login hlogin, fun t' ht' => ?_⟩
      obtain ⟨hne, ht'⟩ := loginOf_calledBack.mp ht'
      exact hne (h.one ht' hlogin)
    have hview : view (calledBack t w) t = some { v with doneCalled := true } := by
      rw [view_calledBack, if_pos rfl, hv, Option.map_some]
    exact (hcalled.sessionDone a hview hreq hidle _).release t
  | lost g _ _ =>
    exact ((hcalled.quiet (quiet_log (by simp) _)).quiet (quiet_fault _)).release t
  | restarted g r _ _ _ =>
    have hfailed : Quiet (calledBack t w) (greeterStartFailed t g (calledBack t w)) :=
      (quiet_log (by simp) _).trans (quiet_modGreeter _ _ _)
    exact (Conns.activate (hcalled.quiet hfailed) a r.seat).release t
  | noTry g r _ _ _ _ =>
    have hlogs := (quiet_log (o := .greeterCb t (some r.seat)) (by simp) (calledBack t w)).trans
      (quiet_log (o := .startDone t none) (by simp) _)
    exact ((hcalled.quiet hlogs).quiet (quiet_fault _)).release t
  | started g r t' _ _ _ _ =>
    have hstarted : Quiet (calledBack t w) (greeterStarted t g t' (calledBack t w)) :=
      (((quiet_log (by simp) _).trans (quiet_log (by simp) _)).trans (quiet_modGreeter _ _ _)).trans
        (quiet_listen _ _ _)
    exact (hcalled.quiet hstarted).release t

/-- **`_client_data`** for the client `c` that was not released, if it is not released now with a
login in flight. -/
theorem Conns.clientData {a : Answers} {c fd : ℕ} {w w' : World} (h : Conns none w)
    {cl : State.Client} (hcl : w.clients[c]? = some cl) (hfree : cl.freed = false) (hfd : cl.fd = fd)
    (hspare : releasesClient a c w = true → ∀ t, ¬LoginOf w t c)
    (hdoes : ClientData C a c fd w w') : Conns none w' := by
  have hsilent : (w.clientAt c).spawnTry = none → Idle c w := by
    refine fun hnone => ⟨⟨cl, hcl, hfree⟩, fun t ht => ?_⟩
    rcases h.busy ht with hx | hx
    · cases hx
    · rw [hnone] at hx
      cases hx
  have hreleased : releasesClient a c w = true → Idle c w :=
    fun hrel => ⟨⟨cl, hcl, hfree⟩, hspare hrel⟩
  have horigin : lookup w.fdtab fd = some (.sock c) := hfd ▸ h.sock hcl hfree
  induction hdoes with
  | closed hrel =>
    exact (h.quiet (quiet_unregisterFd fd w)).clientFree
      ((hreleased hrel).quiet (quiet_unregisterFd fd w))
  | dropped hrel => exact h.clientFree (hreleased hrel)
  | replied msg => exact h.quiet (quiet_log (by simp) w)
  | activated hrel session seat =>
    have hq := ((quiet_sessionActivate session w).trans (quiet_reply c .loginFeedback
      (some ⟨false, "Activation is called on this session"⟩) none fd _)).trans
        (quiet_greeterLockout seat _)
    exact Conns.goodbye (h.quiet hq) ((hreleased hrel).quiet hq)
  | noLogin => exact h.quiet (quiet_fault w)
  | noPipe hidle =>
    exact (h.setTry (Or.inr (hsilent hidle).noLogin) fun _ hx => Or.inl hx).quiet
      (quiet_reply c _ _ _ _ _)
  | loginForked _ hidle l pid =>
    have hreq : ∀ c', (loginRequest a c fd l w).done = .sessionDone c' →
        some c = some c' ∧ Idle c' w ∧ (loginRequest a c fd l w).origin = some (.sock c') := by
      intro c' hc'
      obtain rfl : c = c' := DoneCb.sessionDone.inj hc'
      exact ⟨rfl, hsilent hidle, horigin⟩
    refine Conns.setTry (h.forks _ (fun _ hx => by cases hx) hreq) (Or.inl rfl) ?_
    exact fun c' hc' => Or.inr ⟨(Option.some.inj hc').symm, rfl⟩
  | loginFailed hidle l noTty _ _ _ =>
    have hfails : Conns none (tryFailed C noTty (loginRequest a c fd l w) w) :=
      h.fails noTty fun c' hc' => by
        obtain rfl : c = c' := DoneCb.sessionDone.inj hc'
        exact horigin
    have hidle' : Idle c (tryFailed C noTty (loginRequest a c fd l w) w) :=
      ⟨by rw [clients_tryFailed]; exact (hsilent hidle).connected,
        fun t ht => (hsilent hidle).noLogin t ht.of_tryFailed⟩
    have hview : view (tryFailed C noTty (loginRequest a c fd l w) w) w.tries.length =
        some (failedView (loginRequest a c fd l w) w) := by rw [view_tryFailed, if_pos rfl]
    exact ((hfails.sessionDone a hview rfl hidle' _).release _).setTry (Or.inl rfl)
      fun _ hx => Or.inl hx
  | started hrel m _ _ _ =>
    exact Conns.goodbye (Conns.activate h a _) (Idle.activate (hreleased hrel) a _)
  | ignored => exact h
  | fallback w' _ ih => exact ih.quiet (quiet_fault w')

/-- **`_child_data`** for a try in flight. -/
theorem Conns.childData {a : Answers} {t fd : ℕ} {w w' : World} (h : Conns none w) {v : TryView}
    (hv : view w t = some v) (hdone : v.doneCalled = false) (hdoes : ChildData C a t fd w w') :
    Conns none w' := by
  have hread : Quiet w (w.modTry t SpawnTry.readPipe) :=
    quiet_modTry (f := SpawnTry.readPipe) (fun _ => rfl) t w
  cases hdoes with
  | undecodable _ => exact h.quiet ((hread.trans (quiet_unregisterFd _ _)).trans (quiet_forceQuit _ _))
  | connect _ _ _ => exact h.quiet hread
  | setupDone _ _ _ session =>
    have hset : Quiet w ((w.modTry t SpawnTry.readPipe).modTry t
        fun tr => { tr with session := session }) := by
      refine hread.trans (quiet_modTry ?_ t _)
      exact fun _ => rfl
    refine h.quiet (Quiet.trans ?_ (quiet_sessionActivate _ _))
    split_ifs
    · exact hset.trans (quiet_forceQuit _ _)
    · exact hset
  | sessionActive _ _ _ w' hfree =>
    have hset : Quiet w (((w.modTry t SpawnTry.readPipe).unregisterFd (w.tryAt t).readFd).modTry t
        fun tr => { tr with success := .success }) := by
      refine (hread.trans (quiet_unregisterFd _ _)).trans (quiet_modTry ?_ t _)
      exact fun _ => rfl
    exact Conns.freed (h.quiet hset) (by rw [hset.views, hv]) hdone hfree
  | errorExit _ _ _ reason _ =>
    refine h.quiet ((hread.trans (quiet_unregisterFd _ _)).trans (quiet_modTry ?_ t _))
    exact fun _ => rfl
  | noReason _ _ _ _ => exact h.quiet ((hread.trans (quiet_unregisterFd _ _)).trans (quiet_fault _))

/-- What `spawnregistery_eval` calls. -/
theorem Conns.called {a : Answers} {t : ℕ} {pid : ℤ} {hd : Handler} {w w' : World} (h : Conns none w)
    (hlife : Life none w) (hlive : ⟨pid, some hd⟩ ∈ w.registry.live) (hcalled : Called C a t w hd w') :
    Conns none w' := by
  cases hcalled with
  | disappeared t' w' hfree =>
    obtain ⟨v, hv, -, -, hdone | hx⟩ := hlife.listens hlive rfl
    · exact Conns.freed h hv hdone hfree
    · cases hx
  | lost g _ => exact (h.quiet (quiet_log (by simp) _)).quiet (quiet_fault _)
  | ended g r _ _ =>
    exact (h.quiet (quiet_log (by simp) _)).quiet (quiet_greeterDel _ _)
  | restarted g r _ _ =>
    have hreset : Quiet w (greeterReset g (w.log (.greeterCb t (some r.seat)))) :=
      (quiet_log (by simp) _).trans (quiet_modGreeter _ _ _)
    exact Conns.activate (h.quiet hreset) a r.seat

/-- A connection is accepted. -/
theorem Conns.acceptReady {x : Option ℕ} {w : World} (h : Conns x w) (a : Answers) :
    Conns x (acceptReady a w) := by
  have hnew : ∀ cl : State.Client, ∀ {c cl'}, (w.clients ++ [cl])[c]? = some cl' →
      w.clients[c]? = some cl' ∨ (c = w.clients.length ∧ cl' = cl) := by
    intro cl c cl' hc
    rcases Nat.lt_trichotomy c w.clients.length with hlt | rfl | hgt
    · rw [List.getElem?_append_left hlt] at hc
      exact Or.inl hc
    · rw [List.getElem?_concat_length] at hc
      exact Or.inr ⟨rfl, (Option.some.inj hc).symm⟩
    · rw [List.getElem?_eq_none (by simp; omega)] at hc
      cases hc
  have hold : ∀ cl : State.Client, ∀ {c cl'}, w.clients[c]? = some cl' →
      (w.clients ++ [cl])[c]? = some cl' := fun cl c cl' hc =>
    (List.getElem?_append_left (List.getElem?_eq_some_iff.mp hc).1).trans hc
  -- the clients that were there keep what they had
  have hkeep : ∀ (cl : State.Client) (m : FdTable FdCb),
      (∀ {c cl'}, c = w.clients.length → cl' = cl → cl'.freed = false →
        cl'.fd = lowestFree w.fdtab) →
      (∀ {r c}, r ∈ m.live → r.cb = some (.clientData c) → r ∈ w.fds.live ∨
        (c = w.clients.length ∧ cl.freed = false ∧ cl.fd = r.fd)) →
      Conns x { w.openFd (.sock w.clients.length) with clients := w.clients ++ [cl], fds := m } := by
    intro cl m hfd hentry
    refine ⟨?_, ?_, ?_, fun {t c} hl => ?_, ?_, fun hl hl' => h.one hl hl', h.origin, h.sent⟩
    · intro c cl' hc hfree
      rcases hnew cl hc with hc | ⟨rfl, rfl⟩
      · exact lookup_open_of_some (h.sock hc hfree) _
      · rw [hfd rfl rfl hfree]
        exact lookup_open_self _ _
    · exact fun hv hd => lookup_open_of_some (h.pipe hv hd) _
    · intro r c hr hcb
      rcases hentry hr hcb with hr | ⟨rfl, hfree, hfd⟩
      · obtain ⟨cl', hc, hrest⟩ := h.entry hr hcb
        exact ⟨cl', hold cl hc, hrest⟩
      · exact ⟨cl, List.getElem?_concat_length, hfree, hfd⟩
    · have hl₀ : LoginOf w t c := hl
      obtain ⟨cl', hc, hfree⟩ := h.login hl₀
      exact ⟨cl', hold cl hc, hfree⟩
    · intro t c hl
      have hl₀ : LoginOf w t c := hl
      obtain ⟨cl', hc, -⟩ := h.login hl₀
      rw [World.clientAt_eq (hold cl hc), ← World.clientAt_eq hc]
      exact h.busy hl₀
  unfold Server.acceptReady
  cases a.peer with
  | none =>
    refine hkeep ⟨0, 0, none, true⟩ w.fds ?_ fun hr _ => Or.inl hr
    rintro c cl' - rfl hfree
    cases hfree
  | some pid =>
    refine hkeep ⟨lowestFree w.fdtab, pid, none, false⟩ _ (fun _ hcl _ => by rw [hcl]) ?_
    intro r c hr hcb
    have hmem : r ∈ w.fds.live ++ [⟨some (.clientData w.clients.length), lowestFree w.fdtab⟩] := by
      rw [← FdTable.live_registerFd]
      exact hr
    rcases List.mem_append.mp hmem with hr | hr
    · exact Or.inl hr
    · rw [List.mem_singleton.mp hr] at hcb ⊢
      obtain rfl : w.clients.length = c := by simpa using hcb
      exact Or.inr ⟨rfl, rfl, rfl⟩

/-! ### The steps -/

/-- The client that a step releases because of what it has read from it. -/
def released (w : World) : Event → Option ℕ
  | .next a =>
    match ready w with
    | some ⟨some (.clientData c), _⟩ =>
      if w.registry.evalMode = false ∧ releasesClient a c w = true then some c else none
    | _ => none
  | _ => none

/-- A login of the client is in flight. -/
def loginPending (c : ℕ) (w : World) : Bool :=
  w.tries.any fun tr => !tr.doneCalled && tr.done == .sessionDone c

/-- The step releases no client that has a login in flight. -/
def sparesLogins (w : World) (e : Event) : Bool := (released w e).all fun c => !loginPending c w

theorem loginPending_iff {c : ℕ} {w : World} :
    loginPending c w = true ↔ ∃ t, LoginOf w t c := by
  unfold loginPending LoginOf
  simp only [List.any_eq_true, Bool.and_eq_true, Bool.not_eq_true', beq_iff_eq]
  constructor
  · rintro ⟨tr, htr, hdone, hc⟩
    obtain ⟨t, ht⟩ := List.mem_iff_getElem?.mp htr
    exact ⟨t, _, view_of_get ht, hdone, hc⟩
  · rintro ⟨t, v, hv, hdone, hc⟩
    obtain ⟨tr, htr, rfl⟩ := view_eq_some.mp hv
    exact ⟨tr, List.mem_of_getElem? htr, hdone, hc⟩

theorem noLogin_of_spares {w : World} {a : Answers} {c fd : ℕ}
    (hspare : sparesLogins w (.next a) = true) (heval : w.registry.evalMode = false)
    (hready : ready w = some ⟨some (.clientData c), fd⟩) (hrel : releasesClient a c w = true) (t : ℕ) :
    ¬LoginOf w t c := by
  intro ht
  have hreleased : released w (.next a) = some c := by
    simp [released, hready, heval, hrel]
  have hpending := loginPending_iff.mpr ⟨t, ht⟩
  simp [sparesLogins, hreleased, hpending] at hspare

/-- **A step that spares the logins keeps the invariant.** -/
theorem conns_step {w : World} {e : Event} (hlife : Life none w) (h : Conns none w)
    (hspare : sparesLogins w e = true) : Conns none (step C w e) := by
  have hdoes := step_does C w e
  generalize step C w e = w' at hdoes
  have hadvance : Quiet w (advance w) := quiet_fds fun _ hr => hr
  cases hdoes with
  | idle _ => exact h
  | select readable error _ _ =>
    exact h.quiet (quiet_fds (FdTable.live_selectReturns_subset _ _ _))
  | endPass a _ => exact h.quiet (quiet_fds fun r hr => by rwa [FdTable.live_endPass] at hr)
  | pass a _ => exact h.quiet hadvance
  | accept a _ => exact Conns.acceptReady (h.quiet hadvance) a
  | client a c fd w' heval hready hdoes =>
    obtain ⟨cl, hcl, hfree, hfd⟩ := h.entry (ready_mem_live hready) rfl
    refine Conns.clientData (h.quiet hadvance) hcl hfree hfd (fun hrel t ht => ?_) hdoes
    exact noLogin_of_spares hspare heval hready hrel t (ht.congr hadvance.views)
  | child a t fd w' _ hready hdoes =>
    obtain ⟨v, hv, hdone, -⟩ := hlife.read (ready_mem_live hready) rfl
    exact Conns.childData (h.quiet hadvance) (v := v) hv hdone hdoes
  | sigchld _ => exact h.quiet ⟨rfl, rfl, rfl, fun _ hr _ _ => hr, fun _ _ _ ho => ho⟩
  | reap t tr _ _ _ _ _ =>
    refine h.reviewed (t := t) (f := fun v => { v with reaped := true }) ?_ ?_ rfl rfl rfl rfl
    · exact fun _ => ⟨rfl, rfl, rfl⟩
    · exact view_modTry (fun _ => rfl) t w
  | scanEnd a t i _ _ => exact h.quiet ⟨rfl, rfl, rfl, fun _ hr _ _ => hr, fun _ _ _ ho => ho⟩
  | scanPass a t i e _ _ _ => exact h.quiet (quiet_scanTo _ _ _)
  | scanZeroed a t i e _ _ _ => exact (h.quiet (quiet_fault w)).quiet (quiet_scanTo _ _ _)
  | visit a t i pid hd w' _ he _ hcalled =>
    have hlive : ⟨pid, some hd⟩ ∈ w.registry.live :=
      Registry.mem_live.mpr ⟨List.mem_of_getElem? he, rfl⟩
    exact ((Conns.called h hlife hlive hcalled).quiet (quiet_unlisten _ _ _)).quiet
      (quiet_scanTo _ _ _)
  | sigchldReturn _ => exact h.quiet ⟨rfl, rfl, rfl, fun _ hr _ _ => hr, fun _ _ _ ho => ho⟩
  | childWrite t m _ =>
    refine h.quiet (quiet_modTry ?_ t w)
    exact fun _ => rfl
  | childHangUp t _ =>
    refine h.quiet (quiet_modTry ?_ t w)
    exact fun _ => rfl
  | childExit t _ =>
    refine h.quiet (quiet_modTry ?_ t w)
    exact fun _ => rfl

/-! ### Runs -/

/-- What the answers to logins should be: no login in flight is for a client that was released, and
every answer to a login has gone to the connection that its request came from. -/
structure Answered (w : World) : Prop where
  connected : ∀ t c, LoginOf w t c → ∃ cl, w.clients[c]? = some cl ∧ cl.freed = false
  sent : ∀ t dest msg, .sent (.sessionDone t) dest msg ∈ w.trace →
    ∃ tr c, w.tries[t]? = some tr ∧ tr.done = .sessionDone c ∧ tr.origin = some (.sock c) ∧
      dest = tr.origin

theorem answered_of_conns {w : World} (h : Conns none w) : Answered w := by
  refine ⟨fun _ _ hl => h.login hl, fun t dest msg ho => ?_⟩
  obtain ⟨v, c, hv, hc, rfl⟩ := h.sent ho
  have horigin := h.origin hv hc
  obtain ⟨tr, htr, rfl⟩ := view_eq_some.mp hv
  exact ⟨tr, c, htr, hc, horigin, horigin.symm⟩

theorem conns_start (debug : Bool) (templates : List Template) :
    Conns none (World.start debug templates) where
  sock hc := by simp [World.start] at hc
  pipe hv := by simp [view, World.start] at hv
  entry hr hcb := by
    rw [List.mem_singleton.mp (FdTable.mem_live.mp hr).1] at hcb
    cases hcb
  login := fun ⟨_, hv, _⟩ => by simp [view, World.start] at hv
  busy := fun ⟨_, hv, _⟩ => by simp [view, World.start] at hv
  one := fun ⟨_, hv, _⟩ => by simp [view, World.start] at hv
  origin hv := by simp [view, World.start] at hv
  sent ho := absurd ho List.not_mem_nil

/-- A process of the greeter of seat0 connects as client 1 and asks for a login. -/
def loginStarts : List Event :=
  greeterStarts ++ turn [3] { Answers.plain with peer := some 100 } ++
    turn [4] { Answers.plain with input := .msg ⟨.loginTry, some ⟨"user", "secret", "shell"⟩, none⟩ }

/-- Client 1 leaves, client 2 connects, and then the login of client 1 ends. -/
def clientLeaves : List Event :=
  loginStarts ++ turn [4] Answers.plain ++ turn [3] Answers.plain ++ [.sigchld, .reap 1] ++
    List.replicate 4 (.visit Answers.plain)

end Spawny.Daemon.LoginAnswers
