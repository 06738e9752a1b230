import Spawny.Daemon.TryLife

/-! # Who is told how a login ended

A `Client` is shared by the callback of its connection and by the login tries it has started. `Conns`
ties the clients, their descriptors and their login tries together. It is kept as long as no client
is released while a login of it is in flight.

* `Conns.clientData`, `Conns.freed`: the callbacks keep `Conns`;
* `answered_of_spares`: **if no client is released with a login in flight, every answer to a login goes
  to the connection it came from**;
* `answer_to_stranger`: without that, it goes to whoever got the descriptor. -/

namespace Spawny.Daemon.Connections

open Spawny.Lib.Wire Spawny.Lib.Descriptors Spawny.Lib.Runs Spawny.Protocol Spawny.Protocol.Messages
open Spawny.Daemon.Manager Spawny.Daemon.SpawnRegistry
open Spawny.Daemon.SessionMgt Spawny.Daemon.State Spawny.Daemon.SpawnService
open Spawny.Daemon.GreeterTable Spawny.Daemon.Client Spawny.Daemon.Greeter Spawny.Daemon.Activations
open Spawny.Daemon.Server Spawny.Daemon.Loop Spawny.Daemon.Steps Spawny.Daemon.TryViews
open Spawny.Daemon.TryLife

variable {C : FieldCode SpawnField}

/-! ### Logins in flight -/

/-- The try `t` is a login of the client `c` whose callback is still to come. -/
def LoginOf (w : World) (t c : ℕ) : Prop :=
  ∃ v, view w t = some v ∧ v.doneCalled = false ∧ v.req.done = .sessionDone c

/-- The client `c` is connected and has no login in flight. -/
structure Idle (c : ℕ) (w : World) : Prop where
  connected : ∃ cl, w.clients[c]? = some cl ∧ cl.freed = false
  noLogin : ∀ t, ¬LoginOf w t c

theorem LoginOf.congr {w w' : World} {t c : ℕ} (h : LoginOf w' t c) (hviews : view w' = view w) :
    LoginOf w t c := by rwa [LoginOf, hviews] at h

theorem Idle.congr {c : ℕ} {w w' : World} (h : Idle c w) (hclients : w'.clients = w.clients)
    (hviews : view w' = view w) : Idle c w' :=
  ⟨by rw [hclients]; exact h.connected, fun t ht => h.noLogin t (ht.congr hviews)⟩

/-- A callback that was called is not in flight. -/
theorem loginOf_calledBack {w : World} {t t' c : ℕ} :
    LoginOf (calledBack t w) t' c ↔ t' ≠ t ∧ LoginOf w t' c := by
  unfold LoginOf
  rw [view_calledBack]
  by_cases h : t = t'
  · subst h
    rw [if_pos rfl]
    constructor
    · rintro ⟨v, hv, hd, -⟩
      obtain ⟨v', -, rfl⟩ := Option.map_eq_some_iff.mp hv
      cases hd
    · exact fun h => absurd rfl h.1
  · rw [if_neg h]
    exact ⟨fun h' => ⟨Ne.symm h, h'⟩, fun h' => h'.2⟩

theorem LoginOf.of_release {w : World} {t t' c : ℕ} (h : LoginOf (release t w) t' c) :
    LoginOf w t' c := by
  obtain ⟨v, hv, hd, hc⟩ := h
  rw [view_release] at hv
  split_ifs at hv with ht
  · obtain ⟨v', hv', rfl⟩ := Option.map_eq_some_iff.mp hv
    exact ⟨v', hv', hd, hc⟩
  · exact ⟨v, hv, hd, hc⟩

theorem LoginOf.of_tryFailed {w : World} {noTty : Bool} {req : SpawnRequest} {t c : ℕ}
    (h : LoginOf (tryFailed C noTty req w) t c) : LoginOf w t c := by
  obtain ⟨v, hv, hd, hc⟩ := h
  rw [view_tryFailed] at hv
  split_ifs at hv with ht
  · rw [← Option.some.inj hv] at hd
    cases hd
  · exact ⟨v, hv, hd, hc⟩

theorem LoginOf.of_forked {w : World} {pid : ℕ} {req : SpawnRequest} {t c : ℕ}
    (h : LoginOf (childForked w.tries.length pid (openTry req w)) t c) :
    (t = w.tries.length ∧ req.done = .sessionDone c) ∨ LoginOf w t c := by
  obtain ⟨v, hv, hd, hc⟩ := h
  rw [view_forked] at hv
  split_ifs at hv with ht
  · rw [← Option.some.inj hv] at hc
    exact Or.inl ⟨ht, hc⟩
  · exact Or.inr ⟨v, hv, hd, hc⟩

/-! ### The invariant -/

/-- **The invariant of the connections.** `x` is the client whose login has just been forked, if there
is one: its `try` is not set yet. -/
structure Conns (x : Option ℕ) (w : World) : Prop where
  /-- the descriptor of a client that was not released is its connection -/
  sock : ∀ {c cl}, w.clients[c]? = some cl → cl.freed = false →
    lookup w.fdtab cl.fd = some (.sock c)
  /-- that of a try in flight is its pipe -/
  pipe : ∀ {t v}, view w t = some v → v.doneCalled = false →
    lookup w.fdtab v.readFd = some (.pipeRead t)
  /-- only clients that were not released are read -/
  entry : ∀ {r c}, r ∈ w.fds.live → r.cb = some (.clientData c) →
    ∃ cl, w.clients[c]? = some cl ∧ cl.freed = false ∧ cl.fd = r.fd
  /-- a login in flight is for a connected client, whose connection it came from -/
  login : ∀ {t c}, LoginOf w t c → ∃ cl, w.clients[c]? = some cl ∧ cl.freed = false
  busy : ∀ {t c}, LoginOf w t c → x = some c ∨ (w.clientAt c).spawnTry.isSome = true
  one : ∀ {t t' c}, LoginOf w t c → LoginOf w t' c → t = t'
  origin : ∀ {t v c}, view w t = some v → v.req.done = .sessionDone c →
    v.req.origin = some (.sock c)
  /-- the answers so far -/
  sent : ∀ {t dest msg}, .sent (.sessionDone t) dest msg ∈ w.trace →
    ∃ v c, view w t = some v ∧ v.req.done = .sessionDone c ∧ dest = some (.sock c)

/-- Nothing has changed that a connection depends on. -/
structure Quiet (w w' : World) : Prop where
  clients : w'.clients = w.clients
  views : view w' = view w
  fdtab : w'.fdtab = w.fdtab
  fds : ∀ r ∈ w'.fds.live, ∀ c, r.cb = some (.clientData c) → r ∈ w.fds.live
  sent : ∀ t dest msg, .sent (.sessionDone t) dest msg ∈ w'.trace →
    .sent (.sessionDone t) dest msg ∈ w.trace

theorem Conns.quiet {x : Option ℕ} {w w' : World} (h : Conns x w) (hq : Quiet w w') : Conns x w' where
  sock := by rw [hq.clients, hq.fdtab]; exact h.sock
  pipe := by rw [hq.views, hq.fdtab]; exact h.pipe
  entry hr hcb := by rw [hq.clients]; exact h.entry (hq.fds _ hr _ hcb) hcb
  login hl := by rw [hq.clients]; exact h.login (hl.congr hq.views)
  busy hl := by rw [World.clientAt_congr hq.clients]; exact h.busy (hl.congr hq.views)
  one hl hl' := h.one (hl.congr hq.views) (hl'.congr hq.views)
  origin := by rw [hq.views]; exact h.origin
  sent ho := by rw [hq.views]; exact h.sent (hq.sent _ _ _ ho)

theorem Idle.quiet {c : ℕ} {w w' : World} (h : Idle c w) (hq : Quiet w w') : Idle c w' :=
  h.congr hq.clients hq.views

theorem Quiet.refl (w : World) : Quiet w w :=
  ⟨rfl, rfl, rfl, fun _ hr _ _ => hr, fun _ _ _ h => h⟩

theorem Quiet.trans {w w' w'' : World} (h : Quiet w w') (h' : Quiet w' w'') : Quiet w w'' :=
  ⟨h'.clients.trans h.clients, h'.views.trans h.views, h'.fdtab.trans h.fdtab,
    fun r hr c hcb => h.fds r (h'.fds r hr c hcb) c hcb,
    fun t d m ho => h.sent t d m (h'.sent t d m ho)⟩

theorem quiet_log {o : Obs} (ho : ∀ t dest msg, o ≠ .sent (.sessionDone t) dest msg) (w : World) :
    Quiet w (w.log o) := by
  refine ⟨rfl, rfl, rfl, fun _ hr _ _ => hr, fun t dest msg h => ?_⟩
  rcases List.mem_append.mp h with h | h
  · exact h
  · exact absurd (List.mem_singleton.mp h).symm (ho t dest msg)

theorem quiet_fault (w : World) : Quiet w w.fault :=
  ⟨rfl, rfl, rfl, fun _ hr _ _ => hr, fun _ _ _ h => h⟩

theorem quiet_modGreeter (g : ℕ) (f : SeatGreeter → SeatGreeter) (w : World) :
    Quiet w (w.modGreeter g f) := ⟨rfl, rfl, rfl, fun _ hr _ _ => hr, fun _ _ _ h => h⟩

theorem quiet_greeterAdd (seat : String) (w : World) : Quiet w (greeterAdd seat w) :=
  ⟨rfl, rfl, rfl, fun _ hr _ _ => hr, fun _ _ _ h => h⟩

theorem quiet_greeterDel (seat : String) (w : World) : Quiet w (greeterDel seat w) :=
  ⟨rfl, rfl, rfl, fun _ hr _ _ => hr, fun _ _ _ h => h⟩

theorem quiet_modTry {f : SpawnTry → SpawnTry} (hf : ∀ tr, SpawnTry.view (f tr) = SpawnTry.view tr)
    (t : ℕ) (w : World) : Quiet w (w.modTry t f) :=
  ⟨rfl, view_modTry_same hf t w, rfl, fun _ hr _ _ => hr, fun _ _ _ h => h⟩

theorem quiet_unregisterFd (fd : ℕ) (w : World) : Quiet w (w.unregisterFd fd) :=
  ⟨rfl, rfl, rfl, fun _ hr _ _ => (FdTable.mem_live_unregisterFd.mp hr).1, fun _ _ _ h => h⟩

theorem quiet_fds {w : World} {m : FdTable FdCb} (h : ∀ r ∈ m.live, r ∈ w.fds.live) :
    Quiet w { w with fds := m } := ⟨rfl, rfl, rfl, fun r hr _ _ => h r hr, fun _ _ _ h => h⟩

theorem quiet_listen (pid : ℤ) (hd : Handler) (w : World) : Quiet w (w.listen pid hd) :=
  ⟨rfl, rfl, rfl, fun _ hr _ _ => hr, fun _ _ _ h => h⟩

theorem quiet_unlisten (pid : ℤ) (hd : Handler) (w : World) : Quiet w (w.unlisten pid hd) :=
  ⟨rfl, rfl, rfl, fun _ hr _ _ => hr, fun _ _ _ h => h⟩

theorem quiet_scanTo (t i : ℕ) (w : World) : Quiet w (scanTo t i w) :=
  ⟨rfl, rfl, rfl, fun _ hr _ _ => hr, fun _ _ _ h => h⟩

theorem quiet_greeterLockout (seat : Option String) (w : World) :
    Quiet w (greeterLockout seat w) := by
  unfold greeterLockout
  rcases seat with _ | s
  · dsimp only
    split_ifs
    · exact Quiet.refl w
    · exact quiet_fault w
  · dsimp only
    cases greeterSearch s w with
    | none => exact Quiet.refl w
    | some g => exact (quiet_modGreeter _ _ _).trans (quiet_log (fun _ _ _ => Obs.noConfusion) _)

theorem quiet_sessionActivate (session : Option String) (w : World) :
    Quiet w (sessionActivate session w) := by
  cases session with
  | none => exact Quiet.refl w
  | some s => exact quiet_log (fun _ _ _ => Obs.noConfusion) w

theorem quiet_forceQuit (t : ℕ) (w : World) : Quiet w (forceQuit t w) := by
  unfold forceQuit
  split_ifs
  · exact quiet_log (fun _ _ _ => Obs.noConfusion) w
  · exact Quiet.refl w

/-- A reply to a message is no answer to a login. -/
theorem quiet_reply (c : ℕ) (type : ServerType) (fb : Option RequestFeedback) (data : Option Data)
    (fd : ℕ) (w : World) : Quiet w (sendMessage (.reply c) type fb data fd w) :=
  quiet_log (by simp) w

/-! ### The operations -/

/-- One view changes, but not in what a connection depends on. -/
theorem Conns.reviewed {x : Option ℕ} {w w' : World} (h : Conns x w) {t : ℕ} {f : TryView → TryView}
    (hf : ∀ v, (f v).req = v.req ∧ (f v).doneCalled = v.doneCalled ∧ (f v).readFd = v.readFd)
    (hviews : ∀ t', view w' t' = if t = t' then (view w t').map f else view w t')
    (hclients : w'.clients = w.clients) (hfdtab : w'.fdtab = w.fdtab) (hfds : w'.fds = w.fds)
    (htrace : w'.trace = w.trace) : Conns x w' := by
  have hsplit : ∀ {t' v}, view w' t' = some v → ∃ v', view w t' = some v' ∧
      v'.req = v.req ∧ v'.doneCalled = v.doneCalled ∧ v'.readFd = v.readFd := by
    intro t' v hv
    rw [hviews] at hv
    split_ifs at hv
    · obtain ⟨v', hv', rfl⟩ := Option.map_eq_some_iff.mp hv
      obtain ⟨hreq, hd, hread⟩ := hf v'
      exact ⟨v', hv', hreq.symm, hd.symm, hread.symm⟩
    · exact ⟨v, hv, rfl, rfl, rfl⟩
  have hlogin : ∀ {t' c}, LoginOf w' t' c → LoginOf w t' c := by
    rintro t' c ⟨v, hv, hd, hc⟩
    obtain ⟨v', hv', hreq, hd', -⟩ := hsplit hv
    exact ⟨v', hv', hd'.trans hd, by rw [hreq, hc]⟩
  refine ⟨?_, ?_, ?_, fun hl => ?_, fun hl => ?_, fun hl hl' => h.one (hlogin hl) (hlogin hl'),
    ?_, ?_⟩
  · rw [hclients, hfdtab]
    exact h.sock
  · intro t' v hv hd
    obtain ⟨v', hv', -, hdone, hread⟩ := hsplit hv
    rw [hfdtab, ← hread]
    exact h.pipe hv' (hdone.trans hd)
  · rw [hfds, hclients]
    exact h.entry
  · rw [hclients]
    exact h.login (hlogin hl)
  · rw [World.clientAt_congr hclients]
    exact h.busy (hlogin hl)
  · intro t' v c hv hc
    obtain ⟨v', hv', hreq, -, -⟩ := hsplit hv
    rw [← hreq] at hc ⊢
    exact h.origin hv' hc
  · intro t' dest msg ho
    rw [htrace] at ho
    obtain ⟨v, c, hv, hc, hdest⟩ := h.sent ho
    obtain ⟨v', hv', hreq⟩ : ∃ v', view w' t' = some v' ∧ v'.req = v.req := by
      rw [hviews, hv]
      split_ifs
      · exact ⟨_, rfl, (hf v).1⟩
      · exact ⟨_, rfl, rfl⟩
    exact ⟨v', c, hv', hreq ▸ hc, hdest⟩

theorem Conns.release {x : Option ℕ} {w : World} (h : Conns x w) (t : ℕ) :
    Conns x (release t w) := by
  refine h.reviewed (f := fun v => { v with pid := -1, freed := true }) ?_ (view_release t w)
    (clients_release w t) (fdtab_release w t) (fds_release w t) (trace_release w t)
  exact fun _ => ⟨rfl, rfl, rfl⟩

theorem Idle.release {c : ℕ} {w : World} (h : Idle c w) (t : ℕ) : Idle c (release t w) :=
  ⟨by rw [clients_release]; exact h.connected, fun _ ht => h.noLogin _ ht.of_release⟩

/-- The callback of a try in flight is called: its pipe is closed. -/
theorem Conns.calledBack {x : Option ℕ} {w : World} (h : Conns x w) {t : ℕ} {v : TryView}
    (hv : view w t = some v) (hdone : v.doneCalled = false) : Conns x (calledBack t w) := by
  have hpipe := h.pipe hv hdone
  have hfdtab := fdtab_calledBack hv
  have hview : ∀ {t' v'}, view (SpawnService.calledBack t w) t' = some v' →
      ∃ v₀, view w t' = some v₀ ∧ v₀.req = v'.req ∧
        (v'.doneCalled = false → v₀ = v' ∧ t' ≠ t) := by
    intro t' v' hv'
    rw [view_calledBack] at hv'
    split_ifs at hv' with ht
    · obtain ⟨v₀, hv₀, rfl⟩ := Option.map_eq_some_iff.mp hv'
      exact ⟨v₀, hv₀, rfl, fun hd => by cases hd⟩
    · exact ⟨v', hv', rfl, fun _ => ⟨rfl, Ne.symm ht⟩⟩
  refine ⟨?_, ?_, ?_, fun hl => ?_, fun hl => ?_, fun hl hl' => ?_, ?_, ?_⟩
  · intro c cl hc hfree
    rw [clients_calledBack] at hc
    rw [hfdtab]
    exact lookup_close_of_some hpipe (h.sock hc hfree) FdObj.noConfusion
  · intro t' v' hv' hd
    obtain ⟨v₀, hv₀, -, hsame⟩ := hview hv'
    obtain ⟨rfl, hne⟩ := hsame hd
    rw [hfdtab]
    refine lookup_close_of_some hpipe (h.pipe hv₀ hd) fun heq => ?_
    exact hne (FdObj.pipeRead.inj heq).symm
  · intro r c hr hcb
    rw [live_calledBack hv] at hr
    rw [clients_calledBack]
    exact h.entry (List.mem_filter.mp hr).1 hcb
  · rw [clients_calledBack]
    exact h.login (loginOf_calledBack.mp hl).2
  · rw [World.clientAt_congr (clients_calledBack w t)]
    exact h.busy (loginOf_calledBack.mp hl).2
  · exact h.one (loginOf_calledBack.mp hl).2 (loginOf_calledBack.mp hl').2
  · intro t' v' c hv' hc
    obtain ⟨v₀, hv₀, hreq, -⟩ := hview hv'
    rw [← hreq] at hc ⊢
    exact h.origin hv₀ hc
  · intro t' dest msg ho
    rw [trace_calledBack] at ho
    have ho' : .sent (.sessionDone t') dest msg ∈ w.trace := by simpa using ho
    obtain ⟨v₀, c, hv₀, hc, hdest⟩ := h.sent ho'
    obtain ⟨v', hv', hreq⟩ : ∃ v', view (SpawnService.calledBack t w) t' = some v' ∧
        v'.req = v₀.req := by
      rw [view_calledBack, hv₀]
      split_ifs
      · exact ⟨_, rfl, rfl⟩
      · exact ⟨_, rfl, rfl⟩
    exact ⟨v', c, hv', hreq ▸ hc, hdest⟩

/-- A try has failed at once: nothing of it is in flight. -/
theorem Conns.fails {x : Option ℕ} {w : World} (h : Conns x w) (noTty : Bool) {req : SpawnRequest}
    (hreq : ∀ c, req.done = .sessionDone c → req.origin = some (.sock c)) :
    Conns x (tryFailed C noTty req w) := by
  have hview := view_tryFailed C noTty req w
  have hold : ∀ {t v}, view w t = some v → view (tryFailed C noTty req w) t = some v := by
    intro t v hv
    rw [hview, if_neg (view_lt hv).ne, hv]
  refine ⟨?_, ?_, ?_, fun hl => ?_, fun hl => ?_, fun hl hl' => h.one hl.of_tryFailed hl'.of_tryFailed,
    ?_, ?_⟩
  · intro c cl hc hfree
    rw [clients_tryFailed] at hc
    exact lookup_tryFailed C noTty req (h.sock hc hfree)
  · intro t v hv hd
    rw [hview] at hv
    split_ifs at hv with ht
    · rw [← Option.some.inj hv] at hd
      cases hd
    · exact lookup_tryFailed C noTty req (h.pipe hv hd)
  · intro r c hr hcb
    rw [clients_tryFailed]
    exact h.entry (live_tryFailed C noTty req w r hr) hcb
  · rw [clients_tryFailed]
    exact h.login hl.of_tryFailed
  · rw [World.clientAt_congr (clients_tryFailed C w noTty req)]
    exact h.busy hl.of_tryFailed
  · intro t v c hv hc
    rw [hview] at hv
    split_ifs at hv with ht
    · rw [← Option.some.inj hv] at hc ⊢
      exact hreq c hc
    · exact h.origin hv hc
  · intro t dest msg ho
    rw [trace_tryFailed] at ho
    have ho' : .sent (.sessionDone t) dest msg ∈ w.trace := by simpa using ho
    obtain ⟨v, c, hv, hrest⟩ := h.sent ho'
    exact ⟨v, c, hold hv, hrest⟩

/-- A child was forked; if it is for a login, its client is idle. -/
theorem Conns.forks {x x' : Option ℕ} {w : World} (h : Conns x w) {req : SpawnRequest} (pid : ℕ)
    (hx : ∀ c, x = some c → x' = some c)
    (hreq : ∀ c, req.done = .sessionDone c →
      x' = some c ∧ Idle c w ∧ req.origin = some (.sock c)) :
    Conns x' (childForked w.tries.length pid (openTry req w)) := by
  have hview := view_forked req pid w
  have hclients : (childForked w.tries.length pid (openTry req w)).clients = w.clients := by
    rw [clients_childForked, clients_openTry]
  have hold : ∀ {t v}, view w t = some v →
      view (childForked w.tries.length pid (openTry req w)) t = some v := by
    intro t v hv
    rw [hview, if_neg (view_lt hv).ne, hv]
  have hopen : ∀ {n o}, lookup w.fdtab n = some o →
      lookup (childForked w.tries.length pid (openTry req w)).fdtab n = some o := by
    intro n o hn
    rw [lookup_forked]
    exact lookup_open_of_some hn _
  refine ⟨?_, ?_, ?_, fun hl => ?_, fun hl => ?_, fun hl hl' => ?_, ?_, ?_⟩
  · intro c cl hc hfree
    rw [hclients] at hc
    exact hopen (h.sock hc hfree)
  · intro t v hv hd
    rw [hview] at hv
    split_ifs at hv with ht
    · rw [← Option.some.inj hv, lookup_forked, ht]
      exact lookup_open_self _ _
    · exact hopen (h.pipe hv hd)
  · intro r c hr hcb
    rw [live_forked] at hr
    rw [hclients]
    rcases List.mem_append.mp hr with hr | hr
    · exact h.entry hr hcb
    · rw [List.mem_singleton.mp hr] at hcb
      cases hcb
  · rw [hclients]
    rcases hl.of_forked with ⟨-, hc⟩ | hl
    · exact (hreq _ hc).2.1.connected
    · exact h.login hl
  · rw [World.clientAt_congr hclients]
    rcases hl.of_forked with ⟨-, hc⟩ | hl
    · exact Or.inl (hreq _ hc).1
    · exact (h.busy hl).imp_left (hx _)
  · -- an idle client has no other login
    rcases hl.of_forked with ⟨rfl, hc⟩ | hold <;> rcases hl'.of_forked with ⟨rfl, hc'⟩ | hold'
    · rfl
    · exact absurd hold' ((hreq _ hc).2.1.noLogin _)
    · exact absurd hold ((hreq _ hc').2.1.noLogin _)
    · exact h.one hold hold'
  · intro t v c hv hc
    rw [hview] at hv
    split_ifs at hv with ht
    · rw [← Option.some.inj hv] at hc ⊢
      exact (hreq c hc).2.2
    · exact h.origin hv hc
  · intro t dest msg ho
    rw [trace_childForked, trace_openTry] at ho
    have ho' : .sent (.sessionDone t) dest msg ∈ w.trace := by simpa using ho
    obtain ⟨v, c, hv, hrest⟩ := h.sent ho'
    exact ⟨v, c, hold hv, hrest⟩

/-- The field `try` of a client is set: to a try, or to `NULL` if no login of the client is in
flight. -/
theorem Conns.setTry {x x' : Option ℕ} {w : World} (h : Conns x w) {c : ℕ} {s : Option ℕ}
    (hs : s.isSome = true ∨ ∀ t, ¬LoginOf w t c)
    (hx : ∀ c', x = some c' → x' = some c' ∨ (c' = c ∧ s.isSome = true)) :
    Conns x' (w.modClient c fun cl => { cl with spawnTry := s }) := by
  have hget : ∀ {c' : ℕ} {cl : State.Client},
      (w.modClient c fun cl => { cl with spawnTry := s }).clients[c']? = some cl →
      ∃ cl', w.clients[c']? = some cl' ∧ cl'.freed = cl.freed ∧ cl'.fd = cl.fd := by
    intro c' cl hcl
    rw [World.getElem?_modClient] at hcl
    obtain ⟨cl', hcl', rfl⟩ := Option.map_eq_some_iff.mp hcl
    refine ⟨cl', hcl', ?_, ?_⟩ <;> split_ifs <;> rfl
  have hput : ∀ {c' : ℕ} {cl : State.Client}, w.clients[c']? = some cl →
      ∃ cl', (w.modClient c fun cl => { cl with spawnTry := s }).clients[c']? = some cl' ∧
        cl'.freed = cl.freed ∧ cl'.fd = cl.fd := by
    intro c' cl hcl
    rw [World.getElem?_modClient, hcl]
    refine ⟨_, rfl, ?_, ?_⟩ <;> split_ifs <;> rfl
  refine ⟨?_, h.pipe, ?_, fun hl => ?_, ?_, fun hl hl' => h.one hl hl', h.origin, h.sent⟩
  · intro c' cl hcl hfree
    obtain ⟨cl', hcl', hf, hfd⟩ := hget hcl
    rw [← hfd]
    exact h.sock hcl' (hf.trans hfree)
  · intro r c' hr hcb
    obtain ⟨cl, hcl, hfree, hfd⟩ := h.entry hr hcb
    obtain ⟨cl', hcl', hf', hfd'⟩ := hput hcl
    exact ⟨cl', hcl', hf'.trans hfree, hfd'.trans hfd⟩
  · obtain ⟨cl, hcl, hfree⟩ := h.login hl
    obtain ⟨cl', hcl', hf', -⟩ := hput hcl
    exact ⟨cl', hcl', hf'.trans hfree⟩
  · intro t c' hl
    have hl₀ : LoginOf w t c' := hl
    obtain ⟨cl, hcl, -⟩ := h.login hl₀
    have hat : (w.modClient c fun cl => { cl with spawnTry := s }).clientAt c' =
        if c = c' then { cl with spawnTry := s } else cl :=
      World.clientAt_eq (by rw [World.getElem?_modClient, hcl, Option.map_some])
    rw [hat]
    by_cases hc : c = c'
    · subst hc
      rw [if_pos rfl]
      exact Or.inr (hs.resolve_right fun hno => hno t hl₀)
    · rw [if_neg hc]
      rcases h.busy hl₀ with hb | hb
      · exact Or.inl ((hx c' hb).resolve_right fun hcc => hc hcc.1.symm)
      · exact Or.inr (by rwa [World.clientAt_eq hcl] at hb)

theorem Idle.setTry {c : ℕ} {w : World} (h : Idle c w) (c' : ℕ) (s : Option ℕ) :
    Idle c (w.modClient c' fun cl => { cl with spawnTry := s }) := by
  obtain ⟨cl, hcl, hfree⟩ := h.connected
  refine ⟨⟨_, by rw [World.getElem?_modClient, hcl, Option.map_some], ?_⟩, fun t ht => h.noLogin t ht⟩
  split_ifs <;> exact hfree

/-- A client without a login in flight is released. -/
theorem Conns.clientFree {x : Option ℕ} {w : World} (h : Conns x w) {c : ℕ} (hidle : Idle c w) :
    Conns x (clientFree c w) := by
  obtain ⟨cl, hcl, hfree⟩ := hidle.connected
  have hfd : (w.clientAt c).fd = cl.fd := by rw [World.clientAt_eq hcl]
  have hsock := h.sock hcl hfree
  have hget : ∀ {c' cl'}, (Client.clientFree c w).clients[c']? = some cl' → cl'.freed = false →
      c' ≠ c ∧ w.clients[c']? = some cl' := by
    intro c' cl' hcl' hfree'
    have hmod := (World.getElem?_modClient ((w.unregisterFd (w.clientAt c).fd).closeFd
      (w.clientAt c).fd) c c' fun cl => { cl with freed := true }).symm.trans hcl'
    obtain ⟨cl₀, hcl₀, rfl⟩ := Option.map_eq_some_iff.mp hmod
    split_ifs at hfree' with hc
    rw [if_neg hc]
    exact ⟨Ne.symm hc, hcl₀⟩
  have hput : ∀ {c' cl'}, c' ≠ c → w.clients[c']? = some cl' →
      (Client.clientFree c w).clients[c']? = some cl' := by
    intro c' cl' hne hcl'
    refine (World.getElem?_modClient ((w.unregisterFd (w.clientAt c).fd).closeFd
      (w.clientAt c).fd) c c' fun cl => { cl with freed := true }).trans ?_
    rw [World.closeFd_clients, World.unregisterFd_clients, hcl', Option.map_some,
      if_neg (Ne.symm hne)]
  have hother : ∀ {t c'}, LoginOf w t c' → c' ≠ c := by
    rintro t c' hl rfl
    exact hidle.noLogin t hl
  have hfdtab : (Client.clientFree c w).fdtab = closeSlot w.fdtab cl.fd := by rw [← hfd]; rfl
  refine ⟨?_, ?_, ?_, fun {t c'} hl => ?_, ?_, fun hl hl' => h.one hl hl', h.origin, h.sent⟩
  · intro c' cl' hcl' hfree'
    obtain ⟨hne, hcl'⟩ := hget hcl' hfree'
    rw [hfdtab]
    refine lookup_close_of_some hsock (h.sock hcl' hfree') fun heq => ?_
    exact hne (FdObj.sock.inj heq).symm
  · intro t v hv hd
    rw [hfdtab]
    exact lookup_close_of_some hsock (h.pipe hv hd) FdObj.noConfusion
  · intro r c' hr hcb
    obtain ⟨hr, hne⟩ := FdTable.mem_live_unregisterFd.mp hr
    obtain ⟨cl', hcl', hfree', hfd'⟩ := h.entry hr hcb
    refine ⟨cl', hput ?_ hcl', hfree', hfd'⟩
    rintro rfl
    rw [World.clientAt_eq hcl'] at hne
    exact hne hfd'.symm
  · have hl₀ : LoginOf w t c' := hl
    obtain ⟨cl', hcl', hfree'⟩ := h.login hl₀
    exact ⟨cl', hput (hother hl₀) hcl', hfree'⟩
  · intro t c' hl
    have hl₀ : LoginOf w t c' := hl
    obtain ⟨cl', hcl', -⟩ := h.login hl₀
    rw [World.clientAt_eq (hput (hother hl₀) hcl'), ← World.clientAt_eq hcl']
    exact h.busy hl₀

/-- The answer to a login of a connected client goes to its connection. -/
theorem Conns.sends {x : Option ℕ} {w : World} (h : Conns x w) {t c : ℕ} {v : TryView}
    (hv : view w t = some v) (hc : v.req.done = .sessionDone c) (hidle : Idle c w)
    (type : ServerType) (fb : Option RequestFeedback) (data : Option Data) :
    Conns x (sendMessage (.sessionDone t) type fb data (w.clientAt c).fd w) := by
  obtain ⟨cl, hcl, hfree⟩ := hidle.connected
  have hdest : lookup w.fdtab (w.clientAt c).fd = some (.sock c) := by
    rw [World.clientAt_eq hcl]
    exact h.sock hcl hfree
  refine ⟨h.sock, h.pipe, h.entry, fun hl => h.login hl, fun hl => h.busy hl,
    fun hl hl' => h.one hl hl', h.origin, fun {t' dest msg} ho => ?_⟩
  rcases List.mem_append.mp ho with ho | ho
  · exact h.sent ho
  · obtain ⟨hwhy, rfl, -⟩ := Obs.sent.inj (List.mem_singleton.mp ho)
    obtain rfl := Sender.sessionDone.inj hwhy
    exact ⟨v, c, hv, hc, hdest⟩

/-- **`_session_done`** for a connected client that has no other login in flight. -/
theorem Conns.sessionDone {x : Option ℕ} {w : World} (h : Conns x w) (a : Answers) {t c : ℕ}
    {v : TryView} (hv : view w t = some v) (hc : v.req.done = .sessionDone c) (hidle : Idle c w)
    (result : SpawnServiceEnd) : Conns x (sessionDone a t c result w) := by
  have hx' : ∀ c', x = some c' → x = some c' ∨ (c' = c ∧ (none : Option ℕ).isSome = true) :=
    fun c' hc' => Or.inl hc'
  have hfault : Quiet w (if (w.clientAt c).freed then w.fault else w) := by
    split_ifs
    · exact quiet_fault w
    · exact Quiet.refl w
  unfold Client.sessionDone
  dsimp only
  generalize (if (w.clientAt c).freed then w.fault else w) = w₁ at hfault ⊢
  have h₁ := h.quiet hfault
  have hidle₁ := hidle.quiet hfault
  have hv₁ : view w₁ t = some v := by rw [hfault.views, hv]
  cases result.success with
  | error => exact (h₁.sends hv₁ hc hidle₁ _ _ _).setTry (Or.inr hidle₁.noLogin) hx'
  | success =>
    dsimp only
    have hlock := quiet_greeterLockout (seatGet a.sd (w₁.clientAt c).pid) w₁
    set w₂ := greeterLockout (seatGet a.sd (w₁.clientAt c).pid) w₁
    have hidle₂ := hidle₁.quiet hlock
    have hv₂ : view w₂ t = some v := by rw [hlock.views, hv₁]
    have hset := ((h₁.quiet hlock).sends hv₂ hc hidle₂ .loginFeedback
      (some ⟨true, "You are logged in!"⟩) none).setTry (Or.inr hidle₂.noLogin) hx'
    have hanswered : Idle c (serverSpawnserviceFeedback (.sessionDone t) true
        (some "You are logged in!") (w₂.clientAt c).fd w₂) := hidle₂.congr rfl rfl
    have hidle₃ := hanswered.setTry c none
    exact (hset.sends hv₂ hc hidle₃ .leave none none).clientFree (hidle₃.congr rfl rfl)

end Spawny.Daemon.Connections
