import Spawny.Daemon.GreeterSlots

/-! # One greeter for each seat

The record of a seat has the try that starts its greeter in `run.try`, and the process of the greeter
in `run.pid` when it is there. `Single` says that what the record has is all there is: a try in flight
is the one in its record, and a listener for a greeter is for the process in its record. The try
that is being freed and the listener that is being called are its parameters.

* `Single.congr`, `Single.setRecord`: what `Single` survives;
* `Single.activate`: an activation that starts a greeter only for a record without one keeps `Single`;
* `single_step`: so does every step under two conditions;
* `one_greeter`: **no seat has two greeters** in such runs;
* `two_greeters`: a run in which a seat has two. -/

namespace Spawny.Daemon.OneGreeter

open Spawny.Lib.Wire Spawny.Lib.Descriptors Spawny.Lib.Runs Spawny.Protocol Spawny.Protocol.Messages
open Spawny.Daemon.Manager Spawny.Daemon.SpawnRegistry
open Spawny.Daemon.SessionMgt Spawny.Daemon.State Spawny.Daemon.SpawnService
open Spawny.Daemon.GreeterTable Spawny.Daemon.Client Spawny.Daemon.Greeter Spawny.Daemon.Activations
open Spawny.Daemon.Server Spawny.Daemon.Loop Spawny.Daemon.Steps Spawny.Daemon.TryViews
open Spawny.Daemon.TryRule Spawny.Daemon.TryLife Spawny.Daemon.TryFields Spawny.Daemon.Processes
open Spawny.Daemon.GreeterSlots

variable {C : FieldCode SpawnField} {y : Option ℕ} {x : Option (Waiting Handler)} {w : World}

/-! ### The invariant -/

/-- `run` of the record in slot `g`. -/
def runAt (w : World) (g : ℕ) : Option (Option ℕ × ℤ) :=
  (w.greeters[g]?).map fun r => (r.runTry, r.runPid)

theorem runAt_get {g : ℕ} {r : SeatGreeter} (hg : w.greeters[g]? = some r) :
    runAt w g = some (r.runTry, r.runPid) := by rw [runAt, hg, Option.map_some]

theorem runAt_of_runs {w' : World} (h : runs w' = runs w) (g : ℕ) : runAt w' g = runAt w g := by
  have hruns : ∀ w : World, runAt w g = ((runs w)[g]?).map Prod.snd := by
    intro w
    rw [runAt, runs, List.getElem?_map, Option.map_map]
    rfl
  rw [hruns, h, hruns]

/-- The listener for the greeter with the number `pid` and the slot `g` as its data. -/
def ends (pid : ℤ) (g : ℕ) : Waiting Handler := ⟨pid, some (.greeterDone g)⟩

/-- **The invariant of the greeters.** `y` is the try that is being freed and `x` the listener that is
being called, if there is one. -/
structure Single (y : Option ℕ) (x : Option (Waiting Handler)) (w : World) : Prop where
  waiting : ∀ {t g : ℕ} {v : TryView}, view w t = some v → v.doneCalled = false →
    v.req.done = .greeterStartDone g → ∃ p, runAt w g = some (some t, p)
  listener : ∀ {pid : ℤ} {g : ℕ}, ends pid g ∈ w.registry.live → x ≠ some (ends pid g) → 0 < pid →
    runAt w g = some (none, pid)
  /-- a process that was not reaped has a listener once its try has ended -/
  running : ∀ {t g : ℕ} {v : TryView}, view w t = some v → v.doneCalled = true → y ≠ some t →
    v.childPid ≠ 0 → v.reaped = false → v.req.done = .greeterStartDone g →
      ends v.childPid g ∈ w.registry.live
  started : ∀ {t : ℕ} {o : Option ℕ}, .startDone t o ∈ w.trace → o = some t

/-! ### What the invariant survives -/

/-- The view of a greeter's try comes from `v`, and only what it waits for may have come. -/
structure Follows (y y' : Option ℕ) (t : ℕ) (v v' : TryView) : Prop where
  req : v.req = v'.req
  childPid : v.childPid = v'.childPid
  reaped : v'.reaped = false → v.reaped = false
  pending : v'.doneCalled = false → v.doneCalled = false
  done : v'.doneCalled = true → y' ≠ some t → v.doneCalled = true ∧ y ≠ some t

theorem Follows.refl (y : Option ℕ) (t : ℕ) (v : TryView) : Follows y y t v v :=
  ⟨rfl, rfl, id, id, fun hdone hy => ⟨hdone, hy⟩⟩

/-- **What the invariant survives**: the records stay, and there are no new greeters. -/
theorem Single.congr {y' : Option ℕ} {w' : World} (h : Single y x w)
    (hrun : ∀ {g p}, runAt w g = some p → runAt w' g = some p)
    (hview : ∀ {t g v'}, view w' t = some v' → v'.req.done = .greeterStartDone g →
      ∃ v, view w t = some v ∧ Follows y y' t v v')
    (hlive : ∀ {pid g}, ends pid g ∈ w'.registry.live ↔ ends pid g ∈ w.registry.live)
    (hstarted : ∀ {t o}, Obs.startDone t o ∈ w'.trace → .startDone t o ∈ w.trace) :
    Single y' x w' where
  waiting hv' hdone hd := by
    obtain ⟨v, hv, hf⟩ := hview hv' hd
    obtain ⟨p, hp⟩ := h.waiting hv (hf.pending hdone) (hf.req ▸ hd)
    exact ⟨p, hrun hp⟩
  listener he hx hpos := hrun (h.listener (hlive.mp he) hx hpos)
  running hv' hdone hy hchild hreaped hd := by
    obtain ⟨v, hv, hf⟩ := hview hv' hd
    obtain ⟨hdone', hy'⟩ := hf.done hdone hy
    have hmem := h.running hv hdone' hy' (hf.childPid ▸ hchild) (hf.reaped hreaped) (hf.req ▸ hd)
    rw [hf.childPid] at hmem
    exact hlive.mpr hmem
  started ho := h.started (hstarted ho)

theorem mem_greeterObs_startDone {t : ℕ} {o : Option ℕ} :
    Obs.startDone t o ∈ greeterObs w ↔ Obs.startDone t o ∈ w.trace := by
  simp [greeterObs, Obs.ofGreeter]

theorem Single.steady {w' : World} (h : Single y x w) (hs : Steady w w') : Single y x w' := by
  refine h.congr (fun {g p} hp => ?_) (fun {t g v} hv _ => ⟨v, ?_, Follows.refl y t v⟩) ?_ ?_
  · rw [runAt_of_runs hs.runs, hp]
  · rw [← hs.views, hv]
  · intro pid g
    rw [hs.registry]
  · intro t o ho
    rwa [← mem_greeterObs_startDone, hs.obs, mem_greeterObs_startDone] at ho

/-- A callback of a greeter that is not the success of its start. -/
theorem Single.logCb (h : Single y x w) (t : ℕ) (found : Option String) :
    Single y x (w.log (.greeterCb t found)) := by
  refine h.congr id (fun {t g v} hv _ => ⟨v, hv, Follows.refl y t v⟩) Iff.rfl fun {t o} ho => ?_
  rw [World.log_trace] at ho
  simpa using ho

theorem Single.logStart (h : Single y x w) (t : ℕ) : Single y x (w.log (.startDone t (some t))) := by
  refine ⟨h.waiting, h.listener, h.running, fun {t' o} ho => ?_⟩
  rw [World.log_trace] at ho
  rcases List.mem_append.mp ho with ho | ho
  · exact h.started ho
  · obtain ⟨rfl, rfl⟩ := Obs.startDone.inj (List.mem_singleton.mp ho)
    rfl

/-- A login makes a try whose child is forked. -/
theorem Single.forks (h : Single y x w) {req : SpawnRequest}
    (hreq : ∀ g, req.done ≠ .greeterStartDone g) (pid : ℕ) :
    Single y x (childForked w.tries.length pid (openTry req w)) := by
  have hgreeters : (childForked w.tries.length pid (openTry req w)).greeters = w.greeters := by simp
  refine h.congr (fun {g p} hp => ?_) (fun {t g v} hv hd => ?_) (fun {pid' g} => ?_)
    fun {t o} ho => ?_
  · rw [runAt, hgreeters, ← runAt, hp]
  · rw [view_forked] at hv
    split_ifs at hv with ht
    · obtain rfl := Option.some.inj hv
      exact absurd hd (hreq g)
    · exact ⟨v, hv, Follows.refl y t v⟩
  · rw [registry_forked, Registry.live_listen]
    simp [ends]
  · rw [trace_childForked, trace_openTry] at ho
    simpa using ho

/-- A login makes a try that fails at once. -/
theorem Single.fails (h : Single y x w) {req : SpawnRequest}
    (hreq : ∀ g, req.done ≠ .greeterStartDone g) (noTty : Bool) :
    Single y x (tryFailed C noTty req w) := by
  refine h.congr (fun {g p} hp => ?_) (fun {t g v} hv hd => ?_) (fun {pid' g} => ?_)
    fun {t o} ho => ?_
  · rw [runAt, greeters_tryFailed, ← runAt, hp]
  · rw [view_tryFailed] at hv
    split_ifs at hv with ht
    · obtain rfl := Option.some.inj hv
      exact absurd hd (hreq g)
    · exact ⟨v, hv, Follows.refl y t v⟩
  · rw [registry_tryFailed]
  · rw [trace_tryFailed] at ho
    simpa using ho

theorem Single.calls (h : Single none x w) (t : ℕ) : Single (some t) x (calledBack t w) := by
  refine h.congr (fun {g p} hp => ?_) (fun {t' g v'} hv' hd => ?_) (fun {pid' g} => ?_)
    fun {t o} ho => ?_
  · rw [runAt, greeters_calledBack, ← runAt, hp]
  · rw [view_calledBack] at hv'
    split_ifs at hv' with ht
    · obtain ⟨v, hv, rfl⟩ := Option.map_eq_some_iff.mp hv'
      exact ⟨v, hv, rfl, rfl, id, nofun, fun _ hy => absurd (congrArg some ht) hy⟩
    · exact ⟨v', hv', rfl, rfl, id, id, fun hdone _ => ⟨hdone, nofun⟩⟩
  · rw [registry_calledBack]
  · rw [trace_calledBack] at ho
    simpa using ho

theorem Single.releases (h : Single y x w) (t : ℕ) : Single y x (release t w) := by
  refine h.congr (fun {g p} hp => ?_) (fun {t' g v'} hv' hd => ?_) (fun {pid' g} => ?_)
    fun {t o} ho => ?_
  · rw [runAt, greeters_release, ← runAt, hp]
  · rw [view_release] at hv'
    split_ifs at hv' with ht
    · obtain ⟨v, hv, rfl⟩ := Option.map_eq_some_iff.mp hv'
      exact ⟨v, hv, rfl, rfl, id, id, fun hdone hy => ⟨hdone, hy⟩⟩
    · exact ⟨v', hv', Follows.refl y t' v'⟩
  · refine Registry.mem_live_unlisten.trans ⟨And.left, fun hmem => ⟨hmem, ?_⟩⟩
    simp [ends]
  · rwa [trace_release] at ho

theorem Single.greeterAdd (h : Single y x w) (seat : String) : Single y x (greeterAdd seat w) := by
  refine h.congr (fun {g p} hp => ?_) (fun {t g v} hv _ => ⟨v, hv, Follows.refl y t v⟩) Iff.rfl id
  obtain ⟨r, hr, hrun⟩ := Option.map_eq_some_iff.mp hp
  have hlt := (List.getElem?_eq_some_iff.mp hr).1
  have hr' : (GreeterTable.greeterAdd seat w).greeters[g]? = some r :=
    (List.getElem?_append_left hlt).trans hr
  rw [runAt, hr', Option.map_some, hrun]

/-! ### A record without a greeter -/

/-- Nobody has the slot `g` as its data. -/
structure Idle (x : Option (Waiting Handler)) (g : ℕ) (w : World) : Prop where
  tries : ∀ {t : ℕ} {v : TryView}, view w t = some v → v.doneCalled = false →
    v.req.done ≠ .greeterStartDone g
  listeners : ∀ {pid : ℤ}, ends pid g ∈ w.registry.live → x ≠ some (ends pid g) → pid ≤ 0

theorem Single.idle (h : Single y x w) {g : ℕ}
    (hrun : ∀ o p, runAt w g = some (o, p) → o = none ∧ p ≤ 0) : Idle x g w where
  tries hv hdone hd := by
    obtain ⟨p, hp⟩ := h.waiting hv hdone hd
    cases (hrun _ _ hp).1
  listeners he hx := by
    by_contra hpos
    exact hpos (hrun _ _ (h.listener he hx (by omega))).2

theorem Idle.congr {w' : World} {g : ℕ} (h : Idle x g w) (hview : TryViews.view w' = TryViews.view w)
    (hreg : w'.registry = w.registry) : Idle x g w' where
  tries := by rw [hview]; exact h.tries
  listeners := by rw [hreg]; exact h.listeners

theorem runAt_modGreeter {f : SeatGreeter → SeatGreeter} {g g' : ℕ} (hne : g ≠ g') :
    runAt (w.modGreeter g f) g' = runAt w g' := by
  rw [runAt, World.getElem?_modGreeter, runAt]
  simp [hne]

/-- The record of an idle slot may be set to anything. -/
theorem Single.setRecord (h : Single y x w) {g : ℕ} (hidle : Idle x g w)
    (f : SeatGreeter → SeatGreeter) : Single y x (w.modGreeter g f) where
  waiting {t g' v} hv hdone hd := by
    have hne : g ≠ g' := by
      rintro rfl
      exact hidle.tries hv hdone hd
    rw [runAt_modGreeter hne]
    exact h.waiting hv hdone hd
  listener {pid g'} he hx hpos := by
    have hne : g ≠ g' := by
      rintro rfl
      have := hidle.listeners he hx
      omega
    rw [runAt_modGreeter hne]
    exact h.listener he hx hpos
  running := h.running
  started := h.started

/-- A greeter is forked for an idle slot. -/
theorem Single.greeterForked (h : Single y x w) {g : ℕ} {r : SeatGreeter} (hidle : Idle x g w)
    (hg : w.greeters[g]? = some r) (pid : ℕ) : Single y x (greeterForked g r.seat pid w) := by
  set w₁ := childForked w.tries.length pid (openTry (greeterRequest g r.seat) w) with hw₁
  have hgreeters : w₁.greeters = w.greeters := by simp [hw₁]
  have hview := view_forked (greeterRequest g r.seat) pid w
  have hlive : ∀ {pid' : ℤ} {g' : ℕ}, ends pid' g' ∈ w₁.registry.live ↔
      ends pid' g' ∈ w.registry.live := by
    intro pid' g'
    rw [hw₁, registry_forked, Registry.live_listen]
    simp [ends]
  have hother : ∀ {g'}, g ≠ g' →
      runAt (Activations.greeterForked g r.seat pid w) g' = runAt w g' := by
    intro g' hne
    refine (runAt_modGreeter hne).trans ?_
    rw [runAt, ← hw₁, hgreeters, runAt]
  have hself : runAt (Activations.greeterForked g r.seat pid w) g =
      some (some w.tries.length, r.runPid) := by
    have hget : (Activations.greeterForked g r.seat pid w).greeters[g]? =
        some { r with runTry := some w.tries.length } := by
      refine (World.getElem?_modGreeter _ _ _ _).trans ?_
      rw [← hw₁, hgreeters, hg, Option.map_some, if_pos rfl]
    exact runAt_get hget
  refine ⟨fun {t g' v} hv hdone hd => ?_, fun {pid' g'} he hx hpos => ?_,
    fun {t g' v} hv hdone hy hchild hreaped hd => ?_, fun {t o} ho => ?_⟩
  · have hv' : view w₁ t = some v := hv
    rw [hw₁, hview] at hv'
    split_ifs at hv' with ht
    · obtain rfl := Option.some.inj hv'
      obtain rfl := DoneCb.greeterStartDone.inj hd
      exact ⟨r.runPid, by rw [ht, hself]⟩
    · have hne : g ≠ g' := by
        rintro rfl
        exact hidle.tries hv' hdone hd
      rw [hother hne]
      exact h.waiting hv' hdone hd
  · have he' : ends pid' g' ∈ w.registry.live := hlive.mp he
    have hne : g ≠ g' := by
      rintro rfl
      have := hidle.listeners he' hx
      omega
    rw [hother hne]
    exact h.listener he' hx hpos
  · have hv' : view w₁ t = some v := hv
    rw [hw₁, hview] at hv'
    split_ifs at hv' with ht
    · obtain rfl := Option.some.inj hv'
      cases hdone
    · exact hlive.mpr (h.running hv' hdone hy hchild hreaped hd)
  · have ho' : .startDone t o ∈ w₁.trace := ho
    rw [hw₁, trace_childForked, trace_openTry] at ho'
    exact h.started (by simpa using ho')

/-- The process of an idle slot is listened for: the try that is being freed has made it. -/
theorem Single.listens {t g : ℕ} {v : TryView} (h : Single (some t) x w) (hv : view w t = some v)
    (hd : v.req.done = .greeterStartDone g) (hrun : runAt w g = some (none, (v.childPid : ℤ))) :
    Single none x (w.listen v.childPid (.greeterDone g)) where
  waiting := h.waiting
  listener {pid g'} he hx hpos := by
    rw [World.listen_registry, Registry.live_listen] at he
    rcases List.mem_append.mp he with he | he
    · exact h.listener he hx hpos
    · simp only [ends, List.mem_singleton, Waiting.mk.injEq, Option.some.injEq,
        Handler.greeterDone.injEq] at he
      obtain ⟨rfl, rfl⟩ := he
      exact hrun
  running {t' g' v'} hv' hdone _ hchild hreaped hd' := by
    rw [World.listen_registry, Registry.live_listen]
    by_cases ht : t = t'
    · subst ht
      have hsame : view w t = some v' := hv'
      obtain rfl := Option.some.inj (hv.symm.trans hsame)
      obtain rfl := DoneCb.greeterStartDone.inj (hd.symm.trans hd')
      exact List.mem_append_right _ (List.mem_singleton_self _)
    · refine List.mem_append_left _ (h.running hv' hdone ?_ hchild hreaped hd')
      exact fun heq => ht (Option.some.inj heq)
  started := h.started

/-! ### Activations -/

/-- `greeter_activate` on the record `r` starts nothing, or the record has no greeter and the spawn does
not fail at once. -/
def mayStart (a : Answers) (r : SeatGreeter) (w : World) : Bool :=
  (greeterSession a r w).isSome || decide (FALLBACK_RUN_GENERATION < r.runGen) ||
    (r.runTry.isNone && (!(a.spawn w.tries.length).pipeOk || (r.runPid == -1 && spawnWorks a w)))

/-- The record that an activation of the seat works with. -/
def recordOf (seat : String) (w : World) : SeatGreeter :=
  ((greeterSearch seat w).bind fun g => w.greeters[g]?).getD ⟨seat, 0, none, -1, false⟩

/-- An activation of the seat starts no second greeter. -/
def activatesAlone (a : Answers) (seat : String) (w : World) : Bool :=
  mayStart a (recordOf seat w) w

/-- What such an activation does to the record `r` in slot `g`. -/
inductive Alone (a : Answers) (g : ℕ) (r : SeatGreeter) (w : World) : World → Prop
  | session (s : String) : Alone a g r w (w.log (.system (activateCommand s)))
  | givesUp : Alone a g r w w
  | noPipe (htry : r.runTry = none) : Alone a g r w (w.modGreeter g fun r => { r with runTry := none })
  | forked (pid : ℕ) (htry : r.runTry = none) (hpid : r.runPid = -1) :
    Alone a g r w (greeterForked g r.seat pid w)

theorem greeterStart_alone {a : Answers} {activate : String → World → World} {g : ℕ}
    {r : SeatGreeter} (h : mayStart a r w = true) :
    Alone a g r w (greeterStart C (doneCb a activate) a g r w) := by
  unfold greeterStart
  cases hs : greeterSession a r w with
  | some s => exact .session s
  | none =>
    dsimp only
    split_ifs with hgen
    · have hnew : r.runTry = none ∧ ((a.spawn w.tries.length).pipeOk = false ∨
          (r.runPid = -1 ∧ spawnWorks a w = true)) := by
        simpa [mayStart, hs, Nat.not_lt.mpr hgen] using h
      by_cases hpipe : (a.spawn w.tries.length).pipeOk = true
      · obtain ⟨hpid, hworks⟩ := hnew.2.resolve_left (by simp [hpipe])
        obtain ⟨pid, hchild⟩ := forks_of_spawnWorks hworks hpipe
        rw [spawnserviceSpawn_forks C hpipe hchild]
        exact .forked _ hnew.1 hpid
      · rw [spawnserviceSpawn_pipeFails C (by simpa using hpipe)]
        exact .noPipe hnew.1
    · exact .givesUp

theorem greeterActivate_alone {a : Answers} {seat : String} (h : activatesAlone a seat w = true) :
    ∃ w₁ g r, (w₁ = w ∨ w₁ = greeterAdd seat w) ∧ w₁.greeters[g]? = some r ∧
      Alone a g r w₁ (greeterActivate C a seat w) := by
  unfold greeterActivate maxActivate
  rcases greeterRecord_cases seat w with ⟨g, r, hrec, hsearch, hg, -⟩ | ⟨hnone, hrec, hg⟩
  · refine ⟨w, g, r, Or.inl rfl, hg, ?_⟩
    have hrecord : recordOf seat w = r := by rw [recordOf, hsearch, Option.bind_some, hg]; rfl
    simp only [greeterActivateUpTo, hrec, hg, Option.getD_some]
    exact greeterStart_alone (by rw [← hrecord]; exact h)
  · refine ⟨greeterAdd seat w, w.greeters.length, _, Or.inr rfl, hg, ?_⟩
    have hrecord : recordOf seat w = ⟨seat, 0, none, -1, false⟩ := by rw [recordOf, hnone]; rfl
    have hmay : mayStart a ⟨seat, 0, none, -1, false⟩ w = true := hrecord ▸ h
    simp only [greeterActivateUpTo, hrec, hg, Option.getD_some]
    exact greeterStart_alone hmay

/-- **An activation** that starts no second greeter keeps the invariant. -/
theorem Single.activate (h : Single y x w) {a : Answers} {seat : String}
    (hok : activatesAlone a seat w = true) : Single y x (greeterActivate C a seat w) := by
  obtain ⟨w₁, g, r, hw₁, hg, halone⟩ := greeterActivate_alone (C := C) hok
  have h₁ : Single y x w₁ := by
    rcases hw₁ with rfl | rfl
    · exact h
    · exact h.greeterAdd seat
  generalize greeterActivate C a seat w = w' at halone
  cases halone with
  | session s => exact h₁.steady (steady_log rfl rfl _)
  | givesUp => exact h₁
  | noPipe htry =>
    refine h₁.congr (fun {g' p} hp => ?_) (fun {t g v} hv _ => ⟨v, hv, Follows.refl y t v⟩)
      Iff.rfl id
    by_cases hne : g = g'
    · subst hne
      rw [runAt, World.getElem?_modGreeter, hg, Option.map_some, if_pos rfl, Option.map_some,
        ← htry, ← hp, runAt_get hg]
    · rw [runAt_modGreeter hne, hp]
  | forked pid htry hpid =>
    refine h₁.greeterForked (h₁.idle fun o p hp => ?_) hg pid
    rw [runAt_get hg, htry, hpid] at hp
    obtain ⟨rfl, rfl⟩ := Prod.mk.inj (Option.some.inj hp)
    exact ⟨rfl, by decide⟩

/-- The record in slot `g` is reset and its seat activated again. -/
theorem Single.restart (h : Single y x w) {a : Answers} {g : ℕ} {r : SeatGreeter}
    (hnodup : (seats w).Nodup) (hidle : Idle x g w) (hg : w.greeters[g]? = some r)
    (hworks : FALLBACK_RUN_GENERATION ≤ r.runGen ∨ spawnWorks a w = true) :
    Single y x (greeterActivate C a r.seat (greeterReset g w)) := by
  refine (h.setRecord hidle _).activate ?_
  have hget : (greeterReset g w).greeters[g]? =
      some (SeatGreeter.runReset { r with runGen := r.runGen + 1 }) := by
    refine (World.getElem?_modGreeter _ _ _ _).trans ?_
    rw [hg, Option.map_some, if_pos rfl]
  have hsearch : greeterSearch r.seat (greeterReset g w) = some g := by
    rw [greeterSearch_congr (seats_greeterReset g w)]
    exact greeterSearch_of_nodup hnodup hg
  have hrecord : recordOf r.seat (greeterReset g w) =
      SeatGreeter.runReset { r with runGen := r.runGen + 1 } := by
    rw [recordOf, hsearch, Option.bind_some, hget, Option.getD_some]
  refine (congrArg (fun r' => mayStart a r' (greeterReset g w)) hrecord).trans ?_
  rcases hworks with hgen | hspawn
  · have hgives : FALLBACK_RUN_GENERATION < r.runGen + 1 := by omega
    simp [mayStart, SeatGreeter.runReset, hgives]
  · have hspawn' : spawnWorks a (greeterReset g w) = true := spawnWorks_congr rfl hspawn
    simp [mayStart, SeatGreeter.runReset, hspawn']

/-! ### The callbacks -/

/-- The try that was being freed has ended: its process is listened for, if it is a greeter that was
not reaped. -/
theorem Single.forget {t : ℕ} (h : Single (some t) x w) (hend : ∀ g v, view w t = some v →
    v.childPid ≠ 0 → v.reaped = false → v.req.done = .greeterStartDone g →
      ends v.childPid g ∈ w.registry.live) : Single none x w where
  waiting := h.waiting
  listener := h.listener
  running {t' g v} hv hdone _ hchild hreaped hd := by
    by_cases ht : t = t'
    · subst ht
      exact hend g v hv hchild hreaped hd
    · exact h.running hv hdone (fun heq => ht (Option.some.inj heq)) hchild hreaped hd
  started := h.started

/-- When the callback of a greeter's try is called, its record has no greeter. -/
theorem Single.idle_calledBack (h : Single y x w) {t g : ℕ} {v : TryView} (hv : view w t = some v)
    (hdone : v.doneCalled = false) (hd : v.req.done = .greeterStartDone g) :
    Idle x g (calledBack t w) := by
  obtain ⟨p, hp⟩ := h.waiting hv hdone hd
  refine ⟨fun {t' v'} hv' hdone' hd' => ?_, fun {pid} he hx => ?_⟩
  · rw [view_calledBack] at hv'
    split_ifs at hv' with ht
    · obtain ⟨v₀, -, rfl⟩ := Option.map_eq_some_iff.mp hv'
      cases hdone'
    · obtain ⟨p', hp'⟩ := h.waiting hv' hdone' hd'
      rw [hp] at hp'
      exact ht (Option.some.inj (Prod.mk.inj (Option.some.inj hp')).1)
  · rw [registry_calledBack] at he
    by_contra hpos
    have hrun := h.listener he hx (by omega)
    rw [hp] at hrun
    cases (Prod.mk.inj (Option.some.inj hrun)).1

theorem Single.freed {a : Answers} {w' : World} (hlife : Life none w) (hslots : Slots w)
    (h : Single none x w) {t : ℕ} {v : TryView} (hv : view w t = some v) (hdone : v.doneCalled = false)
    (hreaped : (w.tryAt t).success = .error → v.reaped = true)
    (hworks : ∀ g r, (w.tryAt t).done = .greeterStartDone g → (w.tryAt t).success = .error →
      w.greeters[g]? = some r → FALLBACK_RUN_GENERATION ≤ r.runGen ∨ spawnWorks a w = true)
    (hf : Freed C a t w w') : Single none x w' := by
  have hcalled := h.calls t
  have hself := view_calledBack_self hv
  have hreq : (w.tryAt t).toSpawnRequest = v.req := congrArg TryView.req (view_tryAt hv)
  have hwaiting : ∀ {g}, (w.tryAt t).done = .greeterStartDone g →
      ∃ p, runAt w g = some (some t, p) := fun hd => h.waiting hv hdone (by rw [← hreq, hd])
  have hidle : ∀ {g}, (w.tryAt t).done = .greeterStartDone g → Idle x g (calledBack t w) :=
    fun hd => h.idle_calledBack hv hdone (by rw [← hreq, hd])
  cases hf with
  | login c hd =>
    have hsession := steady_sessionDone a t c (SpawnTry.result (w.tryAt t)) (calledBack t w)
    refine Single.releases ?_ t
    refine (hcalled.steady hsession).forget fun g v' hv' _ _ hd' => ?_
    rw [hsession.views, hself] at hv'
    rw [← Option.some.inj hv', ← hreq, hd] at hd'
    cases hd'
  | lost g hd hg =>
    obtain ⟨p, hp⟩ := hwaiting hd
    rw [runAt, hg] at hp
    cases hp
  | restarted g r hd hg hres =>
    refine Single.releases ?_ t
    have hended : Single none x (calledBack t w) := by
      refine hcalled.forget fun g' v' hv' _ hrea _ => ?_
      rw [hself] at hv'
      rw [← Option.some.inj hv', hreaped hres] at hrea
      cases hrea
    have hgreeters : (calledBack t w).greeters = w.greeters := greeters_calledBack w t
    refine (hended.logCb t _).restart ?_ ((hidle hd).congr rfl rfl) ?_ ?_
    · have hseats : seats (calledBack t w) = seats w := congrArg (List.map SeatGreeter.seat) hgreeters
      exact hseats ▸ hslots.nodup
    · exact (congrArg (·[g]?) hgreeters).trans hg
    · refine (hworks g r hd hres hg).imp_right fun hspawn => spawnWorks_congr ?_ hspawn
      simp [calledBack, closeRead]
  | noTry g r hd hg _ htry =>
    obtain ⟨p, hp⟩ := hwaiting hd
    rw [runAt_get hg, htry] at hp
    cases (Prod.mk.inj (Option.some.inj hp)).1
  | started g r t' hd hg _ htry =>
    obtain ⟨p, hp⟩ := hwaiting hd
    rw [runAt_get hg, htry] at hp
    obtain rfl := Option.some.inj (Prod.mk.inj (Option.some.inj hp)).1
    have hpid : ((calledBack t' w).tryAt t').pid = v.childPid := by
      rw [show ((calledBack t' w).tryAt t').pid = v.pid from congrArg TryView.pid (view_tryAt hself)]
      exact (hlife.forked hv hdone).2
    unfold greeterStarted
    dsimp only
    rw [show (((calledBack t' w).log (.greeterCb t' (seatAt (calledBack t' w) g))).log
      (.startDone t' (some t'))).tryAt t' = (calledBack t' w).tryAt t' from rfl, hpid]
    refine Single.releases ?_ t'
    have hset := ((hcalled.logCb t' (seatAt (calledBack t' w) g)).logStart t').setRecord
      ((hidle hd).congr rfl rfl) fun r => { r with runTry := none, runPid := (v.childPid : ℤ) }
    refine hset.listens (v := { v with doneCalled := true }) (g := g) hself ?_ ?_
    · rw [← hreq, hd]
    · have hget : ((((calledBack t' w).log (.greeterCb t' (seatAt (calledBack t' w) g))).log
          (.startDone t' (some t'))).modGreeter g
            fun r => { r with runTry := none, runPid := (v.childPid : ℤ) }).greeters[g]? =
          some { r with runTry := none, runPid := (v.childPid : ℤ) } := by
        refine (World.getElem?_modGreeter _ _ _ _).trans ?_
        have hgreeters : (calledBack t' w).greeters[g]? = some r := by rw [greeters_calledBack, hg]
        rw [show (((calledBack t' w).log (.greeterCb t' (seatAt (calledBack t' w) g))).log
          (.startDone t' (some t'))).greeters[g]? = some r from hgreeters, Option.map_some, if_pos rfl]
      exact runAt_get hget

/-- The seat of a `GREETER_START` of the client `c`. -/
def seatWanted (a : Answers) (c : ℕ) (w : World) : Option String :=
  match a.input with
  | .msg m =>
    if m.type = .greeterStart ∧ a.alive (w.clientAt c).pid = true then
      some ((requestSeat a c w).getD FALLBACK_SEAT)
    else none
  | _ => none

theorem Single.clientData {a : Answers} {c fd : ℕ} {w' : World} (h : Single y x w)
    (hok : ∀ seat, seatWanted a c w = some seat → activatesAlone a seat w = true)
    (hdoes : ClientData C a c fd w w') : Single y x w' := by
  have hlogin : ∀ (l : Login) (g : ℕ), (loginRequest a c fd l w).done ≠ .greeterStartDone g := by
    intro l g hd
    cases hd
  induction hdoes with
  | closed _ => exact h.steady ((steady_unregisterFd _ _).trans (steady_clientFree _ _))
  | dropped _ => exact h.steady (steady_clientFree _ _)
  | replied msg => exact h.steady (steady_log rfl rfl _)
  | activated _ session seat =>
    exact h.steady (((steady_sessionActivate _ _).trans (steady_sendMessage _ _ _ _ _ _)).trans
      ((steady_greeterLockout _ _).trans (steady_clientGoodbye _ _ _)))
  | noLogin => exact h.steady (steady_fault _)
  | noPipe _ => exact h.steady ((steady_modClient _ _ _).trans (steady_sendMessage _ _ _ _ _ _))
  | loginForked _ _ l pid => exact (h.forks (hlogin l) _).steady (steady_modClient _ _ _)
  | loginFailed _ l noTty _ _ _ =>
    have hfailed := h.fails (C := C) (hlogin l) noTty
    have hdone := hfailed.steady (steady_sessionDone a w.tries.length c ⟨.error, none⟩ _)
    exact (hdone.releases _).steady (steady_modClient _ _ _)
  | started _ m hinput htype halive =>
    refine (h.activate (hok _ ?_)).steady (steady_clientGoodbye _ _ _)
    simp [seatWanted, hinput, htype, halive]
  | ignored => exact h
  | fallback w' _ ih => exact ih.steady (steady_fault _)

/-- A try that is freed because its session is active has succeeded. -/
theorem Single.childData {a : Answers} {t fd : ℕ} {w' : World} (hlife : Life none w)
    (hslots : Slots w) (h : Single none x w) {v : TryView} (hv : view w t = some v)
    (hdone : v.doneCalled = false) (hdoes : ChildData C a t fd w w') : Single none x w' := by
  rcases steady_childData hdoes with hs | hfree
  · exact h.steady hs
  · have hset := steady_setSuccess t w
    have hsuccess : ((((w.modTry t SpawnTry.readPipe).unregisterFd (w.tryAt t).readFd).modTry t
        fun tr => { tr with success := .success }).tryAt t).success ≠ .error := by
      obtain ⟨tr, htr, -⟩ := view_eq_some.mp hv
      rw [World.tryAt_eq (getElem?_succeeded htr _)]
      exact nofun
    exact Single.freed (hlife.aside hset.toAside) (hslots.steady hset) (h.steady hset)
      (by rw [hset.views, hv]) hdone (fun herr => absurd herr hsuccess)
      (fun _ _ _ herr => absurd herr hsuccess) hfree

/-! ### Listeners that are called -/

theorem Single.except (h : Single y none w) (e : Waiting Handler) : Single y (some e) w where
  waiting := h.waiting
  listener he _ hpos := h.listener he nofun hpos
  running := h.running
  started := h.started

/-- The listener of a process that is not there is removed. -/
theorem Single.unlistens {pid : ℤ} {hd : Handler} (h : Single y (some ⟨pid, some hd⟩) w)
    (hdead : ∀ t v, view w t = some v → v.childPid ≠ 0 → v.reaped = false →
      (v.childPid : ℤ) ≠ pid) : Single y none (w.unlisten pid hd) where
  waiting := h.waiting
  listener he _ hpos := by
    obtain ⟨he', hne⟩ := Registry.mem_live_unlisten.mp he
    exact h.listener he' (fun heq => hne (Option.some.inj heq).symm) hpos
  running {t g v} hv hdone hy hchild hreaped hd' := by
    refine Registry.mem_live_unlisten.mpr ⟨h.running hv hdone hy hchild hreaped hd', fun heq => ?_⟩
    exact hdead t v hv hchild hreaped (congrArg Waiting.pid heq)
  started := h.started

/-- A record is deleted that has no slot in use behind it, nor is its own in use. -/
theorem Single.greeterDel (h : Single y none w) (hnodup : (seats w).Nodup) {g : ℕ} {r : SeatGreeter}
    (hg : w.greeters[g]? = some r) (hlast : ∀ g' ∈ slotsInUse w, g' < g) :
    Single y none (greeterDel r.seat w) := by
  have hrun : ∀ {g'}, g' < g → runAt (GreeterTable.greeterDel r.seat w) g' = runAt w g' := by
    intro g' hlt
    rw [runAt, getElem?_greeterDel hnodup hg hlt, runAt]
  refine ⟨fun {t g' v} hv hdone hd => ?_, fun {pid g'} he hx hpos => ?_, h.running, h.started⟩
  · rw [hrun (hlast g' (mem_slotsInUse_try hv hdone hd))]
    exact h.waiting hv hdone hd
  · rw [hrun (hlast g' (mem_slotsInUse_listener he rfl hpos))]
    exact h.listener he hx hpos

/-- The slot of the record whose greeter the step starts again. -/
def restartedSlot (w : World) : Option ℕ :=
  (called w).bind fun s =>
    match s.2 with
    | .spawnedSessionDisappear t => DoneCb.slot (w.tryAt t).done
    | .greeterDone g => if (w.greeters[g]?).any SeatGreeter.ended then none else some g

/-- A greeter that is started again does not fail at once. -/
def restartsWell (a : Answers) (w : World) : Bool :=
  (restartedSlot w).all fun g => (w.greeters[g]?).all fun r =>
    decide (FALLBACK_RUN_GENERATION ≤ r.runGen) || spawnWorks a w

theorem restartsWell_spec {a : Answers} {g : ℕ} {r : SeatGreeter} (h : restartsWell a w = true)
    (hslot : restartedSlot w = some g) (hg : w.greeters[g]? = some r) :
    FALLBACK_RUN_GENERATION ≤ r.runGen ∨ spawnWorks a w = true := by
  simpa [restartsWell, hslot, hg] using h

/-- **A listener is called and removed**, for the process that was reaped. -/
theorem Single.visited {a : Answers} {w' : World} (hlife : Life none w) (hpids : Pids none w)
    (hslots : Slots w) (h : Single none none w) (hunused : deletesUnused w (.visit a) = true)
    (hwell : restartsWell a w = true) {t i : ℕ} {pid : ℤ} {hd : Handler}
    (hscan : w.scan = some (t, i)) (he : w.registry.pending[i]? = some ⟨pid, some hd⟩)
    (hpid : pid = (w.tryAt t).childPid) (hcalled : Called C a t w hd w') :
    Single none none (w'.unlisten pid hd) := by
  have hpending := hlife.pending_of_handler he
  have hlive : ⟨pid, some hd⟩ ∈ w.registry.live :=
    Registry.mem_live.mpr ⟨List.mem_of_getElem? he, rfl⟩
  have hpos : 0 < pid := by
    obtain ⟨-, -, v, hv, hchild, -⟩ := hpids.scanned hscan
    rw [show (w.tryAt t).childPid = v.childPid from congrArg TryView.childPid (view_tryAt hv)] at hpid
    omega
  have hcalled' : called w = some (t, hd) := called_eq hscan he hpid
  -- no process that was not reaped has the number, before the call and after it
  have hdead : ∀ t' v, view w t' = some v → v.childPid ≠ 0 → v.reaped = false →
      (v.childPid : ℤ) ≠ pid := by
    intro t' v hv hchild hreaped heq
    refine hpids.ne_scanned hscan hv hchild hreaped ?_
    rw [hpid] at heq
    omega
  have hdead' : ∀ t' v, view w' t' = some v → v.childPid ≠ 0 → v.reaped = false →
      (v.childPid : ℤ) ≠ pid := by
    obtain ⟨-, -, v₀, hv₀, -⟩ := hpids.scanned hscan
    have hpids' := tryOps_pids.called hpids hpending hcalled
    have hscan' := ((tryOps_placed t i ⟨pid, some hd⟩).called
      ⟨hscan, hlife.scanning _ hscan, Or.inl he⟩ hpending hcalled).scan
    obtain ⟨v₁, hv₁, hsame⟩ := (tryOps_childPid t v₀.childPid).called ⟨v₀, hv₀, rfl⟩ hpending hcalled
    intro t' v hv hchild hreaped heq
    refine hpids'.ne_scanned hscan' hv hchild hreaped ?_
    rw [show (w'.tryAt t).childPid = v₁.childPid from congrArg TryView.childPid (view_tryAt hv₁), hsame]
    rw [hpid, show (w.tryAt t).childPid = v₀.childPid from
      congrArg TryView.childPid (view_tryAt hv₀)] at heq
    omega
  cases hcalled with
  | disappeared t' w' hfree =>
    obtain ⟨v, hv, hdone⟩ := hpending t' rfl
    refine ((h.except ⟨pid, some (.spawnedSessionDisappear t')⟩).freed hlife hslots hv hdone
      (fun _ => ?_) (fun g r hd _ hg => ?_) hfree).unlistens hdead'
    · exact hpids.reaped_of_visited hlife hscan he hpid hv hdone
    · exact restartsWell_spec hwell (by simp [restartedSlot, hcalled', hd, DoneCb.slot]) hg
  | lost g hg =>
    have hrun := h.listener hlive (by simp) hpos
    rw [runAt, hg] at hrun
    cases hrun
  | ended g r hg hend =>
    have hreaped : reapedPid w = pid := by rw [reapedPid, hscan, hpid]; rfl
    have hlast : ∀ g' ∈ slotsInUse (w.unlisten pid (.greeterDone g)), g' < g := by
      rw [deletesUnused, deletedSlot_eq hscan he hpid hg hend, hreaped] at hunused
      exact fun g' hg' => of_decide_eq_true (List.all_eq_true.mp hunused g' hg')
    have hlogged := (h.except (ends pid g)).logCb t (some r.seat)
    exact (hlogged.unlistens hdead).greeterDel hslots.nodup hg hlast
  | restarted g r hg hend =>
    have hrun := h.listener hlive (by simp) hpos
    have hidle : Idle (some (ends pid g)) g w := by
      refine ⟨fun {t' v} hv hdone hd => ?_, fun {pid'} he' hx => ?_⟩
      · obtain ⟨p, hp⟩ := h.waiting hv hdone hd
        rw [hrun] at hp
        cases (Prod.mk.inj (Option.some.inj hp)).1
      · by_contra hpos'
        have hrun' := h.listener he' (by simp) (by omega)
        rw [hrun] at hrun'
        rw [(Prod.mk.inj (Option.some.inj hrun')).2] at hx
        exact hx rfl
    have hslot : restartedSlot w = some g := by
      simp [restartedSlot, hcalled', hg, hend]
    have hlogged := (h.except (ends pid g)).logCb t (some r.seat)
    have hlen : (w.log (.greeterCb t (some r.seat))).tries.length = w.tries.length := rfl
    have hworks := (restartsWell_spec hwell hslot hg).imp_right (spawnWorks_congr hlen)
    exact (hlogged.restart hslots.nodup (hidle.congr rfl rfl) hg hworks).unlistens hdead'

/-! ### The steps -/

/-- The step starts no greeter for a seat that has one, and none that fails at once. -/
def startsAlone (w : World) : Event → Bool
  | .next a =>
    match ready w with
    | some ⟨some (.clientData c), _⟩ => (seatWanted a c w).all fun seat => activatesAlone a seat w
    | _ => true
  | .visit a => restartsWell a w
  | _ => true

/-- **Every step under the two conditions keeps the invariant.** -/
theorem single_step {e : Event} (hlife : Life none w) (hpids : Pids none w) (hslots : Slots w)
    (h : Single none none w) (hunused : deletesUnused w e = true) (halone : startsAlone w e = true) :
    Single none none (step C w e) := by
  have hdoes := step_does C w e
  generalize step C w e = w' at hdoes
  -- the scan and the walk of the registry do not matter
  have hsame : ∀ {w₁ w₂ : World}, Single none none w₁ → runs w₂ = runs w₁ → view w₂ = view w₁ →
      w₂.registry.live = w₁.registry.live → w₂.trace = w₁.trace → Single none none w₂ := by
    intro w₁ w₂ h₁ hruns hviews hlive htrace
    refine h₁.congr (fun {g p} hp => ?_) (fun {t g v} hv _ => ⟨v, ?_, Follows.refl _ t v⟩)
      (fun {pid g} => ?_) fun {t o} ho => ?_
    · rw [runAt_of_runs hruns, hp]
    · rw [← hviews, hv]
    · rw [hlive]
    · rwa [htrace] at ho
  cases hdoes with
  | idle _ => exact h
  | select _ _ _ _ =>
    exact h.steady (steady_fds fun r hr _ _ => FdTable.live_selectReturns_subset _ _ _ r hr)
  | endPass _ _ =>
    refine h.steady (steady_fds fun r hr _ _ => ?_)
    rwa [FdTable.live_endPass] at hr
  | pass _ _ => exact h.steady (steady_advance w)
  | accept a _ => exact h.steady ((steady_advance w).trans (steady_acceptReady a _))
  | client a c fd w' _ hready hdoes =>
    refine (h.steady (steady_advance w)).clientData (fun seat hseat => ?_) hdoes
    have hwanted : seatWanted a c w = some seat := hseat
    simp only [startsAlone, hready, hwanted, Option.all_some] at halone
    exact halone
  | child a t fd w' _ hready hdoes =>
    obtain ⟨v, hv, hdone, -⟩ := hlife.read (ready_mem_live hready) rfl
    have hadvance := steady_advance w
    exact Single.childData (hlife.aside hadvance.toAside) (hslots.steady hadvance)
      (h.steady hadvance) (v := v) hv hdone hdoes
  | sigchld _ => exact hsame h rfl rfl rfl rfl
  | reap t tr _ _ _ _ _ =>
    refine h.congr id (fun {t' g v'} hv' _ => ?_) Iff.rfl id
    rw [view_reap] at hv'
    split_ifs at hv' with ht
    · obtain ⟨v, hv, rfl⟩ := Option.map_eq_some_iff.mp hv'
      exact ⟨v, hv, rfl, rfl, nofun, id, fun hdone hy => ⟨hdone, hy⟩⟩
    · exact ⟨v', hv', Follows.refl _ t' v'⟩
  | scanEnd a t i _ _ => exact hsame h rfl rfl rfl rfl
  | scanPass a t i e _ _ _ => exact hsame h rfl rfl rfl rfl
  | scanZeroed a t i e _ _ _ => exact hsame (h.steady (steady_fault w)) rfl rfl rfl rfl
  | visit a t i pid hd w' hscan he hpid hcalled =>
    exact hsame (h.visited hlife hpids hslots hunused halone hscan he hpid hcalled) rfl rfl rfl rfl
  | sigchldReturn _ => exact hsame h rfl rfl (Registry.live_cleanup w.registry false) rfl
  | childWrite t m _ =>
    refine h.steady (steady_modTry ?_ t w)
    exact fun _ => rfl
  | childHangUp t _ =>
    refine h.steady (steady_modTry ?_ t w)
    exact fun _ => rfl
  | childExit t _ =>
    refine h.steady (steady_modTry ?_ t w)
    exact fun _ => rfl

/-! ### Counting greeters -/

/-- At most one element with `p`, if two places with one are the same. -/
theorem countP_le_one {α : Type} {p : α → Bool} : ∀ {l : List α}, (∀ (i j : ℕ) (a b : α),
    l[i]? = some a → l[j]? = some b → p a = true → p b = true → i = j) → l.countP p ≤ 1
  | [], _ => by simp
  | a :: l, h => by
    by_cases ha : p a = true
    · have hnone : l.countP p = 0 := by
        refine List.countP_eq_zero.mpr fun b hb hpb => ?_
        obtain ⟨j, hj⟩ := List.mem_iff_getElem?.mp hb
        have := h 0 (j + 1) a b rfl hj ha hpb
        omega
      rw [List.countP_cons, hnone, if_pos ha]
    · have ih := countP_le_one (l := l) fun i j b c hb hc hpb hpc => by
        have := h (i + 1) (j + 1) b c hb hc hpb hpc
        omega
      rw [List.countP_cons, if_neg ha]
      exact ih

/-- Elements with `p` and others with `q` are counted together. -/
theorem countP_add_countP {α : Type} {p q : α → Bool} (hpq : ∀ a, p a = true → q a = false)
    (l : List α) : l.countP p + l.countP q = l.countP fun a => p a || q a := by
  induction l with
  | nil => rfl
  | cons a l ih =>
    rw [List.countP_cons, List.countP_cons, List.countP_cons, ← ih]
    by_cases ha : p a = true
    · rw [if_pos ha, hpq a ha, ha]
      simp
      omega
    · have ha' : p a = false := by simpa using ha
      rw [ha', Bool.false_or]
      simp
      omega

/-- The try starts a greeter for the seat. -/
def SpawnTry.greets (seat : String) (tr : SpawnTry) : Bool :=
  (DoneCb.slot tr.done).isSome && tr.settings.sessionSeat == some seat

/-- The greeter tries in flight for the seat. -/
def inFlight (seat : String) (w : World) : ℕ :=
  w.tries.countP fun tr => SpawnTry.greets seat tr && !tr.doneCalled

/-- The greeter processes of the seat whose tries have ended; a process is there until it is
reaped. -/
def runningGreeters (seat : String) (w : World) : ℕ :=
  w.tries.countP fun tr => SpawnTry.greets seat tr && tr.doneCalled && tr.childPid != 0 && !tr.reaped

/-- No seat has two greeters, and a greeter that has started is the one its record was waiting for. -/
structure OneForSeat (w : World) : Prop where
  one : ∀ seat, inFlight seat w + runningGreeters seat w ≤ 1
  record : ∀ t found, .greeterCb t found ∈ w.trace → found.isSome = true
  started : ∀ t o, .startDone t o ∈ w.trace → o = some t

/-- A greeter of the seat: its record has it in `run`. -/
theorem Single.runAt_of_greets (hpids : Pids none w) (hslots : Slots w) (h : Single none none w)
    {seat : String} {t : ℕ} {tr : SpawnTry} (ht : w.tries[t]? = some tr)
    (hgreets : SpawnTry.greets seat tr = true)
    (halive : tr.doneCalled = false ∨ (tr.childPid ≠ 0 ∧ tr.reaped = false)) :
    ∃ g, seatAt w g = some seat ∧ ((∃ p, runAt w g = some (some t, p)) ∨
      (Holds w t (SpawnTry.view tr) ∧ runAt w g = some (none, (tr.childPid : ℤ)))) := by
  obtain ⟨hslot, hseat⟩ := Bool.and_eq_true_iff.mp hgreets
  obtain ⟨g, hg⟩ := Option.isSome_iff_exists.mp hslot
  have hd : tr.done = .greeterStartDone g := by
    cases hdone : tr.done with
    | sessionDone c => simp [hdone, DoneCb.slot] at hg
    | greeterStartDone g' => simpa [hdone, DoneCb.slot] using hg
  have hv := view_of_get ht
  have htry : trySeat w t = some seat := (trySeat_eq hv).trans (eq_of_beq hseat)
  by_cases hdone : tr.doneCalled = true
  · obtain ⟨hchild, hreaped⟩ := halive.resolve_left (by simp [hdone])
    have hholds : Holds w t (SpawnTry.view tr) := ⟨hv, hchild, Or.inl hreaped⟩
    have hlive := h.running hv hdone (by simp) hchild hreaped hd
    have hpos : (0 : ℤ) < tr.childPid := by omega
    obtain ⟨t', v', hholds', heq, s, hs, hts⟩ := hslots.listener hlive rfl hpos
    have hpid : (SpawnTry.view tr).childPid = v'.childPid := Int.ofNat_inj.mp heq
    obtain rfl := hpids.unique hholds hholds' hpid
    obtain rfl := Option.some.inj (htry.symm.trans hts)
    exact ⟨g, hs, Or.inr ⟨hholds, h.listener hlive (by simp) hpos⟩⟩
  · have hdone' : tr.doneCalled = false := by simpa using hdone
    obtain ⟨s, hs, hts⟩ := hslots.waiting hv hdone' hd
    obtain rfl := Option.some.inj (htry.symm.trans hts)
    exact ⟨g, hs, Or.inl (h.waiting hv hdone' hd)⟩

theorem oneForSeat_of_single (hpids : Pids none w) (hslots : Slots w) (h : Single none none w) :
    OneForSeat w := by
  have hfound : ∀ t found, .greeterCb t found ∈ w.trace → found.isSome = true := by
    intro t found hcb
    obtain ⟨s, rfl, -⟩ := hslots.right hcb
    rfl
  refine ⟨fun seat => ?_, hfound, fun t o ho => h.started ho⟩
  unfold inFlight runningGreeters
  rw [countP_add_countP]
  · refine countP_le_one fun t t' tr tr' ht ht' hp hp' => ?_
    have hsplit : ∀ {tr : SpawnTry}, (SpawnTry.greets seat tr && !tr.doneCalled ||
        SpawnTry.greets seat tr && tr.doneCalled && tr.childPid != 0 && !tr.reaped) = true →
        SpawnTry.greets seat tr = true ∧
          (tr.doneCalled = false ∨ (tr.childPid ≠ 0 ∧ tr.reaped = false)) := by
      intro tr hp
      simp only [Bool.or_eq_true, Bool.and_eq_true, Bool.not_eq_true', bne_iff_ne] at hp
      rcases hp with ⟨hgreets, hdone⟩ | ⟨⟨⟨hgreets, -⟩, hchild⟩, hreaped⟩
      · exact ⟨hgreets, Or.inl hdone⟩
      · exact ⟨hgreets, Or.inr ⟨hchild, hreaped⟩⟩
    obtain ⟨g, hseat, hrun⟩ := h.runAt_of_greets hpids hslots ht (hsplit hp).1 (hsplit hp).2
    obtain ⟨g', hseat', hrun'⟩ := h.runAt_of_greets hpids hslots ht' (hsplit hp').1 (hsplit hp').2
    -- the two greeters have the same record
    obtain rfl : g = g' := by
      rw [seatAt_eq] at hseat hseat'
      obtain ⟨hlt, -⟩ := List.getElem?_eq_some_iff.mp hseat
      exact (List.getElem?_inj hlt hslots.nodup).mp (hseat.trans hseat'.symm)
    rcases hrun with ⟨p, hrun⟩ | ⟨hholds, hrun⟩ <;> rcases hrun' with ⟨p', hrun'⟩ | ⟨hholds', hrun'⟩
    · exact Option.some.inj (Prod.mk.inj (Option.some.inj (hrun.symm.trans hrun'))).1
    · cases (Prod.mk.inj (Option.some.inj (hrun.symm.trans hrun'))).1
    · cases (Prod.mk.inj (Option.some.inj (hrun.symm.trans hrun'))).1
    · have hpid := (Prod.mk.inj (Option.some.inj (hrun.symm.trans hrun'))).2
      exact hpids.unique hholds hholds' (Int.ofNat_inj.mp hpid)
  · intro tr hp
    simp only [Bool.and_eq_true, Bool.not_eq_true'] at hp
    simp [hp.2]

/-! ### Runs -/

theorem single_start (debug : Bool) (templates : List Template) :
    Single none none (World.start debug templates) where
  waiting hv := by simp [view, World.start] at hv
  listener he := absurd (Registry.mem_live.mp he).1 List.not_mem_nil
  running hv := by simp [view, World.start] at hv
  started ho := absurd ho List.not_mem_nil

/-- A second client asks for a greeter before the first one has a session. -/
def startsTwice : List Event :=
  greeterStarts ++ connects ++
    turn [4] { Answers.plain with input := .msg ⟨.greeterStart, none, none⟩ }

end Spawny.Daemon.OneGreeter
