import Spawny.Daemon.TryLife

/-! # Processes and their numbers

A child holds its number until it was reaped and its listeners have been visited, and a new child gets
a number that nobody holds. `Pids` ties the numbers to the field `pid` of the tries and to the scan of
`spawnregistery_eval`.

* `Pids.congr`: what the entries of the registry and the numbers survive;
* `tryOps_pids`, `pids_step`: all steps keep `Pids`;
* `Pids.dead_of_scanned`: at the end of a scan nobody listens for the child that was reaped. -/

namespace Spawny.Daemon.Processes

open Spawny.Lib.Wire Spawny.Lib.Runs Spawny.Protocol.Messages
open Spawny.Daemon.Manager Spawny.Daemon.SpawnRegistry
open Spawny.Daemon.SessionMgt Spawny.Daemon.State Spawny.Daemon.SpawnService
open Spawny.Daemon.GreeterTable Spawny.Daemon.Client Spawny.Daemon.Greeter Spawny.Daemon.Activations
open Spawny.Daemon.Server Spawny.Daemon.Loop Spawny.Daemon.Steps Spawny.Daemon.TryViews
open Spawny.Daemon.TryRule Spawny.Daemon.TryLife

variable {C : FieldCode SpawnField}

/-! ### Holding a number -/

/-- The try `t` with the view `v` has a child that holds its number. -/
structure Holds (w : World) (t : ℕ) (v : TryView) : Prop where
  view_eq : view w t = some v
  child : v.childPid ≠ 0
  held : v.reaped = false ∨ ∃ i, w.scan = some (t, i)

theorem Holds.holdsPid {w : World} {t : ℕ} {v : TryView} (h : Holds w t v) :
    w.holdsPid t = true ∧ (w.tryAt t).childPid = v.childPid := by
  obtain ⟨tr, htr, rfl⟩ := view_eq_some.mp h.view_eq
  refine ⟨World.holdsPid_iff.mpr ⟨tr, htr, h.child, h.held⟩, ?_⟩
  rw [World.tryAt_eq htr]
  rfl

theorem Holds.congr {w w' : World} {t : ℕ} {v : TryView} (h : Holds w t v)
    (hviews : TryViews.view w' = TryViews.view w) (hscan : w'.scan = w.scan) : Holds w' t v :=
  ⟨by rw [hviews, h.view_eq], h.child, by rw [hscan]; exact h.held⟩

/-- The number of a new child is not held. -/
theorem Holds.ne_freePid {w : World} {t : ℕ} {v : TryView} (h : Holds w t v) (req : SpawnRequest)
    (pid : ℕ) : v.childPid ≠ (openTry req w).freePid pid := by
  have hview : view (openTry req w) t = some v := by
    rw [view, getElem?_openTry, if_neg (view_lt h.view_eq).ne]
    exact h.view_eq
  have hopen : Holds (openTry req w) t v := ⟨hview, h.child, h.held⟩
  obtain ⟨hholds, hpid⟩ := hopen.holdsPid
  have hfree := (World.pidFree_iff.mp (World.pidFree_freePid (openTry req w) pid)).2 t hholds
  rwa [hpid] at hfree

/-- While a try waits for the end of its child, the child holds its number. -/
theorem holds_of_waiting {x : Option ℕ} {w : World} (h : Life x w) {t : ℕ} {v : TryView}
    (hv : view w t = some v) (hdone : v.doneCalled = false) : Holds w t v := by
  refine ⟨hv, (h.forked hv hdone).1, ?_⟩
  by_cases hreaped : v.reaped = true
  · obtain ⟨i, -, hi, -⟩ := h.scanned hv hdone hreaped
    exact Or.inr ⟨i, hi⟩
  · exact Or.inl (by simpa using hreaped)

/-! ### The entries of the registry -/

/-- During a walk live entries stay in their places, and new ones are behind them. -/
structure Grown (r r' : Registry Handler) : Prop where
  evalMode : r'.evalMode = r.evalMode
  length : r.evalMode = true → r.pending.length ≤ r'.pending.length
  place : r.evalMode = true → ∀ {j : ℕ} {e : Waiting Handler}, j < r.pending.length →
    r'.pending[j]? = some e → e.alive = true → r.pending[j]? = some e

theorem Grown.refl (r : Registry Handler) : Grown r r := ⟨rfl, fun _ => le_refl _, fun _ _ _ _ h _ => h⟩

theorem grown_listen (pid : ℤ) (hd : Handler) (r : Registry Handler) :
    Grown r (r.listen pid hd) := by
  refine ⟨rfl, fun _ => by simp [Registry.listen], fun _ {j e} hj he _ => ?_⟩
  rwa [Registry.listen, List.getElem?_append_left hj] at he

theorem grown_unlisten (pid : ℤ) (hd : Handler) (r : Registry Handler) :
    Grown r (r.unlisten pid hd) := by
  have hpending : r.evalMode = true → (r.unlisten pid hd).pending =
      Lib.Tombstones.kill (fun e => decide (e = ⟨pid, some hd⟩)) (fun _ => ⟨0, none⟩) r.pending := by
    intro heval
    rw [Registry.unlisten, if_pos heval]
  refine ⟨Registry.evalMode_unlisten .., fun heval => ?_, fun heval {j e} _ he halive => ?_⟩
  · rw [hpending heval, Lib.Tombstones.length_kill]
  · rw [hpending heval, Lib.Tombstones.getElem?_kill] at he
    obtain ⟨e', he', heq⟩ := Option.map_eq_some_iff.mp he
    split_ifs at heq with hdead
    · rw [← heq] at halive
      cases halive
    · rw [he', heq]

/-! ### The invariant -/

/-- **The invariant of the processes.** `x` is the try that is being freed, if there is one. -/
structure Pids (x : Option ℕ) (w : World) : Prop where
  unique : ∀ {t t' : ℕ} {v v' : TryView}, Holds w t v → Holds w t' v' → v.childPid = v'.childPid →
    t = t'
  /-- the field `pid` is the number of the child, until the try is freed -/
  pid : ∀ {t : ℕ} {v : TryView}, view w t = some v → v.pid = -1 ∨ v.pid = v.childPid
  ended : ∀ {t : ℕ} {v : TryView}, view w t = some v → v.doneCalled = true →
    v.pid = -1 ∨ v.childPid = 0 ∨ x = some t
  scanned : ∀ {t i : ℕ}, w.scan = some (t, i) → w.registry.evalMode = true ∧
    i ≤ w.registry.pending.length ∧ ∃ v, view w t = some v ∧ v.childPid ≠ 0 ∧ v.reaped = true
  /-- nobody behind the scan listens for the process that was reaped -/
  passed : ∀ {t i j : ℕ} {v : TryView} {e : Waiting Handler}, w.scan = some (t, i) →
    view w t = some v → j < i → w.registry.pending[j]? = some e → e.alive = true →
      e.pid ≠ v.childPid

/-- A try whose field `pid` is a number waits for the process with that number. -/
theorem Pids.holds_of_pos {w : World} (hlife : Life none w) (h : Pids none w) {t : ℕ}
    {v : TryView} (hv : view w t = some v) (hpos : 0 < v.pid) :
    Holds w t v ∧ v.pid = v.childPid := by
  have hpid : v.pid = v.childPid := (h.pid hv).resolve_left (by omega)
  have hdone : v.doneCalled = false := by
    by_contra hdone
    rcases h.ended hv (by simpa using hdone) with hminus | hchild | hx
    · omega
    · omega
    · cases hx
  exact ⟨holds_of_waiting hlife hv hdone, hpid⟩

/-- The child is the same, and the field `pid` is the same unless the try was freed. -/
structure SameChild (v v' : TryView) : Prop where
  childPid : v'.childPid = v.childPid
  reaped : v'.reaped = v.reaped
  pid : v'.pid = v.pid ∨ v'.pid = -1

theorem SameChild.refl (v : TryView) : SameChild v v := ⟨rfl, rfl, Or.inl rfl⟩

/-- A process keeps its number while its try stays the same or is freed. -/
theorem Holds.same {w w' : World} {t : ℕ} {v v' : TryView} (h : Holds w t v)
    (hscan : w'.scan = w.scan) (hv' : view w' t = some v') (hsame : SameChild v v') :
    Holds w' t v' ∧ v'.childPid = v.childPid := by
  refine ⟨⟨hv', ?_, ?_⟩, hsame.childPid⟩
  · rw [hsame.childPid]
    exact h.child
  · rw [hsame.reaped, hscan]
    exact h.held

/-- **What `Pids` survives**: entries and children stay, and the child of a new try has a number that
nobody holds. -/
theorem Pids.congr {x x' : Option ℕ} {w w' : World} (h : Pids x w) (hscan : w'.scan = w.scan)
    (hreg : Grown w.registry w'.registry)
    (hforth : ∀ {t v}, view w t = some v → ∃ v', view w' t = some v' ∧ SameChild v v')
    (hback : ∀ {t v'}, view w' t = some v' → (∃ v, view w t = some v ∧ SameChild v v') ∨
      (t = w.tries.length ∧ v'.pid = v'.childPid ∧
        ∀ {t₀ v₀}, Holds w t₀ v₀ → v₀.childPid ≠ v'.childPid))
    (hended : ∀ {t v'}, view w' t = some v' → v'.doneCalled = true →
      v'.pid = -1 ∨ v'.childPid = 0 ∨ x' = some t) : Pids x' w' := by
  have hholds : ∀ {t v'}, Holds w' t v' → (∃ v, Holds w t v ∧ v'.childPid = v.childPid) ∨
      (t = w.tries.length ∧ ∀ {t₀ v₀}, Holds w t₀ v₀ → v₀.childPid ≠ v'.childPid) := by
    rintro t v' ⟨hv', hchild, hheld⟩
    rcases hback hv' with ⟨v, hv, hsame⟩ | ⟨ht, -, hfree⟩
    · rw [hsame.childPid] at hchild
      rw [hsame.reaped, hscan] at hheld
      exact Or.inl ⟨v, ⟨hv, hchild, hheld⟩, hsame.childPid⟩
    · exact Or.inr ⟨ht, hfree⟩
  refine ⟨?_, ?_, hended, ?_, ?_⟩
  · intro t t' v v' hv hv' heq
    rcases hholds hv with ⟨v₁, hv₁, hpid⟩ | ⟨rfl, hfree⟩ <;>
      rcases hholds hv' with ⟨v₁', hv₁', hpid'⟩ | ⟨rfl, hfree'⟩
    · exact h.unique hv₁ hv₁' (by rw [← hpid, ← hpid', heq])
    · exact absurd (by rw [← hpid, heq]) (hfree' hv₁)
    · exact absurd (by rw [← hpid', heq]) (hfree hv₁')
    · rfl
  · intro t v' hv'
    rcases hback hv' with ⟨v, hv, hsame⟩ | ⟨-, hpid, -⟩
    · rcases hsame.pid with heq | heq
      · rw [heq, hsame.childPid]
        exact h.pid hv
      · exact Or.inl heq
    · exact Or.inr hpid
  · intro t i hs
    rw [hscan] at hs
    obtain ⟨heval, hle, v, hv, hchild, hreaped⟩ := h.scanned hs
    obtain ⟨v', hv', hsame⟩ := hforth hv
    refine ⟨hreg.evalMode.trans heval, hle.trans (hreg.length heval), v', hv', ?_, ?_⟩
    · rwa [hsame.childPid]
    · rwa [hsame.reaped]
  · intro t i j v' e hs hv' hj he halive
    rw [hscan] at hs
    obtain ⟨heval, hle, v, hv, -⟩ := h.scanned hs
    obtain ⟨v'', hv'', hsame⟩ := hforth hv
    obtain rfl := Option.some.inj (hv'.symm.trans hv'')
    rw [hsame.childPid]
    exact h.passed hs hv hj (hreg.place heval (by omega) he halive) halive

/-- The same, where no try is made. -/
theorem Pids.views {x : Option ℕ} {w w' : World} (h : Pids x w) (hscan : w'.scan = w.scan)
    (hreg : Grown w.registry w'.registry) (hviews : view w' = view w) : Pids x w' := by
  refine h.congr hscan hreg (fun {t v} hv => ⟨v, ?_, SameChild.refl v⟩)
    (fun {t v} hv => Or.inl ⟨v, ?_, SameChild.refl v⟩) fun {t v} hv => h.ended ?_
  · rw [hviews, hv]
  · rw [← hviews, hv]
  · rw [← hviews, hv]

/-! ### The operations on tries -/

theorem Pids.aside {x : Option ℕ} {w w' : World} (h : Pids x w) (ha : Aside w w') : Pids x w' :=
  h.views ha.scan (ha.registry ▸ Grown.refl _) ha.views

theorem Pids.forks {x : Option ℕ} {w : World} (h : Pids x w) (req : SpawnRequest) (pid : ℕ) :
    Pids x (childForked w.tries.length ((openTry req w).freePid pid) (openTry req w)) := by
  have hview := view_forked req ((openTry req w).freePid pid) w
  have hreg := registry_forked req ((openTry req w).freePid pid) w
  have hscan := (scan_childForked (openTry req w) w.tries.length
    ((openTry req w).freePid pid)).trans (scan_openTry w req)
  have hgrown := grown_listen ((openTry req w).freePid pid) (.spawnedSessionDisappear w.tries.length)
    w.registry
  refine h.congr hscan (by rw [hreg]; exact hgrown) ?_ ?_ ?_
  · intro t v hv
    exact ⟨v, by rw [hview, if_neg (view_lt hv).ne, hv], SameChild.refl v⟩
  · intro t v' hv'
    rw [hview] at hv'
    split_ifs at hv' with ht
    · obtain rfl := Option.some.inj hv'
      exact Or.inr ⟨ht, rfl, fun hholds => hholds.ne_freePid req pid⟩
    · exact Or.inl ⟨v', hv', SameChild.refl v'⟩
  · intro t v' hv' hdone
    rw [hview] at hv'
    split_ifs at hv' with ht
    · rw [← Option.some.inj hv'] at hdone
      cases hdone
    · exact h.ended hv' hdone

theorem Pids.fails {x : Option ℕ} {w : World} (h : Pids x w) (noTty : Bool) (req : SpawnRequest) :
    Pids x (tryFailed C noTty req w) := by
  have hview := view_tryFailed C noTty req w
  refine h.congr (scan_tryFailed C w noTty req)
    ((registry_tryFailed C w noTty req).symm ▸ Grown.refl _) ?_ ?_ ?_
  · intro t v hv
    exact ⟨v, by rw [hview, if_neg (view_lt hv).ne, hv], SameChild.refl v⟩
  · intro t v' hv'
    rw [hview] at hv'
    split_ifs at hv' with ht
    · obtain rfl := Option.some.inj hv'
      exact Or.inr ⟨ht, rfl, fun hholds => hholds.child⟩
    · exact Or.inl ⟨v', hv', SameChild.refl v'⟩
  · intro t v' hv' hdone
    rw [hview] at hv'
    split_ifs at hv' with ht
    · exact Or.inr (Or.inl (Option.some.inj hv' ▸ rfl))
    · exact h.ended hv' hdone

theorem Pids.calls {w : World} (h : Pids none w) (t : ℕ) : Pids (some t) (calledBack t w) := by
  have hview := view_calledBack t w
  refine h.congr (scan_calledBack w t) ((registry_calledBack w t).symm ▸ Grown.refl _) ?_ ?_ ?_
  · intro t' v hv
    rw [hview, hv]
    split_ifs
    · exact ⟨_, rfl, rfl, rfl, Or.inl rfl⟩
    · exact ⟨v, rfl, SameChild.refl v⟩
  · intro t' v' hv'
    rw [hview] at hv'
    split_ifs at hv' with ht
    · obtain ⟨v, hv, rfl⟩ := Option.map_eq_some_iff.mp hv'
      exact Or.inl ⟨v, hv, rfl, rfl, Or.inl rfl⟩
    · exact Or.inl ⟨v', hv', SameChild.refl v'⟩
  · intro t' v' hv' hdone
    rw [hview] at hv'
    split_ifs at hv' with ht
    · exact Or.inr (Or.inr (congrArg some ht))
    · rcases h.ended hv' hdone with hpid | hchild | hx
      · exact Or.inl hpid
      · exact Or.inr (Or.inl hchild)
      · cases hx

theorem Pids.releases {x x' : Option ℕ} {w : World} (h : Pids x w) {t : ℕ}
    (hx : ∀ t', x = some t' → t' ≠ t → x' = some t') : Pids x' (release t w) := by
  have hview := view_release t w
  refine h.congr (scan_release w t) (grown_unlisten _ _ _) ?_ ?_ ?_
  · intro t' v hv
    rw [hview, hv]
    split_ifs
    · exact ⟨_, rfl, rfl, rfl, Or.inr rfl⟩
    · exact ⟨v, rfl, SameChild.refl v⟩
  · intro t' v' hv'
    rw [hview] at hv'
    split_ifs at hv' with ht
    · obtain ⟨v, hv, rfl⟩ := Option.map_eq_some_iff.mp hv'
      exact Or.inl ⟨v, hv, rfl, rfl, Or.inr rfl⟩
    · exact Or.inl ⟨v', hv', SameChild.refl v'⟩
  · intro t' v' hv' hdone
    rw [hview] at hv'
    split_ifs at hv' with ht
    · obtain ⟨v, -, rfl⟩ := Option.map_eq_some_iff.mp hv'
      exact Or.inl rfl
    · rcases h.ended hv' hdone with hpid | hchild | hx'
      · exact Or.inl hpid
      · exact Or.inr (Or.inl hchild)
      · exact Or.inr (Or.inr (hx t' hx' (Ne.symm ht)))

theorem tryOps_pids : TryOps C Pids where
  aside h ha := h.aside ha
  forks req pid h := h.forks req pid
  fails noTty req h := h.fails noTty req
  calls _ _ h := h.calls _
  releases _ _ hx h := h.releases hx
  listens pid g h := h.views rfl (grown_listen pid (.greeterDone g) _) rfl

/-- A try keeps the number of its child. -/
theorem tryOps_childPid (t n : ℕ) :
    TryOps C fun _ w => ∃ v, view w t = some v ∧ v.childPid = n where
  aside h ha := by rw [ha.views]; exact h
  forks req pid h := by
    obtain ⟨v, hv, hn⟩ := h
    exact ⟨v, by rw [view_forked, if_neg (view_lt hv).ne, hv], hn⟩
  fails noTty req h := by
    obtain ⟨v, hv, hn⟩ := h
    exact ⟨v, by rw [view_tryFailed, if_neg (view_lt hv).ne, hv], hn⟩
  calls _ _ h := by
    obtain ⟨v, hv, hn⟩ := h
    rw [view_calledBack, hv]
    split_ifs
    · exact ⟨_, rfl, hn⟩
    · exact ⟨v, rfl, hn⟩
  releases _ _ _ h := by
    obtain ⟨v, hv, hn⟩ := h
    rw [view_release, hv]
    split_ifs
    · exact ⟨_, rfl, hn⟩
    · exact ⟨v, rfl, hn⟩
  listens _ _ h := h

/-! ### The scan -/

/-- While a child is scanned for, no other process has its number. -/
theorem Pids.ne_scanned {x : Option ℕ} {w : World} (h : Pids x w) {t i : ℕ}
    (hscan : w.scan = some (t, i)) {t' : ℕ} {v : TryView} (hv : view w t' = some v)
    (hchild : v.childPid ≠ 0) (hreaped : v.reaped = false) : v.childPid ≠ (w.tryAt t).childPid := by
  obtain ⟨-, -, v₀, hv₀, hchild₀, hreaped₀⟩ := h.scanned hscan
  rw [show (w.tryAt t).childPid = v₀.childPid from congrArg TryView.childPid (view_tryAt hv₀)]
  intro heq
  obtain rfl := h.unique ⟨hv, hchild, Or.inl hreaped⟩ ⟨hv₀, hchild₀, Or.inr ⟨i, hscan⟩⟩ heq
  rw [hv] at hv₀
  rw [Option.some.inj hv₀, hreaped₀] at hreaped
  cases hreaped

/-- The child of a try whose listener is visited has been reaped. -/
theorem Pids.reaped_of_visited {w : World} (h : Pids none w) (hlife : Life none w) {t i t' : ℕ}
    {pid : ℤ} (hscan : w.scan = some (t, i))
    (he : w.registry.pending[i]? = some ⟨pid, some (.spawnedSessionDisappear t')⟩)
    (hpid : pid = (w.tryAt t).childPid) {v : TryView} (hv : view w t' = some v)
    (hdone : v.doneCalled = false) : v.reaped = true := by
  have hlive : ⟨pid, some (.spawnedSessionDisappear t')⟩ ∈ w.registry.live :=
    Registry.mem_live.mpr ⟨List.mem_of_getElem? he, rfl⟩
  obtain ⟨v', hv', hpid', -⟩ := hlife.listens hlive rfl
  obtain rfl := Option.some.inj (hv.symm.trans hv')
  obtain ⟨hchild, hpid''⟩ := hlife.forked hv hdone
  have hsame : v.childPid = (w.tryAt t).childPid :=
    Int.ofNat_inj.mp (hpid''.symm.trans (hpid'.trans hpid))
  by_contra hreaped
  exact h.ne_scanned hscan hv hchild (by simpa using hreaped) hsame

/-- At the end of a scan nobody listens for the child that was reaped. -/
theorem Pids.dead_of_scanned {x : Option ℕ} {w : World} (h : Pids x w) {t i : ℕ}
    (hscan : w.scan = some (t, i)) (hend : w.registry.pending[i]? = none) {v : TryView}
    (hv : view w t = some v) {e : Waiting Handler} (he : e ∈ w.registry.live) :
    e.pid ≠ v.childPid := by
  obtain ⟨hmem, halive⟩ := Registry.mem_live.mp he
  obtain ⟨j, hj⟩ := List.mem_iff_getElem?.mp hmem
  have hlt := (List.getElem?_eq_some_iff.mp hj).1
  have hle := List.getElem?_eq_none_iff.mp hend
  exact h.passed hscan hv (by omega) hj halive

theorem holds_scanNext {w : World} {t i : ℕ} (hscan : w.scan = some (t, i)) {t' : ℕ} {v : TryView} :
    Holds (scanTo t (i + 1) w) t' v ↔ Holds w t' v := by
  have hiff : (∃ i', (scanTo t (i + 1) w).scan = some (t', i')) ↔ ∃ i', w.scan = some (t', i') := by
    rw [hscan]
    simp [scanTo]
  exact ⟨fun ⟨hv, hchild, hheld⟩ => ⟨hv, hchild, hheld.imp_right hiff.mp⟩,
    fun ⟨hv, hchild, hheld⟩ => ⟨hv, hchild, hheld.imp_right hiff.mpr⟩⟩

/-- The scan goes on behind an entry that is zeroed or is for another process. -/
theorem Pids.scanNext {x : Option ℕ} {w : World} (h : Pids x w) {t i : ℕ}
    (hscan : w.scan = some (t, i)) {e : Waiting Handler} (he : w.registry.pending[i]? = some e)
    (hpass : ∀ v, view w t = some v → e.alive = true → e.pid ≠ v.childPid) :
    Pids x (scanTo t (i + 1) w) where
  unique hv hv' heq := h.unique ((holds_scanNext hscan).mp hv) ((holds_scanNext hscan).mp hv') heq
  pid := h.pid
  ended := h.ended
  scanned hs := by
    obtain ⟨rfl, rfl⟩ := Prod.mk.inj (Option.some.inj hs)
    obtain ⟨heval, -, hchild⟩ := h.scanned hscan
    exact ⟨heval, (List.getElem?_eq_some_iff.mp he).1, hchild⟩
  passed {_ _ j v e'} hs hv hj hj' halive := by
    obtain ⟨rfl, rfl⟩ := Prod.mk.inj (Option.some.inj hs)
    rcases Nat.lt_succ_iff_lt_or_eq.mp hj with hlt | rfl
    · exact h.passed hscan hv hlt hj' halive
    · have hsame : w.registry.pending[j]? = some e' := hj'
      rw [he] at hsame
      obtain rfl := Option.some.inj hsame
      exact hpass v hv halive

/-- The child of the try `t` is reaped, and the scan begins. -/
theorem Pids.reaps {w : World} (h : Pids none w) (heval : w.registry.evalMode = true)
    {t : ℕ} {tr : SpawnTry} (ht : w.tries[t]? = some tr)
    (hpid : tr.childPid ≠ 0) (hreap : tr.reaped = false) : Pids none
      (scanTo t 0 (w.modTry t fun tr => { tr with exited := true, reaped := true })) := by
  have hview := view_reap t w
  have hsplit : ∀ {t' v'}, view (scanTo t 0 (w.modTry t fun tr =>
      { tr with exited := true, reaped := true })) t' = some v' →
      ∃ v b, view w t' = some v ∧ v' = { v with reaped := b } ∧ (t ≠ t' → b = v.reaped) := by
    intro t' v' hv'
    rw [hview] at hv'
    split_ifs at hv' with htt
    · obtain ⟨v, hv, rfl⟩ := Option.map_eq_some_iff.mp hv'
      exact ⟨v, true, hv, rfl, fun hne => absurd htt hne⟩
    · exact ⟨v', v'.reaped, hv', rfl, fun _ => rfl⟩
  -- a process that holds its number did so before
  have hholds : ∀ {t' v'}, Holds (scanTo t 0 (w.modTry t fun tr =>
      { tr with exited := true, reaped := true })) t' v' →
      ∃ v, Holds w t' v ∧ v'.childPid = v.childPid := by
    rintro t' v' ⟨hv', hchild, hheld⟩
    obtain ⟨v, b, hv, rfl, hb⟩ := hsplit hv'
    by_cases htt : t = t'
    · subst htt
      have hv₀ := view_of_get ht
      obtain rfl := Option.some.inj (hv₀.symm.trans hv)
      exact ⟨_, ⟨hv₀, hpid, Or.inl hreap⟩, rfl⟩
    · refine ⟨v, ⟨hv, hchild, Or.inl ?_⟩, rfl⟩
      rcases hheld with hheld | ⟨i, hi⟩
      · rw [← hb htt]
        exact hheld
      · exact absurd (Prod.mk.inj (Option.some.inj hi)).1 htt
  refine ⟨?_, ?_, ?_, ?_, ?_⟩
  · intro t₁ t₂ v₁ v₂ hv₁ hv₂ heq
    obtain ⟨u₁, hu₁, hpid₁⟩ := hholds hv₁
    obtain ⟨u₂, hu₂, hpid₂⟩ := hholds hv₂
    exact h.unique hu₁ hu₂ (by rw [← hpid₁, ← hpid₂, heq])
  · intro t' v' hv'
    obtain ⟨v, b, hv, rfl, -⟩ := hsplit hv'
    exact h.pid (v := v) hv
  · intro t' v' hv' hdone
    obtain ⟨v, b, hv, rfl, -⟩ := hsplit hv'
    exact h.ended (v := v) hv hdone
  · intro t' i hs
    obtain ⟨rfl, rfl⟩ := Prod.mk.inj (Option.some.inj hs)
    refine ⟨heval, Nat.zero_le _, { SpawnTry.view tr with reaped := true }, ?_, hpid, rfl⟩
    rw [hview, if_pos rfl, view_of_get ht, Option.map_some]
  · intro t' i j v e hs _ hj
    obtain ⟨rfl, rfl⟩ := Prod.mk.inj (Option.some.inj hs)
    omega

/-! ### The steps -/

theorem Pids.unlistens {x : Option ℕ} {w : World} (h : Pids x w) (pid : ℤ) (hd : Handler) :
    Pids x (w.unlisten pid hd) := h.views rfl (grown_unlisten pid hd _) rfl

/-- **Every step keeps the invariant.** -/
theorem pids_step {w : World} {e : Event} (hlife : Life none w) (h : Pids none w) :
    Pids none (step C w e) := by
  have hdoes := step_does C w e
  generalize step C w e = w' at hdoes
  cases hdoes with
  | idle _ => exact h
  | select _ _ _ _ => exact h.views rfl (Grown.refl _) rfl
  | endPass _ _ => exact h.views rfl (Grown.refl _) rfl
  | pass _ _ => exact h.views rfl (Grown.refl _) rfl
  | accept a _ => exact h.aside ((steady_advance w).trans (steady_acceptReady a _)).toAside
  | client a c fd w' _ _ hdoes =>
    exact tryOps_pids.clientData (h.aside (steady_advance w).toAside) hdoes
  | child a t fd w' _ hready hdoes =>
    obtain ⟨v, hv, hdone, -⟩ := hlife.read (ready_mem_live hready) rfl
    exact tryOps_pids.childData (v := v) (h.aside (steady_advance w).toAside) hv hdone hdoes
  | sigchld heval =>
    refine ⟨fun hv hv' => h.unique (hv.congr rfl rfl) (hv'.congr rfl rfl), h.pid, h.ended,
      fun hs => ?_, h.passed⟩
    exact ⟨rfl, (h.scanned hs).2⟩
  | reap t tr ht hpid hreap heval _ => exact h.reaps heval ht hpid hreap
  | scanEnd a t i hscan _ =>
    have hholds : ∀ {t' v}, Holds { w with scan := none } t' v → Holds w t' v := by
      rintro t' v ⟨hv, hchild, hheld⟩
      exact ⟨hv, hchild, Or.inl (hheld.resolve_right (by simp))⟩
    exact ⟨fun hv hv' heq => h.unique (hholds hv) (hholds hv') heq, h.pid, h.ended,
      fun hs => by simp at hs, fun hs => by simp at hs⟩
  | scanPass a t i e hscan he hpid =>
    refine h.scanNext hscan he fun v hv _ => ?_
    rwa [show (w.tryAt t).childPid = v.childPid from congrArg TryView.childPid (view_tryAt hv)] at hpid
  | scanZeroed a t i e hscan he hzero =>
    refine Pids.scanNext (h.aside (aside_fault w)) hscan he fun v _ halive => ?_
    rw [Waiting.alive, hzero] at halive
    cases halive
  | visit a t i pid hd w' hscan he hpid hcalled =>
    have hplaced : Placed t i ⟨pid, some hd⟩ w := ⟨hscan, (h.scanned hscan).1, Or.inl he⟩
    have hpending := hlife.pending_of_handler he
    have hplaced' := (tryOps_placed t i ⟨pid, some hd⟩).called hplaced hpending hcalled
    refine ((tryOps_pids.called h hpending hcalled).unlistens pid hd).scanNext hplaced'.scan
      hplaced'.dead fun v _ halive => ?_
    cases halive
  | sigchldReturn hscan =>
    refine ⟨fun hv hv' => h.unique (hv.congr rfl rfl) (hv'.congr rfl rfl), h.pid, h.ended,
      fun hs => ?_, fun hs => ?_⟩
    · simp [hscan] at hs
    · simp [hscan] at hs
  | childWrite t m _ =>
    refine h.aside (aside_modTry ?_ t w)
    exact fun _ => rfl
  | childHangUp t _ =>
    refine h.aside (aside_modTry ?_ t w)
    exact fun _ => rfl
  | childExit t _ =>
    refine h.aside (aside_modTry ?_ t w)
    exact fun _ => rfl

theorem pids_start (debug : Bool) (templates : List Template) :
    Pids none (World.start debug templates) where
  unique hv := by simpa [view, World.start] using hv.view_eq
  pid hv := by simp [view, World.start] at hv
  ended hv := by simp [view, World.start] at hv
  scanned := nofun
  passed := nofun

end Spawny.Daemon.Processes
