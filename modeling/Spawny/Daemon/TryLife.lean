import Spawny.Lib.Runs
import Spawny.Daemon.Trace
import Spawny.Daemon.TryRule
import Spawny.Protocol.Encoding

/-! # The life of a try

A try ends once: by a message that its session is active, by the end of its child, or at once when the
child cannot be made. `Life` ties the tries to the two registries and to the scan of
`spawnregistery_eval`; the try that is just being freed is its parameter.

* `tryOps_life`: what callbacks do to tries keeps `Life`;
* `life_step`, `life_run`: so do all steps;
* `done_exactly_once`: **the done callback of every try is called exactly once by the time its child
  has been reaped, and after it no registry refers to the try.** -/

namespace Spawny.Daemon.TryLife

open Spawny.Lib.Wire Spawny.Lib.Descriptors Spawny.Lib.Runs Spawny.Protocol Spawny.Protocol.Messages
open Spawny.Daemon.Manager Spawny.Daemon.SpawnRegistry
open Spawny.Daemon.SessionMgt Spawny.Daemon.State Spawny.Daemon.SpawnService
open Spawny.Daemon.GreeterTable Spawny.Daemon.Client Spawny.Daemon.Greeter Spawny.Daemon.Activations
open Spawny.Daemon.Server Spawny.Daemon.Loop Spawny.Daemon.Steps Spawny.Daemon.TryViews
open Spawny.Daemon.TryRule

variable {C : FieldCode SpawnField}

/-- The listener for the end of the child of the try `t`. -/
def disappears (t : ℕ) (v : TryView) : Waiting Handler := ⟨v.pid, some (.spawnedSessionDisappear t)⟩

/-- How often the done callback of the try `t` was called. -/
def doneCount (w : World) (t : ℕ) : ℕ := (dones w).countP fun d => d.1 == t

/-- **The invariant of the tries.** `x` is the try that is being freed, if there is one: its callback
has been called and its listener is still there. -/
structure Life (x : Option ℕ) (w : World) : Prop where
  /-- a try whose callback is still to come has a child -/
  forked : ∀ {t v}, view w t = some v → v.doneCalled = false → v.childPid ≠ 0 ∧ v.pid = v.childPid
  /-- it waits for the end of the child -/
  waits : ∀ {t v}, view w t = some v → v.doneCalled = false → disappears t v ∈ w.registry.live
  /-- if the child was reaped, the scan is on its way to the listener -/
  scanned : ∀ {t v}, view w t = some v → v.doneCalled = false → v.reaped = true →
    ∃ i j, w.scan = some (t, i) ∧ i ≤ j ∧ w.registry.pending[j]? = some (disappears t v)
  /-- only tries whose callback is still to come are read -/
  read : ∀ {r t}, r ∈ w.fds.live → r.cb = some (.childData t) →
    ∃ v, view w t = some v ∧ v.doneCalled = false ∧ v.readFd = r.fd
  /-- only those, and the one being freed, have listeners -/
  listens : ∀ {e t}, e ∈ w.registry.live → e.handler = some (.spawnedSessionDisappear t) →
    ∃ v, view w t = some v ∧ v.pid = e.pid ∧ v.childPid ≠ 0 ∧ (v.doneCalled = false ∨ x = some t)
  freed : ∀ {t v}, view w t = some v → v.freed = true → v.doneCalled = true
  /-- the callbacks called so far -/
  counted : ∀ t, doneCount w t =
    if (view w t).any TryView.doneCalled then 1 else 0
  scanning : ∀ s, w.scan = some s → w.registry.evalMode = true

/-! ### Steps aside -/

theorem Life.aside {x : Option ℕ} {w w' : World} (h : Life x w) (ha : Aside w w') : Life x w' where
  forked := by rw [ha.views]; exact h.forked
  waits := by rw [ha.views, ha.registry]; exact h.waits
  scanned := by rw [ha.views, ha.registry, ha.scan]; exact h.scanned
  read hr hcb := by rw [ha.views]; exact h.read (ha.fds _ hr _ hcb) hcb
  listens := by rw [ha.views, ha.registry]; exact h.listens
  freed := by rw [ha.views]; exact h.freed
  counted t := by rw [doneCount, ha.dones, ha.views]; exact h.counted t
  scanning := by rw [ha.scan, ha.registry]; exact h.scanning

/-! ### Making a try -/

/-- A try whose child was forked. -/
theorem Life.forks {x : Option ℕ} {w : World} (h : Life x w) {req : SpawnRequest} {pid : ℕ}
    (hpid : pid ≠ 0) : Life x (childForked w.tries.length pid (openTry req w)) := by
  have hview := view_forked req pid w
  have hreg := registry_forked req pid w
  have hlive : (childForked w.tries.length pid (openTry req w)).registry.live =
      w.registry.live ++ [disappears w.tries.length (forkedView req pid w)] := by
    rw [hreg, Registry.live_listen]
    rfl
  have hscan := scan_childForked (openTry req w) w.tries.length pid
  rw [scan_openTry] at hscan
  -- a view is that of the new try or an old one
  have hsplit : ∀ {t v}, view (childForked w.tries.length pid (openTry req w)) t = some v →
      (t = w.tries.length ∧ v = forkedView req pid w) ∨ (t ≠ w.tries.length ∧ view w t = some v) := by
    intro t v hv
    rw [hview] at hv
    split_ifs at hv with ht
    · exact Or.inl ⟨ht, (Option.some.inj hv).symm⟩
    · exact Or.inr ⟨ht, hv⟩
  have hold : ∀ {t v}, view w t = some v →
      view (childForked w.tries.length pid (openTry req w)) t = some v := by
    intro t v hv
    rw [hview, if_neg (view_lt hv).ne, hv]
  refine ⟨?_, ?_, ?_, ?_, ?_, ?_, ?_, ?_⟩
  · intro t v hv hdone
    rcases hsplit hv with ⟨-, rfl⟩ | ⟨-, hv⟩
    · exact ⟨hpid, rfl⟩
    · exact h.forked hv hdone
  · intro t v hv hdone
    rw [hlive]
    rcases hsplit hv with ⟨rfl, rfl⟩ | ⟨-, hv⟩
    · exact List.mem_append_right _ (List.mem_singleton_self _)
    · exact List.mem_append_left _ (h.waits hv hdone)
  · intro t v hv hdone hreaped
    rcases hsplit hv with ⟨-, rfl⟩ | ⟨-, hv⟩
    · cases hreaped
    · obtain ⟨i, j, hi, hij, hj⟩ := h.scanned hv hdone hreaped
      refine ⟨i, j, hscan.trans hi, hij, ?_⟩
      rw [hreg]
      exact (List.getElem?_append_left (List.getElem?_eq_some_iff.mp hj).1).trans hj
  · intro r t hr hcb
    rw [live_forked] at hr
    rcases List.mem_append.mp hr with hr | hr
    · obtain ⟨v, hv, hrest⟩ := h.read hr hcb
      exact ⟨v, hold hv, hrest⟩
    · rw [List.mem_singleton.mp hr] at hcb ⊢
      obtain rfl : w.tries.length = t := by simpa using hcb
      exact ⟨forkedView req pid w, by rw [hview, if_pos rfl], rfl, rfl⟩
  · intro e t he hh
    rw [hlive] at he
    rcases List.mem_append.mp he with he | he
    · obtain ⟨v, hv, hrest⟩ := h.listens he hh
      exact ⟨v, hold hv, hrest⟩
    · rw [List.mem_singleton.mp he] at hh ⊢
      obtain rfl : w.tries.length = t := by simpa [disappears] using hh
      exact ⟨forkedView req pid w, by rw [hview, if_pos rfl], rfl, hpid, Or.inl rfl⟩
  · intro t v hv hfreed
    rcases hsplit hv with ⟨-, rfl⟩ | ⟨-, hv⟩
    · cases hfreed
    · exact h.freed hv hfreed
  · intro t
    rw [doneCount, dones_forked, hview]
    by_cases ht : t = w.tries.length
    · rw [if_pos ht, ht]
      have hcount := h.counted w.tries.length
      rwa [view_length] at hcount
    · rw [if_neg ht]
      exact h.counted t
  · intro s hs
    rw [hreg]
    exact h.scanning s (hscan.symm.trans hs)

/-- A try whose child could not be made; its callback is called at once. -/
theorem Life.fails {x : Option ℕ} {w : World} (h : Life x w) (noTty : Bool) (req : SpawnRequest) :
    Life x (tryFailed C noTty req w) := by
  have hview := view_tryFailed C noTty req w
  have hsplit : ∀ {t v}, view (tryFailed C noTty req w) t = some v → v.doneCalled = false →
      view w t = some v := by
    intro t v hv hdone
    rw [hview] at hv
    split_ifs at hv with ht
    · rw [← Option.some.inj hv] at hdone
      cases hdone
    · exact hv
  have hold : ∀ {t v}, view w t = some v → view (tryFailed C noTty req w) t = some v := by
    intro t v hv
    rw [hview, if_neg (view_lt hv).ne, hv]
  refine ⟨fun hv hdone => h.forked (hsplit hv hdone) hdone, ?_, ?_, ?_, ?_, ?_, ?_, ?_⟩
  · intro t v hv hdone
    rw [registry_tryFailed]
    exact h.waits (hsplit hv hdone) hdone
  · intro t v hv hdone hreaped
    rw [registry_tryFailed, scan_tryFailed]
    exact h.scanned (hsplit hv hdone) hdone hreaped
  · intro r t hr hcb
    obtain ⟨v, hv, hrest⟩ := h.read (live_tryFailed C noTty req w r hr) hcb
    exact ⟨v, hold hv, hrest⟩
  · intro e t he hh
    rw [registry_tryFailed] at he
    obtain ⟨v, hv, hrest⟩ := h.listens he hh
    exact ⟨v, hold hv, hrest⟩
  · intro t v hv hfreed
    rw [hview] at hv
    split_ifs at hv with ht
    · exact (Option.some.inj hv) ▸ rfl
    · exact h.freed hv hfreed
  · intro t
    rw [doneCount, dones_tryFailed, List.countP_append, hview]
    have hcount := h.counted t
    rw [doneCount] at hcount
    rw [hcount]
    by_cases ht : t = w.tries.length
    · subst ht
      simp [view_length, failedView]
    · simp [ht, Ne.symm ht]
  · intro s hs
    rw [registry_tryFailed]
    exact h.scanning s (by rwa [scan_tryFailed] at hs)

/-! ### Ending a try -/

/-- The callback of a try is called. -/
theorem Life.calls {w : World} (h : Life none w) {t : ℕ} {v : TryView} (hv : view w t = some v)
    (hdone : v.doneCalled = false) : Life (some t) (calledBack t w) := by
  have hview := view_calledBack t w
  have hsplit : ∀ {t' v'}, view (calledBack t w) t' = some v' → v'.doneCalled = false →
      t' ≠ t ∧ view w t' = some v' := by
    intro t' v' hv' hdone'
    rw [hview] at hv'
    split_ifs at hv' with ht
    · subst ht
      rw [hv, Option.map_some] at hv'
      rw [← Option.some.inj hv'] at hdone'
      cases hdone'
    · exact ⟨Ne.symm ht, hv'⟩
  refine ⟨fun hv' hd => h.forked (hsplit hv' hd).2 hd, ?_, ?_, ?_, ?_, ?_, ?_, ?_⟩
  · intro t' v' hv' hd
    rw [registry_calledBack]
    exact h.waits (hsplit hv' hd).2 hd
  · intro t' v' hv' hd hreaped
    rw [registry_calledBack, scan_calledBack]
    exact h.scanned (hsplit hv' hd).2 hd hreaped
  · intro r t' hr hcb
    rw [live_calledBack hv] at hr
    obtain ⟨hr, hfd⟩ := List.mem_filter.mp hr
    obtain ⟨v', hv', hd, hread⟩ := h.read hr hcb
    -- the entry of `t` was removed with its descriptor
    have hne : t ≠ t' := by
      rintro rfl
      rw [hv] at hv'
      obtain rfl := Option.some.inj hv'
      simp [hread] at hfd
    exact ⟨v', by rw [hview, if_neg hne, hv'], hd, hread⟩
  · intro e t' he hh
    rw [registry_calledBack] at he
    obtain ⟨v', hv', hpid, hchild, hd | hd⟩ := h.listens he hh
    · by_cases hne : t = t'
      · subst hne
        exact ⟨{ v' with doneCalled := true }, by rw [hview, if_pos rfl, hv', Option.map_some],
          hpid, hchild, Or.inr rfl⟩
      · exact ⟨v', by rw [hview, if_neg hne, hv'], hpid, hchild, Or.inl hd⟩
    · cases hd
  · intro t' v' hv' hfreed
    rw [hview] at hv'
    split_ifs at hv' with ht
    · subst ht
      rw [hv, Option.map_some] at hv'
      exact Option.some.inj hv' ▸ rfl
    · exact h.freed hv' hfreed
  · intro t'
    rw [doneCount, dones_calledBack, List.countP_append, hview]
    have hcount := h.counted t'
    rw [doneCount] at hcount
    rw [hcount]
    by_cases ht : t = t'
    · subst ht
      simp [hv, hdone]
    · simp [ht]
  · intro s hs
    rw [registry_calledBack]
    exact h.scanning s (by rwa [scan_calledBack] at hs)

/-- A try whose callback was called is released. Its listener is removed, so if it was the one being
freed, it is no longer. -/
theorem Life.releases {x x' : Option ℕ} {w : World} (h : Life x w) {t : ℕ} {v : TryView}
    (hv : view w t = some v) (hdone : v.doneCalled = true)
    (hx : ∀ t', x = some t' → t' ≠ t → x' = some t') : Life x' (release t w) := by
  have hview := view_release t w
  have hsplit : ∀ {t' v'}, view (release t w) t' = some v' → v'.doneCalled = false →
      t ≠ t' ∧ view w t' = some v' := by
    intro t' v' hv' hdone'
    rw [hview] at hv'
    split_ifs at hv' with ht
    · subst ht
      rw [hv, Option.map_some] at hv'
      rw [← Option.some.inj hv', hdone] at hdone'
      cases hdone'
    · exact ⟨ht, hv'⟩
  have hother : ∀ {t' v'}, t ≠ t' → disappears t' v' ≠
      ⟨v.pid, some (.spawnedSessionDisappear t)⟩ := by
    intro t' v' hne heq
    simp only [disappears, Waiting.mk.injEq, Option.some.injEq,
      Handler.spawnedSessionDisappear.injEq] at heq
    exact hne heq.2.symm
  refine ⟨fun hv' hd => h.forked (hsplit hv' hd).2 hd, ?_, ?_, ?_, ?_, ?_, ?_, ?_⟩
  · intro t' v' hv' hd
    rw [registry_release hv]
    obtain ⟨hne, hv'⟩ := hsplit hv' hd
    exact Registry.mem_live_unlisten.mpr ⟨h.waits hv' hd, hother hne⟩
  · intro t' v' hv' hd hreaped
    obtain ⟨hne, hv'⟩ := hsplit hv' hd
    obtain ⟨i, j, hi, hij, hj⟩ := h.scanned hv' hd hreaped
    refine ⟨i, j, by rw [scan_release, hi], hij, ?_⟩
    rw [registry_release hv]
    exact Registry.getElem?_unlisten (h.scanning _ hi) (hother hne) hj
  · intro r t' hr hcb
    rw [fds_release] at hr
    obtain ⟨v', hv', hd, hread⟩ := h.read hr hcb
    have hne : t ≠ t' := by
      rintro rfl
      rw [hv] at hv'
      rw [← Option.some.inj hv', hdone] at hd
      cases hd
    exact ⟨v', by rw [hview, if_neg hne, hv'], hd, hread⟩
  · intro e t' he hh
    rw [registry_release hv] at he
    obtain ⟨he, hrem⟩ := Registry.mem_live_unlisten.mp he
    obtain ⟨v', hv', hpid, hchild, hd⟩ := h.listens he hh
    have hne : t ≠ t' := by
      rintro rfl
      rw [hv] at hv'
      obtain rfl := Option.some.inj hv'
      exact hrem (by rw [hpid, ← hh])
    exact ⟨v', by rw [hview, if_neg hne, hv'], hpid, hchild,
      hd.imp_right fun hd => hx t' hd (Ne.symm hne)⟩
  · intro t' v' hv' hfreed
    rw [hview] at hv'
    split_ifs at hv' with ht
    · subst ht
      rw [hv, Option.map_some] at hv'
      rw [← Option.some.inj hv']
      exact hdone
    · exact h.freed hv' hfreed
  · intro t'
    have hcount := h.counted t'
    rw [doneCount] at hcount ⊢
    rw [dones_congr (trace_release w t), hcount, hview]
    by_cases ht : t = t'
    · subst ht
      simp [hv]
    · simp [ht]
  · intro s hs
    rw [registry_release hv]
    exact (Registry.evalMode_unlisten ..).trans (h.scanning s (by rwa [scan_release] at hs))

/-! ### What the callbacks do -/

/-- A listener that is not for a try is added. -/
theorem Life.listenGreeter {x : Option ℕ} {w : World} (h : Life x w) (pid : ℤ) (g : ℕ) :
    Life x (w.listen pid (.greeterDone g)) where
  forked := h.forked
  waits hv hd := by
    rw [World.listen_registry, Registry.live_listen]
    exact List.mem_append_left _ (h.waits hv hd)
  scanned hv hd hreaped := by
    obtain ⟨i, j, hi, hij, hj⟩ := h.scanned hv hd hreaped
    exact ⟨i, j, hi, hij,
      (List.getElem?_append_left (List.getElem?_eq_some_iff.mp hj).1).trans hj⟩
  read := h.read
  listens he hh := by
    rw [World.listen_registry, Registry.live_listen] at he
    rcases List.mem_append.mp he with he | he
    · exact h.listens he hh
    · rw [List.mem_singleton.mp he] at hh
      cases hh
  freed := h.freed
  counted := h.counted
  scanning := h.scanning

theorem tryOps_life : TryOps C Life where
  aside h ha := h.aside ha
  forks _ pid h := h.forks (World.pidFree_iff.mp (World.pidFree_freePid _ pid)).1
  fails noTty req h := h.fails noTty req
  calls hv hdone h := h.calls hv hdone
  releases hv hdone hx h := h.releases hv hdone hx
  listens pid g h := h.listenGreeter pid g

/-! ### The steps of the daemon -/

theorem ready_mem_live {w : World} {r : FdRegister FdCb} (h : ready w = some r) :
    r ∈ w.fds.live := by
  obtain ⟨hget, halive, -⟩ := ready_eq_some h
  exact FdTable.mem_live.mpr ⟨List.mem_of_getElem? hget, halive⟩

/-! #### The place of an entry during a scan -/

/-- During the scan for the try `t` the entry at `i` stays, or it is zeroed. -/
structure Placed (t i : ℕ) (e : Waiting Handler) (w : World) : Prop where
  scan : w.scan = some (t, i)
  evalMode : w.registry.evalMode = true
  place : w.registry.pending[i]? = some e ∨ w.registry.pending[i]? = some ⟨0, none⟩

theorem Placed.congr {t i : ℕ} {e : Waiting Handler} {w w' : World} (h : Placed t i e w)
    (hscan : w'.scan = w.scan) (hreg : w'.registry = w.registry) : Placed t i e w' := by
  refine ⟨hscan.trans h.scan, ?_, ?_⟩
  · rw [hreg, h.evalMode]
  · rw [hreg]
    exact h.place

theorem Placed.listen {t i : ℕ} {e : Waiting Handler} {w : World} (h : Placed t i e w) (pid : ℤ)
    (hd : Handler) : Placed t i e (w.listen pid hd) := by
  refine ⟨h.scan, h.evalMode, h.place.imp ?_ ?_⟩ <;>
    exact fun hp => (List.getElem?_append_left (List.getElem?_eq_some_iff.mp hp).1).trans hp

/-- Removing a listener zeroes equal entries and moves none. -/
theorem Placed.pending_unlisten {t i : ℕ} {e : Waiting Handler} {w : World} (h : Placed t i e w)
    (pid : ℤ) (hd : Handler) : (w.unlisten pid hd).registry.pending[i]? =
      (w.registry.pending[i]?).map fun x => if x = ⟨pid, some hd⟩ then ⟨0, none⟩ else x := by
  rw [World.unlisten_registry, Registry.unlisten, if_pos h.evalMode]
  simp [Lib.Tombstones.getElem?_kill]

theorem Placed.unlisten {t i : ℕ} {e : Waiting Handler} {w : World} (h : Placed t i e w) (pid : ℤ)
    (hd : Handler) : Placed t i e (w.unlisten pid hd) := by
  refine ⟨h.scan, (Registry.evalMode_unlisten ..).trans h.evalMode, ?_⟩
  rw [h.pending_unlisten]
  rcases h.place with hp | hp
  · rw [hp, Option.map_some]
    split_ifs
    · exact Or.inr rfl
    · exact Or.inl rfl
  · rw [hp, Option.map_some, if_neg (by simp)]
    exact Or.inr rfl

theorem Placed.release {t i : ℕ} {e : Waiting Handler} {w : World} (h : Placed t i e w) (t' : ℕ) :
    Placed t i e (release t' w) := (h.unlisten _ _).congr rfl rfl

theorem tryOps_placed (t i : ℕ) (e : Waiting Handler) : TryOps C fun _ => Placed t i e where
  aside h ha := h.congr ha.scan ha.registry
  forks {_ w} req pid h := by
    have hscan := (scan_childForked (openTry req w) w.tries.length
      ((openTry req w).freePid pid)).trans (scan_openTry w req)
    exact (h.listen _ _).congr hscan (registry_forked req _ w)
  fails noTty req h := h.congr (scan_tryFailed C _ noTty req) (registry_tryFailed C _ noTty req)
  calls {w t _} _ _ h := h.congr (scan_calledBack w t) (registry_calledBack w t)
  releases {_ _ _ t _} _ _ _ h := h.release t
  listens pid g h := h.listen pid _

/-- When the handler of the entry at `i` has run and the entry was removed, it is dead. -/
theorem Placed.dead {t i : ℕ} {pid : ℤ} {hd : Handler} {w : World}
    (h : Placed t i ⟨pid, some hd⟩ w) :
    (w.unlisten pid hd).registry.pending[i]? = some ⟨0, none⟩ := by
  rw [h.pending_unlisten]
  rcases h.place with hp | hp <;> rw [hp] <;> simp

/-- A listener that is called is removed. The try it was for has ended. -/
theorem Life.unlistens {w : World} (h : Life none w) {pid : ℤ} {hd : Handler}
    (hend : ∀ t, hd = .spawnedSessionDisappear t → ∀ v, view w t = some v → v.doneCalled = true) :
    Life none (w.unlisten pid hd) := by
  have hother : ∀ {t v}, view w t = some v → v.doneCalled = false →
      disappears t v ≠ ⟨pid, some hd⟩ := by
    intro t v hv hdone heq
    simp only [disappears, Waiting.mk.injEq, Option.some.injEq] at heq
    rw [hend t heq.2.symm v hv] at hdone
    cases hdone
  refine ⟨h.forked, ?_, ?_, h.read, ?_, h.freed, h.counted, ?_⟩
  · exact fun hv hdone => Registry.mem_live_unlisten.mpr ⟨h.waits hv hdone, hother hv hdone⟩
  · intro t v hv hdone hreaped
    obtain ⟨i, j, hi, hij, hj⟩ := h.scanned hv hdone hreaped
    exact ⟨i, j, hi, hij, Registry.getElem?_unlisten (h.scanning _ hi) (hother hv hdone) hj⟩
  · exact fun he hh => h.listens (Registry.mem_live_unlisten.mp he).1 hh
  · exact fun s hs => (Registry.evalMode_unlisten ..).trans (h.scanning s hs)

/-- The scan goes on behind an entry that is no longer alive or is for another process. -/
theorem Life.scanNext {w : World} (h : Life none w) {t i : ℕ} (hscan : w.scan = some (t, i))
    (hpass : ∀ v, view w t = some v → v.doneCalled = false → v.reaped = true →
      w.registry.pending[i]? ≠ some (disappears t v)) : Life none (scanTo t (i + 1) w) where
  forked := h.forked
  waits := h.waits
  scanned := by
    intro t' v hv hdone hreaped
    obtain ⟨i', j, hi, hij, hj⟩ := h.scanned hv hdone hreaped
    rw [hscan] at hi
    obtain ⟨rfl, rfl⟩ := Prod.mk.inj (Option.some.inj hi)
    have hne : i ≠ j := by
      rintro rfl
      exact hpass v hv hdone hreaped hj
    exact ⟨i + 1, j, rfl, by omega, hj⟩
  read := h.read
  listens := h.listens
  freed := h.freed
  counted := h.counted
  scanning _ _ := h.scanning _ hscan

/-- The callback of a try whose listener is visited is still to come. -/
theorem Life.pending_of_handler {w : World} (h : Life none w) {i : ℕ} {pid : ℤ} {hd : Handler}
    (he : w.registry.pending[i]? = some ⟨pid, some hd⟩) : ∀ t, hd = .spawnedSessionDisappear t →
      ∃ v, view w t = some v ∧ v.doneCalled = false := by
  rintro t rfl
  have hlive : ⟨pid, some (.spawnedSessionDisappear t)⟩ ∈ w.registry.live :=
    Registry.mem_live.mpr ⟨List.mem_of_getElem? he, rfl⟩
  obtain ⟨v, hv, -, -, hdone | hx⟩ := h.listens hlive rfl
  · exact ⟨v, hv, hdone⟩
  · cases hx

/-- The child of the try `t` is reaped, and the scan begins. -/
theorem Life.reaps {w : World} (h : Life none w) (heval : w.registry.evalMode = true)
    (hscan : w.scan = none) (t : ℕ) : Life none
      (scanTo t 0 (w.modTry t fun tr => { tr with exited := true, reaped := true })) := by
  set w' := scanTo t 0 (w.modTry t fun tr => { tr with exited := true, reaped := true }) with hw'
  have hview := view_reap t w
  -- only `reaped` may differ from the old view, and only for the try `t`
  have hsplit : ∀ {t' v'}, view w' t' = some v' →
      ∃ v b, view w t' = some v ∧ v' = { v with reaped := b } ∧ (b = v.reaped ∨ t' = t) := by
    intro t' v' hv'
    rw [hview] at hv'
    split_ifs at hv' with htt
    · obtain ⟨v, hv, rfl⟩ := Option.map_eq_some_iff.mp hv'
      exact ⟨v, true, hv, rfl, Or.inr htt.symm⟩
    · exact ⟨v', v'.reaped, hv', rfl, Or.inl rfl⟩
  have hmap : ∀ {t' v}, view w t' = some v → ∃ b, view w' t' = some { v with reaped := b } := by
    intro t' v hv
    rw [hview, hv]
    split_ifs
    · exact ⟨true, rfl⟩
    · exact ⟨v.reaped, rfl⟩
  refine ⟨?_, ?_, ?_, ?_, ?_, ?_, ?_, fun _ _ => heval⟩
  · intro t' v' hv' hdone
    obtain ⟨v, b, hv, rfl, -⟩ := hsplit hv'
    exact h.forked (v := v) hv hdone
  · intro t' v' hv' hdone
    obtain ⟨v, b, hv, rfl, -⟩ := hsplit hv'
    exact h.waits (v := v) hv hdone
  · intro t' v' hv' hdone hreaped
    obtain ⟨v, b, hv, rfl, hr⟩ := hsplit hv'
    rcases hr with rfl | rfl
    · obtain ⟨i, -, hi, -⟩ := h.scanned hv hdone hreaped
      rw [hscan] at hi
      cases hi
    · obtain ⟨j, hj⟩ := List.mem_iff_getElem?.mp (Registry.mem_live.mp (h.waits hv hdone)).1
      exact ⟨0, j, rfl, Nat.zero_le j, hj⟩
  · intro r t' hr hcb
    obtain ⟨v, hv, hdone, hread⟩ := h.read hr hcb
    obtain ⟨b, hv'⟩ := hmap hv
    exact ⟨_, hv', hdone, hread⟩
  · intro e t' he hh
    obtain ⟨v, hv, hpid, hchild, hdone⟩ := h.listens he hh
    obtain ⟨b, hv'⟩ := hmap hv
    exact ⟨_, hv', hpid, hchild, hdone⟩
  · intro t' v' hv' hfreed
    obtain ⟨v, b, hv, rfl, -⟩ := hsplit hv'
    exact h.freed (v := v) hv hfreed
  · intro t'
    have hany : (view w' t').any TryView.doneCalled = (view w t').any TryView.doneCalled := by
      rw [hview]
      split_ifs
      · cases view w t' <;> rfl
      · rfl
    rw [hany]
    exact h.counted t'

/-- **Every step keeps the invariant.** -/
theorem life_step {w : World} {e : Event} (h : Life none w) : Life none (step C w e) := by
  have hdoes := step_does C w e
  generalize step C w e = w' at hdoes
  cases hdoes with
  | idle _ => exact h
  | select readable error _ _ =>
    exact h.aside (aside_fds fun r hr _ _ => FdTable.live_selectReturns_subset _ _ _ r hr)
  | endPass a _ =>
    refine h.aside (aside_fds fun r hr _ _ => ?_)
    rwa [FdTable.live_endPass] at hr
  | pass a _ => exact h.aside (steady_advance w).toAside
  | accept a _ => exact h.aside ((steady_advance w).trans (steady_acceptReady a _)).toAside
  | client a c fd w' _ _ hdoes =>
    exact tryOps_life.clientData (h.aside (steady_advance w).toAside) hdoes
  | child a t fd w' _ hready hdoes =>
    obtain ⟨v, hv, hdone, -⟩ := h.read (ready_mem_live hready) rfl
    exact tryOps_life.childData (v := v) (h.aside (steady_advance w).toAside) hv hdone hdoes
  | sigchld _ =>
    exact ⟨h.forked, h.waits, h.scanned, h.read, h.listens, h.freed, h.counted, fun _ _ => rfl⟩
  | reap t _ _ _ _ heval hscan => exact h.reaps heval hscan t
  | scanEnd a t i hscan hend =>
    refine ⟨h.forked, h.waits, ?_, h.read, h.listens, h.freed, h.counted, fun s hs => by cases hs⟩
    intro t' v hv hdone hreaped
    obtain ⟨i', j, hi, hij, hj⟩ := h.scanned hv hdone hreaped
    rw [hscan] at hi
    obtain ⟨rfl, rfl⟩ := Prod.mk.inj (Option.some.inj hi)
    have hlt := (List.getElem?_eq_some_iff.mp hj).1
    have hge := List.getElem?_eq_none_iff.mp hend
    omega
  | scanPass a t i e hscan he hpid =>
    refine h.scanNext hscan fun v hv hdone _ heq => hpid ?_
    rw [he] at heq
    have hchild : (w.tryAt t).childPid = v.childPid := congrArg TryView.childPid (view_tryAt hv)
    rw [Option.some.inj heq, hchild]
    exact (h.forked hv hdone).2
  | scanZeroed a t i e hscan he hh =>
    refine (h.aside (aside_fault w)).scanNext hscan fun v _ _ _ heq => ?_
    have heq' : w.registry.pending[i]? = some (disappears t v) := heq
    rw [he] at heq'
    rw [Option.some.inj heq'] at hh
    cases hh
  | visit a t i pid hd w' hscan he hpid hcalled =>
    have hlive : ⟨pid, some hd⟩ ∈ w.registry.live :=
      Registry.mem_live.mpr ⟨List.mem_of_getElem? he, rfl⟩
    have hplaced : Placed t i ⟨pid, some hd⟩ w := ⟨hscan, h.scanning _ hscan, Or.inl he⟩
    have hend : ∀ t', hd = .spawnedSessionDisappear t' → ∀ v, view w' t' = some v →
        v.doneCalled = true := by
      rintro t' rfl
      obtain ⟨v, hv, -⟩ := h.listens hlive rfl
      cases hcalled with
      | disappeared _ _ hfree => exact done_of_freed hv hfree
    have hpending := h.pending_of_handler he
    have hlife : Life none (w'.unlisten pid hd) :=
      (tryOps_life.called h hpending hcalled).unlistens hend
    have hplaced' := (tryOps_placed t i ⟨pid, some hd⟩).called hplaced hpending hcalled
    refine hlife.scanNext hplaced'.scan fun v _ _ _ heq => ?_
    rw [hplaced'.dead] at heq
    simp [disappears] at heq
  | sigchldReturn hscan =>
    have hlive : Registry.live { pending := cleanup w.registry.pending, evalMode := false } =
        w.registry.live := Registry.live_cleanup w.registry false
    refine ⟨h.forked, ?_, ?_, h.read, ?_, h.freed, h.counted, fun s hs => ?_⟩
    · intro t v hv hdone
      exact hlive ▸ h.waits hv hdone
    · intro t v hv hdone hreaped
      obtain ⟨i, -, hi, -⟩ := h.scanned hv hdone hreaped
      rw [hscan] at hi
      cases hi
    · exact fun he hh => h.listens (hlive ▸ he) hh
    · have hs' : w.scan = some s := hs
      rw [hscan] at hs'
      cases hs'
  | childWrite t m _ =>
    refine h.aside (aside_modTry ?_ t w)
    exact fun _ => rfl
  | childHangUp t _ =>
    refine h.aside (aside_modTry ?_ t w)
    exact fun _ => rfl
  | childExit t _ =>
    refine h.aside (aside_modTry ?_ t w)
    exact fun _ => rfl

/-! ### Runs -/

theorem life_start (debug : Bool) (templates : List Template) :
    Life none (World.start debug templates) where
  forked hv := by simp [view, World.start] at hv
  waits hv := by simp [view, World.start] at hv
  scanned hv := by simp [view, World.start] at hv
  read hr hcb := by
    rw [List.mem_singleton.mp (FdTable.mem_live.mp hr).1] at hcb
    cases hcb
  listens he := absurd (Registry.mem_live.mp he).1 List.not_mem_nil
  freed hv := by simp [view, World.start] at hv
  counted t := by simp [doneCount, dones, view, World.start]
  scanning _ hs := by cases hs

theorem life_run (debug : Bool) (templates : List Template) (es : List Event) :
    Life none (run (step C) (World.start debug templates) es) :=
  run_induction (fun _ _ h => life_step h) es _ (life_start debug templates)

/-- A call that is recorded stays recorded. -/
theorem doneCount_mono (w : World) (es : List Event) (t : ℕ) :
    doneCount w t ≤ doneCount (run (step C) w es) t := by
  obtain ⟨os, hos⟩ := Trace.trace_run (C := C) w es
  rw [doneCount, doneCount, dones, dones, ← hos, List.filterMap_append, List.countP_append]
  exact Nat.le_add_right _ _

theorem Life.doneCount_le {x : Option ℕ} {w : World} (h : Life x w) (t : ℕ) :
    doneCount w t ≤ 1 := by
  rw [h.counted t]
  split_ifs
  · exact Nat.le_refl 1
  · exact Nat.zero_le 1

theorem Life.doneCount_eq {x : Option ℕ} {w : World} (h : Life x w) {t : ℕ} {v : TryView}
    (hv : view w t = some v) : doneCount w t = if v.doneCalled then 1 else 0 := by
  rw [h.counted t, hv]
  rfl

/-- **Every try ends once.** After any run, for every try: its callback was called at most once; it
was called if no child was made, or the child was reaped and its listeners have been visited; it
was called if the try was freed, and is not called again; and once it was called, no live entry of
the two registries refers to the try. -/
theorem done_exactly_once (debug : Bool) (templates : List Template) (es : List Event) (t : ℕ)
    (ht : t < (run (step C) (World.start debug templates) es).tries.length) :
    let w := run (step C) (World.start debug templates) es
    doneCount w t ≤ 1 ∧
      ((w.tryAt t).childPid = 0 ∨ ((w.tryAt t).reaped = true ∧ ∀ i, w.scan ≠ some (t, i)) →
        doneCount w t = 1) ∧
      ((w.tryAt t).freed = true → ∀ es', doneCount w t = 1 ∧
        doneCount (run (step C) w es') t = 1) ∧
      (doneCount w t = 1 → (∀ r ∈ w.fds.live, r.cb ≠ some (.childData t)) ∧
        ∀ e ∈ w.registry.live, e.handler ≠ some (.spawnedSessionDisappear t)) := by
  intro w
  have hlife : Life none w := life_run debug templates es
  have hv : view w t = some (SpawnTry.view (w.tryAt t)) := by
    have hget := List.getElem?_eq_getElem ht
    rw [view_of_get hget, World.tryAt_eq hget]
  have hcount := hlife.doneCount_eq hv
  have hone : ∀ es', doneCount w t = 1 → doneCount (run (step C) w es') t = 1 := by
    intro es' h
    have hle := (life_run (C := C) debug templates (es ++ es')).doneCount_le t
    rw [run_append] at hle
    exact Nat.le_antisymm hle (h ▸ doneCount_mono w es' t)
  refine ⟨hlife.doneCount_le t, fun hend => ?_, fun hfreed es' => ?_, fun h => ?_⟩
  · by_contra hne
    have hdone : (SpawnTry.view (w.tryAt t)).doneCalled = false := by
      by_contra hd
      rw [hcount, if_pos (by simpa using hd)] at hne
      exact hne rfl
    rcases hend with hnone | ⟨hreaped, hscan⟩
    · exact (hlife.forked hv hdone).1 hnone
    · obtain ⟨i, -, hi, -⟩ := hlife.scanned hv hdone hreaped
      exact hscan i hi
  · have h : doneCount w t = 1 := by rw [hcount, if_pos (hlife.freed hv hfreed)]
    exact ⟨h, hone es' h⟩
  · have hdone : (SpawnTry.view (w.tryAt t)).doneCalled = true := by
      by_contra hd
      rw [hcount, if_neg hd] at h
      cases h
    refine ⟨fun r hr hcb => ?_, fun e he hh => ?_⟩
    · obtain ⟨v, hv', hd, -⟩ := hlife.read hr hcb
      rw [hv] at hv'
      rw [← Option.some.inj hv', hdone] at hd
      cases hd
    · obtain ⟨v, hv', -, -, hd | hx⟩ := hlife.listens he hh
      · rw [hv] at hv'
        rw [← Option.some.inj hv', hdone] at hd
        cases hd
      · cases hx

/-- A greeter is started, and its process ends before a session is there. -/
def greeterEnds : List Event :=
  greeterStarts ++ [.sigchld, .reap 0] ++ List.replicate 4 (.visit Answers.plain)

theorem done_exactly_once_greeterEnds :
    doneCount (run (step Encoding.spawnCode) (World.start false []) greeterEnds) 0 = 1 := by
  have hscan : (run (step Encoding.spawnCode) (World.start false []) greeterEnds).scan = none := by
    decide
  refine (done_exactly_once false [] greeterEnds 0 (by decide)).2.1 (Or.inr ⟨by decide, ?_⟩)
  exact fun i hi => by simp [hscan] at hi

end Spawny.Daemon.TryLife
