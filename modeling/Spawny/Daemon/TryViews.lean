import Spawny.Daemon.Steps

/-! # What the rest of the daemon sees of a try

`view w t` is what the two registries, the callbacks and the kernel need to know of the try `t`. The
messages of a try do not matter for its life, so most steps are *aside*: they keep all views, the
spawn registry and the scan, and add no listener for a child.

* `view_forked`, `view_tryFailed`, `view_calledBack`, `view_release`: the steps that are not aside;
* `steady_sessionDone`, `steady_clientFree`, …: those that are, and leave the greeters alone. -/

namespace Spawny.Daemon.TryViews

open Spawny.Lib.Wire Spawny.Lib.Descriptors Spawny.Protocol.Messages
open Spawny.Daemon.Manager Spawny.Daemon.SpawnRegistry
open Spawny.Daemon.SessionMgt Spawny.Daemon.State Spawny.Daemon.SpawnService
open Spawny.Daemon.GreeterTable Spawny.Daemon.Client Spawny.Daemon.Greeter Spawny.Daemon.Activations
open Spawny.Daemon.Server Spawny.Daemon.Loop Spawny.Daemon.Steps

/-! ### Views -/

structure TryView where
  req : SpawnRequest
  doneCalled : Bool
  freed : Bool
  reaped : Bool
  childPid : ℕ
  readFd : ℕ
  pid : ℤ
  deriving DecidableEq

def SpawnTry.view (tr : SpawnTry) : TryView :=
  ⟨tr.toSpawnRequest, tr.doneCalled, tr.freed, tr.reaped, tr.childPid, tr.readFd, tr.pid⟩

/-- The view of the try `t`, if it was ever made. -/
def view (w : World) (t : ℕ) : Option TryView := (w.tries[t]?).map SpawnTry.view

theorem view_eq_some {w : World} {t : ℕ} {v : TryView} :
    view w t = some v ↔ ∃ tr, w.tries[t]? = some tr ∧ SpawnTry.view tr = v := by
  simp [view]

theorem view_of_get {w : World} {t : ℕ} {tr : SpawnTry} (h : w.tries[t]? = some tr) :
    view w t = some (SpawnTry.view tr) := view_eq_some.mpr ⟨tr, h, rfl⟩

theorem view_tryAt {w : World} {t : ℕ} {v : TryView} (h : view w t = some v) :
    SpawnTry.view (w.tryAt t) = v := by
  obtain ⟨tr, htr, rfl⟩ := view_eq_some.mp h
  rw [World.tryAt_eq htr]

theorem view_lt {w : World} {t : ℕ} {v : TryView} (h : view w t = some v) :
    t < w.tries.length := by
  obtain ⟨tr, htr, -⟩ := view_eq_some.mp h
  exact (List.getElem?_eq_some_iff.mp htr).1

theorem view_congr {w w' : World} (h : w'.tries = w.tries) : view w' = view w := by
  funext t
  rw [view, h, view]

theorem view_modTry {f : SpawnTry → SpawnTry} {g : TryView → TryView}
    (hfg : ∀ tr, SpawnTry.view (f tr) = g (SpawnTry.view tr)) (t : ℕ) (w : World) (t' : ℕ) :
    view (w.modTry t f) t' = if t = t' then (view w t').map g else view w t' := by
  rw [view, World.getElem?_modTry, Option.map_map, view]
  split_ifs with h
  · rw [Option.map_map]
    exact congrArg (fun k => (w.tries[t']?).map k) (funext fun tr => by simp [hfg])
  · exact congrArg (fun k => (w.tries[t']?).map k) (funext fun tr => by simp)

/-- Most fields of a try are no part of its view. -/
theorem view_modTry_same {f : SpawnTry → SpawnTry} (hf : ∀ tr, SpawnTry.view (f tr) = SpawnTry.view tr)
    (t : ℕ) (w : World) : view (w.modTry t f) = view w := by
  funext t'
  rw [view_modTry (g := id) hf t w t']
  split_ifs <;> simp

/-- The view of a new try whose child has the number `pid`. -/
def forkedView (req : SpawnRequest) (pid : ℕ) (w : World) : TryView :=
  ⟨req, false, false, false, pid, lowestFree w.fdtab, pid⟩

/-- The view of a new try whose child could not be made. -/
def failedView (req : SpawnRequest) (w : World) : TryView :=
  ⟨req, true, false, false, 0, lowestFree w.fdtab, 0⟩

theorem view_forked (req : SpawnRequest) (pid : ℕ) (w : World) (t : ℕ) :
    view (childForked w.tries.length pid (openTry req w)) t =
      if t = w.tries.length then some (forkedView req pid w) else view w t := by
  rw [view, getElem?_childForked, getElem?_openTry]
  by_cases h : t = w.tries.length
  · simp [h, SpawnTry.view, forkedView, newTry]
  · simp [h, Ne.symm h, view]

theorem view_tryFailed (C : FieldCode SpawnField) (noTty : Bool) (req : SpawnRequest) (w : World)
    (t : ℕ) : view (tryFailed C noTty req w) t =
      if t = w.tries.length then some (failedView req w) else view w t := by
  rw [view, getElem?_tryFailed]
  by_cases h : t = w.tries.length
  · rw [if_pos h, if_pos h]
    cases noTty <;> rfl
  · rw [if_neg h, if_neg h, view]

theorem view_calledBack (t : ℕ) (w : World) (t' : ℕ) : view (calledBack t w) t' =
    if t = t' then (view w t').map fun v => { v with doneCalled := true } else view w t' :=
  (view_modTry (fun _ => rfl) t (closeRead t w) t').trans (by
    rw [view_congr (w := w) (by simp [closeRead])])

theorem view_release (t : ℕ) (w : World) (t' : ℕ) : view (release t w) t' =
    if t = t' then (view w t').map fun v => { v with pid := -1, freed := true } else view w t' :=
  (view_modTry (fun _ => rfl) t (w.unlisten _ _) t').trans (by
    rw [view_congr (w := w) (World.unlisten_tries ..)])

/-- The child of the try `t` is reaped. -/
theorem view_reap (t : ℕ) (w : World) (t' : ℕ) :
    view (scanTo t 0 (w.modTry t fun tr => { tr with exited := true, reaped := true })) t' =
      if t = t' then (view w t').map fun v => { v with reaped := true } else view w t' :=
  view_modTry (fun _ => rfl) t w t'

/-! ### The registries -/

theorem registry_forked (req : SpawnRequest) (pid : ℕ) (w : World) :
    (childForked w.tries.length pid (openTry req w)).registry =
      w.registry.listen pid (.spawnedSessionDisappear w.tries.length) := by
  simp [childForked, openTry]

theorem registry_release {t : ℕ} {v : TryView} {w : World} (h : view w t = some v) :
    (release t w).registry = w.registry.unlisten v.pid (.spawnedSessionDisappear t) := by
  have hpid : (w.tryAt t).pid = v.pid := congrArg TryView.pid (view_tryAt h)
  simp [release, hpid]

theorem readFd_modTry_openTry (req : SpawnRequest) (w : World) (f : SpawnTry → SpawnTry)
    (hf : ∀ tr, (f tr).readFd = tr.readFd) :
    (((openTry req w).modTry w.tries.length f).tryAt w.tries.length).readFd =
      lowestFree w.fdtab := by
  unfold World.tryAt
  rw [World.getElem?_modTry, getElem?_openTry, if_pos rfl]
  simp [hf, newTry]

theorem live_forked (req : SpawnRequest) (pid : ℕ) (w : World) :
    (childForked w.tries.length pid (openTry req w)).fds.live =
      w.fds.live ++ [⟨some (.childData w.tries.length), lowestFree w.fdtab⟩] := by
  have hfd := readFd_modTry_openTry req w (fun tr => { tr with childPid := pid }) fun _ => rfl
  have hfds : (childForked w.tries.length pid (openTry req w)).fds = w.fds.registerFd
      (((openTry req w).modTry w.tries.length fun tr => { tr with childPid := pid }).tryAt
        w.tries.length).readFd (.childData w.tries.length) := by
    simp [childForked, openTry]
    rfl
  rw [hfds, FdTable.live_registerFd, hfd]

theorem writeFd_modTry_openTry (req : SpawnRequest) (w : World) (f : SpawnTry → SpawnTry)
    (hf : ∀ tr, (f tr).writeFd = tr.writeFd) :
    (((openTry req w).modTry w.tries.length f).tryAt w.tries.length).writeFd =
      lowestFree (openSlot w.fdtab (.pipeRead w.tries.length)) := by
  unfold World.tryAt
  rw [World.getElem?_modTry, getElem?_openTry, if_pos rfl]
  simp [hf, newTry]

/-- A new try with a child keeps the read end of its pipe. -/
theorem lookup_forked (req : SpawnRequest) (pid : ℕ) (w : World) (n : ℕ) :
    lookup (childForked w.tries.length pid (openTry req w)).fdtab n =
      lookup (openSlot w.fdtab (.pipeRead w.tries.length)) n := by
  have hfd := writeFd_modTry_openTry req w (fun tr => { tr with childPid := pid }) fun _ => rfl
  have hfdtab : (childForked w.tries.length pid (openTry req w)).fdtab = closeSlot
      (openTry req w).fdtab (((openTry req w).modTry w.tries.length
        fun tr => { tr with childPid := pid }).tryAt w.tries.length).writeFd := by
    simp [childForked]
    rfl
  rw [hfdtab, hfd]
  exact lookup_close_open _ _ n

theorem fdtab_calledBack_eq (t : ℕ) (w : World) :
    (calledBack t w).fdtab = closeSlot w.fdtab (w.tryAt t).readFd := by
  simp [calledBack, closeRead]

theorem fdtab_calledBack {t : ℕ} {v : TryView} {w : World} (h : view w t = some v) :
    (calledBack t w).fdtab = closeSlot w.fdtab v.readFd := by
  have hfd : (w.tryAt t).readFd = v.readFd := congrArg TryView.readFd (view_tryAt h)
  rw [fdtab_calledBack_eq, hfd]

theorem fdtab_tryFailed (C : FieldCode SpawnField) (noTty : Bool) (req : SpawnRequest) (w : World) :
    (tryFailed C noTty req w).fdtab = closeSlot (openTry req w).fdtab (lowestFree w.fdtab) := by
  have hfd := readFd_modTry_openTry req w
    (SpawnTry.writePipe C ⟨.errorExit, some "Failed to find tty"⟩)
    fun _ => rfl
  unfold tryFailed
  cases noTty
  · simp [closeRead, tryAt_openTry, newTry]
  · simp [closeRead, serviceComExit, hfd]

/-- What is open stays open when a try fails at once. -/
theorem lookup_tryFailed (C : FieldCode SpawnField) (noTty : Bool) (req : SpawnRequest) {w : World}
    {n : ℕ} {o : FdObj} (h : lookup w.fdtab n = some o) :
    lookup (tryFailed C noTty req w).fdtab n = some o := by
  rw [fdtab_tryFailed, lookup_close_of_ne]
  · exact lookup_open_of_some (lookup_open_of_some h _) _
  · rintro rfl
    rw [lookup_lowestFree] at h
    cases h

theorem live_calledBack {t : ℕ} {v : TryView} {w : World} (h : view w t = some v) :
    (calledBack t w).fds.live = w.fds.live.filter fun r => !decide (r.fd = v.readFd) := by
  have hfd : (w.tryAt t).readFd = v.readFd := congrArg TryView.readFd (view_tryAt h)
  have hfds : (calledBack t w).fds = w.fds.unregisterFd v.readFd := by
    simp [calledBack, closeRead, hfd]
  rw [hfds, FdTable.live_unregisterFd]

theorem live_tryFailed (C : FieldCode SpawnField) (noTty : Bool) (req : SpawnRequest) (w : World) :
    ∀ r ∈ (tryFailed C noTty req w).fds.live, r ∈ w.fds.live := by
  have hfds : ∃ fd, (tryFailed C noTty req w).fds = w.fds.unregisterFd fd := by
    unfold tryFailed
    cases noTty <;> exact ⟨_, by simp [closeRead, serviceComExit]; rfl⟩
  obtain ⟨fd, hfd⟩ := hfds
  intro r hr
  rw [hfd] at hr
  exact (FdTable.mem_live_unregisterFd.mp hr).1

/-! ### The calls of the done callbacks -/

def Obs.done? : Obs → Option (ℕ × SpawnServiceEnd)
  | .done t result => some (t, result)
  | _ => none

/-- The calls of done callbacks so far, with the try and the result. -/
def dones (w : World) : List (ℕ × SpawnServiceEnd) := w.trace.filterMap Obs.done?

theorem dones_congr {w w' : World} (h : w'.trace = w.trace) : dones w' = dones w := by
  rw [dones, h, dones]

theorem dones_log (o : Obs) (w : World) : dones (w.log o) = dones w ++ (Obs.done? o).toList := by
  rw [dones, World.log_trace, List.filterMap_append, dones]
  cases o <;> rfl

theorem dones_calledBack (t : ℕ) (w : World) :
    dones (calledBack t w) = dones w ++ [(t, SpawnTry.result (w.tryAt t))] := by
  unfold calledBack
  rw [dones_log, dones_congr (w := w) (by simp [closeRead])]
  rfl

theorem dones_tryFailed (C : FieldCode SpawnField) (noTty : Bool) (req : SpawnRequest) (w : World) :
    dones (tryFailed C noTty req w) = dones w ++ [(w.tries.length, ⟨.error, none⟩)] := by
  unfold tryFailed
  cases noTty <;> rw [dones_log, dones_congr (w := w) (by simp [closeRead, serviceComExit])] <;> rfl

theorem dones_forked (req : SpawnRequest) (pid : ℕ) (w : World) :
    dones (childForked w.tries.length pid (openTry req w)) = dones w := by
  have htrace : (childForked w.tries.length pid (openTry req w)).trace =
      w.trace ++ [.spawned w.tries.length] := by simp [childForked]
  rw [dones, htrace, List.filterMap_append, dones]
  simp [Obs.done?]

/-! ### Steps aside -/

/-- Nothing has changed that the life of a try depends on. -/
structure Aside (w w' : World) : Prop where
  views : view w' = view w
  registry : w'.registry = w.registry
  scan : w'.scan = w.scan
  fds : ∀ r ∈ w'.fds.live, ∀ t, r.cb = some (.childData t) → r ∈ w.fds.live
  dones : dones w' = dones w

theorem Aside.refl (w : World) : Aside w w := ⟨rfl, rfl, rfl, fun _ hr _ _ => hr, rfl⟩

theorem Aside.trans {w w' w'' : World} (h : Aside w w') (h' : Aside w' w'') : Aside w w'' :=
  ⟨h'.views.trans h.views, h'.registry.trans h.registry, h'.scan.trans h.scan,
    fun r hr t hcb => h.fds r (h'.fds r hr t hcb) t hcb, h'.dones.trans h.dones⟩

theorem aside_log {o : Obs} (ho : Obs.done? o = none) (w : World) : Aside w (w.log o) :=
  ⟨rfl, rfl, rfl, fun _ hr _ _ => hr, by rw [dones_log, ho, Option.toList_none, List.append_nil]⟩

theorem aside_fault (w : World) : Aside w w.fault := ⟨rfl, rfl, rfl, fun _ hr _ _ => hr, rfl⟩

theorem aside_modClient (c : ℕ) (f : State.Client → State.Client) (w : World) :
    Aside w (w.modClient c f) := ⟨rfl, rfl, rfl, fun _ hr _ _ => hr, rfl⟩

theorem aside_modGreeter (g : ℕ) (f : SeatGreeter → SeatGreeter) (w : World) :
    Aside w (w.modGreeter g f) := ⟨rfl, rfl, rfl, fun _ hr _ _ => hr, rfl⟩

theorem aside_greeterAdd (seat : String) (w : World) : Aside w (greeterAdd seat w) :=
  ⟨rfl, rfl, rfl, fun _ hr _ _ => hr, rfl⟩

theorem aside_greeterDel (seat : String) (w : World) : Aside w (greeterDel seat w) :=
  ⟨rfl, rfl, rfl, fun _ hr _ _ => hr, rfl⟩

theorem aside_modTry {f : SpawnTry → SpawnTry} (hf : ∀ tr, SpawnTry.view (f tr) = SpawnTry.view tr)
    (t : ℕ) (w : World) : Aside w (w.modTry t f) :=
  ⟨view_modTry_same hf t w, rfl, rfl, fun _ hr _ _ => hr, rfl⟩

theorem aside_unregisterFd (fd : ℕ) (w : World) : Aside w (w.unregisterFd fd) :=
  ⟨rfl, rfl, rfl, fun _ hr _ _ => (FdTable.mem_live_unregisterFd.mp hr).1, rfl⟩

theorem aside_closeFd (fd : ℕ) (w : World) : Aside w (w.closeFd fd) :=
  ⟨rfl, rfl, rfl, fun _ hr _ _ => hr, rfl⟩

theorem aside_fds {w : World} {m : FdTable FdCb}
    (h : ∀ r ∈ m.live, ∀ t, r.cb = some (.childData t) → r ∈ w.fds.live) :
    Aside w { w with fds := m } := ⟨rfl, rfl, rfl, h, rfl⟩

/-! ### Steps that leave the greeters alone -/

/-- What is recorded of a callback of a greeter. -/
def Obs.ofGreeter : Obs → Bool
  | .greeterCb _ _ => true
  | .startDone _ _ => true
  | _ => false

/-- The callbacks of greeters so far. -/
def greeterObs (w : World) : List Obs := w.trace.filter Obs.ofGreeter

/-- The records by slot: the seat and `run`. -/
def runs (w : World) : List (String × Option ℕ × ℤ) :=
  w.greeters.map fun r => (r.seat, r.runTry, r.runPid)

/-- A step aside that does not change a record and calls no greeter back. -/
structure Steady (w w' : World) : Prop extends Aside w w' where
  runs : runs w' = runs w
  obs : greeterObs w' = greeterObs w

theorem Steady.refl (w : World) : Steady w w := ⟨Aside.refl w, rfl, rfl⟩

theorem Steady.trans {w w' w'' : World} (h : Steady w w') (h' : Steady w' w'') : Steady w w'' :=
  ⟨h.toAside.trans h'.toAside, h'.runs.trans h.runs, h'.obs.trans h.obs⟩

theorem greeterObs_log (o : Obs) (w : World) :
    greeterObs (w.log o) = greeterObs w ++ if Obs.ofGreeter o then [o] else [] := by
  rw [greeterObs, World.log_trace, List.filter_append, greeterObs, List.filter_cons,
    List.filter_nil]

theorem steady_log {o : Obs} (hdone : Obs.done? o = none) (ho : Obs.ofGreeter o = false) (w : World) :
    Steady w (w.log o) := by
  refine ⟨aside_log hdone w, rfl, ?_⟩
  rw [greeterObs_log, ho]
  simp

theorem steady_fault (w : World) : Steady w w.fault := ⟨aside_fault w, rfl, rfl⟩

theorem steady_modClient (c : ℕ) (f : State.Client → State.Client) (w : World) :
    Steady w (w.modClient c f) := ⟨aside_modClient c f w, rfl, rfl⟩

theorem steady_modTry {f : SpawnTry → SpawnTry}
    (hf : ∀ tr, SpawnTry.view (f tr) = SpawnTry.view tr) (t : ℕ) (w : World) :
    Steady w (w.modTry t f) := ⟨aside_modTry hf t w, rfl, rfl⟩

theorem steady_unregisterFd (fd : ℕ) (w : World) : Steady w (w.unregisterFd fd) :=
  ⟨aside_unregisterFd fd w, rfl, rfl⟩

theorem steady_fds {w : World} {m : FdTable FdCb}
    (h : ∀ r ∈ m.live, ∀ t, r.cb = some (.childData t) → r ∈ w.fds.live) :
    Steady w { w with fds := m } := ⟨aside_fds h, rfl, rfl⟩

theorem steady_sendMessage (why : Sender) (type : ServerType) (fb : Option RequestFeedback)
    (data : Option Data) (fd : ℕ) (w : World) : Steady w (sendMessage why type fb data fd w) :=
  steady_log rfl rfl w

theorem steady_clientFree (c : ℕ) (w : World) : Steady w (clientFree c w) :=
  ⟨((aside_unregisterFd _ _).trans (aside_closeFd _ _)).trans (aside_modClient _ _ _), rfl, rfl⟩

theorem steady_clientGoodbye (why : Sender) (c : ℕ) (w : World) :
    Steady w (clientGoodbye why c w) :=
  (steady_sendMessage _ _ _ _ _ _).trans (steady_clientFree _ _)

/-- A lockout only sets the flag `end`. -/
theorem steady_greeterLockout (seat : Option String) (w : World) :
    Steady w (greeterLockout seat w) := by
  unfold greeterLockout
  rcases seat with _ | s
  · dsimp only
    split_ifs
    · exact Steady.refl w
    · exact steady_fault w
  · dsimp only
    cases greeterSearch s w with
    | none => exact Steady.refl w
    | some g =>
      have hruns : TryViews.runs (w.modGreeter g fun r => { r with ended := true }) =
          TryViews.runs w := by
        refine List.ext_getElem? fun i => ?_
        rw [TryViews.runs, List.getElem?_map, World.getElem?_modGreeter, TryViews.runs,
          List.getElem?_map, Option.map_map]
        refine congrArg (fun f => (w.greeters[i]?).map f) (funext fun r => ?_)
        dsimp only [Function.comp_apply]
        split_ifs <;> rfl
      have hset : Steady w (w.modGreeter g fun r => { r with ended := true }) :=
        ⟨aside_modGreeter _ _ _, hruns, rfl⟩
      exact hset.trans (steady_log rfl rfl _)

theorem steady_sessionActivate (session : Option String) (w : World) :
    Steady w (sessionActivate session w) := by
  cases session with
  | none => exact Steady.refl w
  | some s => exact steady_log rfl rfl w

theorem steady_forceQuit (t : ℕ) (w : World) : Steady w (forceQuit t w) := by
  unfold forceQuit
  split_ifs
  · exact steady_log rfl rfl w
  · exact Steady.refl w

theorem steady_sessionDone (a : Answers) (t c : ℕ) (result : SpawnServiceEnd) (w : World) :
    Steady w (sessionDone a t c result w) := by
  have hfault : Steady w (if (w.clientAt c).freed then w.fault else w) := by
    split_ifs
    · exact steady_fault w
    · exact Steady.refl w
  unfold sessionDone
  dsimp only
  generalize (if (w.clientAt c).freed then w.fault else w) = w' at hfault ⊢
  refine hfault.trans ?_
  cases result.success with
  | error => exact (steady_sendMessage _ _ _ _ _ _).trans (steady_modClient _ _ _)
  | success =>
    exact ((steady_greeterLockout _ _).trans (steady_sendMessage _ _ _ _ _ _)).trans
      ((steady_modClient _ _ _).trans (steady_clientGoodbye _ _ _))

theorem steady_acceptReady (a : Answers) (w : World) : Steady w (acceptReady a w) := by
  unfold acceptReady
  cases a.peer with
  | none => exact ⟨⟨rfl, rfl, rfl, fun _ hr _ _ => hr, rfl⟩, rfl, rfl⟩
  | some pid =>
    refine ⟨⟨rfl, rfl, rfl, fun r hr t hcb => ?_, rfl⟩, rfl, rfl⟩
    have hmem : r ∈ w.fds.live ++ [⟨some (.clientData w.clients.length), lowestFree w.fdtab⟩] := by
      rw [← FdTable.live_registerFd]
      exact hr
    rcases List.mem_append.mp hmem with h | h
    · exact h
    · rw [List.mem_singleton.mp h] at hcb
      cases hcb

theorem steady_advance (w : World) : Steady w (advance w) := steady_fds fun _ hr _ _ => hr

/-- The try whose `SESSION_ACTIVE` was read, before it is freed. -/
theorem getElem?_succeeded {t : ℕ} {tr : SpawnTry} {w : World}
    (htr : w.tries[t]? = some tr) (fd : ℕ) :
    (((w.modTry t SpawnTry.readPipe).unregisterFd fd).modTry t
      fun tr => { tr with success := .success }).tries[t]? =
        some { SpawnTry.readPipe tr with success := .success } := by
  rw [World.getElem?_modTry]
  show ((w.modTry t SpawnTry.readPipe).tries[t]?).map _ = _
  rw [World.getElem?_modTry, htr]
  simp

/-- What `_child_data` does before it frees a try whose session is active. -/
theorem steady_setSuccess (t : ℕ) (w : World) :
    Steady w ((((w.modTry t SpawnTry.readPipe).unregisterFd (w.tryAt t).readFd)).modTry t
      fun tr => { tr with success := .success }) := by
  refine ((steady_modTry (f := SpawnTry.readPipe) (fun _ => rfl) t w).trans
    (steady_unregisterFd _ _)).trans (steady_modTry ?_ t _)
  exact fun _ => rfl

/-- **`_child_data`** ends the try if its session is active, else it leaves the greeters alone. -/
theorem steady_childData {C : FieldCode SpawnField} {a : Answers} {t fd : ℕ} {w w' : World}
    (h : ChildData C a t fd w w') : Steady w w' ∨
      Freed C a t (((w.modTry t SpawnTry.readPipe).unregisterFd (w.tryAt t).readFd).modTry t
        fun tr => { tr with success := .success }) w' := by
  have hread : Steady w (w.modTry t SpawnTry.readPipe) :=
    steady_modTry (f := SpawnTry.readPipe) (fun _ => rfl) t w
  cases h with
  | undecodable _ =>
    exact Or.inl ((hread.trans (steady_unregisterFd _ _)).trans (steady_forceQuit _ _))
  | connect _ _ _ => exact Or.inl hread
  | setupDone _ _ _ session =>
    have hset : Steady w ((w.modTry t SpawnTry.readPipe).modTry t
        fun tr => { tr with session := session }) := by
      refine hread.trans (steady_modTry ?_ t _)
      exact fun _ => rfl
    refine Or.inl (Steady.trans ?_ (steady_sessionActivate _ _))
    split_ifs
    · exact hset.trans (steady_forceQuit _ _)
    · exact hset
  | sessionActive _ _ _ w' hfree => exact Or.inr hfree
  | errorExit _ _ _ reason _ =>
    refine Or.inl ((hread.trans (steady_unregisterFd _ _)).trans (steady_modTry ?_ t _))
    exact fun _ => rfl
  | noReason _ _ _ _ =>
    exact Or.inl ((hread.trans (steady_unregisterFd _ _)).trans (steady_fault _))

end Spawny.Daemon.TryViews
