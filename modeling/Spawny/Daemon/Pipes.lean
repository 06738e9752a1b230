import Spawny.Daemon.Outcomes

/-! # What lies in the pipes

A read takes as much out of a pipe as fits into the buffer. If what it takes can be decoded it ends
with a whole field, and if it cannot the pipe is not read again. So the pipe of a try that is read
always holds whole fields, and none of them tells of a session that the child has not told of.

* `Kept`, `Calm`: steps that leave the pipes alone;
* `Reads.activate`, `Reads.clientData`, `Reads.childData`, `Reads.called`: the callbacks;
* `reads_step`: every step keeps what lies in the pipes whole;
* `Reads.active`: **what is read as `SESSION_ACTIVE` was written as one**. -/

namespace Spawny.Daemon.Pipes

open Spawny.Lib.Wire Spawny.Protocol.Messages
open Spawny.Daemon.Manager Spawny.Daemon.SpawnRegistry
open Spawny.Daemon.SessionMgt Spawny.Daemon.State Spawny.Daemon.SpawnService
open Spawny.Daemon.GreeterTable Spawny.Daemon.Client Spawny.Daemon.Greeter Spawny.Daemon.Activations
open Spawny.Daemon.Server Spawny.Daemon.Loop Spawny.Daemon.Steps Spawny.Daemon.TryViews
open Spawny.Daemon.TryLife Spawny.Daemon.TryCells Spawny.Daemon.Outcomes

variable {C : FieldCode SpawnField} {w w' : World}

/-! ### Whole fields -/

/-- The pipe holds whole fields, and `SESSION_ACTIVE` is one of them only if it was written. -/
def Whole (C : FieldCode SpawnField) (tr : SpawnTry) : Prop :=
  ∃ fs, tr.pipe = C.encode fs ∧ (SpawnField.type .sessionActive ∈ fs → active ∈ tr.written)

theorem Whole.congr {tr tr' : SpawnTry} (h : Whole C tr) (hpipe : tr'.pipe = tr.pipe)
    (hwritten : tr'.written = tr.written) : Whole C tr' := by
  rw [Whole, hpipe, hwritten]
  exact h

theorem Whole.write {tr : SpawnTry} (h : Whole C tr) (m : ServiceMessage) :
    Whole C (SpawnTry.writePipe C m.message tr) := by
  obtain ⟨fs, hpipe, hactive⟩ := h
  refine ⟨fs ++ m.message.fields, ?_, fun hmem => ?_⟩
  · rw [C.encode_append, ← hpipe]
    rfl
  · show active ∈ tr.written ++ [m.message]
    rcases List.mem_append.mp hmem with hmem | hmem
    · exact List.mem_append_left _ (hactive hmem)
    · have htype : m.message.type = .sessionActive := by
        rcases List.mem_cons.mp hmem with heq | hexit
        · exact (SpawnField.type.inj heq).symm
        · simp at hexit
      rw [service_of_active ⟨m, rfl⟩ htype]
      exact List.mem_append_right _ (List.mem_singleton_self _)

/-- What is decoded ends with a whole field. -/
theorem Whole.cut {tr : SpawnTry} (h : Whole C tr) {m : SpawnMessage}
    (hmsg : SpawnMessage.unpack C (tr.pipe.take MAX_MSG_SIZE) = some m) :
    Whole C (SpawnTry.readPipe tr) ∧ (m.type = .sessionActive → active ∈ tr.written) := by
  obtain ⟨fs, hpipe, hactive⟩ := h
  obtain ⟨gs, hdec, hgs⟩ := Option.bind_eq_some_iff.mp hmsg
  have hsplit : C.encode fs = tr.pipe.take MAX_MSG_SIZE ++ tr.pipe.drop MAX_MSG_SIZE := by
    rw [List.take_append_drop, hpipe]
  rcases C.decode_cut fs _ _ hsplit with ⟨fs₁, fs₂, rfl, htake, hdrop⟩ | hnone
  · refine ⟨⟨fs₂, hdrop, fun hmem => hactive (List.mem_append_right _ hmem)⟩, fun htype => ?_⟩
    rw [htake, C.decode_encode] at hdec
    obtain rfl := Option.some.inj hdec
    obtain ⟨t, ht, rfl⟩ := Option.map_eq_some_iff.mp hgs
    have hlast : SpawnType.sessionActive ∈ fs₁.filterMap SpawnField.type? := by
      rw [← htype]
      exact List.mem_of_getLast? ht
    obtain ⟨f, hf, hft⟩ := List.mem_filterMap.mp hlast
    cases f with
    | type t' =>
      obtain rfl := Option.some.inj hft
      exact hactive (List.mem_append_left _ hf)
    | exit s => cases hft
  · rw [hnone] at hdec
    cases hdec

/-! ### Steps that leave the pipes alone -/

/-- The tries of `w` keep their callbacks, their pipes and what was written. -/
def Kept (w w' : World) : Prop :=
  ∀ (t : ℕ) (tr : SpawnTry), w.tries[t]? = some tr → ∃ tr', w'.tries[t]? = some tr' ∧
    tr'.done = tr.done ∧ tr'.pipe = tr.pipe ∧ tr'.written = tr.written

theorem Kept.of_eq (h : w'.tries = w.tries) : Kept w w' :=
  fun _ tr htr => ⟨tr, by rw [h, htr], rfl, rfl, rfl⟩

theorem Kept.trans {w'' : World} (h : Kept w w') (h' : Kept w' w'') : Kept w w'' := by
  intro t tr htr
  obtain ⟨tr', htr', hdone, hpipe, hwritten⟩ := h t tr htr
  obtain ⟨tr'', htr'', hdone', hpipe', hwritten'⟩ := h' t tr' htr'
  exact ⟨tr'', htr'', hdone'.trans hdone, hpipe'.trans hpipe, hwritten'.trans hwritten⟩

theorem kept_modTry {f : SpawnTry → SpawnTry}
    (hf : ∀ tr, (f tr).done = tr.done ∧ (f tr).pipe = tr.pipe ∧ (f tr).written = tr.written)
    (t : ℕ) (w : World) : Kept w (w.modTry t f) := by
  intro t' tr htr
  refine ⟨_, by rw [World.getElem?_modTry, htr, Option.map_some], ?_⟩
  split_ifs
  · exact hf tr
  · exact ⟨rfl, rfl, rfl⟩

theorem kept_release (t : ℕ) (w : World) : Kept w (release t w) := by
  have hunlisten : Kept w (w.unlisten (w.tryAt t).pid (.spawnedSessionDisappear t)) := .of_eq rfl
  refine hunlisten.trans (kept_modTry ?_ t _)
  exact fun _ => ⟨rfl, rfl, rfl⟩

theorem kept_calledBack (t : ℕ) (w : World) : Kept w (calledBack t w) := by
  have hclosed : Kept w (closeRead t w) := .of_eq (by simp [closeRead])
  have hset : Kept (closeRead t w)
      ((closeRead t w).modTry t fun tr => { tr with doneCalled := true }) := by
    refine kept_modTry ?_ t _
    exact fun _ => ⟨rfl, rfl, rfl⟩
  exact (hclosed.trans hset).trans (.of_eq rfl)

theorem kept_forked (req : SpawnRequest) (pid : ℕ) (w : World) :
    Kept w (childForked w.tries.length pid (openTry req w)) := by
  intro t tr htr
  have hne : t ≠ w.tries.length := (List.getElem?_eq_some_iff.mp htr).1.ne
  refine ⟨tr, ?_, rfl, rfl, rfl⟩
  rw [getElem?_childForked, getElem?_openTry, if_neg hne, htr, Option.map_some, if_neg hne.symm]

theorem kept_tryFailed (noTty : Bool) (req : SpawnRequest) (w : World) :
    Kept w (tryFailed C noTty req w) := by
  intro t tr htr
  have hne : t ≠ w.tries.length := (List.getElem?_eq_some_iff.mp htr).1.ne
  exact ⟨tr, by rw [getElem?_tryFailed, if_neg hne, htr], rfl, rfl, rfl⟩

/-- The pipes are kept, and no other pipe is read. -/
structure Calm (w w' : World) : Prop where
  kept : Kept w w'
  fds : ∀ r ∈ w'.fds.live, ∀ t, r.cb = some (.childData t) → r ∈ w.fds.live

theorem calm_aside (h : Aside w w') (htries : w'.tries = w.tries) : Calm w w' :=
  ⟨.of_eq htries, h.fds⟩

theorem Calm.trans {w'' : World} (h : Calm w w') (h' : Calm w' w'') : Calm w w'' :=
  ⟨h.kept.trans h'.kept, fun r hr t hcb => h.fds r (h'.fds r hr t hcb) t hcb⟩

theorem calm_log (o : Obs) (w : World) : Calm w (w.log o) := ⟨.of_eq rfl, fun _ hr _ _ => hr⟩

theorem calm_fault (w : World) : Calm w w.fault := ⟨.of_eq rfl, fun _ hr _ _ => hr⟩

theorem calm_modGreeter (g : ℕ) (f : SeatGreeter → SeatGreeter) (w : World) :
    Calm w (w.modGreeter g f) := ⟨.of_eq rfl, fun _ hr _ _ => hr⟩

theorem calm_modClient (c : ℕ) (f : State.Client → State.Client) (w : World) :
    Calm w (w.modClient c f) := ⟨.of_eq rfl, fun _ hr _ _ => hr⟩

theorem calm_release (t : ℕ) (w : World) : Calm w (release t w) :=
  ⟨kept_release t w, fun _ hr _ _ => by rwa [fds_release] at hr⟩

theorem calm_calledBack (t : ℕ) (w : World) : Calm w (calledBack t w) := by
  refine ⟨kept_calledBack t w, fun r hr _ _ => ?_⟩
  have hfds : (calledBack t w).fds = w.fds.unregisterFd (w.tryAt t).readFd := by
    simp [calledBack, closeRead]
  rw [hfds] at hr
  exact (FdTable.mem_live_unregisterFd.mp hr).1

theorem calm_tryFailed (noTty : Bool) (req : SpawnRequest) (w : World) :
    Calm w (tryFailed C noTty req w) :=
  ⟨kept_tryFailed noTty req w, fun r hr _ _ => live_tryFailed C noTty req w r hr⟩

theorem calm_sessionDone (a : Answers) (t c : ℕ) (result : SpawnServiceEnd) (w : World) :
    Calm w (sessionDone a t c result w) :=
  calm_aside (steady_sessionDone a t c result w).toAside (tries_sessionDone a t c result w)

/-! ### The invariant -/

/-- **The pipes that are read hold whole fields.** -/
def Reads (C : FieldCode SpawnField) (w : World) : Prop :=
  ∀ r ∈ w.fds.live, ∀ t, r.cb = some (.childData t) → ∃ tr, w.tries[t]? = some tr ∧ Whole C tr

theorem Reads.calm (h : Reads C w) (hc : Calm w w') : Reads C w' := by
  intro r hr t hcb
  obtain ⟨tr, htr, hwhole⟩ := h r (hc.fds r hr t hcb) t hcb
  obtain ⟨tr', htr', -, hpipe, hwritten⟩ := hc.kept t tr htr
  exact ⟨tr', htr', hwhole.congr hpipe hwritten⟩

theorem Reads.forks (h : Reads C w) (req : SpawnRequest) (pid : ℕ) :
    Reads C (childForked w.tries.length pid (openTry req w)) := by
  intro r hr t hcb
  rw [live_forked] at hr
  rcases List.mem_append.mp hr with hr | hr
  · obtain ⟨tr, htr, hwhole⟩ := h r hr t hcb
    obtain ⟨tr', htr', -, hpipe, hwritten⟩ := kept_forked req pid w t tr htr
    exact ⟨tr', htr', hwhole.congr hpipe hwritten⟩
  · rw [List.mem_singleton.mp hr] at hcb
    obtain rfl : w.tries.length = t := by simpa using hcb
    refine ⟨_, by rw [getElem?_childForked, getElem?_openTry, if_pos rfl, Option.map_some,
      if_pos rfl], [], rfl, ?_⟩
    simp

theorem greeterOps_reads (a : Answers) : GreeterOps C a (Reads C) where
  session _ h := h.calm (calm_log _ _)
  add _ h := h.calm (calm_aside (aside_greeterAdd _ _) rfl)
  noPipe _ _ h := h.calm (calm_modGreeter _ _ _)
  forked _ _ _ h := (h.forks _ _).calm (calm_modGreeter _ _ _)
  failed noTty _ _ _ _ _ h :=
    ((h.calm (calm_tryFailed noTty _ _)).calm (calm_log _ _)).calm (calm_modGreeter _ _ _)
  returned _ _ _ _ _ h := (h.calm (calm_release _ _)).calm (calm_modGreeter _ _ _)

theorem Reads.activate (h : Reads C w) (a : Answers) (seat : String) :
    Reads C (greeterActivate C a seat w) := (greeterOps_reads a).activate C seat h

theorem Reads.freed (h : Reads C w) {a : Answers} {t : ℕ} (hf : Freed C a t w w') :
    Reads C w' := by
  have hcalled := h.calm (calm_calledBack t w)
  cases hf with
  | login c _ => exact (hcalled.calm (calm_sessionDone _ _ _ _ _)).calm (calm_release _ _)
  | lost g _ _ =>
    exact ((hcalled.calm (calm_log _ _)).calm (calm_fault _)).calm (calm_release _ _)
  | restarted g r _ _ _ =>
    have hfailed : Reads C (greeterStartFailed t g (calledBack t w)) :=
      (hcalled.calm (calm_log _ _)).calm (calm_modGreeter _ _ _)
    exact (hfailed.activate a r.seat).calm (calm_release _ _)
  | noTry g r _ _ _ _ =>
    exact (((hcalled.calm (calm_log _ _)).calm (calm_log _ _)).calm (calm_fault _)).calm
      (calm_release _ _)
  | started g r t' _ _ _ _ =>
    have hstarted : Calm (calledBack t w) (greeterStarted t g t' (calledBack t w)) :=
      ⟨.of_eq rfl, fun _ hr _ _ => hr⟩
    exact (hcalled.calm hstarted).calm (calm_release _ _)

theorem Reads.clientData (h : Reads C w) {a : Answers} {c fd : ℕ} (hdoes : ClientData C a c fd w w') :
    Reads C w' := by
  have hgoodbye : ∀ w : World, Calm w (clientGoodbye (.reply c) c w) :=
    fun w => calm_aside (steady_clientGoodbye _ c w).toAside rfl
  induction hdoes with
  | closed _ =>
    exact h.calm (calm_aside ((steady_unregisterFd _ _).trans (steady_clientFree _ _)).toAside rfl)
  | dropped _ => exact h.calm (calm_aside (steady_clientFree _ _).toAside rfl)
  | replied msg _ => exact h.calm (calm_log _ _)
  | activated _ session seat =>
    have hactivate := calm_aside (steady_sessionActivate session w).toAside
      (tries_sessionActivate session w)
    have hreply : Calm w (serverSpawnserviceFeedback (.reply c) false
        (some "Activation is called on this session") fd (sessionActivate session w)) :=
      hactivate.trans (calm_log _ _)
    refine h.calm ((hreply.trans ?_).trans (hgoodbye _))
    exact calm_aside (steady_greeterLockout seat _).toAside (tries_greeterLockout seat _)
  | noLogin => exact h.calm (calm_fault _)
  | noPipe _ => exact h.calm ((calm_modClient _ _ _).trans (calm_log _ _))
  | loginForked _ _ l pid => exact (h.forks _ _).calm (calm_modClient _ _ _)
  | loginFailed _ l noTty _ _ _ =>
    exact (((h.calm (calm_tryFailed noTty _ _)).calm (calm_sessionDone _ _ _ _ _)).calm
      (calm_release _ _)).calm (calm_modClient _ _ _)
  | started _ m _ _ _ => exact (h.activate a _).calm (hgoodbye _)
  | ignored => exact h
  | fallback w' _ ih => exact ih.calm (calm_fault _)

/-- A read whose bytes can be decoded. -/
theorem Reads.readPipe (h : Reads C w) {t : ℕ} {m : SpawnMessage}
    (hmsg : SpawnMessage.unpack C ((w.tryAt t).pipe.take MAX_MSG_SIZE) = some m) :
    Reads C (w.modTry t SpawnTry.readPipe) := by
  intro r hr t' hcb
  obtain ⟨tr, htr, hwhole⟩ := h r hr t' hcb
  refine ⟨_, by rw [World.getElem?_modTry, htr, Option.map_some], ?_⟩
  split_ifs with ht
  · subst ht
    rw [World.tryAt_eq htr] at hmsg
    exact (hwhole.cut hmsg).1
  · exact hwhole

/-- **`_child_data`** for a try that is read at the descriptor `fd`. -/
theorem Reads.childData (h : Reads C w) (hlife : Life none w) {a : Answers} {t fd : ℕ}
    (hready : ⟨some (.childData t), fd⟩ ∈ w.fds.live) (hdoes : ChildData C a t fd w w') :
    Reads C w' := by
  have hset : ∀ (f : SpawnTry → SpawnTry) (w : World),
      (∀ tr, (f tr).done = tr.done ∧ (f tr).pipe = tr.pipe ∧ (f tr).written = tr.written) →
        Calm w (w.modTry t f) := fun f w hf => ⟨kept_modTry hf t w, fun _ hr _ _ => hr⟩
  have hunregister : ∀ (fd : ℕ) (w : World), Calm w (w.unregisterFd fd) :=
    fun fd w => calm_aside (aside_unregisterFd fd w) rfl
  have hquit : ∀ w : World, Calm w (forceQuit t w) :=
    fun w => calm_aside (steady_forceQuit t w).toAside (tries_forceQuit t w)
  cases hdoes with
  | undecodable _ =>
    refine Reads.calm ?_ (hquit _)
    intro r hr t' hcb
    obtain ⟨hr, hne⟩ := FdTable.mem_live_unregisterFd.mp hr
    obtain ⟨tr, htr, hwhole⟩ := h r hr t' hcb
    -- an entry for `t` would have the descriptor that was unregistered
    have ht : t ≠ t' := by
      rintro rfl
      obtain ⟨v, hv, -, hfd⟩ := hlife.read hready rfl
      obtain ⟨v', hv', -, hfd'⟩ := hlife.read hr hcb
      rw [hv] at hv'
      obtain rfl := Option.some.inj hv'
      exact hne (hfd'.symm.trans hfd)
    refine ⟨tr, ?_, hwhole⟩
    show (w.modTry t SpawnTry.readPipe).tries[t']? = some tr
    rw [World.getElem?_modTry, htr, Option.map_some, if_neg ht]
  | connect m hmsg _ => exact h.readPipe hmsg
  | setupDone m hmsg _ session =>
    have hcalm := hset (fun tr => { tr with session := session }) (w.modTry t SpawnTry.readPipe)
      fun _ => ⟨rfl, rfl, rfl⟩
    refine ((h.readPipe hmsg).calm hcalm).calm (Calm.trans ?_
      (calm_aside (steady_sessionActivate session _).toAside (tries_sessionActivate session _)))
    split_ifs
    · exact hquit _
    · exact ⟨.of_eq rfl, fun _ hr _ _ => hr⟩
  | sessionActive m hmsg _ w' hfree =>
    have hcalm := (hunregister (w.tryAt t).readFd (w.modTry t SpawnTry.readPipe)).trans
      (hset (fun tr => { tr with success := .success }) _ fun _ => ⟨rfl, rfl, rfl⟩)
    exact ((h.readPipe hmsg).calm hcalm).freed hfree
  | errorExit m hmsg _ reason _ =>
    have hcalm := (hunregister (w.tryAt t).readFd (w.modTry t SpawnTry.readPipe)).trans
      (hset (fun tr => { tr with errorMsg := some reason }) _ fun _ => ⟨rfl, rfl, rfl⟩)
    exact (h.readPipe hmsg).calm hcalm
  | noReason m hmsg _ _ =>
    exact (h.readPipe hmsg).calm ((hunregister _ _).trans (calm_fault _))

theorem Reads.called (h : Reads C w) {a : Answers} {t : ℕ} {hd : Handler}
    (hcalled : Called C a t w hd w') : Reads C w' := by
  cases hcalled with
  | disappeared t' w' hfree => exact h.freed hfree
  | lost g _ => exact h.calm ((calm_log _ _).trans (calm_fault _))
  | ended g r _ _ => exact h.calm ((calm_log _ _).trans (calm_aside (aside_greeterDel _ _) rfl))
  | restarted g r _ _ =>
    have hreset : Calm w (greeterReset g (w.log (.greeterCb t (some r.seat)))) :=
      (calm_log _ _).trans (calm_modGreeter _ _ _)
    exact (h.calm hreset).activate a r.seat

/-- **The steps keep the invariant.** -/
theorem reads_step (h : Reads C w) (hlife : Life none w) (e : Event) : Reads C (step C w e) := by
  have hdoes := step_does C w e
  generalize step C w e = w' at hdoes
  have hadvance : Calm w (advance w) := ⟨.of_eq rfl, fun _ hr _ _ => hr⟩
  have hset : ∀ (t : ℕ) (f : SpawnTry → SpawnTry),
      (∀ tr, (f tr).done = tr.done ∧ (f tr).pipe = tr.pipe ∧ (f tr).written = tr.written) →
        Calm w (w.modTry t f) := fun t f hf => ⟨kept_modTry hf t w, fun _ hr _ _ => hr⟩
  cases hdoes with
  | idle _ => exact h
  | select readable error _ _ =>
    exact h.calm ⟨.of_eq rfl, fun r hr _ _ =>
      FdTable.live_selectReturns_subset readable error w.fds r hr⟩
  | endPass _ _ =>
    exact h.calm ⟨.of_eq rfl, fun _ hr _ _ => by rwa [FdTable.live_endPass] at hr⟩
  | pass _ _ => exact h.calm hadvance
  | accept a _ =>
    exact (h.calm hadvance).calm (calm_aside (steady_acceptReady a _).toAside (tries_acceptReady a _))
  | client a c fd w' _ _ hdoes _ => exact (h.calm hadvance).clientData hdoes
  | child a t fd w' _ hready hdoes _ =>
    exact (h.calm hadvance).childData (hlife.aside (steady_advance w).toAside)
      (ready_mem_live (w := w) hready) hdoes
  | sigchld _ => exact h.calm ⟨.of_eq rfl, fun _ hr _ _ => hr⟩
  | reap t tr _ _ _ _ _ =>
    refine h.calm ((hset t (fun tr => { tr with exited := true, reaped := true }) ?_).trans ?_)
    · exact fun _ => ⟨rfl, rfl, rfl⟩
    · exact ⟨.of_eq rfl, fun _ hr _ _ => hr⟩
  | scanEnd _ _ _ _ _ => exact h.calm ⟨.of_eq rfl, fun _ hr _ _ => hr⟩
  | scanPass _ _ _ _ _ _ _ => exact h.calm ⟨.of_eq rfl, fun _ hr _ _ => hr⟩
  | scanZeroed _ _ _ _ _ _ _ => exact h.calm ⟨.of_eq rfl, fun _ hr _ _ => hr⟩
  | visit a t i pid hd w' _ _ _ hcalled =>
    exact (h.called hcalled).calm ⟨.of_eq rfl, fun _ hr _ _ => hr⟩
  | sigchldReturn _ => exact h.calm ⟨.of_eq rfl, fun _ hr _ _ => hr⟩
  | childWrite t m _ =>
    intro r hr t' hcb
    obtain ⟨tr, htr, hwhole⟩ := h r hr t' hcb
    refine ⟨_, by rw [World.getElem?_modTry, htr, Option.map_some], ?_⟩
    split_ifs
    · exact hwhole.write m
    · exact hwhole
  | childHangUp t _ =>
    exact h.calm (hset t (fun tr => { tr with hungUp := true }) fun _ => ⟨rfl, rfl, rfl⟩)
  | childExit t _ =>
    exact h.calm (hset t (fun tr => { tr with exited := true }) fun _ => ⟨rfl, rfl, rfl⟩)

theorem reads_start (debug : Bool) (templates : List Template) :
    Reads C (World.start debug templates) := by
  intro r hr t hcb
  rw [List.mem_singleton.mp (FdTable.mem_live.mp hr).1] at hcb
  cases hcb

/-- **What is read as `SESSION_ACTIVE` was written as one.** -/
theorem Reads.active (h : Reads C w) {t fd : ℕ} (hread : ⟨some (.childData t), fd⟩ ∈ w.fds.live)
    {m : SpawnMessage}
    (hmsg : SpawnMessage.unpack C ((w.tryAt t).pipe.take MAX_MSG_SIZE) = some m)
    (htype : m.type = .sessionActive) : Outcomes.active ∈ (w.tryAt t).written := by
  obtain ⟨tr, htr, hwhole⟩ := h _ hread t rfl
  rw [World.tryAt_eq htr] at hmsg ⊢
  exact (hwhole.cut hmsg).2 htype

end Spawny.Daemon.Pipes
