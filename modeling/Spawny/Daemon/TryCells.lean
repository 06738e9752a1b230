import Spawny.Daemon.TryViews

/-! # Properties of single tries

A property of the cell of a try holds of all tries in every state if it holds of new tries and
survives the assignments that the daemon and the children make to a cell.

* `CellOpsAt`: these assignments; `CellOpsAt.step`: **the induction rule for the steps**;
* `CellOps`: the same for a property that does not depend on the number of the try;
* `undecided_step`: a try has no success before its callback is called. -/

namespace Spawny.Daemon.TryCells

open Spawny.Lib.Wire Spawny.Lib.Descriptors Spawny.Protocol.Messages
open Spawny.Daemon.SessionMgt Spawny.Daemon.State Spawny.Daemon.SpawnService
open Spawny.Daemon.GreeterTable Spawny.Daemon.Client Spawny.Daemon.Greeter Spawny.Daemon.Activations
open Spawny.Daemon.Server Spawny.Daemon.Loop Spawny.Daemon.Steps Spawny.Daemon.TryViews

variable {C : FieldCode SpawnField} {P : SpawnTry → Prop} {Q : ℕ → SpawnTry → Prop}

/-! ### What leaves the tries alone -/

theorem tries_greeterLockout (seat : Option String) (w : World) :
    (greeterLockout seat w).tries = w.tries := by
  unfold greeterLockout
  cases seat with
  | none =>
    dsimp only
    split_ifs <;> rfl
  | some s =>
    dsimp only
    cases greeterSearch s w <;> rfl

theorem tries_clientGoodbye (why : Sender) (c : ℕ) (w : World) :
    (clientGoodbye why c w).tries = w.tries := rfl

theorem tries_sessionDone (a : Answers) (t c : ℕ) (result : SpawnServiceEnd) (w : World) :
    (sessionDone a t c result w).tries = w.tries := by
  have hfault : (if (w.clientAt c).freed then w.fault else w).tries = w.tries := by
    split_ifs <;> rfl
  unfold sessionDone
  dsimp only
  generalize (if (w.clientAt c).freed then w.fault else w) = w' at hfault ⊢
  cases result.success with
  | error => exact hfault
  | success =>
    have hlockout := tries_greeterLockout (seatGet a.sd (w'.clientAt c).pid) w'
    exact (tries_clientGoodbye _ _ _).trans (hlockout.trans hfault)

theorem tries_forceQuit (t : ℕ) (w : World) : (forceQuit t w).tries = w.tries := by
  unfold forceQuit
  split_ifs <;> rfl

theorem tries_sessionActivate (session : Option String) (w : World) :
    (sessionActivate session w).tries = w.tries := by
  cases session <;> rfl

theorem tries_acceptReady (a : Answers) (w : World) : (acceptReady a w).tries = w.tries := by
  unfold acceptReady
  cases a.peer <;> rfl

/-! ### The rule -/

/-- All tries have the property. -/
def Cells (P : SpawnTry → Prop) (w : World) : Prop :=
  ∀ (t : ℕ) (tr : SpawnTry), w.tries[t]? = some tr → P tr

variable (C P) in
/-- What `P` has to survive to hold of all tries. -/
structure CellOps : Prop where
  new : ∀ (req : SpawnRequest) (readFd writeFd pid : ℕ),
    P { newTry req readFd writeFd with childPid := pid, pid := pid }
  failed : ∀ (noTty : Bool) (req : SpawnRequest) (readFd writeFd : ℕ),
    P (failedTry C noTty (newTry req readFd writeFd))
  read : ∀ {tr}, P tr → P (SpawnTry.readPipe tr)
  session : ∀ {tr} (session : Option String), P tr → P { tr with session := session }
  errorMsg : ∀ {tr} (reason : String), P tr → P { tr with errorMsg := some reason }
  called : ∀ {tr}, P tr → P { tr with doneCalled := true }
  /-- the callback is called after `success` was set -/
  succeeded : ∀ {tr}, P tr → P { tr with success := .success, doneCalled := true }
  released : ∀ {tr}, P tr → P { tr with pid := -1, freed := true }
  reaped : ∀ {tr}, P tr → P { tr with exited := true, reaped := true }
  written : ∀ {tr} (m : ServiceMessage), P tr → P (SpawnTry.writePipe C m.message tr)
  hungUp : ∀ {tr}, P tr → P { tr with hungUp := true }
  exited : ∀ {tr}, P tr → P { tr with exited := true }

/-- All tries have the property; it may depend on the number of the try. -/
def CellsAt (Q : ℕ → SpawnTry → Prop) (w : World) : Prop :=
  ∀ (t : ℕ) (tr : SpawnTry), w.tries[t]? = some tr → Q t tr

variable (C Q) in
/-- What `Q` has to survive, besides what the child writes. -/
structure CellOpsAt : Prop where
  new : ∀ (t : ℕ) (req : SpawnRequest) (readFd writeFd pid : ℕ),
    Q t { newTry req readFd writeFd with childPid := pid, pid := pid }
  failed : ∀ (t : ℕ) (noTty : Bool) (req : SpawnRequest) (readFd writeFd : ℕ),
    Q t (failedTry C noTty (newTry req readFd writeFd))
  read : ∀ {t tr}, Q t tr → Q t (SpawnTry.readPipe tr)
  session : ∀ {t tr} (session : Option String), Q t tr → Q t { tr with session := session }
  errorMsg : ∀ {t tr} (reason : String), Q t tr → Q t { tr with errorMsg := some reason }
  called : ∀ {t tr}, Q t tr → Q t { tr with doneCalled := true }
  succeeded : ∀ {t tr}, Q t tr → Q t { tr with success := .success, doneCalled := true }
  released : ∀ {t tr}, Q t tr → Q t { tr with pid := -1, freed := true }
  reaped : ∀ {t tr}, Q t tr → Q t { tr with exited := true, reaped := true }
  hungUp : ∀ {t tr}, Q t tr → Q t { tr with hungUp := true }
  exited : ∀ {t tr}, Q t tr → Q t { tr with exited := true }

theorem CellsAt.congr {w w' : World} (h : CellsAt Q w) (htries : w'.tries = w.tries) :
    CellsAt Q w' := by
  intro t tr ht
  rw [htries] at ht
  exact h t tr ht

theorem CellsAt.modTry {w : World} (h : CellsAt Q w) {f : SpawnTry → SpawnTry} {t : ℕ}
    (hf : ∀ {tr}, Q t tr → Q t (f tr)) : CellsAt Q (w.modTry t f) := by
  intro t' tr' ht'
  rw [World.getElem?_modTry] at ht'
  obtain ⟨tr, htr, rfl⟩ := Option.map_eq_some_iff.mp ht'
  split_ifs with heq
  · subst heq
    exact hf (h t tr htr)
  · exact h t' tr htr

namespace CellOpsAt

theorem forks (hQ : CellOpsAt C Q) {w : World} (h : CellsAt Q w) (req : SpawnRequest) (pid : ℕ) :
    CellsAt Q (childForked w.tries.length pid (openTry req w)) := by
  intro t tr ht
  rw [getElem?_childForked, getElem?_openTry] at ht
  obtain ⟨tr₀, htr₀, rfl⟩ := Option.map_eq_some_iff.mp ht
  by_cases heq : t = w.tries.length
  · rw [if_pos heq] at htr₀
    rw [if_pos heq.symm, ← Option.some.inj htr₀]
    exact hQ.new t req _ _ pid
  · rw [if_neg heq] at htr₀
    rw [if_neg (Ne.symm heq)]
    exact h t tr₀ htr₀

theorem fails (hQ : CellOpsAt C Q) {w : World} (h : CellsAt Q w) (noTty : Bool) (req : SpawnRequest) :
    CellsAt Q (tryFailed C noTty req w) := by
  intro t tr ht
  rw [getElem?_tryFailed] at ht
  split_ifs at ht
  · rw [← Option.some.inj ht]
    exact hQ.failed t noTty req _ _
  · exact h t tr ht

theorem releases (hQ : CellOpsAt C Q) {w : World} (h : CellsAt Q w) (t : ℕ) :
    CellsAt Q (release t w) := by
  have hunlisten : CellsAt Q (w.unlisten (w.tryAt t).pid (.spawnedSessionDisappear t)) := h.congr rfl
  exact hunlisten.modTry (f := fun tr => { tr with pid := -1, freed := true }) hQ.released

theorem greeterOps (hQ : CellOpsAt C Q) (a : Answers) : GreeterOps C a (CellsAt Q) where
  session _ h := h.congr rfl
  add _ h := h.congr rfl
  noPipe _ _ h := h.congr rfl
  forked {w g r} pid _ _ h :=
    (hQ.forks h (greeterRequest g r.seat) ((openTry (greeterRequest g r.seat) w).freePid pid)).congr
      (World.modGreeter_tries _ _ _)
  failed noTty _ _ _ _ _ h := (hQ.fails h noTty _).congr rfl
  returned _ _ _ _ _ h := (hQ.releases h _).congr (World.modGreeter_tries _ _ _)

theorem activate (hQ : CellOpsAt C Q) {w : World} (h : CellsAt Q w) (a : Answers) (seat : String) :
    CellsAt Q (greeterActivate C a seat w) := (hQ.greeterOps a).activate C seat h

/-- The callback of a try, and the release after it. -/
theorem freed (hQ : CellOpsAt C Q) {a : Answers} {t : ℕ} {w w' : World}
    (h : CellsAt Q (calledBack t w)) (hf : Freed C a t w w') : CellsAt Q w' := by
  cases hf with
  | login c _ => exact hQ.releases (h.congr (tries_sessionDone _ _ _ _ _)) t
  | lost g _ _ => exact hQ.releases (h.congr rfl) t
  | restarted g r _ _ _ =>
    have hfailed : CellsAt Q (greeterStartFailed t g (calledBack t w)) := h.congr rfl
    exact hQ.releases (hQ.activate hfailed a r.seat) t
  | noTry g r _ _ _ _ => exact hQ.releases (h.congr rfl) t
  | started g r t' _ _ _ _ => exact hQ.releases (h.congr rfl) t

theorem calls (hQ : CellOpsAt C Q) {w : World} (h : CellsAt Q w) (t : ℕ) :
    CellsAt Q (calledBack t w) := by
  have hclosed : CellsAt Q (closeRead t w) := h.congr (by simp [closeRead])
  exact (hclosed.modTry (f := fun tr => { tr with doneCalled := true }) hQ.called).congr rfl

theorem clientData (hQ : CellOpsAt C Q) {a : Answers} {c fd : ℕ} {w w' : World} (h : CellsAt Q w)
    (hdoes : ClientData C a c fd w w') : CellsAt Q w' := by
  induction hdoes with
  | closed _ => exact h.congr rfl
  | dropped _ => exact h.congr rfl
  | replied msg => exact h.congr rfl
  | activated _ session seat =>
    refine h.congr ((tries_clientGoodbye _ _ _).trans ((tries_greeterLockout _ _).trans ?_))
    exact tries_sessionActivate session w
  | noLogin => exact h.congr rfl
  | noPipe _ => exact h.congr rfl
  | loginForked _ _ l pid => exact (hQ.forks h _ _).congr (World.modClient_tries _ _ _)
  | loginFailed _ l noTty _ _ _ =>
    have hfailed := (hQ.fails h noTty (loginRequest a c fd l w)).congr
      (tries_sessionDone a w.tries.length c ⟨.error, none⟩ _)
    exact (hQ.releases hfailed _).congr (World.modClient_tries _ _ _)
  | started _ m _ _ _ => exact (hQ.activate h a _).congr (tries_clientGoodbye _ _ _)
  | ignored => exact h
  | fallback w' _ ih => exact ih.congr rfl

/-- `success` is set, and the callback is called. -/
theorem succeeds (hQ : CellOpsAt C Q) {w : World} (h : CellsAt Q w) (t : ℕ) :
    CellsAt Q (calledBack t (w.modTry t fun tr => { tr with success := .success })) := by
  have hset : (calledBack t (w.modTry t fun tr => { tr with success := .success })).tries =
      ((w.modTry t fun tr => { tr with success := .success }).modTry t
        fun tr => { tr with doneCalled := true }).tries := by simp [calledBack, closeRead]
  refine CellsAt.congr (fun t' tr' ht' => ?_) hset
  rw [World.getElem?_modTry, World.getElem?_modTry, Option.map_map] at ht'
  obtain ⟨tr, htr, rfl⟩ := Option.map_eq_some_iff.mp ht'
  dsimp only [Function.comp_apply]
  have hnew := hQ.succeeded (h t' tr htr)
  split_ifs
  · exact hnew
  · exact h t' tr htr

theorem childData (hQ : CellOpsAt C Q) {a : Answers} {t fd : ℕ} {w w' : World} (h : CellsAt Q w)
    (hdoes : ChildData C a t fd w w') : CellsAt Q w' := by
  have hread : CellsAt Q (w.modTry t SpawnTry.readPipe) := h.modTry hQ.read
  cases hdoes with
  | undecodable _ => exact (hread.congr rfl).congr (tries_forceQuit t _)
  | connect _ _ _ => exact hread
  | setupDone _ _ _ session =>
    refine CellsAt.congr ?_ (tries_sessionActivate session _)
    have hset : CellsAt Q ((w.modTry t SpawnTry.readPipe).modTry t
        fun tr => { tr with session := session }) := hread.modTry (hQ.session session)
    split_ifs
    · exact hset.congr (tries_forceQuit t _)
    · exact hset
  | sessionActive _ _ _ w' hfree =>
    have hunreg : CellsAt Q ((w.modTry t SpawnTry.readPipe).unregisterFd (w.tryAt t).readFd) :=
      hread.congr rfl
    exact hQ.freed (hQ.succeeds hunreg t) hfree
  | errorExit _ _ _ reason _ =>
    have hunreg : CellsAt Q ((w.modTry t SpawnTry.readPipe).unregisterFd (w.tryAt t).readFd) :=
      hread.congr rfl
    exact hunreg.modTry (f := fun tr => { tr with errorMsg := some reason }) (hQ.errorMsg reason)
  | noReason _ _ _ _ => exact hread.congr rfl

theorem handler (hQ : CellOpsAt C Q) {a : Answers} {t : ℕ} {hd : Handler} {w w' : World}
    (h : CellsAt Q w) (hcalled : Called C a t w hd w') : CellsAt Q w' := by
  cases hcalled with
  | disappeared t' w' hfree => exact hQ.freed (hQ.calls h t') hfree
  | lost g _ => exact h.congr rfl
  | ended g r _ _ => exact h.congr rfl
  | restarted g r _ _ =>
    have hreset : CellsAt Q (greeterReset g (w.log (.greeterCb t (some r.seat)))) := h.congr rfl
    exact hQ.activate hreset a r.seat

/-- **What survives the assignments holds of all tries after every step**, if what the step writes to a
pipe keeps it. -/
theorem step (hQ : CellOpsAt C Q) {w : World} (h : CellsAt Q w) (e : Event)
    (hwrite : ∀ t m {tr}, e = .childWrite t m → Q t tr → Q t (SpawnTry.writePipe C m.message tr)) :
    CellsAt Q (step C w e) := by
  have hdoes := step_does C w e
  generalize Loop.step C w e = w' at hdoes
  have hadvance : CellsAt Q (advance w) := h.congr rfl
  cases hdoes with
  | idle _ => exact h
  | select _ _ _ _ => exact h.congr rfl
  | endPass _ _ => exact h.congr rfl
  | pass _ _ => exact hadvance
  | accept a _ => exact hadvance.congr (tries_acceptReady a _)
  | client a c fd w' _ _ hdoes => exact hQ.clientData hadvance hdoes
  | child a t fd w' _ _ hdoes => exact hQ.childData hadvance hdoes
  | sigchld _ => exact h.congr rfl
  | reap t tr _ _ _ _ _ =>
    exact (h.modTry (f := fun tr => { tr with exited := true, reaped := true }) hQ.reaped).congr rfl
  | scanEnd _ _ _ _ _ => exact h.congr rfl
  | scanPass _ _ _ _ _ _ _ => exact h.congr rfl
  | scanZeroed _ _ _ _ _ _ _ => exact h.congr rfl
  | visit a t i pid hd w' _ _ _ hcalled => exact (hQ.handler h hcalled).congr rfl
  | sigchldReturn _ => exact h.congr rfl
  | childWrite t m _ => exact h.modTry fun htr => hwrite t m rfl htr
  | childHangUp t _ => exact h.modTry (f := fun tr => { tr with hungUp := true }) hQ.hungUp
  | childExit t _ => exact h.modTry (f := fun tr => { tr with exited := true }) hQ.exited

end CellOpsAt

theorem CellOps.at (hP : CellOps C P) : CellOpsAt C fun _ => P where
  new _ := hP.new
  failed _ := hP.failed
  read h := hP.read h
  session s h := hP.session s h
  errorMsg r h := hP.errorMsg r h
  called h := hP.called h
  succeeded h := hP.succeeded h
  released h := hP.released h
  reaped h := hP.reaped h
  hungUp h := hP.hungUp h
  exited h := hP.exited h

theorem CellOps.step (hP : CellOps C P) {w : World} (h : Cells P w) (e : Event) :
    Cells P (step C w e) := hP.at.step h e fun _ m _ _ htr => hP.written m htr

/-! ### Success -/

/-- A try whose callback is still to come has no success. -/
def Undecided (tr : SpawnTry) : Prop := tr.doneCalled = false → tr.success = .error

theorem cellOps_undecided : CellOps C Undecided where
  new _ _ _ _ _ := rfl
  failed _ _ _ _ hdone := by cases hdone
  read h := h
  session _ h := h
  errorMsg _ h := h
  called _ hdone := by cases hdone
  succeeded _ hdone := by cases hdone
  released h := h
  reaped h := h
  written _ h := h
  hungUp h := h
  exited h := h

theorem undecided_step {w : World} (h : Cells Undecided w) (e : Event) :
    Cells Undecided (step C w e) := cellOps_undecided.step h e

theorem undecided_start (debug : Bool) (templates : List Template) :
    Cells Undecided (World.start debug templates) := by
  intro t tr ht
  simp [World.start] at ht

/-- **The child of a try in flight disappears**: its callback gets an error. -/
theorem Cells.undecided {w : World} (h : Cells Undecided w) {t : ℕ} {v : TryView}
    (hv : view w t = some v) (hdone : v.doneCalled = false) : (w.tryAt t).success = .error := by
  obtain ⟨tr, htr, rfl⟩ := view_eq_some.mp hv
  rw [World.tryAt_eq htr]
  exact h t tr htr hdone

end Spawny.Daemon.TryCells
