import Spawny.Daemon.TryViews

/-! # What the callbacks do to tries

A callback makes a try whose child is forked or that fails at once, calls the done callback of a try,
releases it, or adds a listener for a greeter; all else that it does is aside. What survives these
operations survives every callback. The index of an invariant is the try that is being freed.

* `TryOps.activate`, `TryOps.freed`, `TryOps.clientData`, `TryOps.childData`, `TryOps.called`: **the
  induction rules for the callbacks**. -/

namespace Spawny.Daemon.TryRule

open Spawny.Lib.Wire Spawny.Protocol.Messages
open Spawny.Daemon.SessionMgt Spawny.Daemon.State Spawny.Daemon.SpawnService
open Spawny.Daemon.GreeterTable Spawny.Daemon.Client Spawny.Daemon.Greeter Spawny.Daemon.Activations
open Spawny.Daemon.Server Spawny.Daemon.Loop Spawny.Daemon.Steps Spawny.Daemon.TryViews

variable {C : FieldCode SpawnField} {I : Option ℕ → World → Prop}

variable (C I) in
/-- What `I` has to survive to survive every callback. -/
structure TryOps : Prop where
  aside : ∀ {x : Option ℕ} {w w' : World}, I x w → Aside w w' → I x w'
  forks : ∀ {x : Option ℕ} {w : World} (req : SpawnRequest) (pid : ℕ), I x w →
    I x (childForked w.tries.length ((openTry req w).freePid pid) (openTry req w))
  fails : ∀ {x : Option ℕ} {w : World} (noTty : Bool) (req : SpawnRequest), I x w →
    I x (tryFailed C noTty req w)
  calls : ∀ {w : World} {t : ℕ} {v : TryView}, view w t = some v → v.doneCalled = false →
    I none w → I (some t) (calledBack t w)
  releases : ∀ {x x' : Option ℕ} {w : World} {t : ℕ} {v : TryView}, view w t = some v →
    v.doneCalled = true → (∀ t', x = some t' → t' ≠ t → x' = some t') → I x w → I x' (release t w)
  listens : ∀ {x : Option ℕ} {w : World} (pid : ℤ) (g : ℕ), I x w →
    I x (w.listen pid (.greeterDone g))

theorem view_length (w : World) : view w w.tries.length = none := by
  rw [view, List.getElem?_eq_none (Nat.le_refl _), Option.map_none]

theorem view_of_frame {w w' : World} (h : Frame w w') {t : ℕ} {v : TryView}
    (hv : view w t = some v) : view w' t = some v := by
  obtain ⟨tr, htr, rfl⟩ := view_eq_some.mp hv
  exact view_of_get (h.tries htr)

/-- The view of a try whose callback is called. -/
theorem view_calledBack_self {w : World} {t : ℕ} {v : TryView} (hv : view w t = some v) :
    view (calledBack t w) t = some { v with doneCalled := true } := by
  rw [view_calledBack, if_pos rfl, hv, Option.map_some]

namespace TryOps

theorem greeterOps (h : TryOps C I) (a : Answers) (x : Option ℕ) : GreeterOps C a (I x) where
  session _ hI := h.aside hI (aside_log rfl _)
  add _ hI := h.aside hI (aside_greeterAdd _ _)
  noPipe _ _ hI := h.aside hI (aside_modGreeter _ _ _)
  forked pid _ _ hI := h.aside (h.forks _ pid hI) (aside_modGreeter _ _ _)
  failed noTty _ _ _ _ _ hI :=
    h.aside (h.aside (h.fails noTty _ hI) (aside_log rfl _)) (aside_modGreeter _ _ _)
  returned ht hdone _ _ _ hI :=
    h.aside (h.releases (view_of_get ht) hdone (fun _ hx _ => hx) hI) (aside_modGreeter _ _ _)

theorem activate (h : TryOps C I) {x : Option ℕ} {w : World} (hI : I x w) (a : Answers)
    (seat : String) : I x (greeterActivate C a seat w) := (h.greeterOps a x).activate C seat hI

/-- The done callback of a try keeps the view of the try, and the try is released after it. -/
theorem callback (h : TryOps C I) {a : Answers} {t : ℕ} {w w' : World} (hf : Freed C a t w w')
    {x : Option ℕ} (hI : I x (calledBack t w)) : ∃ w₁, w' = release t w₁ ∧ I x w₁ ∧
      ∀ v, view (calledBack t w) t = some v → view w₁ t = some v := by
  have haside : ∀ {w₁ : World}, Aside (calledBack t w) w₁ → I x w₁ ∧
      ∀ v, view (calledBack t w) t = some v → view w₁ t = some v :=
    fun ha => ⟨h.aside hI ha, fun v hv => by rw [ha.views, hv]⟩
  cases hf with
  | login c _ => exact ⟨_, rfl, haside (steady_sessionDone _ _ _ _ _).toAside⟩
  | lost g _ _ => exact ⟨_, rfl, haside ((aside_log rfl _).trans (aside_fault _))⟩
  | restarted g r _ _ _ =>
    have hfailed : Aside (calledBack t w) (greeterStartFailed t g (calledBack t w)) :=
      (aside_log rfl _).trans (aside_modGreeter _ _ _)
    obtain ⟨hI', hview⟩ := haside hfailed
    refine ⟨_, rfl, h.activate hI' a r.seat, fun v hv => ?_⟩
    exact view_of_frame (frame_greeterActivate C a r.seat _) (hview v hv)
  | noTry g r _ _ _ _ =>
    exact ⟨_, rfl, haside (((aside_log rfl _).trans (aside_log rfl _)).trans (aside_fault _))⟩
  | started g r t' _ _ _ _ =>
    have hstarted : Aside (calledBack t w) ((((calledBack t w).log (.greeterCb t
        (seatAt (calledBack t w) g))).log (.startDone t (some t'))).modGreeter g
          fun r => { r with runTry := none, runPid := ((calledBack t w).tryAt t').pid }) :=
      ((aside_log rfl _).trans (aside_log rfl _)).trans (aside_modGreeter _ _ _)
    obtain ⟨hI', hview⟩ := haside hstarted
    exact ⟨_, rfl, h.listens _ _ hI', hview⟩

/-- **Freeing a try** whose callback is still to come. -/
theorem freed (h : TryOps C I) {a : Answers} {w w' : World} (hI : I none w) {t : ℕ} {v : TryView}
    (hv : view w t = some v) (hdone : v.doneCalled = false) (hf : Freed C a t w w') :
    I none w' := by
  obtain ⟨w₁, rfl, hI₁, hview⟩ := h.callback hf (h.calls hv hdone hI)
  refine h.releases (hview _ (view_calledBack_self hv)) rfl ?_ hI₁
  exact fun t' ht' hne => absurd (Option.some.inj ht').symm hne

theorem clientData (h : TryOps C I) {a : Answers} {c fd : ℕ} {w w' : World} (hI : I none w)
    (hdoes : ClientData C a c fd w w') : I none w' := by
  induction hdoes with
  | closed _ =>
    exact h.aside hI ((steady_unregisterFd _ _).trans (steady_clientFree _ _)).toAside
  | dropped _ => exact h.aside hI (steady_clientFree _ _).toAside
  | replied msg => exact h.aside hI (aside_log rfl _)
  | activated _ session seat =>
    exact h.aside hI (((steady_sessionActivate _ _).trans (steady_sendMessage _ _ _ _ _ _)).trans
      ((steady_greeterLockout _ _).trans (steady_clientGoodbye _ _ _))).toAside
  | noLogin => exact h.aside hI (aside_fault _)
  | noPipe _ =>
    exact h.aside hI ((steady_modClient _ _ _).trans (steady_sendMessage _ _ _ _ _ _)).toAside
  | loginForked _ _ l pid => exact h.aside (h.forks _ pid hI) (aside_modClient _ _ _)
  | loginFailed _ l noTty _ _ _ =>
    set req := loginRequest a c fd l w
    have hdone := (steady_sessionDone a w.tries.length c ⟨.error, none⟩
      (tryFailed C noTty req w)).toAside
    have hview : view (sessionDone a w.tries.length c ⟨.error, none⟩ (tryFailed C noTty req w))
        w.tries.length = some (failedView req w) := by
      rw [hdone.views, view_tryFailed, if_pos rfl]
    have hfailed := h.aside (h.fails noTty req hI) hdone
    exact h.aside (h.releases hview rfl (fun _ hx _ => hx) hfailed) (aside_modClient _ _ _)
  | started _ m _ _ _ => exact h.aside (h.activate hI a _) (steady_clientGoodbye _ _ _).toAside
  | ignored => exact hI
  | fallback w' _ ih => exact h.aside ih (aside_fault _)

theorem childData (h : TryOps C I) {a : Answers} {t fd : ℕ} {w w' : World} (hI : I none w)
    {v : TryView} (hv : view w t = some v) (hdone : v.doneCalled = false)
    (hdoes : ChildData C a t fd w w') : I none w' := by
  rcases steady_childData hdoes with hs | hfree
  · exact h.aside hI hs.toAside
  · have hset := (steady_setSuccess t w).toAside
    exact h.freed (h.aside hI hset) (by rw [hset.views, hv]) hdone hfree

/-- The handler of a listener: the callback of a try that disappears is still to come. -/
theorem called (h : TryOps C I) {a : Answers} {t : ℕ} {hd : Handler} {w w' : World}
    (hI : I none w) (hpending : ∀ t', hd = .spawnedSessionDisappear t' →
      ∃ v, view w t' = some v ∧ v.doneCalled = false)
    (hcalled : Called C a t w hd w') : I none w' := by
  cases hcalled with
  | disappeared t' w' hfree =>
    obtain ⟨v, hv, hdone⟩ := hpending t' rfl
    exact h.freed hI hv hdone hfree
  | lost g _ => exact h.aside hI ((aside_log rfl _).trans (aside_fault _))
  | ended g r _ _ => exact h.aside hI ((aside_log rfl _).trans (aside_greeterDel _ _))
  | restarted g r _ _ =>
    exact h.activate (h.aside hI ((aside_log rfl _).trans (aside_modGreeter _ _ _))) a r.seat

end TryOps

/-- A try that was freed has ended. -/
theorem done_of_freed {a : Answers} {t : ℕ} {w w' : World} {v : TryView} (hv : view w t = some v)
    (hf : Freed C a t w w') : ∀ v', view w' t = some v' → v'.doneCalled = true := by
  have hops : TryOps C fun _ _ => True := by constructor <;> intros <;> trivial
  obtain ⟨w₁, rfl, -, hview⟩ := hops.callback (x := none) hf trivial
  intro v' hv'
  rw [view_release, if_pos rfl, hview _ (view_calledBack_self hv), Option.map_some] at hv'
  exact Option.some.inj hv' ▸ rfl

end Spawny.Daemon.TryRule
