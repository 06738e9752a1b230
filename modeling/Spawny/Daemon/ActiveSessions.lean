import Mathlib.Logic.Function.Basic
import Spawny.Daemon.LockoutCalls

/-! # When a login is reported as successful

The child of a try tells the daemon that its session is active when `wait_session_active` returns.
`Sessions` couples the daemon with these loops: a child asks logind once a second, and writes
`SESSION_ACTIVE` only after the loop. The loop ends with the first answer that is not zero.

* `Positive`: what each report of a success should stand for;
* `sound_step`: every step keeps the invariant if no child that waits gets a negative answer;
* `reports_active`: **a success is only reported for an active session**, in such runs;
* `error_reported`: an error of logind that is reported as a success. -/

namespace Spawny.Daemon.ActiveSessions

open Spawny.Lib.Wire Spawny.Lib.Descriptors Spawny.Lib.Runs Spawny.Protocol Spawny.Protocol.Messages
open Spawny.Daemon.Manager Spawny.Daemon.SpawnRegistry
open Spawny.Daemon.SessionMgt Spawny.Daemon.State Spawny.Daemon.SpawnService
open Spawny.Daemon.GreeterTable Spawny.Daemon.Client Spawny.Daemon.Greeter Spawny.Daemon.Activations
open Spawny.Daemon.Server Spawny.Daemon.SafeCalls Spawny.Daemon.Loop Spawny.Daemon.Steps
open Spawny.Daemon.TryViews Spawny.Daemon.TryLife Spawny.Daemon.TryCells Spawny.Daemon.Outcomes
open Spawny.Daemon.Pipes Spawny.Daemon.Replies Spawny.Daemon.TrueAnswers Spawny.Daemon.LockoutCalls

variable {C : FieldCode SpawnField}

/-! ### The children that wait -/

/-- `wait_session_active`, for the answers of `sd_session_is_active`: the one it returns after. -/
def waitSessionActive (answers : List ℤ) : Option ℤ := answers.find? fun answer => answer ≠ 0

/-- The daemon, what logind has answered to the child of each try, and the calls of `greeter_lockout`
so far. -/
structure Sessions where
  world : World
  answers : ℕ → List ℤ
  calls : List LockoutCall

/-- logind answers the child of a try; or a step of the daemon or of its environment. -/
inductive SessionsEvent
  | answer (spawnTry : ℕ) (answer : ℤ)
  | world (e : Event)

/-- The child of the try `t` is in `wait_session_active`: it has told that its setup is done, and the
loop goes on. -/
def Sessions.waits (s : Sessions) (t : ℕ) : Bool :=
  SpawnTry.running (s.world.tryAt t) &&
    decide (ServiceMessage.setupDone.message ∈ (s.world.tryAt t).written) &&
      (waitSessionActive (s.answers t)).isNone

/-- A child writes `SESSION_ACTIVE` after the loop. -/
def Sessions.admits (s : Sessions) : Event → Bool
  | .childWrite t .sessionActive => (waitSessionActive (s.answers t)).isSome
  | _ => true

def Sessions.step (C : FieldCode SpawnField) (s : Sessions) : SessionsEvent → Sessions
  | .answer t answer =>
    if s.waits t then { s with answers := Function.update s.answers t (s.answers t ++ [answer]) }
    else s
  | .world e =>
    if s.admits e then
      { s with
        world := Loop.step C s.world e
        calls := s.calls ++ (lockoutCall C s.world e).toList }
    else s

def Sessions.start (debug : Bool) (templates : List Template) : Sessions :=
  ⟨World.start debug templates, fun _ => [], []⟩

/-! ### Reports of success -/

/-- logind has reported the session of the child as active. -/
def Sessions.Positive (s : Sessions) (t : ℕ) : Prop := ∃ answer ∈ s.answers t, 0 < answer

/-- **A success is only reported for an active session**: by the child, to the done callback, to the
client of a login, and by locking out its greeter; and a greeter is only locked out by a call. -/
structure OnlyActive (s : Sessions) : Prop where
  written : ∀ t, active ∈ (s.world.tryAt t).written → s.Positive t
  done : ∀ t message, .done t ⟨.success, message⟩ ∈ s.world.trace → s.Positive t
  feedback : ∀ t, Succeeds (.sessionDone t) s.world.trace → s.Positive t
  lockout : ∀ call t, call ∈ s.calls → call.login = some t → s.Positive t
  called : ∀ seat, .lockout seat ∈ s.world.trace → ∃ call ∈ s.calls, call.seat = some seat

/-- A child that waits does not get a negative answer. -/
def NoError (s : Sessions) : SessionsEvent → Prop
  | .answer t answer => s.waits t = true → 0 ≤ answer
  | .world _ => True

instance (s : Sessions) (e : SessionsEvent) : Decidable (NoError s e) :=
  match e with
  | .answer t answer => inferInstanceAs (Decidable (s.waits t = true → 0 ≤ answer))
  | .world _ => isTrue trivial

/-- The invariant: a loop that has ended has had a positive answer, and a child that has told of its
session has left the loop. -/
structure Sound (C : FieldCode SpawnField) (s : Sessions) : Prop extends OnlyActive s where
  life : Life none s.world
  cells : Cells Undecided s.world
  reads : Reads C s.world
  loop : ∀ t, waitSessionActive (s.answers t) ≠ none → s.Positive t
  wrote : CellsAt (fun t tr => active ∈ tr.written → waitSessionActive (s.answers t) ≠ none) s.world

/-! ### What a step reports -/

/-- What is recorded of a success is for the try whose `SESSION_ACTIVE` the step reads. -/
structure Reports (C : FieldCode SpawnField) (w : World) (e : Event) (o : Obs) : Prop where
  done : ∀ t message, o = .done t ⟨.success, message⟩ → activeRead C w e = some t
  feedback : ∀ t dest fb, o = .sent (.sessionDone t) dest ⟨.loginFeedback, some fb, none⟩ →
    fb.success = true → activeRead C w e = some t
  lockout : ∀ seat, o = .lockout seat →
    ∃ call, lockoutCall C w e = some call ∧ call.seat = some seat

theorem harmless_reports (w : World) (e : Event) : Harmless (Reports C w e) where
  system _ := ⟨by simp, by simp, by simp⟩
  spawned _ := ⟨by simp, by simp, by simp⟩
  killed _ := ⟨by simp, by simp, by simp⟩
  greeterCb _ _ := ⟨by simp, by simp, by simp⟩
  startDone _ _ := ⟨by simp, by simp, by simp⟩
  failed _ _ := ⟨by simp, by simp, by simp⟩
  refused why dest msg hfail := by
    refine ⟨by simp, fun t dest' fb heq hsuccess => ?_, by simp⟩
    obtain ⟨-, -, rfl⟩ := Obs.sent.inj heq
    rw [hfail fb rfl] at hsuccess
    cases hsuccess

theorem reports_step {w : World} (hlife : Life none w) (hcells : Cells Undecided w) (e : Event) :
    Adds (Reports C w e) w (step C w e) := by
  refine adds_step (harmless_reports w e) hlife hcells (fun t message hactive => ?_)
    (fun t dest hactive _ => ?_) fun call seat hcall hseat => ?_
  · refine ⟨fun t' message' heq => ?_, by simp, by simp⟩
    obtain ⟨rfl, -⟩ := Obs.done.inj heq
    exact hactive
  · refine ⟨by simp, fun t' dest' fb heq _ => ?_, by simp⟩
    obtain ⟨hsender, -, -⟩ := Obs.sent.inj heq
    obtain rfl := Sender.sessionDone.inj hsender
    exact hactive
  · refine ⟨by simp, by simp, fun seat' heq => ?_⟩
    obtain rfl := Obs.lockout.inj heq
    exact ⟨call, hcall, hseat⟩

/-- The new tries have not written `SESSION_ACTIVE`, and the daemon does not write to a pipe. -/
theorem cellOps_wrote (answers : ℕ → List ℤ) :
    CellOpsAt C fun t tr => active ∈ tr.written → waitSessionActive (answers t) ≠ none where
  new _ _ _ _ _ hactive := absurd hactive List.not_mem_nil
  failed _ noTty req readFd writeFd hactive :=
    absurd hactive (active_notMem_failedTry noTty req readFd writeFd)
  read h := h
  session _ h := h
  errorMsg _ h := h
  called h := h
  succeeded h := h
  released h := h
  reaped h := h
  hungUp h := h
  exited h := h

/-- A child that has told of its session. -/
theorem positive_of_wrote {s : Sessions}
    (hloop : ∀ t, waitSessionActive (s.answers t) ≠ none → s.Positive t)
    (hwrote : CellsAt (fun t tr => active ∈ tr.written → waitSessionActive (s.answers t) ≠ none)
      s.world) (t : ℕ) (hactive : active ∈ (s.world.tryAt t).written) : s.Positive t := by
  cases htr : s.world.tries[t]? with
  | none =>
    rw [World.tryAt, htr] at hactive
    cases hactive
  | some tr =>
    rw [World.tryAt_eq htr] at hactive
    exact hloop t (hwrote t tr htr hactive)

/-- The try whose `SESSION_ACTIVE` is read. -/
theorem Sound.read {s : Sessions} (h : Sound C s) {e : Event} {t : ℕ}
    (hread : activeRead C s.world e = some t) : s.Positive t := by
  obtain ⟨a, fd, m, -, -, -, hready, hmsg, htype⟩ := activeRead_eq_some.mp hread
  exact h.written t (h.reads.active (ready_mem_live hready) hmsg htype)

/-! ### The invariant -/

theorem Sound.answer {s : Sessions} (h : Sound C s) {t : ℕ} {answer : ℤ}
    (hok : s.waits t = true → 0 ≤ answer) : Sound C (s.step C (.answer t answer)) := by
  unfold Sessions.step
  dsimp only
  split_ifs with hwaits
  · have hnone : waitSessionActive (s.answers t) = none := by
      unfold Sessions.waits at hwaits
      simpa using (Bool.and_eq_true_iff.mp hwaits).2
    set s' : Sessions :=
      { s with answers := Function.update s.answers t (s.answers t ++ [answer]) } with hs'
    have hmono : ∀ t', s.Positive t' → s'.Positive t' := by
      rintro t' ⟨x, hx, hpos⟩
      refine ⟨x, ?_, hpos⟩
      rw [hs']
      by_cases ht : t' = t
      · subst ht
        simpa using Or.inl hx
      · simpa [Function.update_of_ne ht] using hx
    have hloop : ∀ t', waitSessionActive (s'.answers t') ≠ none → s'.Positive t' := by
      intro t' hended
      by_cases ht : t' = t
      · -- the answer has ended the loop, so it is not zero
        subst ht
        have hne : answer ≠ 0 := by
          rintro rfl
          simp [hs', waitSessionActive, List.find?_append] at hended hnone
          exact hended.elim fun x hx => hx.2 (hnone x hx.1)
        have hle := hok hwaits
        exact ⟨answer, by simp [hs'], by omega⟩
      · refine hmono t' (h.loop t' ?_)
        simpa [hs', Function.update_of_ne ht] using hended
    have hwrote : CellsAt (fun t tr => active ∈ tr.written →
        waitSessionActive (s'.answers t) ≠ none) s'.world := by
      intro t' tr htr hactive
      have hended := h.wrote t' tr htr hactive
      by_cases ht : t' = t
      · subst ht
        exact absurd hnone hended
      · simpa [hs', Function.update_of_ne ht] using hended
    exact {
      life := h.life
      cells := h.cells
      reads := h.reads
      loop := hloop
      wrote := hwrote
      written := positive_of_wrote hloop hwrote
      done := fun t' message hmem => hmono t' (h.done t' message hmem)
      feedback := fun t' hmem => hmono t' (h.feedback t' hmem)
      lockout := fun call t' hcall hlog => hmono t' (h.lockout call t' hcall hlog)
      called := h.called }
  · exact h

theorem Sound.world {s : Sessions} (h : Sound C s) (e : Event) : Sound C (s.step C (.world e)) := by
  unfold Sessions.step
  dsimp only
  split_ifs with hadmits
  · set s' : Sessions := {
      s with
      world := step C s.world e
      calls := s.calls ++ (lockoutCall C s.world e).toList } with hs'
    obtain ⟨os, htrace, hall⟩ := reports_step h.life h.cells e
    have hwrote : CellsAt (fun t tr => active ∈ tr.written →
        waitSessionActive (s.answers t) ≠ none) (step C s.world e) := by
      refine (cellOps_wrote s.answers).step h.wrote e fun t m tr he htr hactive => ?_
      rcases List.mem_append.mp hactive with hactive | hactive
      · exact htr hactive
      · -- the message is `SESSION_ACTIVE`, and the step is admitted
        have hm : m = .sessionActive := by
          have := List.mem_singleton.mp hactive
          cases m <;> first | rfl | cases this
        subst he hm
        exact Option.isSome_iff_ne_none.mp hadmits
    have hread : ∀ t, activeRead C s.world e = some t → s.Positive t := fun t => h.read
    exact {
      life := life_step h.life
      cells := undecided_step h.cells e
      reads := reads_step h.reads h.life e
      loop := h.loop
      wrote := hwrote
      written := positive_of_wrote (s := s') h.loop hwrote
      done := fun t message hmem => by
        rw [hs', htrace] at hmem
        rcases List.mem_append.mp hmem with hmem | hmem
        · exact h.done t message hmem
        · exact hread t ((hall _ hmem).done t message rfl)
      feedback := by
        rintro t ⟨dest, fb, hmem, hsuccess⟩
        rw [hs', htrace] at hmem
        rcases List.mem_append.mp hmem with hmem | hmem
        · exact h.feedback t ⟨dest, fb, hmem, hsuccess⟩
        · exact hread t ((hall _ hmem).feedback t dest fb rfl hsuccess)
      lockout := fun call t hcall hlog => by
        rcases List.mem_append.mp hcall with hcall | hcall
        · exact h.lockout call t hcall hlog
        · obtain ⟨a, rfl, ⟨t', c, hactive, -, rfl⟩ | ⟨c, -, rfl⟩⟩ :=
            lockoutCall_eq_some (Option.mem_toList.mp hcall)
          · obtain rfl := Option.some.inj hlog
            exact hread _ hactive
          · cases hlog
      called := fun seat hmem => by
        rw [hs', htrace] at hmem
        rcases List.mem_append.mp hmem with hmem | hmem
        · obtain ⟨call, hcall, hseat⟩ := h.called seat hmem
          exact ⟨call, List.mem_append_left _ hcall, hseat⟩
        · obtain ⟨call, hcall, hseat⟩ := (hall _ hmem).lockout seat rfl
          exact ⟨call, List.mem_append_right _ (Option.mem_toList.mpr hcall), hseat⟩ }
  · exact h

theorem sound_start (debug : Bool) (templates : List Template) :
    Sound C (Sessions.start debug templates) := by
  have hwrote : CellsAt (fun _ tr => active ∈ tr.written →
      waitSessionActive [] ≠ none) (World.start debug templates) := by
    intro t tr htr
    simp [World.start] at htr
  have hloop : ∀ t : ℕ, waitSessionActive [] ≠ none →
      (Sessions.start debug templates).Positive t := fun _ hended => absurd rfl hended
  exact {
    life := life_start debug templates
    cells := undecided_start debug templates
    reads := reads_start debug templates
    loop := hloop
    wrote := hwrote
    written := positive_of_wrote (s := Sessions.start debug templates) hloop hwrote
    done := fun _ _ hmem => by cases hmem
    feedback := by
      rintro t ⟨dest, fb, hmem, -⟩
      cases hmem
    lockout := fun _ _ hcall => by cases hcall
    called := fun _ hmem => by cases hmem }

/-- **A success is only reported for an active session**, in every run in which no child that waits
gets a negative answer. -/
theorem reports_active (C : FieldCode SpawnField) (debug : Bool) (templates : List Template)
    (es : List SessionsEvent)
    (h : Meets (Sessions.step C) NoError (Sessions.start debug templates) es) :
    Throughout (Sessions.step C) OnlyActive (Sessions.start debug templates) es := by
  refine h.throughout (I := Sound C) (fun s e hs hok => ?_) (fun s hs => hs.toOnlyActive) es _
    (sound_start debug templates)
  cases e with
  | answer t answer => exact hs.answer hok
  | world e => exact hs.world e

/-- The daemon reads what the child of the login has written. -/
def readsPipe : List Event :=
  .select [6] [] :: List.replicate 5 (.next { Answers.plain with sd := twoSessions })

/-- A login from its request to its end; its child gets these answers. -/
def loginWaits (answers : List ℤ) : List SessionsEvent :=
  (loginAsks ++ .childWrite 1 .setupDone :: readsPipe).map SessionsEvent.world ++
    answers.map (SessionsEvent.answer 1) ++
    (.childWrite 1 .sessionActive :: readsPipe).map SessionsEvent.world

def loginRun (answers : List ℤ) : Sessions :=
  run (Sessions.step Encoding.spawnCode) (Sessions.start false gnomeStart.templates)
    (loginWaits answers)

set_option maxRecDepth 8000 in
/-- The session is not active at first, and then it is. -/
theorem reports_active_second :
    Throughout (Sessions.step Encoding.spawnCode) OnlyActive
        (Sessions.start false gnomeStart.templates) (loginWaits [0, 1]) ∧
      .done 1 ⟨.success, none⟩ ∈ (loginRun [0, 1]).world.trace :=
  ⟨reports_active _ _ _ _ (by decide), by decide⟩

set_option maxRecDepth 8000 in
/-- **logind has an error**, say that the session is gone (`-ENXIO`): the login is reported as
successful, and the greeter of its seat is locked out. -/
theorem error_reported :
    (loginRun [- ENXIO]).answers 1 = [- ENXIO] ∧
      .done 1 ⟨.success, none⟩ ∈ (loginRun [- ENXIO]).world.trace ∧
      .lockout "seat0" ∈ (loginRun [- ENXIO]).world.trace ∧
      .sent (.sessionDone 1) (some (.sock 1)) loggedIn ∈ (loginRun [- ENXIO]).world.trace ∧
      ¬Throughout (Sessions.step Encoding.spawnCode) OnlyActive
        (Sessions.start false gnomeStart.templates) (loginWaits [- ENXIO]) := by
  have hanswers : (loginRun [- ENXIO]).answers 1 = [- ENXIO] := by decide
  have hdone : .done 1 ⟨.success, none⟩ ∈ (loginRun [- ENXIO]).world.trace := by decide
  refine ⟨hanswers, hdone, by decide, by decide, fun h => ?_⟩
  obtain ⟨answer, hmem, hpos⟩ := (h.at_end _ _).done 1 none hdone
  have hmem' : answer ∈ (loginRun [- ENXIO]).answers 1 := hmem
  rw [hanswers, List.mem_singleton] at hmem'
  subst hmem'
  revert hpos
  decide

end Spawny.Daemon.ActiveSessions
