import Spawny.Daemon.OneGreeter

/-! # greeter.c: when an activation starts a greeter

An activation that finds no session spawns a try for the seat, and spawns again as long as a spawn
fails at once. `forksGreeter` says from the answers alone whether one of these spawns forks.

* `startInFlight_failed`, `startInFlight_forked`: what one spawn adds;
* `startInFlight_activate`: **after the activation a greeter start for the seat is in flight exactly if
  there was one before or one of the spawns forks**;
* `getElem?_activate`: an activation makes a try for the seat;
* `greeterActivate_session`: an activation that finds a session activates it. -/

namespace Spawny.Daemon.GreeterStarts

open Spawny.Lib.Wire Spawny.Lib.Descriptors Spawny.Protocol.Messages
open Spawny.Daemon.SessionMgt Spawny.Daemon.State Spawny.Daemon.SpawnService
open Spawny.Daemon.GreeterTable Spawny.Daemon.Client Spawny.Daemon.Greeter Spawny.Daemon.Activations
open Spawny.Daemon.OneGreeter

variable {C : FieldCode SpawnField} {seat : String} {w : World}

/-! ### Greeter starts -/

/-- The try is to start a greeter for the seat, and its callback is still to come. -/
def Starting (seat : String) (tr : SpawnTry) : Prop :=
  tr.doneCalled = false ∧ (∃ g, tr.done = .greeterStartDone g) ∧ tr.settings.sessionSeat = some seat

/-- A greeter start for the seat is in flight. -/
def StartInFlight (seat : String) (w : World) : Prop :=
  ∃ (t : ℕ) (tr : SpawnTry), w.tries[t]? = some tr ∧ Starting seat tr

theorem startInFlight_congr {w' : World} (h : w'.tries = w.tries) :
    StartInFlight seat w' ↔ StartInFlight seat w := by
  unfold StartInFlight
  rw [h]

/-- One try is added. -/
theorem startInFlight_new {w' : World} {new : SpawnTry}
    (h : ∀ t, w'.tries[t]? = if t = w.tries.length then some new else w.tries[t]?) :
    StartInFlight seat w' ↔ StartInFlight seat w ∨ Starting seat new := by
  constructor
  · rintro ⟨t, tr, htr, hstart⟩
    rw [h] at htr
    split_ifs at htr with ht
    · rw [← Option.some.inj htr] at hstart
      exact Or.inr hstart
    · exact Or.inl ⟨t, tr, htr, hstart⟩
  · rintro (⟨t, tr, htr, hstart⟩ | hstart)
    · have hlt : t < w.tries.length := (List.getElem?_eq_some_iff.mp htr).1
      have hne : t ≠ w.tries.length := by omega
      exact ⟨t, tr, by rw [h, if_neg hne, htr], hstart⟩
    · exact ⟨w.tries.length, new, by rw [h, if_pos rfl], hstart⟩

theorem startInFlight_forked (g pid : ℕ) :
    StartInFlight seat (greeterForked g seat pid w) := by
  refine (startInFlight_new (getElem?_greeterForked g seat pid w)).mpr (Or.inr ⟨?_, ?_, ?_⟩)
  · rfl
  · exact ⟨g, rfl⟩
  · rfl

theorem not_starting_failedTry (noTty : Bool) (tr : SpawnTry) :
    ¬Starting seat (failedTry C noTty tr) := by
  rintro ⟨hdone, -⟩
  cases noTty <;> simp [failedTry] at hdone

theorem startInFlight_failed (noTty : Bool) (g : ℕ) (s : String) :
    StartInFlight seat (greeterFailed C noTty g s w) ↔ StartInFlight seat w := by
  have hnew := @startInFlight_new seat w _ _ (getElem?_tryFailed C noTty (greeterRequest g s) w)
  rw [or_iff_left (not_starting_failedTry noTty _)] at hnew
  exact (startInFlight_congr rfl).trans hnew

theorem startInFlight_returned (g t : ℕ) :
    StartInFlight seat (greeterReturned g t w) ↔ StartInFlight seat w := by
  have hget : ∀ t' : ℕ, (greeterReturned g t w).tries[t']? =
      (w.tries[t']?).map fun tr => if t = t' then { tr with pid := -1, freed := true } else tr :=
    getElem?_release t w
  constructor
  · rintro ⟨t', tr', htr', hstart⟩
    rw [hget] at htr'
    obtain ⟨tr, htr, rfl⟩ := Option.map_eq_some_iff.mp htr'
    refine ⟨t', tr, htr, ?_⟩
    split_ifs at hstart <;> exact hstart
  · rintro ⟨t', tr, htr, hstart⟩
    refine ⟨t', _, by rw [hget, htr, Option.map_some], ?_⟩
    split_ifs <;> exact hstart

theorem length_greeterFailed (noTty : Bool) (g : ℕ) (s : String) :
    (greeterFailed C noTty g s w).tries.length = w.tries.length + 1 := by
  have hfailed : (tryFailed C noTty (greeterRequest g s) w).tries.length = w.tries.length + 1 := by
    unfold tryFailed
    cases noTty <;> simp [openTry, closeRead, serviceComExit]
  exact hfailed

/-! ### The spawns of an activation -/

/-- One of the spawns of an activation forks: the first for a record of the generation `gen` and the
try `t`, and then, as long as the child of a spawn cannot be made, the next one. -/
def forksGreeter (a : Answers) : ℕ → ℕ → ℕ → Bool
  | 0, _, _ => false
  | n + 1, gen, t => decide (gen ≤ FALLBACK_RUN_GENERATION) && (a.spawn t).pipeOk &&
      match (a.spawn t).child with
      | .forks _ => true
      | _ => forksGreeter a n (gen + 1) (t + 1)

theorem recordOf_eq {g : ℕ} {r : SeatGreeter} (hsearch : greeterSearch seat w = some g)
    (hg : w.greeters[g]? = some r) : recordOf seat w = r := by
  rw [recordOf, hsearch, Option.bind_some, hg, Option.getD_some]

/-- The record after a spawn that failed at once. -/
theorem recordOf_greeterFailed {noTty : Bool} {g : ℕ} {r : SeatGreeter} (s : String)
    (hsearch : greeterSearch seat w = some g) (hg : w.greeters[g]? = some r) :
    recordOf seat (greeterFailed C noTty g s w) =
      SeatGreeter.runReset { r with runGen := r.runGen + 1 } := by
  have hsame : greeterSearch seat (greeterFailed C noTty g s w) = some g := by
    rw [greeterSearch_congr (seats_greeterFailed C noTty g s w), hsearch]
  exact recordOf_eq hsame (getElem?_greeterFailed C hg)

theorem greeterSession_runReset (a : Answers) (r : SeatGreeter) :
    greeterSession a (SeatGreeter.runReset r) w = none := by
  simp [greeterSession, SeatGreeter.runReset]

/-- **Greeter starts.** An activation that finds no session: after it a start is in flight exactly if
there was one before or one of its spawns forks. -/
theorem startInFlight_activateUpTo (a : Answers) : ∀ (n : ℕ) (w : World),
    greeterSession a (recordOf seat w) w = none →
      (StartInFlight seat (greeterActivateUpTo C n a seat w) ↔ StartInFlight seat w ∨
        forksGreeter a n (recordOf seat w).runGen w.tries.length = true)
  | 0, w, _ => by simp [greeterActivateUpTo, forksGreeter]
  | n + 1, w, hnone => by
    -- the call for the record in slot `g` of `w` or of `w` with a new record
    have hcall : ∀ (w' : World) (g : ℕ) (r : SeatGreeter), greeterSearch seat w' = some g →
        w'.greeters[g]? = some r → r.seat = seat → greeterSession a r w' = none →
        (StartInFlight seat (greeterStart C (doneCb a (greeterActivateUpTo C n a)) a g r w') ↔
          StartInFlight seat w' ∨ forksGreeter a (n + 1) r.runGen w'.tries.length = true) := by
      intro w' g r hsearch hg hseat hsession
      unfold greeterStart forksGreeter
      rw [hsession]
      dsimp only
      by_cases hgen : r.runGen ≤ FALLBACK_RUN_GENERATION
      · rw [if_pos hgen, decide_eq_true hgen, Bool.true_and]
        by_cases hpipe : (a.spawn w'.tries.length).pipeOk = true
        · rw [hpipe, Bool.true_and]
          by_cases hfork : ∃ pid, (a.spawn w'.tries.length).child = .forks pid
          · obtain ⟨pid, hchild⟩ := hfork
            rw [spawnserviceSpawn_forks C hpipe hchild, hchild, hseat]
            exact iff_of_true (startInFlight_forked g _) (Or.inr rfl)
          · rw [spawnserviceSpawn_fails C hpipe (not_exists.mp hfork), doneCb_tryFailed C hg]
            -- the nested activation is for a record that has been reset
            have hrecord : recordOf seat (greeterFailed C
                (decide ((a.spawn w'.tries.length).child = .noTty)) g r.seat w') =
                  SeatGreeter.runReset { r with runGen := r.runGen + 1 } :=
              recordOf_greeterFailed r.seat hsearch hg
            have ih := startInFlight_activateUpTo a n _
              (by rw [hrecord]; exact greeterSession_runReset a _)
            rw [hrecord, length_greeterFailed, startInFlight_failed, hseat] at ih
            refine (startInFlight_returned g _).trans ?_
            rw [hseat, ih]
            cases hchild : (a.spawn w'.tries.length).child with
            | forks pid => exact absurd ⟨pid, hchild⟩ hfork
            | noTty => rfl
            | forkFails => rfl
        · rw [spawnserviceSpawn_pipeFails C (by simpa using hpipe)]
          simp only [hpipe, Bool.false_and, Bool.false_eq_true, or_false]
          exact startInFlight_congr rfl
      · rw [if_neg hgen]
        simp [hgen]
    rcases greeterRecord_cases seat w with ⟨g, r, hrec, hsearch, hg, hseat⟩ | ⟨hmiss, hrec, hg⟩
    · have hrecord := recordOf_eq hsearch hg
      rw [hrecord] at hnone
      simp only [greeterActivateUpTo, hrec, hg, Option.getD_some, hrecord]
      exact hcall w g r hsearch hg hseat hnone
    · have hrecord : recordOf seat w = ⟨seat, 0, none, -1, false⟩ := by rw [recordOf, hmiss]; rfl
      simp only [greeterActivateUpTo, hrec, hg, Option.getD_some, hrecord]
      exact hcall _ _ _ (greeterSearch_greeterAdd hmiss) hg rfl rfl

theorem startInFlight_activate {a : Answers} (h : greeterSession a (recordOf seat w) w = none) :
    StartInFlight seat (greeterActivate C a seat w) ↔ StartInFlight seat w ∨
      forksGreeter a maxActivate (recordOf seat w).runGen w.tries.length = true :=
  startInFlight_activateUpTo a maxActivate w h

/-- If no session is found and the generation allows it, there is a new try for the seat, unless its
pipe cannot be made. -/
theorem getElem?_activate {a : Answers} {g : ℕ} {r : SeatGreeter}
    (hsearch : greeterSearch seat w = some g) (hg : w.greeters[g]? = some r)
    (hsession : greeterSession a r w = none) (hgen : r.runGen ≤ FALLBACK_RUN_GENERATION)
    (hpipe : (a.spawn w.tries.length).pipeOk = true) :
    ∃ tr, (greeterActivate C a seat w).tries[w.tries.length]? = some tr ∧
      tr.toSpawnRequest = greeterRequest g seat := by
  obtain ⟨r', hr', rfl⟩ := greeterSearch_spec hsearch
  obtain rfl : r = r' := Option.some.inj (hg.symm.trans hr')
  have hrec : greeterRecord r.seat w = (w, g) := by rw [greeterRecord, hsearch]
  unfold greeterActivate maxActivate
  simp only [greeterActivateUpTo, hrec, hg, Option.getD_some, greeterStart, hsession, if_pos hgen]
  by_cases hfork : ∃ pid, (a.spawn w.tries.length).child = .forks pid
  · obtain ⟨pid, hchild⟩ := hfork
    rw [spawnserviceSpawn_forks C hpipe hchild]
    exact ⟨_, (getElem?_greeterForked g r.seat _ w _).trans (if_pos rfl), rfl⟩
  · rw [spawnserviceSpawn_fails C hpipe (not_exists.mp hfork), doneCb_tryFailed C hg]
    generalize decide ((a.spawn w.tries.length).child = .noTty) = noTty
    -- the nested activation comes after the new try
    have hnew : (greeterFailed C noTty g r.seat w).tries[w.tries.length]? = some _ :=
      (getElem?_tryFailed C noTty (greeterRequest g r.seat) w w.tries.length).trans (if_pos rfl)
    have hkept := (frame_greeterActivateUpTo C a (FALLBACK_RUN_GENERATION + 1) r.seat _).tries hnew
    have hget := getElem?_release w.tries.length (greeterActivateUpTo C (FALLBACK_RUN_GENERATION + 1)
      a r.seat (greeterFailed C noTty g r.seat w)) w.tries.length
    rw [hkept, Option.map_some, if_pos rfl] at hget
    exact ⟨_, hget, failedTry_request C noTty _⟩

/-- A session that is found is activated. -/
theorem greeterActivate_session {a : Answers} {s : String}
    (h : greeterSession a (recordOf seat w) w = some s) :
    greeterActivate C a seat w = w.log (.system (activateCommand s)) := by
  rcases greeterRecord_cases seat w with ⟨g, r, hrec, hsearch, hg, -⟩ | ⟨hmiss, -, -⟩
  · rw [recordOf_eq hsearch hg] at h
    unfold greeterActivate maxActivate
    simp only [greeterActivateUpTo, hrec, hg, Option.getD_some, greeterStart, h]
    rfl
  · have hrecord : recordOf seat w = ⟨seat, 0, none, -1, false⟩ := by rw [recordOf, hmiss]; rfl
    rw [hrecord] at h
    simp [greeterSession] at h

end Spawny.Daemon.GreeterStarts
