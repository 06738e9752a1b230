import Spawny.Daemon.Greeter

/-! # greeter.c: all that an activation does

`greeter_activate` calls itself through `spawnservice_spawn` and `_greeter_start_done` when a spawn
fails at once. Here the recursion is taken apart once: an activation is made of six operations, and
what all six keep, the activation keeps.

* `greeterActivateUpTo_eq`: more than `maxActivate` nested calls make no difference;
* `frame_greeterActivate`: earlier tries are not changed, and no record changes its seat;
* `greeterActivate_works`: if no spawn fails at once, there is a single call;
* `GreeterOps.activate`: **the induction rule for activations**. -/

namespace Spawny.Daemon.Activations

open Spawny.Lib.Wire Spawny.Lib.Descriptors Spawny.Protocol.Messages
open Spawny.Daemon.SessionMgt Spawny.Daemon.State Spawny.Daemon.SpawnService
open Spawny.Daemon.GreeterTable Spawny.Daemon.Client Spawny.Daemon.Greeter

variable (C : FieldCode SpawnField)

/-! ### The operations -/

/-- A spawn for the record in slot `g` has forked the child `pid`. -/
def greeterForked (g : ℕ) (seat : String) (pid : ℕ) (w : World) : World :=
  (childForked w.tries.length pid (openTry (greeterRequest g seat) w)).modGreeter g
    fun r => { r with runTry := some w.tries.length }

/-- `_greeter_start_done` for an error, up to the activation. -/
def greeterStartFailed (t g : ℕ) (w : World) : World :=
  greeterReset g (w.log (.greeterCb t (seatAt w g)))

/-- A spawn for the record in slot `g` has failed at once: its callback has run up to the nested
activation. -/
def greeterFailed (noTty : Bool) (g : ℕ) (seat : String) (w : World) : World :=
  greeterStartFailed w.tries.length g (tryFailed C noTty (greeterRequest g seat) w)

/-- After the nested activation the try `t` that failed is freed, and the record gets its address. -/
def greeterReturned (g t : ℕ) (w : World) : World :=
  (release t w).modGreeter g fun r => { r with runTry := some t }

theorem greeterStartDone_error {activate : String → World → World} {t g : ℕ} {msg : Option String}
    {w : World} {r : SeatGreeter} (hg : w.greeters[g]? = some r) :
    greeterStartDone activate t g ⟨.error, msg⟩ w = activate r.seat (greeterStartFailed t g w) := by
  have hlog : (w.log (.greeterCb t (seatAt w g))).greeters[g]? = some r := hg
  unfold greeterStartDone
  simp only [hlog]
  rfl

theorem tryAt_tryFailed (noTty : Bool) (req : SpawnRequest) (w : World) :
    (tryFailed C noTty req w).tryAt w.tries.length = failedTry C noTty (newTry req
      (lowestFree w.fdtab) (lowestFree (w.openFd (.pipeRead w.tries.length)).fdtab)) :=
  World.tryAt_eq (by rw [getElem?_tryFailed, if_pos rfl])

theorem failedTry_request (noTty : Bool) (tr : SpawnTry) :
    (failedTry C noTty tr).toSpawnRequest = tr.toSpawnRequest := by
  cases noTty <;> rfl

/-- The callback of a greeter try that failed at once. -/
theorem doneCb_tryFailed {a : Answers} {activate : String → World → World} {noTty : Bool} {g : ℕ}
    {r : SeatGreeter} {seat : String} {w : World} (hg : w.greeters[g]? = some r) :
    doneCb a activate w.tries.length ⟨.error, none⟩ (tryFailed C noTty (greeterRequest g seat) w) =
      activate r.seat (greeterFailed C noTty g seat w) := by
  have hdone : ((tryFailed C noTty (greeterRequest g seat) w).tryAt w.tries.length).done =
      .greeterStartDone g := by
    rw [tryAt_tryFailed, failedTry_request]
    rfl
  unfold doneCb
  rw [hdone]
  exact greeterStartDone_error (by rw [greeters_tryFailed, hg])

/-- The callback of a login try that failed at once. -/
theorem onDone_tryFailed {a : Answers} {noTty : Bool} {c : ℕ} {req : SpawnRequest} {w : World}
    (hreq : req.done = .sessionDone c) :
    onDone C a w.tries.length ⟨.error, none⟩ (tryFailed C noTty req w) =
      sessionDone a w.tries.length c ⟨.error, none⟩ (tryFailed C noTty req w) := by
  have hdone : ((tryFailed C noTty req w).tryAt w.tries.length).done = .sessionDone c := by
    rw [tryAt_tryFailed, failedTry_request]
    exact hreq
  unfold onDone doneCb
  rw [hdone]

/-! ### One call -/

/-- The record an activation works with. -/
theorem greeterRecord_cases (seat : String) (w : World) :
    (∃ g r, greeterRecord seat w = (w, g) ∧ greeterSearch seat w = some g ∧
      w.greeters[g]? = some r ∧ r.seat = seat) ∨
    (greeterSearch seat w = none ∧
      greeterRecord seat w = (greeterAdd seat w, w.greeters.length) ∧
      (greeterAdd seat w).greeters[w.greeters.length]? = some ⟨seat, 0, none, -1, false⟩) := by
  unfold greeterRecord
  cases h : greeterSearch seat w with
  | none => exact Or.inr ⟨rfl, rfl, List.getElem?_concat_length⟩
  | some g =>
    obtain ⟨r, hr, hseat⟩ := greeterSearch_spec h
    exact Or.inl ⟨g, r, rfl, rfl, hr, hseat⟩

/-- **What one call of `greeter_activate` does** to the record `r` in slot `g`: it activates the
session of the greeter, or gives up, or the spawn has no pipe, forks, or fails at once; in the
last case `activate` is called for the seat. -/
inductive Started (a : Answers) (activate : String → World → World) (g : ℕ) (r : SeatGreeter)
    (w : World) : World → Prop
  | session (s : String) (h : greeterSession a r w = some s) :
    Started a activate g r w (w.log (.system (activateCommand s)))
  | givesUp (h : FALLBACK_RUN_GENERATION < r.runGen) : Started a activate g r w w
  | noPipe (h : greeterSession a r w = none) :
    Started a activate g r w (w.modGreeter g fun r => { r with runTry := none })
  | forked (pid : ℕ) (h : greeterSession a r w = none) :
    Started a activate g r w
      (greeterForked g r.seat ((openTry (greeterRequest g r.seat) w).freePid pid) w)
  | failed (noTty : Bool) (htty : noTty = true → (a.spawn w.tries.length).child = .noTty)
    (h : greeterSession a r w = none)
    (hpipe : (a.spawn w.tries.length).pipeOk = true)
    (hchild : ∀ pid, (a.spawn w.tries.length).child ≠ .forks pid)
    (hgen : r.runGen ≤ FALLBACK_RUN_GENERATION) :
    Started a activate g r w (greeterReturned g w.tries.length
      (activate r.seat (greeterFailed C noTty g r.seat w)))

theorem greeterStart_started (a : Answers) (activate : String → World → World) {g : ℕ}
    {r : SeatGreeter} {w : World} (hg : w.greeters[g]? = some r) :
    Started C a activate g r w (greeterStart C (doneCb a activate) a g r w) := by
  unfold greeterStart
  cases hs : greeterSession a r w with
  | some s => exact .session s hs
  | none =>
    dsimp only
    split_ifs with hgen
    · by_cases hpipe : (a.spawn w.tries.length).pipeOk = true
      · by_cases hfork : ∃ pid, (a.spawn w.tries.length).child = .forks pid
        · obtain ⟨pid, hchild⟩ := hfork
          rw [spawnserviceSpawn_forks C hpipe hchild]
          exact .forked pid hs
        · rw [spawnserviceSpawn_fails C hpipe (not_exists.mp hfork), doneCb_tryFailed C hg]
          exact .failed _ of_decide_eq_true hs hpipe (not_exists.mp hfork) hgen
      · rw [spawnserviceSpawn_pipeFails C (by simpa using hpipe)]
        exact .noPipe hs
    · exact .givesUp (Nat.lt_of_not_le hgen)

/-! ### Nested calls -/

theorem seats_greeterReset (g : ℕ) (w : World) : seats (greeterReset g w) = seats w :=
  seats_modGreeter (f := fun r => SeatGreeter.runReset { r with runGen := r.runGen + 1 })
    (fun _ => rfl) g w

theorem seats_greeterFailed (noTty : Bool) (g : ℕ) (seat : String) (w : World) :
    seats (greeterFailed C noTty g seat w) = seats w := by
  refine (seats_greeterReset _ _).trans ?_
  exact congrArg (List.map SeatGreeter.seat) (greeters_tryFailed C w noTty _)

theorem getElem?_greeterFailed {noTty : Bool} {g : ℕ} {seat : String} {w : World} {r : SeatGreeter}
    (hg : w.greeters[g]? = some r) : (greeterFailed C noTty g seat w).greeters[g]? =
      some (SeatGreeter.runReset { r with runGen := r.runGen + 1 }) := by
  refine (World.getElem?_modGreeter _ _ _ _).trans ?_
  have hget : ((tryFailed C noTty (greeterRequest g seat) w).log
      (.greeterCb w.tries.length (seatAt (tryFailed C noTty (greeterRequest g seat) w) g))).greeters[
        g]? = some r := (congrArg (·[g]?) (greeters_tryFailed C w noTty _)).trans hg
  rw [hget]
  simp

/-- The calls differ only in the nested ones. -/
theorem greeterStart_congr {a : Answers} {activate activate' : String → World → World} {g : ℕ}
    {r : SeatGreeter} {w : World} (hg : w.greeters[g]? = some r)
    (h : r.runGen ≤ FALLBACK_RUN_GENERATION → ∀ noTty,
      activate r.seat (greeterFailed C noTty g r.seat w) =
        activate' r.seat (greeterFailed C noTty g r.seat w)) :
    greeterStart C (doneCb a activate) a g r w = greeterStart C (doneCb a activate') a g r w := by
  unfold greeterStart
  cases greeterSession a r w with
  | some s => rfl
  | none =>
    dsimp only
    split_ifs with hgen
    · by_cases hpipe : (a.spawn w.tries.length).pipeOk = true
      · by_cases hfork : ∃ pid, (a.spawn w.tries.length).child = .forks pid
        · obtain ⟨pid, hchild⟩ := hfork
          rw [spawnserviceSpawn_forks C hpipe hchild, spawnserviceSpawn_forks C hpipe hchild]
        · rw [spawnserviceSpawn_fails C hpipe (not_exists.mp hfork),
            spawnserviceSpawn_fails C hpipe (not_exists.mp hfork), doneCb_tryFailed C hg,
            doneCb_tryFailed C hg, h hgen]
      · rw [spawnserviceSpawn_pipeFails C (by simpa using hpipe),
          spawnserviceSpawn_pipeFails C (by simpa using hpipe)]
    · rfl

/-- The generation an activation of the seat starts from. -/
def generation (seat : String) (w : World) : ℕ :=
  (((greeterSearch seat w).bind fun g => w.greeters[g]?).map SeatGreeter.runGen).getD 0

/-- **Enough nested calls.** With two calls more than there are generations left, the bound on the
nested calls makes no difference. -/
theorem greeterActivateUpTo_enough (a : Answers) (n : ℕ) : ∀ (k : ℕ) (seat : String) (w : World),
    1 ≤ n → 1 ≤ k → FALLBACK_RUN_GENERATION + 2 ≤ n + generation seat w →
      FALLBACK_RUN_GENERATION + 2 ≤ k + generation seat w →
        greeterActivateUpTo C n a seat w = greeterActivateUpTo C k a seat w := by
  induction n with
  | zero => intro k seat w hn; omega
  | succ n ih =>
    intro k seat w _ hk1 hn hk
    obtain ⟨k, rfl⟩ := Nat.exists_eq_add_of_le' hk1
    -- the record in slot `g` of a world with the same generation
    have hcall : ∀ (w' : World) (g : ℕ) (r : SeatGreeter), greeterSearch seat w' = some g →
        w'.greeters[g]? = some r → r.seat = seat → r.runGen = generation seat w →
        greeterStart C (doneCb a (greeterActivateUpTo C n a)) a g r w' =
          greeterStart C (doneCb a (greeterActivateUpTo C k a)) a g r w' := by
      intro w' g r hsearch hg hseat hgen
      refine greeterStart_congr C hg fun hle noTty => ?_
      have hnested : generation r.seat (greeterFailed C noTty g r.seat w') = r.runGen + 1 := by
        rw [generation, greeterSearch_congr (seats_greeterFailed C noTty g r.seat w') r.seat, hseat,
          hsearch, Option.bind_some, ← hseat, getElem?_greeterFailed C hg]
        rfl
      unfold FALLBACK_RUN_GENERATION at hn hk hle ih
      exact ih k _ _ (by omega) (by omega) (by omega) (by omega)
    rcases greeterRecord_cases seat w with ⟨g, r, hrec, hsearch, hg, hseat⟩ | ⟨hnone, hrec, hg⟩
    · simp only [greeterActivateUpTo, hrec, hg, Option.getD_some]
      refine hcall w g r hsearch hg hseat ?_
      rw [generation, hsearch, Option.bind_some, hg]
      rfl
    · simp only [greeterActivateUpTo, hrec, hg, Option.getD_some]
      refine hcall _ _ _ (greeterSearch_greeterAdd hnone) hg rfl ?_
      rw [generation, hnone]
      rfl

/-- **`maxActivate` calls are enough.** -/
theorem greeterActivateUpTo_eq {n : ℕ} (h : maxActivate ≤ n) (a : Answers) (seat : String)
    (w : World) : greeterActivateUpTo C n a seat w = greeterActivate C a seat w := by
  unfold maxActivate at h
  exact greeterActivateUpTo_enough C a n _ seat w (by omega) (by decide) (by omega)
    (Nat.le_add_right _ _)

/-- An activation adds the record of its seat if there is none. -/
theorem greeterActivate_greeterAdd (a : Answers) {seat : String} {w : World}
    (hnone : greeterSearch seat w = none) :
    greeterActivate C a seat w = greeterActivate C a seat (greeterAdd seat w) := by
  have hrec : greeterRecord seat (greeterAdd seat w) = greeterRecord seat w := by
    rw [greeterRecord, greeterRecord, hnone, greeterSearch_greeterAdd hnone]
  unfold greeterActivate maxActivate
  simp only [greeterActivateUpTo, hrec]

/-! ### An activation whose spawn works -/

/-- The next spawn does not fail at once: it has no pipe, or its child is forked. Nothing is asked of
the answer if nothing is spawned. -/
def spawnWorks (a : Answers) (w : World) : Bool :=
  !(a.spawn w.tries.length).pipeOk ||
    match (a.spawn w.tries.length).child with
    | .forks _ => true
    | _ => false

theorem forks_of_spawnWorks {a : Answers} {w : World} (h : spawnWorks a w = true)
    (hpipe : (a.spawn w.tries.length).pipeOk = true) :
    ∃ pid, (a.spawn w.tries.length).child = .forks pid := by
  unfold spawnWorks at h
  rw [hpipe] at h
  cases hchild : (a.spawn w.tries.length).child with
  | forks pid => exact ⟨pid, rfl⟩
  | noTty => simp [hchild] at h
  | forkFails => simp [hchild] at h

theorem spawnWorks_congr {a : Answers} {w w' : World} (hlen : w'.tries.length = w.tries.length)
    (h : spawnWorks a w = true) : spawnWorks a w' = true := by
  rw [spawnWorks, hlen]
  exact h

/-- **Without failures at once** an activation is a single call: what it does to the record of its
seat. -/
inductive Works (a : Answers) (g : ℕ) (r : SeatGreeter) (w : World) : World → Prop
  | session (s : String) (h : greeterSession a r w = some s) :
    Works a g r w (w.log (.system (activateCommand s)))
  | givesUp : Works a g r w w
  | noPipe (h : greeterSession a r w = none) :
    Works a g r w (w.modGreeter g fun r => { r with runTry := none })
  | forked (pid : ℕ) (h : greeterSession a r w = none) :
    Works a g r w (greeterForked g r.seat ((openTry (greeterRequest g r.seat) w).freePid pid) w)

theorem greeterActivate_works {a : Answers} {w : World} (hworks : spawnWorks a w = true)
    (seat : String) : ∃ w₁ g r,
      (w₁ = w ∨ (greeterSearch seat w = none ∧ w₁ = greeterAdd seat w)) ∧
      w₁.greeters[g]? = some r ∧ r.seat = seat ∧ Works a g r w₁ (greeterActivate C a seat w) := by
  have hcall : ∀ (w₁ : World) (g : ℕ) (r : SeatGreeter), spawnWorks a w₁ = true →
      w₁.greeters[g]? = some r → Works a g r w₁
        (greeterStart C (doneCb a (greeterActivateUpTo C (FALLBACK_RUN_GENERATION + 1) a)) a g r
          w₁) := by
    intro w₁ g r hw₁ hg
    have h := greeterStart_started C a (greeterActivateUpTo C (FALLBACK_RUN_GENERATION + 1) a)
      hg
    generalize greeterStart C _ a g r w₁ = w₂ at h
    cases h with
    | session s h => exact .session s h
    | givesUp _ => exact .givesUp
    | noPipe h => exact .noPipe h
    | forked pid h => exact .forked pid h
    | failed _ _ _ hpipe hchild _ =>
      obtain ⟨pid, hpid⟩ := forks_of_spawnWorks hw₁ hpipe
      exact absurd hpid (hchild pid)
  unfold greeterActivate maxActivate
  rcases greeterRecord_cases seat w with ⟨g, r, hrec, -, hg, hseat⟩ | ⟨hnone, hrec, hg⟩
  · refine ⟨w, g, r, Or.inl rfl, hg, hseat, ?_⟩
    simp only [greeterActivateUpTo, hrec, hg, Option.getD_some]
    exact hcall w g r hworks hg
  · refine ⟨greeterAdd seat w, w.greeters.length, _, Or.inr ⟨hnone, rfl⟩, hg, rfl, ?_⟩
    simp only [greeterActivateUpTo, hrec, hg, Option.getD_some]
    exact hcall _ _ _ (spawnWorks_congr rfl hworks) hg

/-! ### What an activation leaves alone -/

/-- Tries made before are not changed, and a record that was there keeps its seat. -/
structure Frame (w w' : World) : Prop where
  tries : ∀ {t : ℕ} {tr : SpawnTry}, w.tries[t]? = some tr → w'.tries[t]? = some tr
  seats : ∀ {g : ℕ} {s : String}, seatAt w g = some s → seatAt w' g = some s

theorem Frame.refl (w : World) : Frame w w := ⟨id, id⟩

theorem Frame.trans {w w' w'' : World} (h : Frame w w') (h' : Frame w' w'') : Frame w w'' :=
  ⟨fun ht => h'.tries (h.tries ht), fun hs => h'.seats (h.seats hs)⟩

theorem seatAt_eq (w : World) (g : ℕ) : seatAt w g = (seats w)[g]? := List.getElem?_map.symm

theorem seatAt_congr {w w' : World} (h : seats w' = seats w) (g : ℕ) :
    seatAt w' g = seatAt w g := by rw [seatAt_eq, seatAt_eq, h]

theorem frame_greeterAdd (seat : String) (w : World) : Frame w (greeterAdd seat w) := by
  refine ⟨id, fun {g s} hs => ?_⟩
  rw [seatAt_eq] at hs ⊢
  rw [seats_greeterAdd, List.getElem?_append_left (List.getElem?_eq_some_iff.mp hs).1, hs]

/-- The new try is the last one. -/
theorem frame_greeterFailed (noTty : Bool) (g : ℕ) (seat : String) (w : World) :
    Frame w (greeterFailed C noTty g seat w) := by
  refine ⟨fun {t tr} ht => ?_, fun hs => ?_⟩
  · refine (getElem?_tryFailed C noTty (greeterRequest g seat) w t).trans ?_
    rw [if_neg (List.getElem?_eq_some_iff.mp ht).1.ne, ht]
  · rw [seatAt_congr (seats_greeterFailed C noTty g seat w), hs]

theorem getElem?_childForked (t pid : ℕ) (w : World) (t' : ℕ) :
    (childForked t pid w).tries[t']? = (w.tries[t']?).map fun tr =>
      if t = t' then { tr with childPid := pid, pid := pid } else tr := by
  refine (World.getElem?_modTry _ _ _ _).trans ?_
  change (((w.modTry t fun tr => { tr with childPid := pid }).tries[t']?).map _) = _
  rw [World.getElem?_modTry, Option.map_map]
  refine congrArg (fun f => (w.tries[t']?).map f) (funext fun tr => ?_)
  by_cases h : t = t' <;> simp [h]

theorem getElem?_greeterForked (g : ℕ) (seat : String) (pid : ℕ) (w : World) (t : ℕ) :
    (greeterForked g seat pid w).tries[t]? = if t = w.tries.length then
        some { newTry (greeterRequest g seat) (lowestFree w.fdtab)
          (lowestFree (w.openFd (.pipeRead w.tries.length)).fdtab) with childPid := pid, pid := pid }
      else w.tries[t]? := by
  refine (getElem?_childForked _ _ _ _).trans ?_
  rw [getElem?_openTry]
  by_cases h : t = w.tries.length
  · simp [h]
  · simp [h, Ne.symm h]

theorem seats_greeterForked (g : ℕ) (seat : String) (pid : ℕ) (w : World) :
    seats (greeterForked g seat pid w) = seats w := by
  unfold greeterForked
  rw [seats_modGreeter, seats, greeters_childForked, greeters_openTry, seats]
  exact fun _ => rfl

theorem frame_greeterForked (g : ℕ) (seat : String) (pid : ℕ) (w : World) :
    Frame w (greeterForked g seat pid w) := by
  refine ⟨fun {t tr} ht => ?_, fun hs => ?_⟩
  · rw [getElem?_greeterForked, if_neg (List.getElem?_eq_some_iff.mp ht).1.ne, ht]
  · rw [seatAt_congr (seats_greeterForked g seat pid w), hs]

theorem getElem?_release (t : ℕ) (w : World) (t' : ℕ) : (release t w).tries[t']? =
    (w.tries[t']?).map fun tr => if t = t' then { tr with pid := -1, freed := true } else tr :=
  World.getElem?_modTry _ _ _ _

theorem seats_greeterReturned (g t : ℕ) (w : World) : seats (greeterReturned g t w) = seats w :=
  seats_modGreeter (f := fun r => { r with runTry := some t }) (fun _ => rfl) g _

/-- **The frame of an activation.** -/
theorem frame_greeterActivateUpTo (a : Answers) : ∀ (n : ℕ) (seat : String) (w : World),
    Frame w (greeterActivateUpTo C n a seat w)
  | 0, _, w => Frame.refl w
  | n + 1, seat, w => by
    have hstart : ∀ (w' : World) (g : ℕ) (r : SeatGreeter), w'.greeters[g]? = some r →
        Frame w' (greeterStart C (doneCb a (greeterActivateUpTo C n a)) a g r w') := by
      intro w' g r hg
      have h := greeterStart_started C a (greeterActivateUpTo C n a) hg
      generalize greeterStart C (doneCb a (greeterActivateUpTo C n a)) a g r w' = w'' at h
      cases h with
      | session s _ => exact ⟨id, id⟩
      | givesUp _ => exact Frame.refl w'
      | noPipe _ =>
        refine ⟨id, fun hs => ?_⟩
        rw [seatAt_congr (seats_modGreeter (f := fun r => { r with runTry := none })
          (fun _ => rfl) g w'), hs]
      | forked pid _ => exact frame_greeterForked g r.seat _ w'
      | failed noTty _ _ _ _ _ =>
        have hnested := (frame_greeterFailed C noTty g r.seat w').trans
          (frame_greeterActivateUpTo a n r.seat (greeterFailed C noTty g r.seat w'))
        refine ⟨fun {t tr} ht => ?_, fun hs => ?_⟩
        · refine (getElem?_release _ _ _).trans ?_
          rw [hnested.tries ht, Option.map_some,
            if_neg (List.getElem?_eq_some_iff.mp ht).1.ne']
        · rw [seatAt_congr (seats_greeterReturned g _ _)]
          exact hnested.seats hs
    rcases greeterRecord_cases seat w with ⟨g, r, hrec, -, hg, -⟩ | ⟨-, hrec, hg⟩
    · simp only [greeterActivateUpTo, hrec, hg, Option.getD_some]
      exact hstart w g r hg
    · simp only [greeterActivateUpTo, hrec, hg, Option.getD_some]
      exact (frame_greeterAdd seat w).trans (hstart _ _ _ hg)

theorem frame_greeterActivate (a : Answers) (seat : String) (w : World) :
    Frame w (greeterActivate C a seat w) := frame_greeterActivateUpTo C a _ seat w

/-! ### The induction rule -/

/-- What `I` has to survive to survive every activation: the six operations it is made of, each
where the code does it. -/
structure GreeterOps (a : Answers) (I : World → Prop) : Prop where
  session : ∀ {w} (s : String), I w → I (w.log (.system (activateCommand s)))
  add : ∀ {w} {seat : String}, greeterSearch seat w = none → I w → I (greeterAdd seat w)
  noPipe : ∀ {w} {g : ℕ} {r : SeatGreeter}, w.greeters[g]? = some r →
    greeterSession a r w = none → I w → I (w.modGreeter g fun r => { r with runTry := none })
  forked : ∀ {w} {g : ℕ} {r : SeatGreeter} (pid : ℕ), w.greeters[g]? = some r →
    greeterSession a r w = none → I w →
      I (greeterForked g r.seat ((openTry (greeterRequest g r.seat) w).freePid pid) w)
  failed : ∀ {w} {g : ℕ} {r : SeatGreeter} (noTty : Bool),
    (noTty = true → (a.spawn w.tries.length).child = .noTty) → w.greeters[g]? = some r →
    greeterSession a r w = none → (a.spawn w.tries.length).pipeOk = true →
      (∀ pid, (a.spawn w.tries.length).child ≠ .forks pid) → I w →
        I (greeterFailed C noTty g r.seat w)
  returned : ∀ {w} {g t : ℕ} {tr : SpawnTry}, w.tries[t]? = some tr → tr.doneCalled = true →
    tr.childPid = 0 → tr.settings.sessionSeat = seatAt w g → (seatAt w g).isSome = true → I w →
      I (greeterReturned g t w)

/-- **What all operations keep, an activation keeps.** -/
theorem GreeterOps.activateUpTo {a : Answers} {I : World → Prop} (h : GreeterOps C a I) :
    ∀ (n : ℕ) (seat : String) (w : World), I w → I (greeterActivateUpTo C n a seat w)
  | 0, _, _, hw => hw
  | n + 1, seat, w, hw => by
    have hstart : ∀ (w' : World) (g : ℕ) (r : SeatGreeter), w'.greeters[g]? = some r → I w' →
        I (greeterStart C (doneCb a (greeterActivateUpTo C n a)) a g r w') := by
      intro w' g r hg hw'
      have hs := greeterStart_started C a (greeterActivateUpTo C n a) hg
      generalize greeterStart C (doneCb a (greeterActivateUpTo C n a)) a g r w' = w'' at hs
      cases hs with
      | session s _ => exact h.session s hw'
      | givesUp _ => exact hw'
      | noPipe hsession => exact h.noPipe hg hsession hw'
      | forked pid hsession => exact h.forked pid hg hsession hw'
      | failed noTty htty hsession hpipe hchild _ =>
        have hfailed := h.failed noTty htty hg hsession hpipe hchild hw'
        have hnested := GreeterOps.activateUpTo h n r.seat _ hfailed
        -- the new try and the record are still what they were before the nested activation
        have hframe := frame_greeterActivateUpTo C a n r.seat (greeterFailed C noTty g r.seat w')
        have htry := hframe.tries (t := w'.tries.length)
          ((getElem?_tryFailed C noTty (greeterRequest g r.seat) w' _).trans (if_pos rfl))
        have hseat : seatAt (greeterFailed C noTty g r.seat w') g = some r.seat := by
          rw [seatAt_congr (seats_greeterFailed C noTty g r.seat w'), seatAt, hg]
          rfl
        have hseat' := hframe.seats hseat
        refine h.returned htry rfl ?_ ?_ (by rw [hseat']; rfl) hnested
        · cases noTty <;> rfl
        · rw [hseat', failedTry_request]
          rfl
    rcases greeterRecord_cases seat w with ⟨g, r, hrec, -, hg, -⟩ | ⟨hnone, hrec, hg⟩
    · simp only [greeterActivateUpTo, hrec, hg, Option.getD_some]
      exact hstart w g r hg hw
    · simp only [greeterActivateUpTo, hrec, hg, Option.getD_some]
      exact hstart _ _ _ hg (h.add hnone hw)

theorem GreeterOps.activate {a : Answers} {I : World → Prop} (h : GreeterOps C a I) (seat : String)
    {w : World} (hw : I w) : I (greeterActivate C a seat w) := h.activateUpTo C _ seat w hw

end Spawny.Daemon.Activations
