import Spawny.Daemon.GreeterStarts

/-! # greeter.c: how often an activation starts a greeter

Every start of a greeter that fails counts in `run_gen`, and an activation goes on as long as a
start fails at once and `run_gen` allows it. Here its starts are counted by what it leaves behind:
the tries for the seat, of which all but the last have failed, and `run_gen` of the record.

* `attempts`: the tries for greeters, with the seat and whether the start has failed;
* `Gains`: `run_gen` of one seat grows, and all others stay;
* `pipeFails`: whether the last start has no pipe, which no callback reports and nothing counts;
* `counts_activate`: **an activation counts every start that failed at once**, and its last start
  comes with a `run_gen` of at most `FALLBACK_RUN_GENERATION`. -/

namespace Spawny.Daemon.StartCounts

open Spawny.Lib.Wire Spawny.Lib.Descriptors Spawny.Protocol.Messages
open Spawny.Daemon.SessionMgt Spawny.Daemon.State Spawny.Daemon.SpawnService
open Spawny.Daemon.GreeterTable Spawny.Daemon.Client Spawny.Daemon.Greeter Spawny.Daemon.Activations
open Spawny.Daemon.GreeterSlots Spawny.Daemon.OneGreeter Spawny.Daemon.GreeterStarts

variable {C : FieldCode SpawnField} {seat : String} {w w' w'' : World}

/-! ### Tries for greeters -/

/-- The seat, if the try is to start a greeter. -/
def SpawnTry.greeterSeat (tr : SpawnTry) : Option String :=
  (DoneCb.slot tr.done).bind fun _ => tr.settings.sessionSeat

/-- The seat, and whether the callback of the try has got an error. -/
def SpawnTry.attempt (tr : SpawnTry) : Option (String × Bool) :=
  (SpawnTry.greeterSeat tr).map fun s => (s, tr.doneCalled && decide (tr.success = .error))

/-- The tries for greeters in the order in which they were made. -/
def attempts (w : World) : List (String × Bool) := w.tries.filterMap SpawnTry.attempt

/-- The seats they are for. -/
def greeterSeats (w : World) : List String := w.tries.filterMap SpawnTry.greeterSeat

theorem map_attempts (w : World) : (attempts w).map Prod.fst = greeterSeats w := by
  rw [attempts, List.map_filterMap, greeterSeats]
  refine congrArg (fun f => w.tries.filterMap f) (funext fun tr => ?_)
  simp [SpawnTry.attempt, Function.comp_def]

theorem length_attempts (w : World) : (attempts w).length = (greeterSeats w).length := by
  rw [← map_attempts, List.length_map]

theorem filterMap_modify {α β : Type} {f : α → α} {q : α → Option β} (h : ∀ a, q (f a) = q a) :
    ∀ (l : List α) (i : ℕ), (l.modify i f).filterMap q = l.filterMap q
  | [], i => by simp
  | a :: l, 0 => by simp [List.filterMap_cons, h]
  | a :: l, i + 1 => by simp [List.filterMap_cons, filterMap_modify h l i]

/-- A list with one more element at its end. -/
theorem eq_concat {α : Type} {l l' : List α} {a : α}
    (h : ∀ i, l'[i]? = if i = l.length then some a else l[i]?) : l' = l ++ [a] := by
  refine List.ext_getElem? fun i => ?_
  rw [h]
  split_ifs with hi
  · rw [hi, List.getElem?_concat_length]
  · rcases Nat.lt_or_gt_of_ne hi with hlt | hgt
    · rw [List.getElem?_append_left hlt]
    · rw [List.getElem?_eq_none (by omega), List.getElem?_eq_none (by simp; omega)]

theorem attempts_forked (g pid : ℕ) :
    attempts (greeterForked g seat pid w) = attempts w ++ [(seat, false)] := by
  rw [attempts, eq_concat (getElem?_greeterForked g seat pid w), List.filterMap_append]
  rfl

theorem attempts_failed (noTty : Bool) (g : ℕ) :
    attempts (greeterFailed C noTty g seat w) = attempts w ++ [(seat, true)] := by
  have htries : (greeterFailed C noTty g seat w).tries = w.tries ++ [_] :=
    eq_concat (getElem?_tryFailed C noTty (greeterRequest g seat) w)
  rw [attempts, htries, List.filterMap_append]
  cases noTty <;> rfl

theorem attempts_release (t : ℕ) (w : World) : attempts (release t w) = attempts w := by
  refine filterMap_modify (fun tr => ?_) w.tries t
  rfl

/-! ### Generations -/

/-- The seats of the records with their `run_gen`. -/
def gens (w : World) : List (String × ℕ) := w.greeters.map fun r => (r.seat, r.runGen)

theorem map_gens (w : World) : (gens w).map Prod.fst = seats w := by
  simp [gens, seats]

theorem getElem?_gens {g : ℕ} {r : SeatGreeter} (hg : w.greeters[g]? = some r) :
    (gens w)[g]? = some (r.seat, r.runGen) := by
  rw [gens, List.getElem?_map, hg, Option.map_some]

theorem generation_of_get {g : ℕ} {r : SeatGreeter} (hsearch : greeterSearch seat w = some g)
    (hg : w.greeters[g]? = some r) : generation seat w = r.runGen := by
  rw [generation, hsearch, Option.bind_some, hg]
  rfl

theorem generation_of_none (hnone : greeterSearch seat w = none) : generation seat w = 0 := by
  rw [generation, hnone]
  rfl

theorem generation_of_mem (hnodup : (seats w).Nodup) {n : ℕ} (h : (seat, n) ∈ gens w) :
    generation seat w = n := by
  obtain ⟨r, hr, heq⟩ := List.mem_map.mp h
  obtain ⟨rfl, rfl⟩ := Prod.mk.inj heq
  obtain ⟨g, hg⟩ := List.mem_iff_getElem?.mp hr
  exact generation_of_get (greeterSearch_of_nodup hnodup hg) hg

theorem generation_congr (h : gens w' = gens w) (seat : String) :
    generation seat w' = generation seat w := by
  have hgen : ∀ (w : World) (g : ℕ),
      (w.greeters[g]?).map SeatGreeter.runGen = ((gens w)[g]?).map Prod.snd := by
    intro w g
    rw [gens, List.getElem?_map, Option.map_map]
    rfl
  have hsearch : greeterSearch seat w' = greeterSearch seat w :=
    greeterSearch_congr (by rw [← map_gens, h, map_gens]) seat
  unfold generation
  rw [hsearch]
  cases greeterSearch seat w with
  | none => rfl
  | some g =>
    simp only [Option.bind_some]
    rw [hgen, h, ← hgen]

theorem gens_modGreeter {f : SeatGreeter → SeatGreeter}
    (hf : ∀ r, (f r).seat = r.seat ∧ (f r).runGen = r.runGen) (g : ℕ) (w : World) :
    gens (w.modGreeter g f) = gens w := by
  refine List.ext_getElem? fun i => ?_
  rw [gens, List.getElem?_map, World.getElem?_modGreeter, gens, List.getElem?_map, Option.map_map]
  refine congrArg (fun f => (w.greeters[i]?).map f) (funext fun r => ?_)
  dsimp only [Function.comp_apply]
  split_ifs
  · rw [(hf r).1, (hf r).2]
  · rfl

theorem gens_greeterForked (g pid : ℕ) : gens (greeterForked g seat pid w) = gens w := by
  refine (gens_modGreeter ?_ g _).trans ?_
  · exact fun _ => ⟨rfl, rfl⟩
  · rw [gens, greeters_childForked, greeters_openTry, gens]

theorem gens_greeterReturned (g t : ℕ) (w : World) : gens (greeterReturned g t w) = gens w := by
  refine (gens_modGreeter ?_ g _).trans ?_
  · exact fun _ => ⟨rfl, rfl⟩
  · rw [gens, greeters_release, gens]

/-- **One seat's `run_gen` grows by `n`**, and the records of the other seats stay. -/
structure Gains (seat : String) (n : ℕ) (w w' : World) : Prop where
  own : generation seat w' = generation seat w + n
  others : ∀ p ∈ gens w', p.1 ≠ seat → p ∈ gens w

theorem Gains.refl (seat : String) (w : World) : Gains seat 0 w w := ⟨rfl, fun _ hp _ => hp⟩

theorem Gains.trans {n m : ℕ} (h : Gains seat n w w') (h' : Gains seat m w' w'') :
    Gains seat (n + m) w w'' := by
  refine ⟨?_, fun p hp hne => h.others p (h'.others p hp hne) hne⟩
  have hown := h.own
  have hown' := h'.own
  omega

theorem gains_of_gens (h : gens w' = gens w) : Gains seat 0 w w' := by
  refine ⟨generation_congr h seat, fun p hp _ => ?_⟩
  rwa [h] at hp

theorem gains_greeterReset {g : ℕ} {r : SeatGreeter} (hsearch : greeterSearch r.seat w = some g)
    (hg : w.greeters[g]? = some r) : Gains r.seat 1 w (greeterReset g w) := by
  have hget : (greeterReset g w).greeters[g]? =
      some (SeatGreeter.runReset { r with runGen := r.runGen + 1 }) := by
    rw [greeterReset, World.getElem?_modGreeter, hg, Option.map_some, if_pos rfl]
  have hsearch' : greeterSearch r.seat (greeterReset g w) = some g := by
    rw [greeterSearch_congr (seats_greeterReset g w), hsearch]
  refine ⟨?_, fun p hp hne => ?_⟩
  · rw [generation_of_get hsearch' hget, generation_of_get hsearch hg]
    rfl
  · obtain ⟨i, hi⟩ := List.mem_iff_getElem?.mp hp
    rw [gens, List.getElem?_map, greeterReset, World.getElem?_modGreeter, Option.map_map] at hi
    obtain ⟨r', hr', rfl⟩ := Option.map_eq_some_iff.mp hi
    dsimp only [Function.comp_apply] at hne ⊢
    by_cases hgi : g = i
    · subst hgi
      obtain rfl : r = r' := Option.some.inj (hg.symm.trans hr')
      rw [if_pos rfl] at hne
      exact absurd rfl hne
    · rw [if_neg hgi]
      exact List.mem_of_getElem? (getElem?_gens hr')

theorem gains_greeterFailed (noTty : Bool) {g : ℕ} {r : SeatGreeter}
    (hsearch : greeterSearch r.seat w = some g) (hg : w.greeters[g]? = some r) :
    Gains r.seat 1 w (greeterFailed C noTty g r.seat w) := by
  set w₁ := (tryFailed C noTty (greeterRequest g r.seat) w).log (.greeterCb w.tries.length
    (seatAt (tryFailed C noTty (greeterRequest g r.seat) w) g)) with hw₁
  have hgreeters : w₁.greeters = w.greeters := greeters_tryFailed C w noTty _
  have hgens : gens w₁ = gens w := by rw [gens, hgreeters, gens]
  have hseats : seats w₁ = seats w := by rw [← map_gens, hgens, map_gens]
  have hsearch' : greeterSearch r.seat w₁ = some g := by rw [greeterSearch_congr hseats, hsearch]
  have hreset := gains_greeterReset hsearch' (by rw [hgreeters, hg])
  exact (gains_of_gens hgens).trans hreset

theorem gains_greeterAdd (hnone : greeterSearch seat w = none) :
    Gains seat 0 w (greeterAdd seat w) := by
  have hget : (greeterAdd seat w).greeters[w.greeters.length]? = some ⟨seat, 0, none, -1, false⟩ :=
    List.getElem?_concat_length
  refine ⟨?_, fun p hp hne => ?_⟩
  · rw [generation_of_get (greeterSearch_greeterAdd hnone) hget, generation_of_none hnone]
  · have hadd : gens (greeterAdd seat w) = gens w ++ [(seat, 0)] := by
      simp [gens, greeterAdd]
    rw [hadd] at hp
    rcases List.mem_append.mp hp with hp | hp
    · exact hp
    · rw [List.mem_singleton.mp hp] at hne
      exact absurd rfl hne

/-! ### The starts of an activation -/

/-- The last start of an activation has no pipe: the first for a record of the generation `gen` and
the try `t`, or, if the child of the try cannot be made, the next one. -/
def pipeFails (a : Answers) : ℕ → ℕ → ℕ → Bool
  | 0, _, _ => false
  | n + 1, gen, t => decide (gen ≤ FALLBACK_RUN_GENERATION) && (!(a.spawn t).pipeOk ||
      match (a.spawn t).child with
      | .forks _ => false
      | _ => pipeFails a n (gen + 1) (t + 1))

/-- The tries of an activation: so many have failed at once, and then at most one was forked. -/
def outcome (seat : String) (failed forked : ℕ) : List (String × Bool) :=
  List.replicate failed (seat, true) ++ List.replicate forked (seat, false)

theorem count_outcome (s seat : String) (failed forked : ℕ) :
    (outcome seat failed forked).count (s, true) = if s = seat then failed else 0 := by
  unfold outcome
  rw [List.count_append, List.count_replicate, List.count_replicate]
  by_cases hs : s = seat
  · simp [hs]
  · simp [hs, Ne.symm hs]

theorem countP_outcome (s seat : String) (failed forked : ℕ) :
    (outcome seat failed forked).countP (fun p => p.1 == s) =
      if s = seat then failed + forked else 0 := by
  unfold outcome
  rw [List.countP_append, List.countP_replicate, List.countP_replicate]
  by_cases hs : s = seat
  · simp [hs]
  · simp [hs, Ne.symm hs]

/-- **The starts of an activation** from the generation `gen`: `failed` of them have failed at once,
`forked` have made a child, and `noPipe` have made nothing. -/
structure Starts (gen failed forked noPipe : ℕ) : Prop where
  last : forked + noPipe ≤ 1
  bound : failed + forked + noPipe = 0 ∨
    gen + (failed + forked + noPipe) ≤ FALLBACK_RUN_GENERATION + 1

/-- **The starts of an activation are counted**: `run_gen` grows by those that failed at once. -/
def Counts (seat : String) (noPipe : ℕ) (w w' : World) : Prop :=
  ∃ failed forked, Gains seat failed w w' ∧ attempts w' = attempts w ++ outcome seat failed forked ∧
    Starts (generation seat w) failed forked noPipe

theorem Counts.congr {noPipe : ℕ} (h : Counts seat noPipe w w') (hgens : gens w'' = gens w')
    (hattempts : attempts w'' = attempts w') : Counts seat noPipe w w'' := by
  obtain ⟨failed, forked, hgains, htries, hstarts⟩ := h
  exact ⟨failed, forked, hgains.trans (gains_of_gens hgens), by rw [hattempts, htries], hstarts⟩

/-- A record is added before. -/
theorem Counts.after {noPipe : ℕ} (h : Counts seat noPipe w' w'') (hgains : Gains seat 0 w w')
    (htries : w'.tries = w.tries) : Counts seat noPipe w w'' := by
  obtain ⟨failed, forked, hgains', hattempts, hstarts⟩ := h
  have hown := hgains.own
  rw [Nat.add_zero] at hown
  refine ⟨failed, forked, ?_, ?_, ?_⟩
  · have htrans := hgains.trans hgains'
    rwa [Nat.zero_add] at htrans
  · rw [hattempts, attempts, htries, attempts]
  · rwa [hown] at hstarts

/-- Nothing is started. -/
theorem Counts.idle (hgens : gens w' = gens w) (hattempts : attempts w' = attempts w) :
    Counts seat 0 w w' :=
  ⟨0, 0, gains_of_gens hgens, by rw [hattempts]; simp [outcome], by omega, Or.inl rfl⟩

/-- The only start has no pipe. -/
theorem Counts.noPipe (hgen : generation seat w ≤ FALLBACK_RUN_GENERATION) (hgens : gens w' = gens w)
    (hattempts : attempts w' = attempts w) : Counts seat 1 w w' :=
  ⟨0, 0, gains_of_gens hgens, by rw [hattempts]; simp [outcome], by omega, Or.inr (by omega)⟩

theorem Counts.forked (hgen : generation seat w ≤ FALLBACK_RUN_GENERATION)
    (hgens : gens w' = gens w) (hattempts : attempts w' = attempts w ++ [(seat, false)]) :
    Counts seat 0 w w' :=
  ⟨0, 1, gains_of_gens hgens, by rw [hattempts]; rfl, by omega, Or.inr (by omega)⟩

/-- The first start fails at once, and then there are others. -/
theorem Counts.failed {noPipe : ℕ} (hgen : generation seat w ≤ FALLBACK_RUN_GENERATION)
    (hgains : Gains seat 1 w w') (hattempts : attempts w' = attempts w ++ [(seat, true)])
    (h : Counts seat noPipe w' w'') : Counts seat noPipe w w'' := by
  obtain ⟨failed, forked, hgains', htries, hlast, hbound⟩ := h
  have hown := hgains.own
  refine ⟨1 + failed, forked, hgains.trans hgains', ?_, hlast, Or.inr (by omega)⟩
  rw [htries, hattempts, List.append_assoc, Nat.add_comm 1 failed]
  rfl

theorem counts_activateUpTo (a : Answers) : ∀ (n : ℕ) (w : World),
    greeterSession a (recordOf seat w) w = none → greeterSearch seat w ≠ none →
      Counts seat (pipeFails a n (generation seat w) w.tries.length).toNat w
        (greeterActivateUpTo C n a seat w)
  | 0, w, _, _ => Counts.idle rfl rfl
  | n + 1, w, hnone, hsome => by
    have ih := counts_activateUpTo a n
    rcases greeterRecord_cases seat w with ⟨g, r, hrec, hsearch, hg, rfl⟩ | ⟨hmiss, -, -⟩
    swap
    · exact absurd hmiss hsome
    rw [recordOf_eq hsearch hg] at hnone
    have hgeneration := generation_of_get hsearch hg
    simp only [greeterActivateUpTo, hrec, hg, Option.getD_some, greeterStart, hnone, pipeFails,
      hgeneration]
    by_cases hgen : r.runGen ≤ FALLBACK_RUN_GENERATION
    swap
    · rw [if_neg hgen, decide_eq_false hgen, Bool.false_and]
      exact Counts.idle rfl rfl
    have hallowed : generation r.seat w ≤ FALLBACK_RUN_GENERATION := by rwa [hgeneration]
    rw [if_pos hgen, decide_eq_true hgen, Bool.true_and]
    by_cases hpipe : (a.spawn w.tries.length).pipeOk = true
    swap
    · rw [spawnserviceSpawn_pipeFails C (by simpa using hpipe), Bool.eq_false_of_not_eq_true hpipe]
      refine Counts.noPipe hallowed (gens_modGreeter ?_ g w) rfl
      exact fun _ => ⟨rfl, rfl⟩
    rw [hpipe, Bool.not_true, Bool.false_or]
    by_cases hfork : ∃ pid, (a.spawn w.tries.length).child = .forks pid
    · obtain ⟨pid, hchild⟩ := hfork
      rw [spawnserviceSpawn_forks C hpipe hchild, hchild]
      exact Counts.forked hallowed (gens_greeterForked g _) (attempts_forked g _)
    · rw [spawnserviceSpawn_fails C hpipe (not_exists.mp hfork), doneCb_tryFailed C hg]
      generalize decide ((a.spawn w.tries.length).child = .noTty) = noTty
      -- the nested activation is for a record that has been reset
      have hgains := gains_greeterFailed (C := C) noTty hsearch hg
      have hrecord : recordOf r.seat (greeterFailed C noTty g r.seat w) =
          SeatGreeter.runReset { r with runGen := r.runGen + 1 } :=
        recordOf_greeterFailed r.seat hsearch hg
      have hcounts := ih (greeterFailed C noTty g r.seat w)
        (by rw [hrecord]; exact greeterSession_runReset a _)
        (by rw [greeterSearch_congr (seats_greeterFailed C noTty g r.seat w), hsearch]; simp)
      rw [hgains.own, hgeneration, length_greeterFailed] at hcounts
      have hnested := Counts.failed hallowed hgains (attempts_failed noTty g) hcounts
      have hreturned := hnested.congr (gens_greeterReturned g w.tries.length _)
        (attempts_release w.tries.length _)
      cases hchild : (a.spawn w.tries.length).child with
      | forks pid => exact absurd ⟨pid, hchild⟩ hfork
      | noTty => exact hreturned
      | forkFails => exact hreturned

/-- **The starts of an activation that finds no session**, with those for a new record. -/
theorem counts_activate {a : Answers} (hnone : greeterSession a (recordOf seat w) w = none) :
    Counts seat (pipeFails a maxActivate (generation seat w) w.tries.length).toNat w
      (greeterActivate C a seat w) := by
  by_cases hsome : greeterSearch seat w = none
  · have hgains := gains_greeterAdd hsome
    have hrecord : recordOf seat (greeterAdd seat w) = ⟨seat, 0, none, -1, false⟩ :=
      recordOf_eq (greeterSearch_greeterAdd hsome) List.getElem?_concat_length
    have hcounts := counts_activateUpTo (C := C) a maxActivate (greeterAdd seat w)
      (by rw [hrecord]; rfl) (by rw [greeterSearch_greeterAdd hsome]; simp)
    rw [hgains.own, Nat.add_zero] at hcounts
    rw [greeterActivate_greeterAdd C a hsome]
    exact hcounts.after hgains rfl
  · exact counts_activateUpTo a maxActivate w hnone hsome

end Spawny.Daemon.StartCounts
