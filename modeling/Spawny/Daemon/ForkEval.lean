import Spawny.Daemon.Forks
import Spawny.Daemon.Activation
import Spawny.Daemon.Trace
import Spawny.Protocol.Encoding

/-! # Which descriptors a child has

A child starts with the descriptors of the daemon and closes those in the descriptor table
(`manager_fork_eval`), entries that are dead included. A dead entry may have a number that is in use
again, also that of the pipe which was made for the child.

* `lookup_forkEval`: what is open in the child;
* `closesOwn_iff`: when the child closes nothing but what the daemon watches, and keeps its pipe;
* `forkEval_iff`: **the same for every fork of every run**;
* `messages_lost`: two clients are gone in the pass in which a third asks for a greeter. -/

namespace Spawny.Daemon.ForkEval

open Spawny.Lib.Wire Spawny.Lib.Descriptors Spawny.Lib.Runs Spawny.Protocol Spawny.Protocol.Messages
open Spawny.Daemon.Manager Spawny.Daemon.SpawnRegistry
open Spawny.Daemon.SessionMgt Spawny.Daemon.State Spawny.Daemon.SpawnService
open Spawny.Daemon.GreeterTable Spawny.Daemon.Client Spawny.Daemon.Greeter Spawny.Daemon.Activations
open Spawny.Daemon.Server Spawny.Daemon.SafeCalls Spawny.Daemon.Loop Spawny.Daemon.Steps
open Spawny.Daemon.Activation Spawny.Daemon.Trace Spawny.Daemon.TryLife
open Spawny.Daemon.WatchedFds Spawny.Daemon.Forks

variable {C : FieldCode SpawnField} {w : World}

/-! ### The child -/

/-- The number of the write end of the pipe that a spawn called in `w` makes. -/
def newWriteFd (w : World) : ℕ := lowestFree (w.openFd (.pipeRead w.tries.length)).fdtab

/-- The descriptors of the child after `manager_fork_eval`. -/
def childFdtab (w : World) (req : SpawnRequest) : List (Option FdObj) :=
  (openTry req w).fds.forkEval (openTry req w).fdtab

/-- **What the child closes**: only descriptors of live registrations, and not the write end of its own
pipe. -/
structure ClosesOwn (w : World) (req : SpawnRequest) : Prop where
  live : ∀ n, lookup (openTry req w).fdtab n ≠ none → lookup (childFdtab w req) n = none →
    n ∈ (openTry req w).fds.watched
  pipe : lookup (childFdtab w req) ((openTry req w).tryAt w.tries.length).writeFd =
    some (.pipeWrite w.tries.length)

/-- The number of a dead entry is not open, or it is watched too; and `pipe` does not return it. -/
def DeadClosed (w : World) : Prop :=
  ∀ r ∈ w.fds.fds, r.alive = false → r.fd ∉ w.fds.watched →
    lookup w.fdtab r.fd = none ∧ r.fd ≠ lowestFree w.fdtab ∧ r.fd ≠ newWriteFd w

theorem lookup_openTry (req : SpawnRequest) (w : World) (n : ℕ) : lookup (openTry req w).fdtab n =
    if n = newWriteFd w then some (.pipeWrite w.tries.length)
    else if n = lowestFree w.fdtab then some (.pipeRead w.tries.length) else lookup w.fdtab n := by
  refine (lookup_open _ _ n).trans ?_
  rw [World.openFd_fdtab, lookup_open]
  rfl

theorem lookup_forkEval (req : SpawnRequest) (w : World) (n : ℕ) : lookup (childFdtab w req) n =
    if n ∈ w.fds.fds.map FdRegister.fd then none else lookup (openTry req w).fdtab n := by
  rw [childFdtab, FdTable.forkEval, lookup_foldl_close, fds_openTry]

theorem lookup_newWriteFd (w : World) : lookup w.fdtab (newWriteFd w) = none := by
  have hnone := lookup_lowestFree (w.openFd (.pipeRead w.tries.length)).fdtab
  rw [World.openFd_fdtab, lookup_open] at hnone
  split_ifs at hnone
  exact hnone

/-- What is watched is open, so it is not a number that `pipe` returns. -/
theorem not_watched_of_free (h : WatchedOpen w) {n : ℕ} (hfree : lookup w.fdtab n = none) :
    n ∉ w.fds.watched := by
  intro hn
  obtain ⟨r, hr, rfl⟩ := List.mem_map.mp hn
  exact h r hr hfree

theorem dead_or_watched {n : ℕ} (hn : n ∈ w.fds.fds.map FdRegister.fd) :
    n ∈ w.fds.watched ∨ ∃ r ∈ w.fds.fds, r.alive = false ∧ r.fd = n := by
  obtain ⟨r, hr, rfl⟩ := List.mem_map.mp hn
  cases halive : r.alive with
  | true => exact Or.inl (List.mem_map_of_mem (FdTable.mem_live.mpr ⟨hr, halive⟩))
  | false => exact Or.inr ⟨r, hr, halive, rfl⟩

/-- **The pipe of the child** is closed exactly if a dead entry has the number of its write end. -/
theorem writeEnd_open_iff (h : WatchedOpen w) (req : SpawnRequest) :
    lookup (childFdtab w req) (newWriteFd w) = some (.pipeWrite w.tries.length) ↔
      ∀ r ∈ w.fds.fds, r.alive = false → r.fd ≠ newWriteFd w := by
  rw [lookup_forkEval, lookup_openTry, if_pos rfl]
  constructor
  · intro hopen r hr _ hfd
    rw [if_pos (hfd ▸ List.mem_map_of_mem hr)] at hopen
    cases hopen
  · intro hdead
    refine if_neg fun hn => ?_
    rcases dead_or_watched hn with hwatched | ⟨r, hr, halive, hfd⟩
    · exact not_watched_of_free h (lookup_newWriteFd w) hwatched
    · exact hdead r hr halive hfd

/-- **When the child closes its own descriptors only.** -/
theorem closesOwn_iff (h : WatchedOpen w) (req : SpawnRequest) : ClosesOwn w req ↔ DeadClosed w := by
  have hwrite : ((openTry req w).tryAt w.tries.length).writeFd = newWriteFd w := by
    rw [tryAt_openTry]
    rfl
  have hwatched : (openTry req w).fds.watched = w.fds.watched := by rw [fds_openTry]
  constructor
  · intro hclose r hr halive hnot
    have hfd : lookup (childFdtab w req) r.fd = none := by
      rw [lookup_forkEval, if_pos (List.mem_map_of_mem hr)]
    have hnone : lookup (openTry req w).fdtab r.fd = none := by
      by_contra hopen
      exact hnot (hwatched ▸ hclose.live r.fd hopen hfd)
    rw [lookup_openTry] at hnone
    split_ifs at hnone with hw hr'
    exact ⟨hnone, hr', hw⟩
  · intro hdead
    refine ⟨fun n hopen hclosed => ?_, ?_⟩
    · rw [lookup_forkEval] at hclosed
      split_ifs at hclosed with hn
      · rw [hwatched]
        by_contra hnot
        rcases dead_or_watched hn with hmem | ⟨r, hr, halive, rfl⟩
        · exact hnot hmem
        · obtain ⟨hfree, hread, hwrite'⟩ := hdead r hr halive hnot
          rw [lookup_openTry, if_neg hwrite', if_neg hread] at hopen
          exact hopen hfree
      · exact absurd hclosed hopen
    · rw [hwrite, writeEnd_open_iff h]
      intro r hr halive hfd
      have hnot := not_watched_of_free h (lookup_newWriteFd w)
      exact (hdead r hr halive (hfd ▸ hnot)).2.2 hfd

/-! ### Runs -/

theorem mem_spawned {os : List Obs} {t : ℕ} : t ∈ spawned os ↔ .spawned t ∈ os := by
  unfold spawned
  rw [List.mem_filterMap]
  constructor
  · rintro ⟨o, ho, hmatch⟩
    cases o <;> simp at hmatch
    exact hmatch ▸ ho
  · exact fun ho => ⟨_, ho, rfl⟩

/-- A fork that is recorded is that of the call. -/
theorem forking_of_spawned (hlife : Life none w) {e : Event} {t : ℕ}
    (ht : .spawned t ∈ since w (step C w e)) :
    ∃ s, forking C w e = some s ∧ s.1.tries.length = t := by
  have hspawned := spawned_step (C := C) hlife e
  obtain ⟨os, hos⟩ := trace_step (C := C) w e
  rw [since_append hos.symm, ← mem_spawned] at ht
  unfold Spawned at hspawned
  rw [← hos, spawned_append] at hspawned
  rw [List.append_cancel_left hspawned] at ht
  obtain ⟨s, hs, hlen⟩ := List.mem_map.mp ht
  exact ⟨s, Option.mem_toList.mp hs, hlen⟩

/-- **What the child closes**, for every fork in a step of a run. -/
theorem forkEval_iff (debug : Bool) (templates : List Template) (es : List Event) (e : Event) (t : ℕ)
    (ht : .spawned t ∈ since (run (step C) (World.start debug templates) es)
      (step C (run (step C) (World.start debug templates) es) e)) :
    ∃ s, forking C (run (step C) (World.start debug templates) es) e = some s ∧
      s.1.tries.length = t ∧ (ClosesOwn s.1 s.2 ↔ DeadClosed s.1) := by
  obtain ⟨hlife, hwatched⟩ := run_induction (I := fun w => Life none w ∧ WatchedOpen w)
    (fun _ e h => ⟨life_step h.1, watched_step (e := e) h.2⟩) es _
    ⟨life_start debug templates, watched_start debug templates⟩
  obtain ⟨s, hs, hlen⟩ := forking_of_spawned hlife ht
  exact ⟨s, hs, hlen, closesOwn_iff (watched_forking hwatched hs) s.2⟩

/-- Three clients have connected, and the first two are gone when a pass has come to the third. -/
def twoGone : List Event :=
  connects ++ connects ++ connects ++ .select [4, 5, 6] [] :: List.replicate 3 (.next Answers.plain)

/-- A client asks for a greeter. -/
def asksForGreeter : Event := .next { Answers.plain with input := .msg ⟨.greeterStart, none, none⟩ }

/-- A client has connected, and a pass has come to it. -/
def oneConnected : List Event := connects ++ [.select [4] [], .next Answers.plain]

set_option maxRecDepth 4000 in
/-- With no dead entry the child closes its own descriptors only. -/
theorem forkEval_oneConnected : ∃ s,
    forking Encoding.spawnCode (run (step Encoding.spawnCode) (World.start false []) oneConnected)
      asksForGreeter = some s ∧ s.1.tries.length = 0 ∧ (ClosesOwn s.1 s.2 ↔ DeadClosed s.1) :=
  forkEval_iff false [] oneConnected asksForGreeter 0 (by decide)

/-- The call that forks when the third client asks for a greeter. -/
def thirdCall : SpawnCall :=
  (greeterAdd "seat0" (advance (run (step Encoding.spawnCode) (World.start false []) twoGone)),
    greeterRequest 0 "seat0")

set_option maxRecDepth 4000 in
/-- **The messages of the child are lost**: `pipe` returns the descriptors of the two clients that are gone,
and the child closes both. -/
theorem messages_lost :
    forking Encoding.spawnCode (run (step Encoding.spawnCode) (World.start false []) twoGone)
      asksForGreeter = some thirdCall ∧
    lookup (childFdtab thirdCall.1 thirdCall.2) (newWriteFd thirdCall.1) = none ∧
    ¬ClosesOwn thirdCall.1 thirdCall.2 := by
  have hclosed : lookup (childFdtab thirdCall.1 thirdCall.2) (newWriteFd thirdCall.1) = none := by
    decide
  have hwrite : ((openTry thirdCall.2 thirdCall.1).tryAt thirdCall.1.tries.length).writeFd =
      newWriteFd thirdCall.1 := rfl
  refine ⟨rfl, hclosed, fun h => ?_⟩
  have hpipe := h.pipe
  rw [hwrite, hclosed] at hpipe
  cases hpipe

end Spawny.Daemon.ForkEval
