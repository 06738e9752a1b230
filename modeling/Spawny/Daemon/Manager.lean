import Spawny.Lib.Tombstones
import Spawny.Lib.Descriptors

/-! # manager.c: the descriptor table and the main loop

The table of registered descriptors, and `manager_run` cut into its steps: `select` returns
(`selectReturns`, with the pass over the error set), the read pass looks at one entry after another
(`next` is its index), and the end of the pass flushes the removals that were put off (`endPass`).
An entry whose callback is `NULL` is a tombstone; during a pass nothing is taken out of the table.

What the table stands for is `live`, the registrations with a callback in the order they were made. -/

namespace Spawny.Daemon.Manager

open Spawny.Lib.Tombstones Spawny.Lib.Descriptors

/-- `Fd_Register`: a callback with its data, `none` once unregistered, and a descriptor. -/
structure FdRegister (κ : Type*) where
  cb : Option κ
  fd : ℕ
  deriving DecidableEq, Repr

/-- The static variables of `manager.c`, and the locals of `manager_run` during a pass: the
descriptors that `select` reported readable and the index of the loop over the table. -/
structure FdTable (κ : Type*) where
  fds : List (FdRegister κ)
  changes : ℕ
  readout : Bool
  ready : List ℕ
  next : ℕ
  deriving DecidableEq, Repr

variable {κ : Type*}

/-- An entry that has not been unregistered. -/
def FdRegister.alive (r : FdRegister κ) : Bool := r.cb.isSome

/-- `manager_register_fd`. -/
def FdTable.registerFd (fd : ℕ) (cb : κ) (m : FdTable κ) : FdTable κ :=
  { m with fds := m.fds ++ [⟨some cb, fd⟩] }

/-- `_clear_objects`: takes out the first dead entry only. -/
def clearObjects (fds : List (FdRegister κ)) : List (FdRegister κ) := dropDead FdRegister.alive fds

/-- `manager_unregister_fd`: every entry of the number dies; outside a pass the table is cleared at
once, in a pass the change is counted. -/
def FdTable.unregisterFd (fd : ℕ) (m : FdTable κ) : FdTable κ :=
  let fds := kill (fun r => decide (r.fd = fd)) (fun r => { r with cb := none }) m.fds
  if m.readout then { m with fds := fds, changes := m.changes + 1 }
  else { m with fds := clearObjects fds }

/-- The live registrations, in the order they were made. -/
def FdTable.live (m : FdTable κ) : List (FdRegister κ) := m.fds.filter FdRegister.alive

/-- The descriptors put into the sets for `select`. -/
def FdTable.watched (m : FdTable κ) : List ℕ := m.live.map FdRegister.fd

/-- The pass over the error set: `_error_available` unregisters the descriptor. -/
def FdTable.errorPass (error : List ℕ) (m : FdTable κ) : FdTable κ :=
  m.fds.foldl (fun m r => if r.fd ∈ error then m.unregisterFd r.fd else m) m

/-- `select` returns with some of the watched descriptors; an interrupted `select` returns none. -/
def FdTable.selectReturns (readable error : List ℕ) (m : FdTable κ) : FdTable κ :=
  FdTable.errorPass (error.filter (· ∈ m.watched))
    { m with readout := true, ready := readable.filter (· ∈ m.watched), next := 0 }

/-- The end of the pass: the loop `for (; changes > 0; changes--) _clear_objects()`. -/
def FdTable.endPass (m : FdTable κ) : FdTable κ :=
  { m with fds := clearObjects^[m.changes] m.fds, changes := 0, readout := false, ready := [],
           next := 0 }

/-- `manager_fork_eval`: what it makes of the descriptor table `t` of the process that calls it. -/
def FdTable.forkEval {α : Type*} (m : FdTable κ) (t : List (Option α)) : List (Option α) :=
  (m.fds.map FdRegister.fd).foldl closeSlot t

/-! ### The live registrations -/

theorem FdTable.mem_live {m : FdTable κ} {r : FdRegister κ} :
    r ∈ m.live ↔ r ∈ m.fds ∧ r.alive = true := List.mem_filter

@[simp] theorem FdTable.live_registerFd (fd : ℕ) (cb : κ) (m : FdTable κ) :
    (m.registerFd fd cb).live = m.live ++ [⟨some cb, fd⟩] := by
  simp [live, registerFd, FdRegister.alive, List.filter_append]

/-- **Unregistering** removes the live registrations of the number, in a pass or outside of one. -/
@[simp] theorem FdTable.live_unregisterFd (fd : ℕ) (m : FdTable κ) :
    (m.unregisterFd fd).live = m.live.filter fun r => !decide (r.fd = fd) := by
  have hdead : ∀ r : FdRegister κ, FdRegister.alive (⟨none, r.fd⟩ : FdRegister κ) = false :=
    fun _ => rfl
  unfold live unregisterFd clearObjects
  split_ifs
  · exact filter_kill hdead m.fds
  · rw [filter_dropDead]
    exact filter_kill hdead m.fds

@[simp] theorem FdTable.live_endPass (m : FdTable κ) : m.endPass.live = m.live :=
  filter_iterate_dropDead _ _

theorem FdTable.mem_live_unregisterFd {fd : ℕ} {m : FdTable κ} {r : FdRegister κ} :
    r ∈ (m.unregisterFd fd).live ↔ r ∈ m.live ∧ r.fd ≠ fd := by simp

/-- The error pass only removes registrations. -/
theorem FdTable.live_errorPass_subset (error : List ℕ) (m : FdTable κ) :
    ∀ r ∈ (m.errorPass error).live, r ∈ m.live := by
  unfold errorPass
  suffices h : ∀ (l : List (FdRegister κ)) (m' : FdTable κ), (∀ r ∈ m'.live, r ∈ m.live) →
      ∀ r ∈ (l.foldl (fun m r => if r.fd ∈ error then m.unregisterFd r.fd else m) m').live,
        r ∈ m.live from h m.fds m fun _ hr => hr
  intro l
  induction l with
  | nil => exact fun _ h => h
  | cons e l ih =>
    intro m' h
    refine ih _ ?_
    dsimp only
    split_ifs
    · exact fun r hr => h r (mem_live_unregisterFd.mp hr).1
    · exact h

theorem FdTable.live_selectReturns_subset (readable error : List ℕ) (m : FdTable κ) :
    ∀ r ∈ (m.selectReturns readable error).live, r ∈ m.live :=
  live_errorPass_subset _ _

end Spawny.Daemon.Manager
