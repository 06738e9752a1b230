import Spawny.Daemon.ManagerRuns

/-! # manager.c: which registration a pass calls

`select` reports descriptors, and the read pass goes by them: an entry is called if its number is in
the set `fds_read`, whichever registration has the number by then. The loop comes to the entries that
were added during the pass, too, since it reads the length of the table each time.

* `Dispatched`: every call goes to a registration that was in the set given to the last `select`, and
  whose number was reported;
* `dispatched_throughout`: this holds as long as no callback leaves a new registration of a number
  that `select` reported in this pass;
* `dispatched_recycled`: the first callback closes its descriptor, the second one gets the number for
  a pipe, and the pass reads from the pipe at once. -/

namespace Spawny.Daemon.Dispatch

open Spawny.Lib.History Spawny.Lib.Runs Spawny.Daemon.Manager Spawny.Daemon.ManagerRuns

/-! ### The property -/

/-- A call is of a registration that was there when the pass began, and was reported readable. -/
def dispatchOk (log : List Item) : Item → Prop
  | .call id fd => ∃ pre ready mid, log = pre ++ .pass ready :: mid ∧
      (∀ it ∈ mid, ¬ it.IsPass ∧ it ≠ .finish) ∧ ⟨some id, fd⟩ ∈ registered pre ∧ fd ∈ ready
  | _ => True

/-- **Only what was given to `select` and reported readable has been called.** -/
def Dispatched (s : ManagerRun) : Prop := Holds dispatchOk s.log

/-! ### The condition -/

/-- A registration of `fd` is left by these operations: made, and not taken back by them. -/
def Leaves (fd : ℕ) : List ManagerOp → Prop
  | [] => False
  | .register fd' :: acts => (fd' = fd ∧ .unregister fd ∉ acts) ∨ Leaves fd acts
  | .unregister _ :: acts => Leaves fd acts

instance Leaves.decidable (fd : ℕ) : ∀ acts : List ManagerOp, Decidable (Leaves fd acts)
  | [] => isFalse id
  | .register fd' :: acts =>
    have := Leaves.decidable fd acts
    inferInstanceAs (Decidable ((fd' = fd ∧ .unregister fd ∉ acts) ∨ Leaves fd acts))
  | .unregister _ :: acts => Leaves.decidable fd acts

/-- The callback that is called now leaves no registration of a number that `select` reported. -/
def Spares (s : ManagerRun) : ManagerEvent → Prop
  | .look acts => ∀ r ∈ s.table.fds[s.table.next]?, r.alive = true → r.fd ∈ s.table.ready →
      ∀ fd ∈ s.table.ready, ¬ Leaves fd acts
  | _ => True

instance (s : ManagerRun) (e : ManagerEvent) : Decidable (Spares s e) := by
  unfold Spares
  split <;> infer_instance

theorem not_leaves_unregister (fd : ℕ) (gone : List ℕ) :
    ¬ Leaves fd (gone.map ManagerOp.unregister) := by
  induction gone with
  | nil => exact id
  | cons _ gone ih => exact ih

/-! ### What operations on the table do -/

/-- The item of a call of `manager_register_fd` or `manager_unregister_fd`. -/
def IsOp : Item → Prop
  | .register _ _ => True
  | .unregister _ => True
  | _ => False

theorem IsOp.inPass {it : Item} (h : IsOp it) : ¬ it.IsPass ∧ it ≠ .finish := by
  cases it <;> simp_all [IsOp, Item.IsPass]

theorem IsOp.dispatchOk {it : Item} (h : IsOp it) (log : List Item) : dispatchOk log it := by
  cases it with
  | call id fd => exact h.elim
  | _ => trivial

variable {s : ManagerRun}

theorem live_op (o : ManagerOp) (h : s.table.live = registered s.log) :
    (s.op o).table.live = registered (s.op o).log := by
  cases o with
  | register fd =>
    dsimp only [ManagerRun.op]
    rw [FdTable.live_registerFd, h, registered_append]
    rfl
  | unregister fd =>
    dsimp only [ManagerRun.op]
    rw [FdTable.live_unregisterFd, h, registered_append]
    rfl

theorem live_ops (acts : List ManagerOp) (h : s.table.live = registered s.log) :
    (acts.foldl ManagerRun.op s).table.live = registered (acts.foldl ManagerRun.op s).log := by
  induction acts generalizing s with
  | nil => exact h
  | cons o acts ih => exact ih (live_op o h)

/-- The record grows by the operations. -/
theorem log_ops (acts : List ManagerOp) : ∃ items : List Item,
    (acts.foldl ManagerRun.op s).log = s.log ++ items ∧ ∀ it ∈ items, IsOp it := by
  induction acts generalizing s with
  | nil => exact ⟨[], (List.append_nil _).symm, by simp⟩
  | cons o acts ih =>
    obtain ⟨items, hlog, hitems⟩ := ih (s := s.op o)
    cases o with
    | register fd =>
      refine ⟨.register s.made fd :: items, ?_, List.forall_mem_cons.mpr ⟨trivial, hitems⟩⟩
      rw [List.foldl_cons, hlog]
      exact List.append_assoc _ _ _
    | unregister fd =>
      refine ⟨.unregister fd :: items, ?_, List.forall_mem_cons.mpr ⟨trivial, hitems⟩⟩
      rw [List.foldl_cons, hlog]
      exact List.append_assoc _ _ _

@[simp] theorem readout_ops (acts : List ManagerOp) :
    (acts.foldl ManagerRun.op s).table.readout = s.table.readout := by
  induction acts generalizing s with
  | nil => rfl
  | cons o acts ih =>
    rw [List.foldl_cons, ih]
    cases o with
    | register fd => rfl
    | unregister fd => exact readout_unregister fd s.table

@[simp] theorem ready_ops (acts : List ManagerOp) :
    (acts.foldl ManagerRun.op s).table.ready = s.table.ready := by
  induction acts generalizing s with
  | nil => rfl
  | cons o acts ih =>
    rw [List.foldl_cons, ih]
    cases o with
    | register fd => rfl
    | unregister fd =>
      dsimp only [ManagerRun.op, FdTable.unregisterFd]
      split_ifs <;> rfl

/-- **What is live afterwards** was live before and not unregistered, or was left. -/
theorem mem_live_ops {acts : List ManagerOp} {r : FdRegister ℕ}
    (hr : r ∈ (acts.foldl ManagerRun.op s).table.live) :
    (r ∈ s.table.live ∧ .unregister r.fd ∉ acts) ∨ Leaves r.fd acts := by
  induction acts generalizing s with
  | nil => exact Or.inl ⟨hr, List.not_mem_nil⟩
  | cons o acts ih =>
    rcases ih hr with ⟨hmem, hnot⟩ | hleaves
    · cases o with
      | register fd =>
        dsimp only [ManagerRun.op] at hmem
        rw [FdTable.live_registerFd] at hmem
        rcases List.mem_append.mp hmem with hmem | hmem
        · exact Or.inl ⟨hmem, by simpa using hnot⟩
        · obtain rfl := List.mem_singleton.mp hmem
          exact Or.inr (Or.inl ⟨rfl, hnot⟩)
      | unregister fd =>
        obtain ⟨hmem, hne⟩ := FdTable.mem_live_unregisterFd.mp hmem
        refine Or.inl ⟨hmem, ?_⟩
        rintro (_ | ⟨_, h⟩)
        · exact hne rfl
        · exact hnot h
    · cases o with
      | register fd => exact Or.inr (Or.inr hleaves)
      | unregister fd => exact Or.inr hleaves

/-! ### The invariant -/

/-- A pass is going on since `pre`: every live registration with a number that was reported is one
that was given to `select`. -/
structure Given (s : ManagerRun) (pre mid : List Item) : Prop where
  log : s.log = pre ++ .pass s.table.ready :: mid
  inner : ∀ it ∈ mid, ¬ it.IsPass ∧ it ≠ .finish
  given : ∀ r ∈ s.table.live, r.fd ∈ s.table.ready → r ∈ registered pre

/-- **The invariant.** -/
structure Fresh (s : ManagerRun) : Prop where
  live : s.table.live = registered s.log
  pass : s.table.readout = true → ∃ pre mid, Given s pre mid
  ok : Dispatched s

theorem fresh_start : Fresh ManagerRun.start where
  live := rfl
  pass h := by cases h
  ok := holds_nil

theorem dispatched_ops {l items : List Item} (h : Holds dispatchOk l)
    (hitems : ∀ it ∈ items, IsOp it) : Holds dispatchOk (l ++ items) := by
  induction items generalizing l with
  | nil => rwa [List.append_nil]
  | cons it items ih =>
    obtain ⟨hit, hitems⟩ := List.forall_mem_cons.mp hitems
    rw [← List.singleton_append, ← List.append_assoc]
    exact ih (holds_append.mpr ⟨h, hit.dispatchOk l⟩) hitems

/-- Operations that leave no registration of a reported number. -/
theorem Fresh.ops (hs : Fresh s) {acts : List ManagerOp}
    (hacts : s.table.readout = true → ∀ fd ∈ s.table.ready, ¬ Leaves fd acts) :
    Fresh (acts.foldl ManagerRun.op s) := by
  obtain ⟨items, hlog, hitems⟩ := log_ops (s := s) acts
  refine ⟨live_ops acts hs.live, fun hread => ?_, ?_⟩
  · rw [readout_ops] at hread
    obtain ⟨pre, mid, h⟩ := hs.pass hread
    refine ⟨pre, mid ++ items, ?_, ?_, ?_⟩
    · rw [hlog, ready_ops, h.log, List.append_assoc, List.cons_append]
    · intro it hit
      rcases List.mem_append.mp hit with hit | hit
      · exact h.inner it hit
      · exact (hitems it hit).inPass
    · intro r hr hready
      rw [ready_ops] at hready
      rcases mem_live_ops hr with ⟨hr, -⟩ | hleaves
      · exact h.given r hr hready
      · exact absurd hleaves (hacts hread r.fd hready)
  · unfold Dispatched
    rw [hlog]
    exact dispatched_ops hs.ok hitems

/-- A pass begins. -/
theorem Fresh.select (hs : Fresh s) (readable error : List ℕ) : Fresh (s.select readable error) := by
  obtain ⟨gone, heq⟩ := s.select_eq readable error
  rw [heq]
  refine Fresh.ops ⟨?_, fun _ => ⟨s.log, [], rfl, by simp, ?_⟩, ?_⟩
    fun _ fd _ => not_leaves_unregister fd gone
  · dsimp only
    rw [registered_append]
    exact hs.live
  · intro r hr _
    rw [← hs.live]
    exact hr
  · exact holds_append.mpr ⟨hs.ok, trivial⟩

/-- The loop passes an entry. -/
theorem Fresh.skip (hs : Fresh s) :
    Fresh { s with table := { s.table with next := s.table.next + 1 } } where
  live := hs.live
  pass hread := by
    obtain ⟨pre, mid, h⟩ := hs.pass hread
    exact ⟨pre, mid, h.log, h.inner, h.given⟩
  ok := hs.ok

/-- **A callback is called**: the registration was given to `select`. -/
theorem Fresh.call (hs : Fresh s) (hread : s.table.readout = true) {id fd : ℕ}
    (hr : ⟨some id, fd⟩ ∈ s.table.live) (hready : fd ∈ s.table.ready) :
    Fresh { s with
      table := { s.table with next := s.table.next + 1 }
      log := s.log ++ [.call id fd] } := by
  obtain ⟨pre, mid, h⟩ := hs.pass hread
  refine ⟨?_, fun _ => ⟨pre, mid ++ [.call id fd], ?_, ?_, h.given⟩, ?_⟩
  · dsimp only
    rw [registered_append]
    exact hs.live
  · dsimp only
    rw [h.log, List.append_assoc, List.cons_append]
  · intro it hit
    rcases List.mem_append.mp hit with hit | hit
    · exact h.inner it hit
    · rw [List.mem_singleton.mp hit]
      simp [Item.IsPass]
  · have hcall : dispatchOk s.log (.call id fd) :=
      ⟨pre, s.table.ready, mid, h.log, h.inner, h.given _ hr hready, hready⟩
    exact holds_append.mpr ⟨hs.ok, hcall⟩

theorem Fresh.look (hs : Fresh s) (hread : s.table.readout = true) {r : FdRegister ℕ}
    (hr : s.table.fds[s.table.next]? = some r) {acts : List ManagerOp}
    (hacts : r.alive = true → r.fd ∈ s.table.ready → ∀ fd ∈ s.table.ready, ¬ Leaves fd acts) :
    Fresh (s.look r acts) := by
  obtain ⟨cb, fd⟩ := r
  cases cb with
  | none => exact hs.skip
  | some id =>
    unfold ManagerRun.look
    dsimp only
    split_ifs with hready
    · have hlive : ⟨some id, fd⟩ ∈ s.table.live :=
        FdTable.mem_live.mpr ⟨List.mem_of_getElem? hr, rfl⟩
      exact (hs.call hread hlive hready).ops fun _ => hacts rfl hready
    · exact hs.skip

theorem Fresh.finish (hs : Fresh s) :
    Fresh { s with table := s.table.endPass, log := s.log ++ [.finish] } where
  live := by
    dsimp only
    rw [FdTable.live_endPass, registered_append]
    exact hs.live
  pass h := by cases h
  ok := holds_append.mpr ⟨hs.ok, trivial⟩

/-- **The steps keep the invariant.** -/
theorem Fresh.step (s : ManagerRun) (e : ManagerEvent) (hs : Fresh s) (he : Spares s e) :
    Fresh (s.step e) := by
  cases e with
  | op o =>
    dsimp only [ManagerRun.step]
    split_ifs with hread
    · have hidle : s.table.readout = true → ∀ fd ∈ s.table.ready, ¬ Leaves fd [o] := by
        intro h
        rw [hread] at h
        cases h
      exact hs.ops hidle
    · exact hs
  | select readable error =>
    dsimp only [ManagerRun.step]
    split_ifs
    · exact hs.select readable error
    · exact hs
  | look acts =>
    dsimp only [ManagerRun.step]
    split_ifs with hread
    · cases hr : s.table.fds[s.table.next]? with
      | none => exact hs
      | some r => exact hs.look hread hr (he r hr)
    · exact hs
  | finish =>
    dsimp only [ManagerRun.step]
    split_ifs
    · exact hs.finish
    · exact hs

/-- **Calls reach the registration that was ready**, in every state of a run whose callbacks leave no
registration of a number that was reported in the same pass. -/
theorem dispatched_throughout {es : List ManagerEvent}
    (h : Meets ManagerRun.step Spares ManagerRun.start es) :
    Throughout ManagerRun.step Dispatched ManagerRun.start es :=
  Meets.throughout Fresh.step (fun _ hs => hs.ok) es ManagerRun.start h fresh_start

/-- A callback may register the number of one that is gone, if it was not reported, and a reported
one for itself only. -/
theorem dispatched_throughout_reuse : Throughout ManagerRun.step Dispatched ManagerRun.start
    [.op (.register 4), .op (.register 5), .op (.register 6), .select [4, 5] [],
      .look [.unregister 6, .register 6], .look [.unregister 4, .register 4, .unregister 4],
      .look [], .look [], .finish, .select [6] [], .look [], .look []] :=
  dispatched_throughout (by decide)

/-- Two clients are readable. The first one has hung up, and is released; the second one asks for a
greeter, whose pipe gets the number. The pass comes to the entry of the pipe, and calls it. -/
theorem dispatched_recycled : ¬ Dispatched (run ManagerRun.step ManagerRun.start
    [.op (.register 4), .op (.register 5), .select [4, 5] [], .look [.unregister 4],
      .look [.register 4], .look []]) := by
  intro h
  have hlog : (run ManagerRun.step ManagerRun.start
      [.op (.register 4), .op (.register 5), .select [4, 5] [], .look [.unregister 4],
        .look [.register 4], .look []]).log =
      [.register 0 4, .register 1 5] ++ .pass [4, 5] ::
        [.call 0 4, .unregister 4, .call 1 5, .register 2 4] ++ [.call 2 4] := by decide
  unfold Dispatched at h
  rw [hlog] at h
  obtain ⟨pre, ready, mid, heq, hmid, hmem, -⟩ := (holds_append.mp h).2
  obtain ⟨rfl, -, -⟩ := append_cons_inj (Item.isPass_pass _) (Item.isPass_pass _)
    (by simp [Item.IsPass]) (fun it hit => (hmid it hit).1) heq
  exact absurd hmem (by decide)

end Spawny.Daemon.Dispatch
