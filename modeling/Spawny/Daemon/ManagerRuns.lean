import Mathlib.Data.List.Infix
import Spawny.Lib.History
import Spawny.Lib.Runs
import Spawny.Daemon.Manager

/-! # manager.c: runs with arbitrary callbacks

The descriptor table on its own: any number of turns of `manager_run`, with callbacks that register
and unregister as they please. A registration is known by its number, which stands for its callback
and data. What happens is recorded, and `registered` replays the record.

* `ManagerRun.Good.step`: the steps keep the invariant: there are never more dead entries than put
  off changes, and what is not yet called in a pass is still ahead of the loop;
* `manager_spec`: **each readable registration is called once, in the order of registration, unless it
  is unregistered before its turn, and after the pass the table holds the registrations.** -/

namespace Spawny.Daemon.ManagerRuns

open Spawny.Lib.Tombstones Spawny.Lib.History Spawny.Lib.Runs Spawny.Daemon.Manager

/-! ### The steps of manager_run -/

/-- What callbacks do with the table. -/
inductive ManagerOp
  | register (fd : ℕ)
  | unregister (fd : ℕ)
  deriving DecidableEq

/-- A call from outside of a pass; `select` returns; the read pass looks at the next entry, whose
callback, if it is called, does `acts`; the pass ends. -/
inductive ManagerEvent
  | op (o : ManagerOp)
  | select (readable error : List ℕ)
  | look (acts : List ManagerOp)
  | finish
  deriving DecidableEq

/-- What is recorded: calls of `manager_register_fd` and `manager_unregister_fd` (those of
`_error_available` too), a pass begins with the read bits `ready`, a callback is called, and the pass
ends. -/
inductive Item
  | register (id fd : ℕ)
  | unregister (fd : ℕ)
  | pass (ready : List ℕ)
  | call (id fd : ℕ)
  | finish
  deriving DecidableEq

/-- The table, the number of registrations made, and the record. -/
structure ManagerRun where
  table : FdTable ℕ
  made : ℕ
  log : List Item
  deriving DecidableEq

def ManagerRun.start : ManagerRun where
  table := { fds := [], changes := 0, readout := false, ready := [], next := 0 }
  made := 0
  log := []

def ManagerRun.op (s : ManagerRun) : ManagerOp → ManagerRun
  | .register fd =>
    { table := s.table.registerFd fd s.made, made := s.made + 1,
      log := s.log ++ [.register s.made fd] }
  | .unregister fd =>
    { s with table := s.table.unregisterFd fd, log := s.log ++ [.unregister fd] }

/-- `select` returns, and the loop over the error set. -/
def ManagerRun.select (s : ManagerRun) (readable error : List ℕ) : ManagerRun :=
  let ready := readable.filter (· ∈ s.table.watched)
  let error := error.filter (· ∈ s.table.watched)
  s.table.fds.foldl (fun s r => if r.fd ∈ error then s.op (.unregister r.fd) else s)
    { s with
      table := { s.table with readout := true, ready := ready, next := 0 }
      log := s.log ++ [.pass ready] }

/-- One round of the loop over the read set. -/
def ManagerRun.look (s : ManagerRun) (r : FdRegister ℕ) (acts : List ManagerOp) : ManagerRun :=
  -- a callback does not see the index
  let s' := { s with table := { s.table with next := s.table.next + 1 } }
  match r.cb with
  | none => s'
  | some id =>
    if r.fd ∈ s.table.ready then
      acts.foldl ManagerRun.op { s' with log := s.log ++ [.call id r.fd] }
    else s'

/-- The steps; a step that is not possible changes nothing. -/
def ManagerRun.step (s : ManagerRun) : ManagerEvent → ManagerRun
  | .op o => if s.table.readout = false then s.op o else s
  | .select readable error => if s.table.readout = false then s.select readable error else s
  | .look acts =>
    if s.table.readout = true then
      match s.table.fds[s.table.next]? with
      | none => s
      | some r => s.look r acts
    else s
  | .finish =>
    if s.table.readout = true ∧ s.table.fds.length ≤ s.table.next then
      { s with table := s.table.endPass, log := s.log ++ [.finish] }
    else s

/-- The pass over the error set is that of `FdTable.selectReturns`. -/
theorem ManagerRun.table_select (s : ManagerRun) (readable error : List ℕ) :
    (s.select readable error).table = s.table.selectReturns readable error := by
  unfold select FdTable.selectReturns FdTable.errorPass
  generalize error.filter (· ∈ s.table.watched) = error
  generalize readable.filter (· ∈ s.table.watched) = ready
  suffices h : ∀ (l : List (FdRegister ℕ)) (s' : ManagerRun),
      (l.foldl (fun s r => if r.fd ∈ error then s.op (.unregister r.fd) else s) s').table =
        l.foldl (fun m r => if r.fd ∈ error then m.unregisterFd r.fd else m) s'.table from
    h s.table.fds { s with table := _, log := _ }
  intro l
  induction l with
  | nil => exact fun _ => rfl
  | cons r l ih =>
    intro s'
    rw [List.foldl_cons, List.foldl_cons, ih]
    split_ifs <;> rfl

/-! ### What the record says -/

/-- The registrations after one more item. -/
def replay (l : List (FdRegister ℕ)) : Item → List (FdRegister ℕ)
  | .register id fd => l ++ [⟨some id, fd⟩]
  | .unregister fd => l.filter fun r => !decide (r.fd = fd)
  | .pass _ => l
  | .call _ _ => l
  | .finish => l

/-- **The live registrations**, in the order they were made. -/
def registered (log : List Item) : List (FdRegister ℕ) := log.foldl replay []

/-- The number of registrations made. -/
def registrations (log : List Item) : ℕ :=
  log.foldl (fun n it => match it with
    | .register _ _ => n + 1
    | _ => n) 0

/-- **Live registrations always have distinct descriptors.** -/
def Distinct (log : List Item) : Prop :=
  ∀ pre ∈ log.inits, ((registered pre).map FdRegister.fd).Nodup

instance (log : List Item) : Decidable (Distinct log) := by
  unfold Distinct
  infer_instance

/-- An item that is a beginning of a pass. -/
def Item.IsPass : Item → Prop
  | .pass _ => True
  | _ => False

theorem Item.isPass_pass (ready : List ℕ) : (Item.pass ready).IsPass :=
  trivial

/-- In the items `mid` the registration was called, or it was unregistered before its turn: when
only earlier registrations had been called. -/
def Served (mid : List Item) (id fd : ℕ) : Prop :=
  .call id fd ∈ mid ∨ ∃ before after, mid = before ++ .unregister fd :: after ∧
    ∀ id' fd', .call id' fd' ∈ before → id' < id

/-- What has to be true when an item is recorded. -/
def itemOk (log : List Item) : Item → Prop
  | .register id _ => id = registrations log
  | .call id fd => ⟨some id, fd⟩ ∈ registered log ∧
      ∃ pre ready mid, log = pre ++ .pass ready :: mid ∧ (∀ it ∈ mid, ¬ it.IsPass) ∧
        fd ∈ ready ∧ ∀ id' fd', .call id' fd' ∈ mid → id' < id
  | .finish => ∃ pre ready mid, log = pre ++ .pass ready :: mid ∧ (∀ it ∈ mid, ¬ it.IsPass) ∧
      ∀ id fd, ⟨some id, fd⟩ ∈ registered pre → fd ∈ ready → Served mid id fd
  | _ => True

@[simp] theorem registered_append (log : List Item) (it : Item) :
    registered (log ++ [it]) = replay (registered log) it := by
  rw [registered, List.foldl_append]
  rfl

theorem Distinct.of_isPrefix {log log' : List Item} (h : Distinct log') (hpre : log <+: log') :
    Distinct log :=
  fun pre hmem => h pre ((List.mem_inits _ _).mpr (((List.mem_inits _ _).mp hmem).trans hpre))

theorem Distinct.nodup {log : List Item} (h : Distinct log) :
    ((registered log).map FdRegister.fd).Nodup :=
  h log ((List.mem_inits _ _).mpr List.prefix_rfl)

theorem Served.append {mid : List Item} {id fd : ℕ} (h : Served mid id fd) (items : List Item) :
    Served (mid ++ items) id fd := by
  rcases h with h | ⟨before, after, rfl, hbefore⟩
  · exact Or.inl (List.mem_append_left _ h)
  · refine Or.inr ⟨before, after ++ items, ?_, hbefore⟩
    rw [List.append_assoc, List.cons_append]

/-! ### The invariant -/

/-- Of two entries, the first was registered earlier; dead entries do not matter. -/
def Before (r r' : FdRegister ℕ) : Prop := ∀ id ∈ r.cb, ∀ id' ∈ r'.cb, id < id'

/-- A pass is going on, and `mid` is what happened in it. -/
structure InPass (s : ManagerRun) (pre mid : List Item) : Prop where
  log : s.log = pre ++ .pass s.table.ready :: mid
  inner : ∀ it ∈ mid, ¬ it.IsPass
  /-- what was called is earlier than what is ahead of the loop -/
  called : ∀ id fd, .call id fd ∈ mid → id < s.made ∧
    ∀ j r, s.table.next ≤ j → s.table.fds[j]? = some r → ∀ id' ∈ r.cb, id < id'
  /-- what was registered before the pass is ahead of the loop, or has been served -/
  waiting : ∀ id fd, ⟨some id, fd⟩ ∈ registered pre → fd ∈ s.table.ready →
    Served mid id fd ∨ ∃ j, s.table.next ≤ j ∧ s.table.fds[j]? = some ⟨some id, fd⟩

/-- **The invariant of the table.** -/
structure ManagerRun.Good (s : ManagerRun) : Prop where
  live : s.table.live = registered s.log
  dead : deadCount FdRegister.alive s.table.fds ≤ s.table.changes
  flushed : s.table.readout = false → s.table.changes = 0
  sorted : s.table.fds.Pairwise Before
  fresh : ∀ r ∈ s.table.fds, ∀ id ∈ r.cb, id < s.made
  count : s.made = registrations s.log
  pass : s.table.readout = true → ∃ pre mid, InPass s pre mid
  ok : Holds itemOk s.log

theorem ManagerRun.good_start : ManagerRun.start.Good where
  live := rfl
  dead := Nat.le_refl _
  flushed _ := rfl
  sorted := List.Pairwise.nil
  fresh _ hr := absurd hr List.not_mem_nil
  count := rfl
  pass h := by cases h
  ok := holds_nil

variable {s : ManagerRun}

/-- Registering. -/
theorem ManagerRun.Good.register (hs : s.Good) (fd : ℕ) : (s.op (.register fd)).Good where
  live := by
    dsimp only [op]
    rw [FdTable.live_registerFd, hs.live, registered_append]
    rfl
  dead := by
    have := hs.dead
    dsimp only [op, FdTable.registerFd]
    unfold deadCount at this ⊢
    rw [List.countP_append]
    exact this
  flushed := hs.flushed
  sorted := by
    refine List.pairwise_append.mpr ⟨hs.sorted, List.pairwise_singleton _ _, ?_⟩
    intro r hr r' hr' id hid id' hid'
    rw [List.mem_singleton.mp hr'] at hid'
    obtain rfl := Option.some.inj hid'
    exact hs.fresh r hr id hid
  fresh r hr id hid := by
    rcases List.mem_append.mp hr with hr | hr
    · exact Nat.lt_succ_of_lt (hs.fresh r hr id hid)
    · rw [List.mem_singleton.mp hr] at hid
      obtain rfl := Option.some.inj hid
      exact Nat.lt_succ_self _
  count := by
    dsimp only [op]
    rw [registrations, List.foldl_append, hs.count]
    rfl
  pass hread := by
    obtain ⟨pre, mid, h⟩ := hs.pass hread
    refine ⟨pre, mid ++ [.register s.made fd], ?_, ?_, ?_, ?_⟩
    · dsimp only [op, FdTable.registerFd]
      rw [h.log, List.append_assoc, List.cons_append]
    · intro it hit
      rcases List.mem_append.mp hit with hit | hit
      · exact h.inner it hit
      · rw [List.mem_singleton.mp hit]
        exact fun h => h
    · intro id fd' hcall
      obtain ⟨hlt, hahead⟩ := h.called id fd' (by simpa using hcall)
      refine ⟨Nat.lt_succ_of_lt hlt, fun j r hj hr id' hid' => ?_⟩
      rcases Nat.lt_or_ge j s.table.fds.length with hj' | hj'
      · exact hahead j r hj ((List.getElem?_append_left hj').symm.trans hr) id' hid'
      · have hmem := List.mem_of_getElem? ((List.getElem?_append_right hj').symm.trans hr)
        rw [List.mem_singleton.mp hmem] at hid'
        obtain rfl := Option.some.inj hid'
        exact hlt
    · intro id fd' hreg hready
      refine (h.waiting id fd' hreg hready).imp (fun hw => hw.append _) ?_
      rintro ⟨j, hj, hr⟩
      exact ⟨j, hj, (List.getElem?_append_left (List.getElem?_eq_some_iff.mp hr).1).trans hr⟩
  ok := holds_append.mpr ⟨hs.ok, hs.count⟩

/-- Distinct descriptors: at most one registration has the number. -/
theorem countP_live_le (hs : s.Good) (hd : Distinct s.log) (fd : ℕ) :
    s.table.live.countP (fun r => decide (r.fd = fd)) ≤ 1 := by
  have hnodup := hd.nodup
  rw [← hs.live] at hnodup
  have hcount := List.nodup_iff_count.mp hnodup fd
  rw [List.count, List.countP_map] at hcount
  refine le_trans (le_of_eq ?_) hcount
  refine List.countP_congr fun r _ => ?_
  simp

/-- Unregistering makes at most one entry dead. -/
theorem deadCount_unregister (hs : s.Good) (hd : Distinct s.log) (fd : ℕ) :
    deadCount FdRegister.alive (s.table.unregisterFd fd).fds ≤
      (s.table.unregisterFd fd).changes := by
  have hkill := deadCount_kill_le FdRegister.alive (fun r => decide (r.fd = fd))
    (fun r => { r with cb := none }) s.table.fds
  have hone : (s.table.fds.filter FdRegister.alive).countP (fun r => decide (r.fd = fd)) ≤ 1 :=
    countP_live_le hs hd fd
  have hdead := hs.dead
  unfold FdTable.unregisterFd
  dsimp only
  split_ifs with hread
  · dsimp only
    omega
  · have := hs.flushed (by simpa using hread)
    dsimp only [clearObjects]
    rw [deadCount_dropDead]
    omega

@[simp] theorem readout_unregister (fd : ℕ) (m : FdTable ℕ) :
    (m.unregisterFd fd).readout = m.readout := by
  unfold FdTable.unregisterFd
  dsimp only
  split_ifs <;> rfl

theorem getElem?_unregister (fd : ℕ) {m : FdTable ℕ} (hread : m.readout = true) (j : ℕ) :
    (m.unregisterFd fd).fds[j]? =
      (m.fds[j]?).map fun r => if r.fd = fd then { r with cb := none } else r := by
  unfold FdTable.unregisterFd
  rw [if_pos hread]
  simp [getElem?_kill]

/-- An entry that is left was there before, or is dead. -/
theorem mem_unregister {fd : ℕ} {m : FdTable ℕ} {r : FdRegister ℕ}
    (hr : r ∈ (m.unregisterFd fd).fds) : ∃ r' ∈ m.fds, ∀ id ∈ r.cb, id ∈ r'.cb := by
  have hkill : r ∈ kill (fun r => decide (r.fd = fd)) (fun r => { r with cb := none }) m.fds := by
    unfold FdTable.unregisterFd at hr
    dsimp only at hr
    split_ifs at hr
    · exact hr
    · exact List.mem_of_mem_eraseP hr
  obtain ⟨r', hr', rfl⟩ := List.mem_map.mp hkill
  refine ⟨r', hr', fun id hid => ?_⟩
  split_ifs at hid
  · cases hid
  · exact hid

theorem sorted_unregister {fd : ℕ} {m : FdTable ℕ} (h : m.fds.Pairwise Before) :
    (m.unregisterFd fd).fds.Pairwise Before := by
  have hkill : (kill (fun r => decide (r.fd = fd)) (fun r => { r with cb := none })
      m.fds).Pairwise Before := by
    refine List.pairwise_map.mpr (h.imp fun {r r'} hrr' id hid id' hid' => ?_)
    split_ifs at hid hid'
    · cases hid
    · cases hid
    · cases hid'
    · exact hrr' id hid id' hid'
  unfold FdTable.unregisterFd
  dsimp only
  split_ifs
  · exact hkill
  · exact hkill.sublist List.eraseP_sublist

/-- **Unregistering**, with whatever descriptor. -/
theorem ManagerRun.Good.unregister (hs : s.Good) (hd : Distinct s.log) (fd : ℕ) :
    (s.op (.unregister fd)).Good where
  live := by
    dsimp only [op]
    rw [FdTable.live_unregisterFd, hs.live, registered_append]
    rfl
  dead := deadCount_unregister hs hd fd
  flushed hread := by
    have hread' : s.table.readout = false := (readout_unregister fd s.table).symm.trans hread
    dsimp only [op, FdTable.unregisterFd]
    rw [if_neg (by simp [hread'])]
    exact hs.flushed hread'
  sorted := sorted_unregister hs.sorted
  fresh r hr id hid := by
    obtain ⟨r', hr', h⟩ := mem_unregister hr
    exact hs.fresh r' hr' id (h id hid)
  count := by
    dsimp only [op]
    rw [registrations, List.foldl_append]
    exact hs.count
  pass hread := by
    have hread' : s.table.readout = true := (readout_unregister fd s.table).symm.trans hread
    obtain ⟨pre, mid, h⟩ := hs.pass hread'
    have hnext : (s.table.unregisterFd fd).next = s.table.next := by
      unfold FdTable.unregisterFd
      rw [if_pos hread']
    have hready : (s.table.unregisterFd fd).ready = s.table.ready := by
      unfold FdTable.unregisterFd
      rw [if_pos hread']
    refine ⟨pre, mid ++ [.unregister fd], ?_, ?_, ?_, ?_⟩
    · dsimp only [op]
      rw [hready, h.log, List.append_assoc, List.cons_append]
    · intro it hit
      rcases List.mem_append.mp hit with hit | hit
      · exact h.inner it hit
      · rw [List.mem_singleton.mp hit]
        exact fun h => h
    · intro id fd' hcall
      obtain ⟨hlt, hahead⟩ := h.called id fd' (by simpa using hcall)
      refine ⟨hlt, fun j r hj hr id' hid' => ?_⟩
      dsimp only [op] at hj hr
      rw [hnext] at hj
      rw [getElem?_unregister fd hread'] at hr
      obtain ⟨r', hr', rfl⟩ := Option.map_eq_some_iff.mp hr
      split_ifs at hid'
      · cases hid'
      · exact hahead j r' hj hr' id' hid'
    · intro id fd' hreg hr
      dsimp only [op] at hr ⊢
      rw [hready] at hr
      rw [hnext]
      rcases h.waiting id fd' hreg hr with hw | ⟨j, hj, hentry⟩
      · exact Or.inl (hw.append _)
      · by_cases hfd : fd' = fd
        · -- its turn has not come
          subst hfd
          refine Or.inl (Or.inr ⟨mid, [], rfl, fun id' fd'' hcall => ?_⟩)
          exact (h.called id' fd'' hcall).2 j _ hj hentry id rfl
        · refine Or.inr ⟨j, hj, ?_⟩
          rw [getElem?_unregister fd hread', hentry, Option.map_some, if_neg hfd]
  ok := holds_append.mpr ⟨hs.ok, trivial⟩

theorem ManagerRun.log_op (s : ManagerRun) (o : ManagerOp) : s.log <+: (s.op o).log := by
  cases o <;> exact List.prefix_append _ _

theorem ManagerRun.log_ops : ∀ (acts : List ManagerOp) (s : ManagerRun),
    s.log <+: (acts.foldl ManagerRun.op s).log
  | [], _ => List.prefix_rfl
  | o :: acts, s => (s.log_op o).trans (ManagerRun.log_ops acts (s.op o))

theorem ManagerRun.log_recorded {s s' : ManagerRun} {it : Item} (h : s'.log = s.log ++ [it])
    (acts : List ManagerOp) : s.log <+: (acts.foldl ManagerRun.op s').log := by
  refine List.IsPrefix.trans ?_ (ManagerRun.log_ops acts s')
  rw [h]
  exact List.prefix_append _ _

/-- **What callbacks do** keeps the invariant. -/
theorem ManagerRun.Good.ops : ∀ (acts : List ManagerOp) {s : ManagerRun}, s.Good →
    Distinct (acts.foldl ManagerRun.op s).log → (acts.foldl ManagerRun.op s).Good
  | [], _, hs, _ => hs
  | o :: acts, s, hs, hd => by
    have hd' : Distinct s.log :=
      hd.of_isPrefix ((s.log_op o).trans (ManagerRun.log_ops acts (s.op o)))
    refine ManagerRun.Good.ops acts ?_ hd
    cases o with
    | register fd => exact hs.register fd
    | unregister fd => exact hs.unregister hd' fd

/-! ### The steps -/

theorem ManagerRun.select_eq (s : ManagerRun) (readable error : List ℕ) :
    ∃ gone : List ℕ, s.select readable error =
      (gone.map ManagerOp.unregister).foldl ManagerRun.op { s with
        table := { s.table with
          readout := true, ready := readable.filter (· ∈ s.table.watched), next := 0 }
        log := s.log ++ [.pass (readable.filter (· ∈ s.table.watched))] } := by
  refine ⟨(s.table.fds.filter fun r => decide (r.fd ∈ error.filter (· ∈ s.table.watched))).map
    FdRegister.fd, ?_⟩
  rw [List.foldl_map, List.foldl_map, List.foldl_filter]
  simp only [decide_eq_true_eq]
  rfl

/-- A pass begins: everything is ahead of the loop. -/
theorem ManagerRun.Good.begins (hs : s.Good) (ready : List ℕ) :
    ManagerRun.Good { s with
      table := { s.table with readout := true, ready := ready, next := 0 }
      log := s.log ++ [.pass ready] } where
  live := by
    dsimp only
    rw [registered_append]
    exact hs.live
  dead := hs.dead
  flushed h := by cases h
  sorted := hs.sorted
  fresh := hs.fresh
  count := by
    dsimp only
    rw [registrations, List.foldl_append]
    exact hs.count
  pass _ := by
    refine ⟨s.log, [], rfl, nofun, nofun, fun id fd hreg _ => Or.inr ?_⟩
    rw [← hs.live] at hreg
    obtain ⟨j, hj⟩ := List.mem_iff_getElem?.mp (FdTable.mem_live.mp hreg).1
    exact ⟨j, Nat.zero_le _, hj⟩
  ok := holds_append.mpr ⟨hs.ok, trivial⟩

theorem ManagerRun.Good.select (hs : s.Good) {readable error : List ℕ}
    (hd : Distinct (s.select readable error).log) :
    (s.select readable error).Good := by
  obtain ⟨gone, heq⟩ := s.select_eq readable error
  rw [heq] at hd ⊢
  exact (hs.begins _).ops _ hd

/-- The loop passes an entry that it need not call. -/
theorem ManagerRun.Good.skip (hs : s.Good) {r : FdRegister ℕ}
    (hr : s.table.fds[s.table.next]? = some r) (hnot : r.cb = none ∨ r.fd ∉ s.table.ready) :
    ManagerRun.Good { s with table := { s.table with next := s.table.next + 1 } } where
  live := hs.live
  dead := hs.dead
  flushed := hs.flushed
  sorted := hs.sorted
  fresh := hs.fresh
  count := hs.count
  pass hread := by
    obtain ⟨pre, mid, h⟩ := hs.pass hread
    refine ⟨pre, mid, h.log, h.inner, fun id fd hcall => ?_, fun id fd hreg hready => ?_⟩
    · obtain ⟨hlt, hahead⟩ := h.called id fd hcall
      exact ⟨hlt, fun j r' hj => hahead j r' (Nat.le_of_succ_le hj)⟩
    · rcases h.waiting id fd hreg hready with hw | ⟨j, hj, hentry⟩
      · exact Or.inl hw
      · rcases Nat.eq_or_lt_of_le hj with rfl | hlt
        · rw [hr] at hentry
          obtain rfl := Option.some.inj hentry
          rcases hnot with hnone | hnot
          · cases hnone
          · exact absurd hready hnot
        · exact Or.inr ⟨j, hlt, hentry⟩
  ok := hs.ok

/-- **A callback is called.** -/
theorem ManagerRun.Good.call (hs : s.Good) (hread : s.table.readout = true) {id fd : ℕ}
    (hr : s.table.fds[s.table.next]? = some ⟨some id, fd⟩) (hready : fd ∈ s.table.ready) :
    ManagerRun.Good { s with
      table := { s.table with next := s.table.next + 1 }
      log := s.log ++ [.call id fd] } := by
  obtain ⟨pre, mid, h⟩ := hs.pass hread
  have hmem : (⟨some id, fd⟩ : FdRegister ℕ) ∈ s.table.fds := List.mem_of_getElem? hr
  refine ⟨?_, hs.dead, hs.flushed, hs.sorted, hs.fresh, ?_, fun _ => ?_,
    holds_append.mpr ⟨hs.ok, ?_, pre, s.table.ready, mid, h.log, h.inner, hready, ?_⟩⟩
  · dsimp only
    rw [registered_append]
    exact hs.live
  · dsimp only
    rw [registrations, List.foldl_append]
    exact hs.count
  · refine ⟨pre, mid ++ [.call id fd], ?_, ?_, ?_, ?_⟩
    · dsimp only
      rw [h.log, List.append_assoc, List.cons_append]
    · intro it hit
      rcases List.mem_append.mp hit with hit | hit
      · exact h.inner it hit
      · rw [List.mem_singleton.mp hit]
        exact fun h => h
    · intro id' fd' hcall
      rcases List.mem_append.mp hcall with hcall | hcall
      · obtain ⟨hlt, hahead⟩ := h.called id' fd' hcall
        exact ⟨hlt, fun j r' hj => hahead j r' (Nat.le_of_succ_le hj)⟩
      · obtain ⟨rfl, rfl⟩ := Item.call.inj (List.mem_singleton.mp hcall)
        refine ⟨hs.fresh _ hmem id' rfl, fun j r' hj hr' id'' hid'' => ?_⟩
        obtain ⟨hi, hri⟩ := List.getElem?_eq_some_iff.mp hr
        obtain ⟨hj', hrj⟩ := List.getElem?_eq_some_iff.mp hr'
        have hbefore := List.pairwise_iff_getElem.mp hs.sorted _ _ hi hj' hj
        rw [hri, hrj] at hbefore
        exact hbefore id' rfl id'' hid''
    · intro id' fd' hreg hready'
      rcases h.waiting id' fd' hreg hready' with hw | ⟨j, hj, hentry⟩
      · exact Or.inl (hw.append _)
      · rcases Nat.eq_or_lt_of_le hj with rfl | hlt
        · rw [hr] at hentry
          obtain ⟨hid, rfl⟩ := FdRegister.mk.inj (Option.some.inj hentry)
          obtain rfl := Option.some.inj hid
          exact Or.inl (Or.inl (List.mem_append_right _ (List.mem_singleton_self _)))
        · exact Or.inr ⟨j, hlt, hentry⟩
  · rw [← hs.live]
    exact FdTable.mem_live.mpr ⟨hmem, rfl⟩
  · exact fun id' fd' hcall => (h.called id' fd' hcall).2 _ _ (Nat.le_refl _) hr id rfl

theorem ManagerRun.Good.look (hs : s.Good) (hread : s.table.readout = true) {r : FdRegister ℕ}
    (hr : s.table.fds[s.table.next]? = some r) {acts : List ManagerOp}
    (hd : Distinct (s.look r acts).log) : (s.look r acts).Good := by
  unfold ManagerRun.look at hd ⊢
  obtain ⟨cb, fd⟩ := r
  cases cb with
  | none => exact hs.skip hr (Or.inl rfl)
  | some id =>
    dsimp only at hd ⊢
    split_ifs at hd ⊢ with hready
    · exact (hs.call hread hr hready).ops acts hd
    · exact hs.skip hr (Or.inr hready)

/-- **The end of the pass**: the loop has come to everything, and the dead entries are taken out. -/
theorem ManagerRun.Good.finish (hs : s.Good) (hread : s.table.readout = true)
    (hnext : s.table.fds.length ≤ s.table.next) :
    ManagerRun.Good { s with table := s.table.endPass, log := s.log ++ [.finish] } := by
  have hfds : s.table.endPass.fds = s.table.live := iterate_dropDead hs.dead
  obtain ⟨pre, mid, h⟩ := hs.pass hread
  refine ⟨?_, ?_, fun _ => rfl, ?_, ?_, ?_, nofun,
    holds_append.mpr ⟨hs.ok, pre, s.table.ready, mid, h.log, h.inner, ?_⟩⟩
  · dsimp only
    rw [registered_append, FdTable.live_endPass]
    exact hs.live
  · refine Nat.le_of_eq (deadCount_eq_zero.mpr fun r hr => ?_)
    dsimp only at hr
    rw [hfds] at hr
    exact (FdTable.mem_live.mp hr).2
  · dsimp only
    rw [hfds]
    exact hs.sorted.sublist List.filter_sublist
  · intro r hr
    dsimp only at hr
    rw [hfds] at hr
    exact hs.fresh r (FdTable.mem_live.mp hr).1
  · dsimp only
    rw [registrations, List.foldl_append]
    exact hs.count
  · intro id fd hreg hready
    rcases h.waiting id fd hreg hready with hw | ⟨j, hj, hentry⟩
    · exact hw
    · have := (List.getElem?_eq_some_iff.mp hentry).1
      omega

/-- **The steps keep the invariant.** -/
theorem ManagerRun.Good.step (hs : s.Good) (e : ManagerEvent) (hd : Distinct (s.step e).log) :
    (s.step e).Good := by
  cases e with
  | op o =>
    dsimp only [ManagerRun.step] at hd ⊢
    split_ifs at hd ⊢
    · exact hs.ops [o] hd
    · exact hs
  | select readable error =>
    dsimp only [ManagerRun.step] at hd ⊢
    split_ifs at hd ⊢
    · exact hs.select hd
    · exact hs
  | look acts =>
    dsimp only [ManagerRun.step] at hd ⊢
    split_ifs at hd ⊢ with hread
    · cases hr : s.table.fds[s.table.next]? with
      | none => exact hs
      | some r =>
        rw [hr] at hd
        exact hs.look hread hr hd
    · exact hs
  | finish =>
    dsimp only [ManagerRun.step] at hd ⊢
    split_ifs at hd ⊢ with h
    · exact hs.finish h.1 h.2
    · exact hs

theorem ManagerRun.log_step (s : ManagerRun) (e : ManagerEvent) : s.log <+: (s.step e).log := by
  cases e with
  | op o =>
    dsimp only [step]
    split_ifs
    · exact s.log_op o
    · exact List.prefix_rfl
  | select readable error =>
    dsimp only [step]
    split_ifs
    · obtain ⟨gone, heq⟩ := s.select_eq readable error
      rw [heq]
      exact ManagerRun.log_recorded rfl _
    · exact List.prefix_rfl
  | look acts =>
    dsimp only [step]
    split_ifs
    · cases s.table.fds[s.table.next]? with
      | none => exact List.prefix_rfl
      | some r =>
        dsimp only [look]
        cases r.cb with
        | none => exact List.prefix_rfl
        | some id =>
          dsimp only
          split_ifs
          · exact ManagerRun.log_recorded rfl acts
          · exact List.prefix_rfl
    · exact List.prefix_rfl
  | finish =>
    dsimp only [step]
    split_ifs
    · exact List.prefix_append _ _
    · exact List.prefix_rfl

theorem ManagerRun.log_run : ∀ (es : List ManagerEvent) (s : ManagerRun),
    s.log <+: (run ManagerRun.step s es).log
  | [], _ => List.prefix_rfl
  | e :: es, s => (s.log_step e).trans (ManagerRun.log_run es (s.step e))

/-- The invariant holds after every run with distinct descriptors. -/
theorem ManagerRun.Good.run : ∀ (es : List ManagerEvent) {s : ManagerRun}, s.Good →
    Distinct (run ManagerRun.step s es).log → (run ManagerRun.step s es).Good
  | [], _, hs, _ => hs
  | e :: es, s, hs, hd =>
    ManagerRun.Good.run es (hs.step e (hd.of_isPrefix (ManagerRun.log_run es (s.step e)))) hd

/-! ### What holds of every record -/

/-- Registrations are numbered in the order they are made. -/
theorem registered_sorted {log : List Item} (hok : Holds itemOk log) :
    (registered log).Pairwise Before ∧ ∀ r ∈ registered log, ∀ id ∈ r.cb, id < registrations log := by
  induction log using List.reverseRecOn with
  | nil => exact ⟨List.Pairwise.nil, nofun⟩
  | append_singleton log it ih =>
    obtain ⟨hok, hit⟩ := holds_append.mp hok
    obtain ⟨hsorted, hfresh⟩ := ih hok
    rw [registered_append, registrations, List.foldl_append]
    cases it with
    | register id fd =>
      obtain rfl : id = registrations log := hit
      refine ⟨List.pairwise_append.mpr ⟨hsorted, List.pairwise_singleton _ _, ?_⟩, ?_⟩
      · intro r hr r' hr' id hid id' hid'
        rw [List.mem_singleton.mp hr'] at hid'
        obtain rfl := Option.some.inj hid'
        exact hfresh r hr id hid
      · intro r hr id hid
        rcases List.mem_append.mp hr with hr | hr
        · exact Nat.lt_succ_of_lt (hfresh r hr id hid)
        · rw [List.mem_singleton.mp hr] at hid
          obtain rfl := Option.some.inj hid
          exact Nat.lt_succ_self _
    | unregister fd =>
      exact ⟨hsorted.sublist List.filter_sublist, fun r hr => hfresh r (List.mem_filter.mp hr).1⟩
    | pass _ => exact ⟨hsorted, hfresh⟩
    | call _ _ => exact ⟨hsorted, hfresh⟩
    | finish => exact ⟨hsorted, hfresh⟩

/-- A number that is gone does not come back. -/
theorem notMem_registered {id : ℕ} (log : List Item) : ∀ items : List Item,
    Holds itemOk (log ++ items) → id < registrations log → (∀ r ∈ registered log, id ∉ r.cb) →
      ∀ r ∈ registered (log ++ items), id ∉ r.cb := by
  intro items
  induction items generalizing log with
  | nil =>
    intro _ _ h
    rwa [List.append_nil]
  | cons it items ih =>
    intro hok hlt h
    have hit : itemOk log it := hok.at
    rw [← List.singleton_append, ← List.append_assoc] at hok ⊢
    refine ih (log ++ [it]) hok ?_ ?_
    · rw [registrations, List.foldl_append]
      cases it with
      | register _ _ => exact Nat.lt_succ_of_lt hlt
      | unregister _ => exact hlt
      | pass _ => exact hlt
      | call _ _ => exact hlt
      | finish => exact hlt
    · rw [registered_append]
      cases it with
      | register id' fd =>
        intro r hr
        rcases List.mem_append.mp hr with hr | hr
        · exact h r hr
        · obtain rfl : id' = registrations log := hit
          rw [List.mem_singleton.mp hr]
          intro hid
          exact absurd hlt (by rw [Option.some.inj hid]; exact Nat.lt_irrefl _)
      | unregister fd => exact fun r hr => h r (List.mem_filter.mp hr).1
      | pass _ => exact h
      | call _ _ => exact h
      | finish => exact h

/-- Nothing is called after it was unregistered. -/
theorem notMem_call {pre post : List Item} {id fd fd' : ℕ}
    (hok : Holds itemOk (pre ++ .unregister fd :: post))
    (hreg : ⟨some id, fd⟩ ∈ registered pre) : .call id fd' ∉ post := by
  intro hcall
  obtain ⟨before, after, rfl⟩ := List.append_of_mem hcall
  obtain ⟨hsorted, hfresh⟩ := registered_sorted hok.of_append
  rw [← List.singleton_append, ← List.append_assoc, ← List.append_assoc] at hok
  have hmem : ⟨some id, fd'⟩ ∈ registered (pre ++ [.unregister fd] ++ before) ∧ _ := hok.at
  refine notMem_registered (pre ++ [.unregister fd]) before hok.of_append ?_ ?_ _ hmem.1 rfl
  · rw [registrations, List.foldl_append]
    exact hfresh _ hreg id rfl
  · rw [registered_append]
    intro r hr hid
    obtain ⟨hr, hfd⟩ := List.mem_filter.mp hr
    -- two registrations have different numbers
    have hne : (⟨some id, fd⟩ : FdRegister ℕ) ≠ r := by
      rintro rfl
      simp at hfd
    obtain ⟨i, hi, hri⟩ := List.getElem_of_mem hreg
    obtain ⟨j, hj, hrj⟩ := List.getElem_of_mem hr
    rcases Nat.lt_trichotomy i j with hij | rfl | hij
    · have := List.pairwise_iff_getElem.mp hsorted i j hi hj hij id (by rw [hri]; rfl) id
        (by rwa [hrj])
      exact Nat.lt_irrefl _ this
    · exact hne (hri.symm.trans hrj)
    · have := List.pairwise_iff_getElem.mp hsorted j i hj hi hij id (by rwa [hrj]) id
        (by rw [hri]; rfl)
      exact Nat.lt_irrefl _ this

/-- The registration that is called. -/
def Item.called : Item → Option ℕ
  | .call id _ => some id
  | _ => none

/-- In a pass callbacks are called in the order of registration, so none is called twice. -/
theorem called_sorted {pre mid : List Item} {ready : List ℕ}
    (hok : Holds itemOk (pre ++ .pass ready :: mid)) (hmid : ∀ it ∈ mid, ¬ it.IsPass) :
    (mid.filterMap Item.called).Pairwise (· < ·) := by
  induction mid using List.reverseRecOn with
  | nil => exact List.Pairwise.nil
  | append_singleton mid it ih =>
    rw [← List.cons_append, ← List.append_assoc] at hok
    obtain ⟨hok, hit⟩ := holds_append.mp hok
    have hmid' : ∀ it ∈ mid, ¬ it.IsPass := fun it hit => hmid it (List.mem_append_left _ hit)
    have hsorted := ih hok hmid'
    have hother : Item.called it = none →
        ((mid ++ [it]).filterMap Item.called).Pairwise (· < ·) := by
      intro hnone
      rw [List.filterMap_append, List.filterMap_cons_none hnone, List.filterMap_nil,
        List.append_nil]
      exact hsorted
    cases it with
    | call id fd =>
      obtain ⟨-, pre', ready', mid', hlog, hinner, -, hlt⟩ := hit
      obtain ⟨-, -, rfl⟩ := append_cons_inj (Item.isPass_pass _)
        (Item.isPass_pass _) hmid' hinner hlog
      rw [List.filterMap_append]
      refine List.pairwise_append.mpr ⟨hsorted, List.pairwise_singleton _ _, ?_⟩
      intro id' hid' id'' hid''
      obtain ⟨it', hit', hcalled⟩ := List.mem_filterMap.mp hid'
      obtain rfl : id'' = id := List.mem_singleton.mp hid''
      cases it' with
      | call id₁ fd₁ =>
        obtain rfl := Option.some.inj hcalled
        exact hlt _ _ hit'
      | register _ _ => cases hcalled
      | unregister _ => cases hcalled
      | pass _ => cases hcalled
      | finish => cases hcalled
    | register _ _ => exact hother rfl
    | unregister _ => exact hother rfl
    | pass _ => exact hother rfl
    | finish => exact hother rfl

/-- **What manager.c promises.** -/
structure ManagerSpec (s : ManagerRun) : Prop where
  /-- outside of a pass the table holds the registrations that were not unregistered, in their order,
  and no change is put off -/
  table : s.table.readout = false → s.table.fds = registered s.log ∧ s.table.changes = 0
  ordered : (registered s.log).Pairwise Before
  /-- what was registered before a pass and is readable is called in the pass, or it was unregistered
  before its turn -/
  served : ∀ {pre ready mid post id fd}, s.log = pre ++ .pass ready :: mid ++ .finish :: post →
    (∀ it ∈ mid, ¬ it.IsPass) → ⟨some id, fd⟩ ∈ registered pre → fd ∈ ready → Served mid id fd
  /-- in the order of registration, and so none is called twice -/
  inOrder : ∀ {pre ready mid post}, s.log = pre ++ .pass ready :: mid ++ post →
    (∀ it ∈ mid, ¬ it.IsPass) → (mid.filterMap Item.called).Pairwise (· < ·)
  /-- only what is registered is called -/
  called : ∀ {pre id fd post}, s.log = pre ++ .call id fd :: post →
    ⟨some id, fd⟩ ∈ registered pre
  /-- what was unregistered is not called any more -/
  silent : ∀ {pre id fd post}, s.log = pre ++ .unregister fd :: post →
    ⟨some id, fd⟩ ∈ registered pre → ∀ fd', .call id fd' ∉ post

/-- **The main loop**, for all callbacks that keep the descriptors of live registrations distinct. -/
theorem manager_spec (es : List ManagerEvent)
    (hd : Distinct (run ManagerRun.step ManagerRun.start es).log) :
    ManagerSpec (run ManagerRun.step ManagerRun.start es) := by
  have hs := ManagerRun.good_start.run es hd
  set s := run ManagerRun.step ManagerRun.start es
  refine ⟨fun hread => ⟨?_, hs.flushed hread⟩, (registered_sorted hs.ok).1, ?_, ?_, ?_, ?_⟩
  · have hdead := hs.dead
    rw [hs.flushed hread] at hdead
    rw [← hs.live]
    exact (filter_of_deadCount (Nat.le_zero.mp hdead)).symm
  · intro pre ready mid post id fd hlog hmid hreg hready
    have hfinish : itemOk (pre ++ .pass ready :: mid) .finish := (hlog ▸ hs.ok).at
    obtain ⟨pre', ready', mid', hlog', hinner, hserved⟩ := hfinish
    obtain ⟨rfl, hpass, rfl⟩ := append_cons_inj (Item.isPass_pass _)
        (Item.isPass_pass _) hmid hinner hlog'
    obtain rfl := Item.pass.inj hpass
    exact hserved id fd hreg hready
  · intro pre ready mid post hlog hmid
    exact called_sorted (Holds.of_append (hlog ▸ hs.ok)) hmid
  · intro pre id fd post hlog
    have hcall : _ ∧ _ := (hlog ▸ hs.ok).at
    exact hcall.1
  · intro pre id fd post hlog hreg fd'
    exact notMem_call (hlog ▸ hs.ok) hreg

/-- The first of three callbacks unregisters the second, itself, and a descriptor that is not there,
and registers the number of the second again. -/
theorem manager_spec_reentrant : ManagerSpec (run ManagerRun.step ManagerRun.start
    [.op (.register 3), .op (.register 4), .op (.register 5), .select [3, 4, 5] [],
      .look [.unregister 4, .unregister 3, .unregister 9, .register 4], .look [], .look [],
      .look [.unregister 4], .finish]) :=
  manager_spec _ (by decide)

end Spawny.Daemon.ManagerRuns
