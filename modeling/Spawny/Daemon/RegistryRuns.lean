import Spawny.Lib.History
import Spawny.Lib.Runs
import Spawny.Daemon.SpawnRegistry

/-! # spawnregistery.c: runs with arbitrary callers

The spawn registry on its own, with callers and handlers that listen and unlisten as they please.
`spawnregistery_eval` is cut into its steps, and what happens is recorded: `registered` replays the
record and says which listeners there should be.

* `RegistryRun.Good.step`: the steps keep the invariant;
* `RegistryRun.turn`: a listener that is still there when the loop comes to it is called;
* `registry_spec`: **the table holds the registered listeners, and `eval` calls each listener of a
  reaped process once.** -/

namespace Spawny.Daemon.RegistryRuns

open Spawny.Lib.Tombstones Spawny.Lib.History Spawny.Lib.Runs Spawny.Daemon.SpawnRegistry

variable {η : Type*}

/-! ### The steps of eval -/

/-- What callers and handlers do with the registry. -/
inductive RegistryOp (η : Type*)
  | listen (pid : ℤ) (handler : η)
  | unlisten (pid : ℤ) (handler : η)

/-- A call from outside; `eval` is entered; `waitpid` returns `pid`; the inner loop looks at the next
entry, whose handler, if it is called, does `acts`; `waitpid` returns nothing. -/
inductive RegistryEvent (η : Type*)
  | op (o : RegistryOp η)
  | eval
  | reap (pid : ℤ)
  | visit (acts : List (RegistryOp η))
  | leave

/-- What is recorded: the calls of `listen` and `unlisten`, a process that was reaped, a handler that
is called, the end of its call, when `eval` removes the listener, and the end of the inner loop. -/
inductive Item (η : Type*)
  | listen (w : Waiting η)
  | unlisten (w : Waiting η)
  | reaped (pid : ℤ)
  | call (w : Waiting η)
  | drop (w : Waiting η)
  | scanned (pid : ℤ)
  deriving DecidableEq

/-- The registry, the process and the index of the inner loop of `eval`, and the record. -/
structure RegistryRun (η : Type*) where
  registry : Registry η
  scan : Option (ℤ × ℕ)
  log : List (Item η)
  ub : Bool

def RegistryRun.start : RegistryRun η where
  registry := { pending := [], evalMode := false }
  scan := none
  log := []
  ub := false

variable [DecidableEq η]

def RegistryRun.op (s : RegistryRun η) : RegistryOp η → RegistryRun η
  | .listen pid h =>
    { s with registry := s.registry.listen pid h, log := s.log ++ [.listen ⟨pid, some h⟩] }
  | .unlisten pid h =>
    { s with registry := s.registry.unlisten pid h, log := s.log ++ [.unlisten ⟨pid, some h⟩] }

/-- A handler is called, does `acts`, and its listener is removed. -/
def RegistryRun.call (s : RegistryRun η) (pid : ℤ) (h : η) (acts : List (RegistryOp η)) :
    RegistryRun η :=
  let s := acts.foldl RegistryRun.op { s with log := s.log ++ [.call ⟨pid, some h⟩] }
  { s with registry := s.registry.unlisten pid h, log := s.log ++ [.drop ⟨pid, some h⟩] }

/-- One round of the inner loop of `spawnregistery_eval` for `pid`, or its end. -/
def RegistryRun.visit (s : RegistryRun η) (pid : ℤ) (i : ℕ) (acts : List (RegistryOp η)) :
    RegistryRun η :=
  match s.registry.pending[i]? with
  | none => { s with scan := none, log := s.log ++ [.scanned pid] }
  | some e =>
    let s' :=
      if e.pid = pid then
        match e.handler with
        | none => { s with ub := true }
        | some h => s.call pid h acts
      else s
    { s' with scan := some (pid, i + 1) }

/-- The steps; a step that is not possible changes nothing. -/
def RegistryRun.step (s : RegistryRun η) : RegistryEvent η → RegistryRun η
  | .op o => if s.registry.evalMode = false then s.op o else s
  | .eval =>
    if s.registry.evalMode = false then { s with registry := { s.registry with evalMode := true } }
    else s
  | .reap pid =>
    if s.registry.evalMode = true ∧ s.scan = none ∧ 0 < pid then
      { s with scan := some (pid, 0), log := s.log ++ [.reaped pid] }
    else s
  | .visit acts =>
    match s.scan with
    | some (pid, i) => s.visit pid i acts
    | none => s
  | .leave =>
    if s.registry.evalMode = true ∧ s.scan = none then
      { s with registry := { pending := cleanup s.registry.pending, evalMode := false } }
    else s

/-! ### What the record says -/

/-- The listeners after one more item. -/
def replay (l : List (Waiting η)) : Item η → List (Waiting η)
  | .listen w => l ++ [w]
  | .unlisten w => l.filter fun w' => !decide (w' = w)
  | .drop w => l.filter fun w' => !decide (w' = w)
  | .reaped _ => l
  | .call _ => l
  | .scanned _ => l

/-- **The registered listeners**, in the order they were registered. -/
def registered (log : List (Item η)) : List (Waiting η) := log.foldl replay []

/-- The process whose listeners are being called. -/
def reaping (log : List (Item η)) : Option ℤ :=
  log.foldl (fun p it => match it with
    | .reaped pid => some pid
    | .scanned _ => none
    | _ => p) none

/-- The listener whose handler runs. -/
def calling (log : List (Item η)) : Option (Waiting η) :=
  log.foldl (fun c it => match it with
    | .call w => some w
    | .drop _ => none
    | _ => c) none

/-- What has to be true when an item is recorded. -/
def itemOk (log : List (Item η)) : Item η → Prop
  | .call w => w ∈ registered log ∧ reaping log = some w.pid ∧ calling log = none
  | .drop w => calling log = some w
  | .reaped _ => calling log = none
  | .scanned pid => calling log = none ∧ ∀ w ∈ registered log, w.pid ≠ pid
  | _ => True

@[simp] theorem registered_append (log : List (Item η)) (it : Item η) :
    registered (log ++ [it]) = replay (registered log) it := by
  rw [registered, List.foldl_append]
  rfl

/-- A listener disappears only if it is unlistened or has been called. -/
theorem mem_registered_append {w : Waiting η} (log : List (Item η)) :
    ∀ items : List (Item η), w ∈ registered log → .unlisten w ∉ items → .drop w ∉ items →
      w ∈ registered (log ++ items) := by
  intro items
  induction items generalizing log with
  | nil => intro h _ _; rwa [List.append_nil]
  | cons it items ih =>
    intro h hun hdrop
    have hstep : w ∈ registered (log ++ [it]) := by
      rw [registered_append]
      cases it with
      | listen w' => exact List.mem_append_left _ h
      | unlisten w' =>
        refine List.mem_filter.mpr ⟨h, ?_⟩
        have : w ≠ w' := by
          rintro rfl
          exact hun List.mem_cons_self
        simpa using this
      | drop w' =>
        refine List.mem_filter.mpr ⟨h, ?_⟩
        have : w ≠ w' := by
          rintro rfl
          exact hdrop List.mem_cons_self
        simpa using this
      | reaped _ => exact h
      | call _ => exact h
      | scanned _ => exact h
    have := ih (log ++ [it]) hstep (fun hm => hun (List.mem_cons_of_mem _ hm))
      (fun hm => hdrop (List.mem_cons_of_mem _ hm))
    rwa [List.append_assoc, List.singleton_append] at this

/-- A listener appears only if it is registered. -/
theorem listen_of_mem_registered {w : Waiting η} (log : List (Item η)) :
    ∀ items : List (Item η), w ∉ registered log → w ∈ registered (log ++ items) →
      .listen w ∈ items := by
  intro items
  induction items generalizing log with
  | nil =>
    intro h hw
    rw [List.append_nil] at hw
    exact absurd hw h
  | cons it items ih =>
    intro h hw
    by_cases hit : it = .listen w
    · rw [hit]
      exact List.mem_cons_self
    · have hstep : w ∉ registered (log ++ [it]) := by
        rw [registered_append]
        cases it with
        | listen w' =>
          intro hm
          rcases List.mem_append.mp hm with hm | hm
          · exact h hm
          · exact hit (by rw [List.mem_singleton.mp hm])
        | unlisten w' => exact fun hm => h (List.mem_filter.mp hm).1
        | drop w' => exact fun hm => h (List.mem_filter.mp hm).1
        | reaped _ => exact h
        | call _ => exact h
        | scanned _ => exact h
      refine List.mem_cons_of_mem _ (ih (log ++ [it]) hstep ?_)
      rwa [List.append_assoc, List.singleton_append]

/-! ### The invariant -/

/-- **The invariant of the registry.** `c` is the listener whose handler runs, if there is one. -/
structure RegistryRun.Good (c : Option (Waiting η)) (s : RegistryRun η) : Prop where
  /-- an entry without a handler is a zeroed one -/
  zeroed : ∀ e ∈ s.registry.pending, e.handler = none → e.pid = 0
  live : s.registry.live = registered s.log
  clean : s.registry.evalMode = false → ∀ e ∈ s.registry.pending, e.alive = true
  evaluating : s.scan ≠ none → s.registry.evalMode = true
  reaping : reaping s.log = s.scan.map Prod.fst
  positive : ∀ {pid i}, s.scan = some (pid, i) → 0 < pid
  /-- the loop has left no listener of the process behind -/
  passed : ∀ {pid i}, s.scan = some (pid, i) → ∀ j < i, ∀ e, s.registry.pending[j]? = some e →
    e.alive = true → e.pid ≠ pid
  bound : ∀ {pid i}, s.scan = some (pid, i) → i ≤ s.registry.pending.length
  calling : calling s.log = c
  ok : Holds itemOk s.log
  defined : s.ub = false

theorem RegistryRun.good_start : (RegistryRun.start : RegistryRun η).Good none where
  zeroed _ he := absurd he List.not_mem_nil
  live := rfl
  clean _ _ he := absurd he List.not_mem_nil
  evaluating h := absurd rfl h
  reaping := rfl
  positive h := by cases h
  passed h := by cases h
  bound h := by cases h
  calling := rfl
  ok := holds_nil
  defined := rfl

variable {s : RegistryRun η} {c : Option (Waiting η)}

/-- The entries after a listener was removed: old ones, or zeroed ones. -/
theorem mem_unlisten {pid : ℤ} {h : η} {r : Registry η} {e : Waiting η}
    (he : e ∈ (r.unlisten pid h).pending) : e ∈ r.pending ∨ e = ⟨0, none⟩ := by
  have hkill : e ∈ kill (fun w => decide (w = ⟨pid, some h⟩)) (fun _ => ⟨0, none⟩) r.pending := by
    unfold Registry.unlisten at he
    split_ifs at he
    · exact he
    · dsimp only at he
      rw [cleanup_eq_filter] at he
      exact (List.mem_filter.mp he).1
  obtain ⟨e', he', rfl⟩ := List.mem_map.mp hkill
  split_ifs
  · exact Or.inr rfl
  · exact Or.inl he'

/-- During `eval` removing a listener zeroes its entries where they are. -/
theorem pending_unlisten {pid : ℤ} {h : η} {r : Registry η} (heval : r.evalMode = true) (j : ℕ) :
    (r.unlisten pid h).pending[j]? =
      (r.pending[j]?).map fun e => if e = ⟨pid, some h⟩ then ⟨0, none⟩ else e := by
  rw [Registry.unlisten, if_pos heval]
  simp [getElem?_kill]

/-- Listening. -/
theorem RegistryRun.Good.listen (hs : s.Good c) (pid : ℤ) (h : η) : (s.op (.listen pid h)).Good c where
  zeroed e he hnone := by
    rcases List.mem_append.mp he with he | he
    · exact hs.zeroed e he hnone
    · rw [List.mem_singleton.mp he] at hnone
      cases hnone
  live := by
    dsimp only [op]
    rw [Registry.live_listen, hs.live, registered_append]
    rfl
  clean heval e he := by
    rcases List.mem_append.mp he with he | he
    · exact hs.clean heval e he
    · rw [List.mem_singleton.mp he]
      rfl
  evaluating := hs.evaluating
  reaping := by
    dsimp only [op]
    rw [RegistryRuns.reaping, List.foldl_append]
    exact hs.reaping
  positive := hs.positive
  passed {pid' i} hscan j hj e he := by
    have hlt : j < s.registry.pending.length := Nat.lt_of_lt_of_le hj (hs.bound hscan)
    refine hs.passed hscan j hj e ?_
    rw [← he]
    exact (List.getElem?_append_left hlt).symm
  bound hscan := by
    have := hs.bound hscan
    dsimp only [op, Registry.listen]
    rw [List.length_append]
    omega
  calling := by
    dsimp only [op]
    rw [RegistryRuns.calling, List.foldl_append]
    exact hs.calling
  ok := holds_append.mpr ⟨hs.ok, trivial⟩
  defined := hs.defined

/-- The table after a listener was removed, whatever is recorded for it. -/
theorem RegistryRun.Good.removed (hs : s.Good c) {c' : Option (Waiting η)} (pid : ℤ) (h : η)
    (it : Item η) (hreplay : ∀ l, replay l it = l.filter fun w => !decide (w = ⟨pid, some h⟩))
    (hreap : RegistryRuns.reaping (s.log ++ [it]) = RegistryRuns.reaping s.log)
    (hcall : RegistryRuns.calling (s.log ++ [it]) = c') (hok : itemOk s.log it) :
    RegistryRun.Good c'
      { s with registry := s.registry.unlisten pid h, log := s.log ++ [it] } where
  zeroed e he hnone := by
    rcases mem_unlisten he with he | rfl
    · exact hs.zeroed e he hnone
    · rfl
  live := by
    dsimp only
    rw [Registry.live_unlisten, hs.live, registered_append, hreplay]
  clean heval e he := by
    have hfalse : s.registry.evalMode = false := by
      rwa [Registry.evalMode_unlisten] at heval
    dsimp only at he
    rw [Registry.unlisten, if_neg (by simp [hfalse])] at he
    dsimp only at he
    rw [cleanup_eq_filter] at he
    exact (List.mem_filter.mp he).2
  evaluating hscan := (Registry.evalMode_unlisten ..).trans (hs.evaluating hscan)
  reaping := hreap.trans hs.reaping
  positive := hs.positive
  passed {pid' i} hscan j hj e he := by
    have heval := hs.evaluating (by rw [hscan]; exact nofun)
    dsimp only at he
    rw [pending_unlisten heval] at he
    obtain ⟨e', he', rfl⟩ := Option.map_eq_some_iff.mp he
    split_ifs
    · exact nofun
    · exact hs.passed hscan j hj e' he'
  bound {pid' i} hscan := by
    have heval := hs.evaluating (by rw [hscan]; exact nofun)
    dsimp only
    rw [Registry.unlisten, if_pos heval]
    dsimp only
    rw [length_kill]
    exact hs.bound hscan
  calling := hcall
  ok := holds_append.mpr ⟨hs.ok, hok⟩
  defined := hs.defined

/-- **What callers and handlers do** keeps the invariant. -/
theorem RegistryRun.Good.op (hs : s.Good c) (o : RegistryOp η) : (s.op o).Good c := by
  cases o with
  | listen pid h => exact hs.listen pid h
  | unlisten pid h =>
    refine hs.removed pid h (.unlisten ⟨pid, some h⟩) (fun _ => rfl) ?_ ?_ trivial
    · rw [RegistryRuns.reaping, List.foldl_append]
      rfl
    · rw [RegistryRuns.calling, List.foldl_append]
      exact hs.calling

/-! ### The place of an entry -/

/-- Since the record was `base`, the entry `w` has been at `j`, or it was zeroed there because it was
unlistened or called. -/
def RegistryRun.Kept (base : List (Item η)) (j : ℕ) (w : Waiting η) (s : RegistryRun η) : Prop :=
  s.registry.evalMode = true ∧ ∃ items, s.log = base ++ items ∧
    (s.registry.pending[j]? = some w ∨
      (s.registry.pending[j]? = some ⟨0, none⟩ ∧ (.unlisten w ∈ items ∨ .drop w ∈ items)))

variable {base : List (Item η)} {j : ℕ} {w : Waiting η}

omit [DecidableEq η] in
theorem RegistryRun.Kept.log (h : s.Kept base j w) (it : Item η) :
    RegistryRun.Kept base j w { s with log := s.log ++ [it] } := by
  obtain ⟨heval, items, hlog, hp⟩ := h
  refine ⟨heval, items ++ [it], ?_, hp.imp_right fun hz => ⟨hz.1, hz.2.imp ?_ ?_⟩⟩
  · dsimp only
    rw [hlog, List.append_assoc]
  · exact List.mem_append_left _
  · exact List.mem_append_left _

theorem RegistryRun.Kept.listen (h : s.Kept base j w) (pid : ℤ) (hd : η) :
    (s.op (.listen pid hd)).Kept base j w := by
  obtain ⟨heval, items, hlog, hp⟩ := h.log (.listen ⟨pid, some hd⟩)
  refine ⟨heval, items, hlog, hp.imp ?_ (And.imp_left ?_)⟩ <;>
    exact fun hj => (List.getElem?_append_left (List.getElem?_eq_some_iff.mp hj).1).trans hj

theorem RegistryRun.Kept.removed (h : s.Kept base j w) (pid : ℤ) (hd : η) {it : Item η}
    (hit : it = .unlisten ⟨pid, some hd⟩ ∨ it = .drop ⟨pid, some hd⟩) :
    RegistryRun.Kept base j w
      { s with registry := s.registry.unlisten pid hd, log := s.log ++ [it] } := by
  obtain ⟨heval, items, hlog, hp⟩ := h
  refine ⟨(Registry.evalMode_unlisten ..).trans heval, items ++ [it], ?_, ?_⟩
  · dsimp only
    rw [hlog, List.append_assoc]
  · dsimp only
    rw [pending_unlisten heval]
    rcases hp with hp | ⟨hp, hmem⟩
    · rw [hp, Option.map_some]
      split_ifs with hw
      · subst hw
        refine Or.inr ⟨rfl, ?_⟩
        rcases hit with rfl | rfl
        · exact Or.inl (List.mem_append_right _ (List.mem_singleton_self _))
        · exact Or.inr (List.mem_append_right _ (List.mem_singleton_self _))
      · exact Or.inl rfl
    · rw [hp, Option.map_some, if_neg (by simp)]
      exact Or.inr ⟨rfl, hmem.imp (List.mem_append_left _) (List.mem_append_left _)⟩

theorem RegistryRun.Kept.op (h : s.Kept base j w) (o : RegistryOp η) : (s.op o).Kept base j w := by
  cases o with
  | listen pid hd => exact h.listen pid hd
  | unlisten pid hd => exact h.removed pid hd (Or.inl rfl)

theorem RegistryRun.Kept.ops : ∀ (acts : List (RegistryOp η)) {s : RegistryRun η},
    s.Kept base j w → (acts.foldl RegistryRun.op s).Kept base j w
  | [], _, h => h
  | o :: acts, _, h => RegistryRun.Kept.ops acts (h.op o)

theorem RegistryRun.Kept.call (h : s.Kept base j w) (pid : ℤ) (hd : η) (acts : List (RegistryOp η)) :
    (s.call pid hd acts).Kept base j w :=
  (RegistryRun.Kept.ops acts (h.log _)).removed pid hd (Or.inr rfl)

/-! ### The steps -/

theorem RegistryRun.Good.ops : ∀ (acts : List (RegistryOp η)) {s : RegistryRun η},
    s.Good c → (acts.foldl RegistryRun.op s).Good c ∧ (acts.foldl RegistryRun.op s).scan = s.scan
  | [], _, hs => ⟨hs, rfl⟩
  | o :: acts, s, hs => by
    obtain ⟨hgood, hscan⟩ := RegistryRun.Good.ops acts (hs.op o)
    refine ⟨hgood, hscan.trans ?_⟩
    cases o <;> rfl

/-- **A handler is called.** -/
theorem RegistryRun.Good.call (hs : s.Good none) {pid : ℤ} {i : ℕ} {h : η}
    (hscan : s.scan = some (pid, i)) (hi : s.registry.pending[i]? = some ⟨pid, some h⟩)
    (acts : List (RegistryOp η)) : RegistryRun.Good none
      { s.call pid h acts with scan := some (pid, i + 1) } := by
  have heval := hs.evaluating (by rw [hscan]; exact nofun)
  have hmem : (⟨pid, some h⟩ : Waiting η) ∈ registered s.log := by
    rw [← hs.live]
    exact Registry.mem_live.mpr ⟨List.mem_of_getElem? hi, rfl⟩
  have hreaping : RegistryRuns.reaping s.log = some pid := by rw [hs.reaping, hscan]; rfl
  -- the handler is entered
  have hcalled : RegistryRun.Good (some ⟨pid, some h⟩)
      { s with log := s.log ++ [.call ⟨pid, some h⟩] } := by
    refine ⟨hs.zeroed, ?_, hs.clean, hs.evaluating, ?_, hs.positive, hs.passed, hs.bound, ?_,
      holds_append.mpr ⟨hs.ok, hmem, hreaping, hs.calling⟩, hs.defined⟩
    · dsimp only
      rw [registered_append]
      exact hs.live
    · dsimp only
      rw [RegistryRuns.reaping, List.foldl_append]
      exact hs.reaping
    · dsimp only
      rw [RegistryRuns.calling, List.foldl_append]
      rfl
  obtain ⟨hops, hsame⟩ := RegistryRun.Good.ops acts hcalled
  have hdrop := hops.removed pid h (.drop ⟨pid, some h⟩) (fun _ => rfl)
    (by rw [RegistryRuns.reaping, RegistryRuns.reaping, List.foldl_append]; rfl)
    (show RegistryRuns.calling _ = none by rw [RegistryRuns.calling, List.foldl_append]; rfl)
    hops.calling
  -- the entry at `i` is dead now
  have hkept : (s.call pid h acts).Kept s.log i ⟨pid, some h⟩ :=
    RegistryRun.Kept.call ⟨heval, [], (List.append_nil _).symm, Or.inl hi⟩ pid h acts
  have hscan' : (s.call pid h acts).scan = some (pid, i) := hsame.trans hscan
  have hdead : (s.call pid h acts).registry.pending[i]? = some ⟨0, none⟩ := by
    obtain ⟨-, -, -, hp | ⟨hp, -⟩⟩ := hkept
    · exfalso
      have hlive : (⟨pid, some h⟩ : Waiting η) ∈ (s.call pid h acts).registry.live :=
        Registry.mem_live.mpr ⟨List.mem_of_getElem? hp, rfl⟩
      exact (Registry.mem_live_unlisten.mp hlive).2 rfl
    · exact hp
  refine ⟨hdrop.zeroed, hdrop.live, hdrop.clean, fun _ => hdrop.evaluating (by
    change (s.call pid h acts).scan ≠ none
    rw [hscan']
    exact nofun), hdrop.reaping.trans (by
    change (s.call pid h acts).scan.map Prod.fst = _
    rw [hscan']
    rfl), ?_, ?_, ?_, hdrop.calling, hdrop.ok, hdrop.defined⟩
  · intro pid' i' heq
    obtain ⟨rfl, -⟩ := Prod.mk.inj (Option.some.inj heq)
    exact hs.positive hscan
  · intro pid' i' heq j hj e he halive
    obtain ⟨rfl, rfl⟩ := Prod.mk.inj (Option.some.inj heq)
    rcases Nat.lt_succ_iff_lt_or_eq.mp hj with hlt | rfl
    · exact hdrop.passed hscan' j hlt e he halive
    · have he' : (s.call pid h acts).registry.pending[j]? = some e := he
      rw [hdead] at he'
      rw [← Option.some.inj he'] at halive
      cases halive
  · intro pid' i' heq
    obtain ⟨rfl, rfl⟩ := Prod.mk.inj (Option.some.inj heq)
    exact (List.getElem?_eq_some_iff.mp hdead).1

/-- The loop goes on behind an entry that is not called. -/
theorem RegistryRun.Good.next (hs : s.Good none) {pid : ℤ} {i : ℕ} {e : Waiting η}
    (hscan : s.scan = some (pid, i)) (hi : s.registry.pending[i]? = some e)
    (he : e.alive = true → e.pid ≠ pid) :
    RegistryRun.Good none { s with scan := some (pid, i + 1) } := by
  refine ⟨hs.zeroed, hs.live, hs.clean, fun _ => hs.evaluating (by rw [hscan]; exact nofun),
    hs.reaping.trans (by rw [hscan]; rfl), ?_, ?_, ?_, hs.calling, hs.ok, hs.defined⟩
  · intro pid' i' heq
    obtain ⟨rfl, -⟩ := Prod.mk.inj (Option.some.inj heq)
    exact hs.positive hscan
  · intro pid' i' heq j hj e' he' halive
    obtain ⟨rfl, rfl⟩ := Prod.mk.inj (Option.some.inj heq)
    rcases Nat.lt_succ_iff_lt_or_eq.mp hj with hlt | rfl
    · exact hs.passed hscan j hlt e' he' halive
    · have he'' : s.registry.pending[j]? = some e' := he'
      rw [hi] at he''
      obtain rfl := Option.some.inj he''
      exact he halive
  · intro pid' i' heq
    obtain ⟨rfl, rfl⟩ := Prod.mk.inj (Option.some.inj heq)
    exact (List.getElem?_eq_some_iff.mp hi).1

/-- **One round of the inner loop**, or its end. -/
theorem RegistryRun.Good.visit (hs : s.Good none) {pid : ℤ} {i : ℕ} (hscan : s.scan = some (pid, i))
    (acts : List (RegistryOp η)) : (s.visit pid i acts).Good none := by
  unfold RegistryRun.visit
  cases hi : s.registry.pending[i]? with
  | none =>
    refine ⟨hs.zeroed, ?_, hs.clean, fun h => absurd rfl h, ?_, nofun, nofun, nofun, ?_,
      holds_append.mpr ⟨hs.ok, hs.calling, fun w hw heq => ?_⟩, hs.defined⟩
    · dsimp only
      rw [registered_append]
      exact hs.live
    · dsimp only
      rw [RegistryRuns.reaping, List.foldl_append]
      rfl
    · dsimp only
      rw [RegistryRuns.calling, List.foldl_append]
      exact hs.calling
    · -- every place of the table has been passed
      rw [← hs.live] at hw
      obtain ⟨hmem, halive⟩ := Registry.mem_live.mp hw
      obtain ⟨j, hj⟩ := List.mem_iff_getElem?.mp hmem
      have hlt := (List.getElem?_eq_some_iff.mp hj).1
      have hle := List.getElem?_eq_none_iff.mp hi
      exact hs.passed hscan j (by omega) w hj halive heq
  | some e =>
    dsimp only
    split_ifs with hpid
    · cases hh : e.handler with
      | none =>
        have := hs.zeroed e (List.mem_of_getElem? hi) hh
        have := hs.positive hscan
        omega
      | some h =>
        refine hs.call hscan ?_ acts
        rw [hi, ← hpid, ← hh]
    · exact hs.next hscan hi fun _ => hpid

/-- **The steps keep the invariant.** -/
theorem RegistryRun.Good.step (hs : s.Good none) (e : RegistryEvent η) : (s.step e).Good none := by
  cases e with
  | op o =>
    dsimp only [RegistryRun.step]
    split_ifs
    · exact hs.op o
    · exact hs
  | eval =>
    dsimp only [RegistryRun.step]
    split_ifs
    · exact ⟨hs.zeroed, hs.live, nofun, fun _ => rfl, hs.reaping, hs.positive, hs.passed, hs.bound,
        hs.calling, hs.ok, hs.defined⟩
    · exact hs
  | reap pid =>
    dsimp only [RegistryRun.step]
    split_ifs with h
    · obtain ⟨heval, hscan, hpos⟩ := h
      refine ⟨hs.zeroed, ?_, hs.clean, fun _ => heval, ?_, ?_, ?_, ?_, ?_,
        holds_append.mpr ⟨hs.ok, hs.calling⟩, hs.defined⟩
      · dsimp only
        rw [registered_append]
        exact hs.live
      · dsimp only
        rw [RegistryRuns.reaping, List.foldl_append]
        rfl
      · intro pid' i heq
        obtain ⟨rfl, -⟩ := Prod.mk.inj (Option.some.inj heq)
        exact hpos
      · intro pid' i heq j hj
        obtain ⟨-, rfl⟩ := Prod.mk.inj (Option.some.inj heq)
        exact absurd hj (Nat.not_lt_zero j)
      · intro pid' i heq
        obtain ⟨-, rfl⟩ := Prod.mk.inj (Option.some.inj heq)
        exact Nat.zero_le _
      · dsimp only
        rw [RegistryRuns.calling, List.foldl_append]
        exact hs.calling
    · exact hs
  | visit acts =>
    dsimp only [RegistryRun.step]
    cases hscan : s.scan with
    | none => exact hs
    | some p => exact hs.visit hscan acts
  | leave =>
    dsimp only [RegistryRun.step]
    split_ifs with h
    · have hclean : ∀ e ∈ cleanup s.registry.pending, e.alive = true := by
        intro e he
        rw [cleanup_eq_filter] at he
        exact (List.mem_filter.mp he).2
      refine ⟨fun e he hnone => ?_, ?_, fun _ => hclean, fun hn => absurd h.2 hn, hs.reaping,
        hs.positive, ?_, ?_, hs.calling, hs.ok, hs.defined⟩
      · have := hclean e he
        rw [Waiting.alive, hnone] at this
        cases this
      · rw [Registry.live_cleanup s.registry false]
        exact hs.live
      · intro pid i hscan
        rw [h.2] at hscan
        cases hscan
      · intro pid i hscan
        rw [h.2] at hscan
        cases hscan
    · exact hs

/-- The invariant holds after every run. -/
theorem RegistryRun.good_run (es : List (RegistryEvent η)) :
    (run RegistryRun.step RegistryRun.start es).Good none :=
  run_induction (I := RegistryRun.Good none) (fun _ e hs => hs.step e) es _ good_start

/-! ### A listener's turn -/

/-- The loop passes an entry that it does not find to be `w` and leaves it where it is. -/
theorem RegistryRun.Kept.visit {pid : ℤ} {i : ℕ} (h : s.Kept base j w)
    (hi : i < s.registry.pending.length) (acts : List (RegistryOp η)) :
    (s.visit pid i acts).Kept base j w ∧ (s.visit pid i acts).scan = some (pid, i + 1) := by
  unfold RegistryRun.visit
  rw [List.getElem?_eq_getElem hi]
  dsimp only
  refine ⟨?_, rfl⟩
  split_ifs
  · split
    · exact h
    · exact h.call pid _ acts
  · exact h

omit [DecidableEq η] in
theorem RegistryRun.Kept.length (h : s.Kept base j w) : j < s.registry.pending.length := by
  obtain ⟨-, -, -, hp | ⟨hp, -⟩⟩ := h <;> exact (List.getElem?_eq_some_iff.mp hp).1

/-- The rounds up to the place `j`. -/
theorem RegistryRun.Kept.visits {pid : ℤ} : ∀ (visits : List (List (RegistryOp η))) {i : ℕ}
    {s : RegistryRun η}, s.Kept base j w → s.scan = some (pid, i) → i + visits.length ≤ j →
      (run RegistryRun.step s (visits.map .visit)).Kept base j w ∧
      (run RegistryRun.step s (visits.map .visit)).scan = some (pid, i + visits.length)
  | [], _, _, h, hscan, _ => ⟨h, hscan⟩
  | acts :: visits, i, s, h, hscan, hj => by
    have hstep : s.step (.visit acts) = s.visit pid i acts := by
      dsimp only [RegistryRun.step]
      rw [hscan]
    rw [List.length_cons] at hj
    obtain ⟨h', hscan'⟩ := h.visit (i := i) (by have := h.length; omega) acts
    rw [List.map_cons, run_cons, hstep, List.length_cons, ← Nat.add_assoc, Nat.add_right_comm]
    exact RegistryRun.Kept.visits visits h' hscan' (by omega)

/-- Handlers only add to the record. -/
theorem RegistryRun.log_ops (acts : List (RegistryOp η)) (s : RegistryRun η) :
    ∃ items, (acts.foldl RegistryRun.op s).log = s.log ++ items := by
  induction acts generalizing s with
  | nil => exact ⟨[], (List.append_nil _).symm⟩
  | cons o acts ih =>
    obtain ⟨items, hitems⟩ := ih (s.op o)
    rw [List.foldl_cons, hitems]
    cases o <;> exact ⟨_ :: items, List.append_assoc ..⟩

/-- **A listener's turn.** When a process is reaped, the loop comes to the listener at `j` in `j`
rounds; it was unlistened or called before, or it is called now. -/
theorem RegistryRun.turn {pid : ℤ} {h : η} (heval : s.registry.evalMode = true)
    (hscan : s.scan = none) (hpid : 0 < pid) (hj : s.registry.pending[j]? = some ⟨pid, some h⟩)
    (visits : List (List (RegistryOp η))) (hlen : visits.length = j)
    (acts : List (RegistryOp η)) :
    ∃ items, (run RegistryRun.step s (.reap pid :: visits.map .visit)).log =
        s.log ++ .reaped pid :: items ∧
      (.unlisten ⟨pid, some h⟩ ∈ items ∨ .drop ⟨pid, some h⟩ ∈ items ∨
        ∃ items', (run RegistryRun.step s (.reap pid :: visits.map .visit ++ [.visit acts])).log =
          s.log ++ .reaped pid :: items ++ .call ⟨pid, some h⟩ :: items') := by
  have hreap : s.step (.reap pid) =
      { s with scan := some (pid, 0), log := s.log ++ [.reaped pid] } := by
    dsimp only [RegistryRun.step]
    rw [if_pos ⟨heval, hscan, hpid⟩]
  have hkept : (s.step (.reap pid)).Kept (s.log ++ [.reaped pid]) j ⟨pid, some h⟩ := by
    rw [hreap]
    exact ⟨heval, [], (List.append_nil _).symm, Or.inl hj⟩
  obtain ⟨⟨-, items, hlog, hp⟩, hscan'⟩ :=
    hkept.visits visits (i := 0) (by rw [hreap]) (by omega)
  rw [List.append_assoc, List.singleton_append] at hlog
  refine ⟨items, hlog, ?_⟩
  rcases hp with hp | ⟨-, hun | hdrop⟩
  · refine Or.inr (Or.inr ?_)
    rw [run_append]
    set s' := run RegistryRun.step s (.reap pid :: visits.map .visit) with hs'
    have hlog' : s'.log = s.log ++ .reaped pid :: items := hlog
    have hp' : s'.registry.pending[j]? = some ⟨pid, some h⟩ := hp
    have hat : s'.scan = some (pid, j) := by
      rw [hs', run_cons, hscan', Nat.zero_add, hlen]
    have hcall : (run RegistryRun.step s' [.visit acts]).log = (s'.call pid h acts).log := by
      rw [run_cons, run_nil]
      dsimp only [RegistryRun.step]
      rw [hat]
      dsimp only [RegistryRun.visit]
      rw [hp']
      dsimp only
      rw [if_pos rfl]
    obtain ⟨items', hitems'⟩ :=
      RegistryRun.log_ops acts { s' with log := s'.log ++ [.call ⟨pid, some h⟩] }
    refine ⟨items' ++ [.drop ⟨pid, some h⟩], ?_⟩
    rw [hcall]
    dsimp only [RegistryRun.call]
    rw [hitems', hlog']
    simp
  · exact Or.inl hun
  · exact Or.inr (Or.inl hdrop)

/-! ### What holds of every record -/

omit [DecidableEq η] in
theorem calling_append (log : List (Item η)) (it : Item η) : calling (log ++ [it]) =
    match it with
    | .call w => some w
    | .drop _ => none
    | _ => calling log := by
  rw [calling, List.foldl_append]
  cases it <;> rfl

/-- A handler runs only if it was called. -/
theorem call_of_calling {w : Waiting η} (log : List (Item η)) : ∀ items : List (Item η),
    calling log ≠ some w → calling (log ++ items) = some w → .call w ∈ items := by
  intro items
  induction items generalizing log with
  | nil =>
    intro h hw
    rw [List.append_nil] at hw
    exact absurd hw h
  | cons it items ih =>
    intro h hw
    by_cases hit : it = .call w
    · rw [hit]
      exact List.mem_cons_self
    · refine List.mem_cons_of_mem _ (ih (log ++ [it]) ?_ ?_)
      · rw [calling_append]
        cases it with
        | call w' => exact fun heq => hit (by rw [Option.some.inj heq])
        | drop _ => exact nofun
        | listen _ => exact h
        | unlisten _ => exact h
        | reaped _ => exact h
        | scanned _ => exact h
      · rwa [List.append_assoc, List.singleton_append]

/-- A handler that is left has been dropped. -/
theorem drop_of_calling {w : Waiting η} (log : List (Item η)) : ∀ items : List (Item η),
    Holds itemOk (log ++ items) → calling log = some w → calling (log ++ items) = none →
      .drop w ∈ items := by
  intro items
  induction items generalizing log with
  | nil =>
    intro _ h hnone
    rw [List.append_nil, h] at hnone
    cases hnone
  | cons it items ih =>
    intro hok h hnone
    have hit : itemOk log it := hok.at
    rw [← List.singleton_append, ← List.append_assoc] at hok hnone
    have hrest : calling (log ++ [it]) = some w → .drop w ∈ it :: items := fun hc =>
      List.mem_cons_of_mem _ (ih (log ++ [it]) hok hc hnone)
    rw [calling_append] at hrest
    cases it with
    | call w' =>
      rw [hit.2.2] at h
      cases h
    | drop w' =>
      obtain rfl : w' = w := Option.some.inj (hit.symm.trans h)
      exact List.mem_cons_self
    | listen _ => exact hrest h
    | unlisten _ => exact hrest h
    | reaped _ => exact hrest h
    | scanned _ => exact hrest h

/-- A listener that has gone without being unlistened was called. -/
theorem call_of_gone {w : Waiting η} {log items : List (Item η)} (hok : Holds itemOk (log ++ items))
    (hmem : w ∈ registered log) (hrun : calling log ≠ some w) (hun : .unlisten w ∉ items)
    (hgone : w ∉ registered (log ++ items)) : .call w ∈ items := by
  by_cases hdrop : Item.drop w ∈ items
  · obtain ⟨before, after, rfl⟩ := List.append_of_mem hdrop
    rw [← List.append_assoc] at hok
    have hcalling : calling (log ++ before) = some w := hok.at
    exact List.mem_append_left _ (call_of_calling log before hrun hcalling)
  · exact absurd (mem_registered_append log items hmem hun hdrop) hgone

/-- A listener that was unlistened, or was called, is called again only if it is registered
again. -/
theorem listen_of_call {w : Waiting η} {pre mid post : List (Item η)} {it : Item η}
    (hok : Holds itemOk (pre ++ it :: mid ++ .call w :: post))
    (hit : it = .unlisten w ∨ it = .call w) : .listen w ∈ mid := by
  have hcall : w ∈ registered (pre ++ it :: mid) ∧ _ ∧ calling (pre ++ it :: mid) = none := hok.at
  rw [← List.singleton_append, ← List.append_assoc] at hcall
  rcases hit with rfl | rfl
  · refine listen_of_mem_registered _ _ ?_ hcall.1
    rw [registered_append]
    exact fun hm => by simpa using (List.mem_filter.mp hm).2
  · have hdrop : Item.drop w ∈ mid := by
      refine drop_of_calling (pre ++ [.call w]) mid ?_ ?_ hcall.2.2
      · rw [List.append_assoc, List.singleton_append]
        exact hok.of_append
      · rw [calling_append]
    obtain ⟨before, after, rfl⟩ := List.append_of_mem hdrop
    refine List.mem_append_right _ (List.mem_cons_of_mem _ ?_)
    refine listen_of_mem_registered (pre ++ [.call w] ++ before ++ [.drop w]) after ?_ ?_
    · rw [registered_append]
      exact fun hm => by simpa using (List.mem_filter.mp hm).2
    · simpa using hcall.1

/-- **The inner loop for `pid`, from its beginning to its end**, calls every listener of `pid` that
is not unlistened. -/
theorem call_of_scanned {w : Waiting η} {pre mid post : List (Item η)} {pid : ℤ}
    (hok : Holds itemOk (pre ++ .reaped pid :: mid ++ .scanned pid :: post))
    (hmem : w ∈ registered pre) (hpid : w.pid = pid) (hun : .unlisten w ∉ mid) :
    .call w ∈ mid := by
  have hscanned : _ ∧ ∀ w ∈ registered (pre ++ .reaped pid :: mid), w.pid ≠ pid := hok.at
  have hreaped : calling pre = none := Holds.at hok.of_append
  have hok' := hok.of_append
  rw [← List.singleton_append, ← List.append_assoc] at hok' hscanned
  refine call_of_gone hok' ?_ ?_ hun fun hm => hscanned.2 w hm hpid
  · rwa [registered_append]
  · rw [calling_append, hreaped]
    exact nofun

/-- It calls the listener once, unless it is registered again. -/
theorem count_call_of_scanned {w : Waiting η} {pre mid post : List (Item η)} {pid : ℤ}
    (hok : Holds itemOk (pre ++ .reaped pid :: mid ++ .scanned pid :: post))
    (hmem : w ∈ registered pre) (hpid : w.pid = pid) (hun : .unlisten w ∉ mid)
    (hlisten : .listen w ∉ mid) : mid.count (.call w) = 1 := by
  obtain ⟨before, after, rfl, hfirst⟩ :=
    List.eq_append_cons_of_mem (call_of_scanned hok hmem hpid hun)
  have hafter : Item.call w ∉ after := by
    intro hcall
    obtain ⟨between, rest, rfl⟩ := List.append_of_mem hcall
    have hok' : Holds itemOk ((pre ++ .reaped pid :: before) ++ .call w :: between ++
        .call w :: (rest ++ .scanned pid :: post)) := by
      simpa using hok
    have hagain : Item.listen w ∈ between := listen_of_call hok' (Or.inr rfl)
    exact hlisten (List.mem_append_right _ (List.mem_cons_of_mem _
      (List.mem_append_left _ hagain)))
  rw [List.count_append, List.count_cons_self, List.count_eq_zero.mpr hfirst,
    List.count_eq_zero.mpr hafter]

/-- **What spawnregistery.c promises.** -/
structure RegistrySpec (s : RegistryRun η) : Prop where
  /-- outside of `eval` the table holds the registered listeners in their order -/
  table : s.registry.evalMode = false → s.registry.pending = registered s.log
  /-- at any time its live entries are the registered listeners -/
  live : s.registry.live = registered s.log
  /-- only a registered listener is called, and with the process that was reaped -/
  called : ∀ {pre post w}, s.log = pre ++ .call w :: post →
    w ∈ registered pre ∧ reaping pre = some w.pid
  /-- every registered listener of a reaped process is called, if it is not unlistened -/
  reached : ∀ {pre mid post pid w}, s.log = pre ++ .reaped pid :: mid ++ .scanned pid :: post →
    w ∈ registered pre → w.pid = pid → .unlisten w ∉ mid → .call w ∈ mid
  /-- and it is called once -/
  once : ∀ {pre mid post pid w}, s.log = pre ++ .reaped pid :: mid ++ .scanned pid :: post →
    w ∈ registered pre → w.pid = pid → .unlisten w ∉ mid → .listen w ∉ mid →
      mid.count (.call w) = 1
  /-- the loop comes to the listener at `j` in `j` rounds, and calls it if it is still there -/
  turn : ∀ {pid h j}, s.registry.evalMode = true → s.scan = none → 0 < pid →
    s.registry.pending[j]? = some ⟨pid, some h⟩ →
    ∀ visits : List (List (RegistryOp η)), visits.length = j → ∀ acts,
      ∃ items, (run RegistryRun.step s (.reap pid :: visits.map .visit)).log =
          s.log ++ .reaped pid :: items ∧
        (.unlisten ⟨pid, some h⟩ ∈ items ∨ .drop ⟨pid, some h⟩ ∈ items ∨
          ∃ items', (run RegistryRun.step s (.reap pid :: visits.map .visit ++ [.visit acts])).log =
            s.log ++ .reaped pid :: items ++ .call ⟨pid, some h⟩ :: items')
  /-- a listener that was unlistened or called is called again only after it is registered again -/
  again : ∀ {pre mid post w it}, s.log = pre ++ it :: mid ++ .call w :: post →
    it = .unlisten w ∨ it = .call w → .listen w ∈ mid
  /-- any other listener survives -/
  survives : ∀ {pre items w}, s.log = pre ++ items → w ∈ registered pre → calling pre ≠ some w →
    .unlisten w ∉ items → .call w ∉ items → w ∈ registered s.log
  /-- `eval` returns when the inner loops have ended -/
  finished : s.registry.evalMode = false → reaping s.log = none
  /-- no handler is called that is not there -/
  defined : s.ub = false

/-- **The spawn registry**, for all callers and all handlers. -/
theorem registry_spec (es : List (RegistryEvent η)) :
    RegistrySpec (run RegistryRun.step RegistryRun.start es) := by
  have hs := RegistryRun.good_run es
  set s := run RegistryRun.step RegistryRun.start es
  refine ⟨fun heval => ?_, hs.live, fun hlog => ?_, fun hlog => ?_, fun hlog => ?_,
    RegistryRun.turn, fun hlog => ?_, fun hlog hmem hrun hun hcall => ?_, fun heval => ?_,
    hs.defined⟩
  · rw [← hs.live]
    exact (List.filter_eq_self.mpr (hs.clean heval)).symm
  · have hcall : _ ∧ _ ∧ _ := (hlog ▸ hs.ok).at
    exact ⟨hcall.1, hcall.2.1⟩
  · exact call_of_scanned (hlog ▸ hs.ok)
  · exact count_call_of_scanned (hlog ▸ hs.ok)
  · exact listen_of_call (hlog ▸ hs.ok)
  · by_contra hgone
    rw [hlog] at hgone
    exact hcall (call_of_gone (hlog ▸ hs.ok) hmem hrun hun hgone)
  · rw [hs.reaping, Option.map_eq_none_iff]
    by_contra hscan
    rw [hs.evaluating hscan] at heval
    cases heval

end Spawny.Daemon.RegistryRuns
