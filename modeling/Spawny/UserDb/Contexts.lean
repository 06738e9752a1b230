import Spawny.Lib.Runs
import Spawny.UserDb.Sync

/-! # The context of the user database

`user_db_init` makes a `Context` on its first call and counts the users of it on the next ones;
`user_db_shutdown` counts down and frees it with the last. The count lies in the context itself. A
cell of the heap is not used again after `free`, so a pointer that is kept too long is seen.

`Database` says what the two calls are for: the database is loaded as long as somebody has it open.

* `user_load`: what the first call of a user's process finds;
* `holds_step_iff`: what a call needs so that the statics still are those of the database;
* `holds_iff`: **when the two calls keep them so, over whole runs**. -/

namespace Spawny.UserDb.Contexts

open Spawny.Lib.Ini Spawny.Lib.Runs Spawny.UserDb.Records Spawny.UserDb.Files Spawny.UserDb.Sync

variable (parse : Str → List Entry) (getpwnam : Str → Option Passwd)

/-! ### user_db_init and user_db_shutdown -/

/-- A `Context` on the heap, with its field `ref`. -/
structure Cell where
  memory : Memory
  ref : ℤ
  freed : Bool

/-- The static variable `ctx` and the heap, the directory, and what `getpwent` has still to list.
`ub` is set where C would use a `NULL` pointer or freed memory. -/
structure Statics where
  ctx : Option ℕ
  heap : List Cell
  dir : Dir
  pwent : List Passwd
  ub : Bool

/-- How the system answers in `user_db_init`, for a user's process and for one of root. -/
structure InitEnv where
  load : LoadEnv
  sync : SyncEnv

/-- What `calloc` gives, with `started_uid`. -/
def Memory.fresh (uid : ℕ) : Memory := ⟨⟨uid, [], false⟩, List.nodup_nil, fun _ => rfl⟩

/-- The first load, by a root process through `user_db_sync`; `none` is undefined behaviour there. -/
def loadFresh (uid : ℕ) (env : InitEnv) (dir : Dir) (pwent : List Passwd) : Option Process :=
  if uid = 0 then
    (userDbSync parse getpwnam env.sync ⟨Memory.fresh uid, dir, pwent⟩).map Prod.snd
  else some ⟨((Memory.fresh uid).load parse getpwnam env.load dir).2, dir, pwent⟩

/-- Nothing is loaded, and the process is not allowed to make the database. -/
def uninitialized (uid : ℕ) (p : Process) : Bool := p.memory.ctx.user.isEmpty && uid != 0

/-- The cell at `k` is read or written. -/
def Statics.use (k : ℕ) (s : Statics) : Statics :=
  if ((s.heap[k]?).map Cell.freed).getD true then { s with ub := true } else s

/-- `user_db_init` with its return value. -/
def userDbInit (uid : ℕ) (env : InitEnv) (s : Statics) : Option (Bool × Statics) :=
  match s.ctx with
  | none =>
    (loadFresh parse getpwnam uid env s.dir s.pwent).map fun p =>
      let s := { s with ctx := some s.heap.length, dir := p.dir, pwent := p.pwent }
      if uninitialized uid p then
        -- `free(ctx)`, and `ctx` stays
        (false, { s with heap := s.heap ++ [⟨p.memory, 0, true⟩] })
      else (true, { s with heap := s.heap ++ [⟨p.memory, 1, false⟩] })
  | some k =>
    some (true, { s.use k with heap := s.heap.modify k fun c => { c with ref := c.ref + 1 } })

/-- `user_db_shutdown`. -/
def userDbShutdown (s : Statics) : Statics :=
  match s.ctx with
  | none => { s with ub := true }
  | some k =>
    let s := { s.use k with heap := s.heap.modify k fun c => { c with ref := c.ref - 1 } }
    if (s.heap[k]?).map Cell.ref = some 0 then
      { s with
        ctx := none
        heap := s.heap.modify k fun c => { c with memory := c.memory.free, freed := true } }
    else s

/-! ### What the calls are for -/

/-- The database as it was loaded, and how many have it open. -/
structure Opened where
  memory : Memory
  count : ℕ
  pos : 0 < count

/-- The database: open or not, with the files it is loaded from. -/
structure Database where
  opened : Option Opened
  dir : Dir
  pwent : List Passwd

namespace Database

/-- How many have the database open. -/
def count (d : Database) : ℕ := (d.opened.map Opened.count).getD 0

/-- The first one loads it; if there is nothing to load, it was not opened. -/
def init (uid : ℕ) (env : InitEnv) (d : Database) : Database :=
  match d.opened with
  | some o => { d with opened := some ⟨o.memory, o.count + 1, Nat.succ_pos _⟩ }
  | none =>
    match loadFresh parse getpwnam uid env d.dir d.pwent with
    | none => d
    | some p =>
      if uninitialized uid p then d
      else ⟨some ⟨p.memory, 1, Nat.one_pos⟩, p.dir, p.pwent⟩

/-- The last one closes it. -/
def shutdown (d : Database) : Database :=
  match d.opened with
  | none => d
  | some o =>
    { d with
      opened := if h : 1 < o.count then some ⟨o.memory, o.count - 1, Nat.sub_pos_of_lt h⟩
        else none }

end Database

/-! ### Runs -/

/-- The statics, the calls that returned true less those of `user_db_shutdown`, and the database. -/
structure System where
  statics : Statics
  opens : ℕ
  database : Database

/-- A call, or another process has changed the directory. -/
inductive Event
  | init (uid : ℕ) (env : InitEnv)
  | shutdown
  | others (dir : Dir)

/-- A step. `user_db_shutdown` is called once at most for every call of `user_db_init` that returned
true. -/
def step (s : System) : Event → System
  | .init uid env =>
    match userDbInit parse getpwnam uid env s.statics with
    | none => s
    | some (ok, statics) =>
      ⟨statics, s.opens + ok.toNat, s.database.init parse getpwnam uid env⟩
  | .shutdown =>
    if s.opens = 0 then s
    else ⟨userDbShutdown s.statics, s.opens - 1, s.database.shutdown⟩
  | .others dir =>
    { s with statics := { s.statics with dir := dir }, database := { s.database with dir := dir } }

/-- Before the first call. -/
def System.start (dir : Dir) (pwent : List Passwd) : System :=
  ⟨⟨none, [], dir, pwent, false⟩, 0, ⟨none, dir, pwent⟩⟩

/-- **The statics are those of the database**: there is a context exactly while the database is open,
it is the only one, and it holds what was loaded and how many have it open. -/
structure Holds (s : System) : Prop where
  sound : s.statics.ub = false
  dir : s.statics.dir = s.database.dir
  pwent : s.statics.pwent = s.database.pwent
  count : s.opens = s.database.count
  closed : s.database.opened = none → s.statics.ctx = none
  opened : ∀ o, s.database.opened = some o → ∃ k, s.statics.ctx = some k ∧
    s.statics.heap[k]? = some ⟨o.memory, o.count, false⟩
  alone : ∀ (k : ℕ) (c : Cell), s.statics.heap[k]? = some c → c.freed = false →
    s.statics.ctx = some k

/-- A file of the directory can be loaded. -/
def Loadable (env : LoadEnv) (d : Dir) : Prop :=
  env.opendir = true ∧ ∃ f ∈ d.files, (offer parse getpwnam env.fopen f).isSome = true

/-- What a step needs: the first call of a user's process finds somebody. -/
def Finds (s : System) : Event → Prop
  | .init uid env =>
    s.statics.ctx = none → uid = 0 ∨ Loadable parse getpwnam env.load s.statics.dir
  | _ => True

variable {parse getpwnam}

/-! ### The first load -/

/-- **What the first call of a user's process finds.** -/
theorem user_load (uid : ℕ) (env : LoadEnv) (d : Dir) :
    ((Memory.fresh uid).load parse getpwnam env d).2.ctx.user = [] ↔
      ¬Loadable parse getpwnam env d := by
  unfold Memory.load Loadable
  cases hopen : env.opendir with
  | false => simp [Memory.fresh]
  | true =>
    have hload : (loadFromFs parse getpwnam env d (Memory.fresh uid).ctx).2.user =
        ((env.readdir d).filterMap (offer parse getpwnam env.fopen)).foldl addUser [] := by
      unfold loadFromFs
      rw [if_neg (by simp [hopen])]
      exact foldl_loadEntry env _ _
    have hmem : ∀ f, f ∈ env.readdir d ↔ f ∈ d.files := fun f => (env.readdir_perm d).mem_iff
    simp only [Bool.true_eq_false, if_false, hload, true_and]
    constructor
    · rintro hnil ⟨f, hf, hoffer⟩
      obtain ⟨u, hu⟩ := Option.isSome_iff_exists.mp hoffer
      have hmem : u ∈ (env.readdir d).filterMap (offer parse getpwnam env.fopen) :=
        List.mem_filterMap.mpr ⟨f, (hmem f).mpr hf, hu⟩
      have hfind := userFind_foldl_addUser
        ((env.readdir d).filterMap (offer parse getpwnam env.fopen)) [] u.name
      rw [hnil] at hfind
      have hnone : userFind ((env.readdir d).filterMap (offer parse getpwnam env.fopen)) u.name =
          none := by simpa [userFind] using hfind.symm
      have := List.find?_eq_none.mp hnone u hmem
      simp at this
    · intro hnobody
      have hempty : (env.readdir d).filterMap (offer parse getpwnam env.fopen) = [] := by
        refine List.filterMap_eq_nil_iff.mpr fun f hf => ?_
        by_contra hoffer
        exact hnobody ⟨f, (hmem f).mp hf, Option.ne_none_iff_isSome.mp hoffer⟩
      rw [hempty]
      rfl

/-- When the first call returns false. -/
theorem uninitialized_iff {uid : ℕ} {env : InitEnv} {dir : Dir} {pwent : List Passwd} {p : Process}
    (h : loadFresh parse getpwnam uid env dir pwent = some p) :
    uninitialized uid p = true ↔ uid ≠ 0 ∧ ¬Loadable parse getpwnam env.load dir := by
  unfold loadFresh at h
  split_ifs at h with huid
  · simp [uninitialized, huid]
  · obtain rfl := Option.some.inj h
    rw [← user_load uid]
    simp [uninitialized, huid]

/-! ### What the calls keep -/

section calls

variable {s : System}

theorem Holds.opened_of_ctx (h : Holds s) {k : ℕ} (hctx : s.statics.ctx = some k) :
    ∃ o, s.database.opened = some o ∧ s.statics.heap[k]? = some ⟨o.memory, o.count, false⟩ := by
  cases ho : s.database.opened with
  | none =>
    rw [h.closed ho] at hctx
    cases hctx
  | some o =>
    obtain ⟨k', hk', hcell⟩ := h.opened o ho
    obtain rfl : k' = k := Option.some.inj (hk'.symm.trans hctx)
    exact ⟨o, rfl, hcell⟩

theorem Holds.closed_of_ctx (h : Holds s) (hctx : s.statics.ctx = none) :
    s.database.opened = none := by
  cases ho : s.database.opened with
  | none => rfl
  | some o =>
    obtain ⟨k, hk, -⟩ := h.opened o ho
    rw [hctx] at hk
    cases hk

/-- A context that is live may be used. -/
theorem use_of_live {k : ℕ} {c : Cell} {st : Statics} (hcell : st.heap[k]? = some c)
    (hlive : c.freed = false) : st.use k = st := by
  unfold Statics.use
  rw [hcell, Option.map_some, Option.getD_some, hlive]
  exact if_neg Bool.false_ne_true

/-- A live cell was one before another field of a cell was written. -/
theorem live_of_modify {f : Cell → Cell} {heap : List Cell} {k k' : ℕ} {c : Cell}
    (hf : ∀ c, (f c).freed = c.freed) (hc : (heap.modify k f)[k']? = some c)
    (hfreed : c.freed = false) : ∃ c', heap[k']? = some c' ∧ c'.freed = false := by
  rw [List.getElem?_modify] at hc
  obtain ⟨c', hc', rfl⟩ := Option.map_eq_some_iff.mp hc
  refine ⟨c', hc', ?_⟩
  split_ifs at hfreed
  · rw [← hf c', hfreed]
  · exact hfreed

/-- A live cell is none of those that are freed. -/
theorem live_of_freed {heap : List Cell} {k k' : ℕ} {c : Cell}
    (hc : (heap.modify k fun c => { c with memory := c.memory.free, freed := true })[k']? = some c)
    (hfreed : c.freed = false) : k ≠ k' ∧ ∃ c', heap[k']? = some c' ∧ c'.freed = false := by
  rw [List.getElem?_modify] at hc
  obtain ⟨c', hc', rfl⟩ := Option.map_eq_some_iff.mp hc
  split_ifs at hfreed with hk
  exact ⟨hk, c', hc', hfreed⟩

/-- **The first call** keeps the statics right, if it finds somebody. -/
theorem Holds.init_fresh (h : Holds s) (hctx : s.statics.ctx = none) (uid : ℕ) (env : InitEnv) :
    Holds (step parse getpwnam s (.init uid env)) ↔
      uid = 0 ∨ Loadable parse getpwnam env.load s.statics.dir := by
  have hclosed := h.closed_of_ctx hctx
  cases hload : loadFresh parse getpwnam uid env s.statics.dir s.statics.pwent with
  | none =>
    have huid : uid = 0 := by
      by_contra hne
      simp [loadFresh, hne] at hload
    have hstep : step parse getpwnam s (.init uid env) = s := by
      simp only [step, userDbInit, hctx, hload, Option.map_none]
    rw [hstep]
    exact iff_of_true h (Or.inl huid)
  | some p =>
    have hempty := uninitialized_iff hload
    have hdb : loadFresh parse getpwnam uid env s.database.dir s.database.pwent = some p := by
      rw [← h.dir, ← h.pwent, hload]
    by_cases hun : uninitialized uid p = true
    · -- the pointer stays where there is nothing to point to
      have hfails : ¬Holds (step parse getpwnam s (.init uid env)) := by
        intro hnext
        have hnone : (step parse getpwnam s (.init uid env)).database.opened = none := by
          simp only [step, userDbInit, hctx, hload, Option.map_some, hun, if_true, Database.init,
            hclosed, hdb]
        have hsome : (step parse getpwnam s (.init uid env)).statics.ctx =
            some s.statics.heap.length := by
          simp only [step, userDbInit, hctx, hload, Option.map_some, hun, if_true]
        rw [hnext.closed hnone] at hsome
        cases hsome
      refine iff_of_false hfails ?_
      rintro (huid | hfinds)
      · exact (hempty.mp hun).1 huid
      · exact (hempty.mp hun).2 hfinds
    · have hstep : step parse getpwnam s (.init uid env) =
          ⟨⟨some s.statics.heap.length, s.statics.heap ++ [⟨p.memory, 1, false⟩], p.dir, p.pwent,
            s.statics.ub⟩, s.opens + 1, ⟨some ⟨p.memory, 1, Nat.one_pos⟩, p.dir, p.pwent⟩⟩ := by
        simp only [step, userDbInit, hctx, hload, Option.map_some, hun, Database.init, hclosed, hdb]
        rfl
      have hcount : s.opens = 0 := by
        rw [h.count, Database.count, hclosed]
        rfl
      refine iff_of_true ?_ ?_
      · rw [hstep]
        refine ⟨h.sound, rfl, rfl, ?_, (by rintro ⟨⟩), ?_, ?_⟩
        · rw [hcount]
          rfl
        · intro o ho
          obtain rfl := Option.some.inj ho
          exact ⟨_, rfl, List.getElem?_concat_length⟩
        · intro k c hk hfreed
          rcases Nat.lt_or_ge k s.statics.heap.length with hlt | hge
          · rw [List.getElem?_append_left hlt] at hk
            have halone := h.alone k c hk hfreed
            rw [hctx] at halone
            cases halone
          · have hlt := (List.getElem?_eq_some_iff.mp hk).1
            rw [List.length_append, List.length_singleton] at hlt
            exact congrArg some (by omega)
      · by_contra hno
        obtain ⟨huid, hfinds⟩ := not_or.mp hno
        exact hun (hempty.mpr ⟨huid, hfinds⟩)

/-- The next calls count. -/
theorem Holds.init_again (h : Holds s) {k : ℕ} (hctx : s.statics.ctx = some k) (uid : ℕ)
    (env : InitEnv) : Holds (step parse getpwnam s (.init uid env)) := by
  obtain ⟨o, ho, hcell⟩ := h.opened_of_ctx hctx
  have hstep : step parse getpwnam s (.init uid env) =
      ⟨{ s.statics with heap := s.statics.heap.modify k fun c => { c with ref := c.ref + 1 } },
        s.opens + 1,
        { s.database with opened := some ⟨o.memory, o.count + 1, Nat.succ_pos _⟩ }⟩ := by
    simp only [step, userDbInit, hctx, use_of_live hcell rfl, Database.init, ho]
    rfl
  rw [hstep]
  refine ⟨h.sound, h.dir, h.pwent, ?_, (by rintro ⟨⟩), ?_, ?_⟩
  · rw [h.count, Database.count, ho]
    rfl
  · intro o' ho'
    obtain rfl := Option.some.inj ho'
    refine ⟨k, hctx, ?_⟩
    simp [hcell]
  · intro k' c hk' hfreed
    rw [List.getElem?_modify] at hk'
    obtain ⟨c', hc', rfl⟩ := Option.map_eq_some_iff.mp hk'
    refine h.alone k' c' hc' ?_
    split_ifs at hfreed <;> exact hfreed

/-- **The last `user_db_shutdown`** leaves no context, the others count down. -/
theorem Holds.shutdown (h : Holds s) : Holds (step parse getpwnam s .shutdown) := by
  by_cases hopens : s.opens = 0
  · have hstep : step parse getpwnam s .shutdown = s := if_pos hopens
    rw [hstep]
    exact h
  obtain ⟨o, ho⟩ : ∃ o, s.database.opened = some o := by
    refine Option.ne_none_iff_exists'.mp fun hnone => hopens ?_
    rw [h.count, Database.count, hnone]
    rfl
  obtain ⟨k, hctx, hcell⟩ := h.opened o ho
  have hcount : s.opens = o.count := by
    rw [h.count, Database.count, ho]
    rfl
  have hpos := o.pos
  have hdown : (s.statics.heap.modify k fun c => { c with ref := c.ref - 1 })[k]? =
      some ⟨o.memory, o.count - 1, false⟩ := by
    simp [hcell]
  by_cases hlast : o.count = 1
  · have hstep : step parse getpwnam s .shutdown =
        ⟨{ s.statics with
            ctx := none
            heap := (s.statics.heap.modify k fun c => { c with ref := c.ref - 1 }).modify k
              fun c => { c with memory := c.memory.free, freed := true } },
          s.opens - 1, { s.database with opened := none }⟩ := by
      simp only [step, if_neg hopens, userDbShutdown, hctx, use_of_live hcell rfl, hdown,
        Database.shutdown, ho, hlast]
      rfl
    rw [hstep]
    refine ⟨h.sound, h.dir, h.pwent, ?_, fun _ => rfl, (by rintro _ ⟨⟩), fun k' c hk' hfreed => ?_⟩
    · rw [hcount, hlast]
      rfl
    · obtain ⟨hne, c', hc', hfreed'⟩ := live_of_freed hk' hfreed
      obtain ⟨c'', hc'', hfreed''⟩ := live_of_modify
        (f := fun c => { c with ref := c.ref - 1 }) (fun _ => rfl) hc' hfreed'
      have halone := h.alone k' c'' hc'' hfreed''
      rw [hctx] at halone
      exact absurd (Option.some.inj halone) hne
  · have hmore : 1 < o.count := by omega
    have hne : (o.count : ℤ) - 1 ≠ 0 := by omega
    have hstep : step parse getpwnam s .shutdown =
        ⟨{ s.statics with heap := s.statics.heap.modify k fun c => { c with ref := c.ref - 1 } },
          s.opens - 1,
          { s.database with opened := some ⟨o.memory, o.count - 1, Nat.sub_pos_of_lt hmore⟩ }⟩ := by
      simp only [step, if_neg hopens, userDbShutdown, hctx, use_of_live hcell rfl, hdown,
        Database.shutdown, ho, Option.map_some, Option.some.injEq, hne, if_false, dif_pos hmore]
    rw [hstep]
    refine ⟨h.sound, h.dir, h.pwent, ?_, (by rintro ⟨⟩), ?_, fun k' c hk' hfreed => ?_⟩
    · rw [hcount]
      rfl
    · intro o' ho'
      obtain rfl := Option.some.inj ho'
      refine ⟨k, hctx, hdown.trans ?_⟩
      have hcast : ((o.count - 1 : ℕ) : ℤ) = o.count - 1 := by omega
      rw [hcast]
    · obtain ⟨c', hc', hfreed'⟩ := live_of_modify
        (f := fun c => { c with ref := c.ref - 1 }) (fun _ => rfl) hk' hfreed
      exact h.alone k' c' hc' hfreed'

end calls

/-- **What a step needs** so that the statics are those of the database. -/
theorem holds_step_iff (s : System) (e : Event) (h : Holds s) :
    Holds (step parse getpwnam s e) ↔ Finds parse getpwnam s e := by
  cases e with
  | init uid env =>
    cases hctx : s.statics.ctx with
    | none =>
      rw [h.init_fresh hctx]
      exact ⟨fun hok _ => hok, fun hok => hok hctx⟩
    | some k =>
      refine iff_of_true (h.init_again hctx uid env) fun hnone => ?_
      rw [hctx] at hnone
      cases hnone
  | shutdown => exact iff_of_true h.shutdown trivial
  | others dir =>
    exact iff_of_true ⟨h.sound, rfl, h.pwent, h.count, h.closed, h.opened, h.alone⟩ trivial

theorem holds_start (dir : Dir) (pwent : List Passwd) : Holds (System.start dir pwent) where
  sound := rfl
  dir := rfl
  pwent := rfl
  count := rfl
  closed := fun _ => rfl
  opened := by rintro o ⟨⟩
  alone := by
    intro k c hk
    simp [System.start] at hk

/-- **When the module keeps its context right**, over whole runs: whenever there is none, the next
`user_db_init` is one of root, or it finds a user. -/
theorem holds_iff (parse : Str → List Entry) (getpwnam : Str → Option Passwd) (dir : Dir)
    (pwent : List Passwd) (es : List Event) :
    Throughout (step parse getpwnam) Holds (System.start dir pwent) es ↔
      Meets (step parse getpwnam) (Finds parse getpwnam) (System.start dir pwent) es :=
  throughout_iff holds_step_iff (holds_start dir pwent)

/-- A user's process finds nothing; then root makes the database, and the process tries again. -/
def triesAgain : List Event :=
  [.init 1000 ⟨inOrder, works⟩, .others synced.dir, .init 1000 ⟨inOrder, works⟩]

/-- **The second try counts up in freed memory** and returns true, though nothing is loaded. -/
theorem used_after_free :
    let start := System.start ⟨[], List.nodup_nil⟩ []
    let loaded := passwd [ascii "root"]
    let first := step entries loaded start (.init 1000 ⟨inOrder, works⟩)
    let last := run (step entries loaded) start triesAgain
    first.statics.ctx = some 0 ∧ first.statics.heap.map Cell.freed = [true] ∧ first.opens = 0 ∧
      last.opens = 1 ∧ last.statics.ub = true ∧
      (last.statics.heap.map fun c => c.memory.ctx.user) = [[]] ∧
      (last.database.opened.map fun o => o.memory.ctx.user) = some [⟨ascii "root", []⟩] ∧
      ¬Throughout (step entries loaded) Holds start triesAgain := by
  intro start loaded first last
  have hub : last.statics.ub = true := by decide +kernel
  refine ⟨by decide +kernel, by decide +kernel, by decide +kernel, by decide +kernel, hub,
    by decide +kernel, by decide +kernel, fun h => ?_⟩
  have hsound := (h.at_end _ _).sound
  rw [hub] at hsound
  cases hsound

end Spawny.UserDb.Contexts
