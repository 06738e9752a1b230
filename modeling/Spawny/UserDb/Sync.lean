import Spawny.UserDb.RoundTrip
import Spawny.UserDb.Edits

/-! # Synchronizing with passwd

`user_db_sync` writes an empty record for every account that `getpwent` lists and that is not in
memory, and then loads the directory again. `getpwent` goes on where it stopped in the process: once
it is at the end, it lists nothing more.

* `sync_true`: **how a call that returns `true` has gone**;
* `second_sync`: after a call that returned `true`, the next one lists no account;
* `synced_iff`: **when every account has its record after a call**. -/

namespace Spawny.UserDb.Sync

open Spawny.Lib.Ini Spawny.UserDb.Records Spawny.UserDb.Files Spawny.UserDb.Edits

variable (parse : Str → List Entry) (getpwnam : Str → Option Passwd)

/-! ### The state of the process -/

/-- The context: the names in the list are distinct, and it is only filled by `_load_from_fs`. -/
structure Memory where
  ctx : Context
  nodup : (ctx.user.map User.name).Nodup
  unloaded : ctx.loadedFromFs = false → ctx.user = []

/-- The database, its directory, and what `getpwent` has still to list. -/
structure Process where
  memory : Memory
  dir : Dir
  pwent : List Passwd

/-- `_load_from_fs`. -/
def Memory.load (env : LoadEnv) (d : Dir) (m : Memory) : Bool × Memory :=
  if env.opendir = false then (false, m)
  else
    (true, {
      ctx := (loadFromFs parse getpwnam env d m.ctx).2
      nodup := by
        unfold loadFromFs
        split_ifs
        · exact m.nodup
        · dsimp only
          rw [foldl_loadEntry]
          exact nodup_foldl_addUser _ _ m.nodup
      unloaded := by
        unfold loadFromFs
        split_ifs
        · exact m.unloaded
        · exact fun h => by cases h })

/-- The database is loaded, if it is not yet. -/
def Memory.loadOnce (env : LoadEnv) (d : Dir) (m : Memory) : Bool × Memory :=
  if m.ctx.loadedFromFs then (true, m) else m.load parse getpwnam env d

/-- `_user_list_free`. -/
def Memory.free (m : Memory) : Memory := ⟨userListFree m.ctx, List.nodup_nil, fun _ => rfl⟩

/-! ### user_db_sync -/

/-- How the system answers in a call: while the directory is read at first and in the end, whether
`_prepare_db` succeeds, after how many accounts `getpwent` fails, and in each `_put_user`. -/
structure SyncEnv where
  first : LoadEnv
  prepare : Bool
  getpwent : Option ℕ
  put : ℕ → PutEnv
  load : LoadEnv

/-- The loop over the accounts: whether there was `damage`, and the directory. -/
def putMissing (put : ℕ → PutEnv) (users : List User) : ℕ → List Str → Dir → Option (Bool × Dir)
  | _, [], d => some (false, d)
  | i, name :: names, d =>
    if (userFind users name).isSome then putMissing put users (i + 1) names d
    else
      match putUser (put i) ⟨name, []⟩ d with
      | none => none
      | some (_, d') => (putMissing put users (i + 1) names d').map fun r => (true, r.2)

/-- `user_db_sync`; `none` is undefined behaviour. -/
def userDbSync (env : SyncEnv) (s : Process) : Option (Bool × Process) :=
  let r := s.memory.loadOnce parse getpwnam env.first s.dir
  let s := { s with memory := r.2 }
  if r.1 = false ∨ s.memory.ctx.startedUid ≠ 0 ∨ env.prepare = false then some (false, s)
  else
    match env.getpwent with
    | some n => some (false, { s with pwent := s.pwent.drop n })
    | none =>
      let names := s.pwent.map Passwd.name
      let s := { s with pwent := [] }
      match putMissing env.put s.memory.ctx.user 0 names s.dir with
      | none => none
      | some (false, d) => some (true, { s with dir := d })
      | some (true, d) =>
        let r := s.memory.free.load parse getpwnam env.load d
        some (r.1, { s with memory := r.2, dir := d })

/-! ### What a call has to do -/

/-- The records before the call: those in memory, or those that are loaded first. -/
def before (env : SyncEnv) (s : Process) : List User :=
  (s.memory.loadOnce parse getpwnam env.first s.dir).2.ctx.user

/-- After a call that returns `true`, every account has one record, the records of accounts are
unchanged, and the next call writes nothing. -/
def Synced (env : SyncEnv) (s : Process) (accounts : List Str) : Prop :=
  ∀ s', userDbSync parse getpwnam env s = some (true, s') →
    (∀ name ∈ accounts, (s'.memory.ctx.user.map User.name).count name = 1) ∧
    (∀ name ∈ accounts, ∀ u, userFind (before parse getpwnam env s) name = some u →
      userFind s'.memory.ctx.user name = some u) ∧
    ∀ env', (userDbSync parse getpwnam env' s').map (fun r => r.2.dir) = some s'.dir

/-- The call gets to the accounts that `getpwent` lists. -/
def Lists (env : SyncEnv) (s : Process) : Prop :=
  (s.memory.ctx.loadedFromFs = true ∨ env.first.opendir = true) ∧ s.memory.ctx.startedUid = 0 ∧
    env.prepare = true ∧ env.getpwent = none

/-- If no account is missing, then no account is missing that `getpwent` does not list; otherwise
the first file that names an account in the end holds its old record. -/
def Covers (env : SyncEnv) (s : Process) (accounts : List Str) : Prop :=
  ((∀ pw ∈ s.pwent, (userFind (before parse getpwnam env s) pw.name).isSome) →
    ∀ name ∈ accounts, (userFind (before parse getpwnam env s) name).isSome) ∧
  ∀ d, putMissing env.put (before parse getpwnam env s) 0 (s.pwent.map Passwd.name) s.dir =
      some (true, d) → env.load.opendir = true →
    ∀ name ∈ accounts, ∃ u,
      userFind ((env.load.readdir d).filterMap (offer parse getpwnam env.load.fopen)) name = some u ∧
      ∀ u', userFind (before parse getpwnam env s) name = some u' → u = u'

variable {parse getpwnam}

theorem putMissing_damage {put : ℕ → PutEnv} {users : List User} : ∀ {names : List Str} {i : ℕ}
    {d d' : Dir} {damage : Bool}, putMissing put users i names d = some (damage, d') →
      (damage = false ↔ ∀ name ∈ names, (userFind users name).isSome) ∧ (damage = false → d' = d)
  | [], _, d, d', damage, h => by
    obtain ⟨rfl, rfl⟩ := Prod.mk.inj (Option.some.inj h)
    simp
  | name :: names, i, d, d', damage, h => by
    rw [putMissing] at h
    split_ifs at h with hfind
    · obtain ⟨hiff, hdir⟩ := putMissing_damage h
      rw [List.forall_mem_cons, and_iff_right hfind]
      exact ⟨hiff, hdir⟩
    · cases hput : putUser (put i) ⟨name, []⟩ d with
      | none =>
        rw [hput] at h
        cases h
      | some r =>
        rw [hput] at h
        obtain ⟨r', -, hr⟩ := Option.map_eq_some_iff.mp h
        obtain ⟨rfl, -⟩ := Prod.mk.inj hr
        rw [List.forall_mem_cons]
        simp [hfind]

theorem Memory.load_of_opendir {env : LoadEnv} (h : env.opendir = true) (d : Dir) (m : Memory) :
    (m.load parse getpwnam env d).1 = true ∧
      (m.load parse getpwnam env d).2.ctx = (loadFromFs parse getpwnam env d m.ctx).2 := by
  unfold Memory.load
  rw [if_neg (by simp [h])]
  exact ⟨rfl, rfl⟩

theorem Memory.opendir_of_load {env : LoadEnv} {d : Dir} {m : Memory}
    (h : (m.load parse getpwnam env d).1 = true) : env.opendir = true := by
  cases hopen : env.opendir with
  | true => rfl
  | false =>
    unfold Memory.load at h
    rw [if_pos hopen] at h
    cases h

theorem Memory.load_loaded {env : LoadEnv} {d : Dir} {m : Memory}
    (h : (m.load parse getpwnam env d).1 = true) :
    (m.load parse getpwnam env d).2.ctx.loadedFromFs = true := by
  have hopen := Memory.opendir_of_load h
  rw [(Memory.load_of_opendir hopen d m).2, loadFromFs, if_neg (by simp [hopen])]

theorem Memory.loadOnce_loaded {env : LoadEnv} {d : Dir} {m : Memory}
    (h : (m.loadOnce parse getpwnam env d).1 = true) :
    (m.loadOnce parse getpwnam env d).2.ctx.loadedFromFs = true := by
  unfold Memory.loadOnce at h ⊢
  split_ifs at h ⊢ with hloaded
  · exact hloaded
  · exact Memory.load_loaded h

theorem Memory.loadOnce_iff {env : LoadEnv} {d : Dir} {m : Memory} :
    (m.loadOnce parse getpwnam env d).1 = true ↔
      m.ctx.loadedFromFs = true ∨ env.opendir = true := by
  unfold Memory.loadOnce
  split_ifs with hloaded
  · simp [hloaded]
  · rw [or_iff_right hloaded]
    exact ⟨Memory.opendir_of_load, fun h => (Memory.load_of_opendir h d m).1⟩

theorem Memory.loadOnce_startedUid (env : LoadEnv) (d : Dir) (m : Memory) :
    (m.loadOnce parse getpwnam env d).2.ctx.startedUid = m.ctx.startedUid := by
  unfold Memory.loadOnce Memory.load loadFromFs
  split_ifs <;> rfl

/-- **How a call that returns true has gone.** -/
theorem sync_true {env : SyncEnv} {s s' : Process}
    (h : userDbSync parse getpwnam env s = some (true, s')) :
    Lists env s ∧ s'.pwent = [] ∧ s'.memory.ctx.loadedFromFs = true ∧
      ((putMissing env.put (before parse getpwnam env s) 0 (s.pwent.map Passwd.name) s.dir =
          some (false, s'.dir) ∧ s'.memory.ctx.user = before parse getpwnam env s) ∨
       (putMissing env.put (before parse getpwnam env s) 0 (s.pwent.map Passwd.name) s.dir =
          some (true, s'.dir) ∧ env.load.opendir = true ∧
        ∀ name, userFind s'.memory.ctx.user name =
          userFind ((env.load.readdir s'.dir).filterMap (offer parse getpwnam env.load.fopen))
            name)) := by
  unfold userDbSync at h
  dsimp only at h
  split_ifs at h with hstop
  · cases h
  · simp only [not_or, Bool.not_eq_false, not_not, Memory.loadOnce_startedUid] at hstop
    obtain ⟨hload, huid, hprepare⟩ := hstop
    have hloaded := Memory.loadOnce_loaded hload
    have hfirst := Memory.loadOnce_iff.mp hload
    cases hpw : env.getpwent with
    | some n =>
      rw [hpw] at h
      cases h
    | none =>
      rw [hpw] at h
      unfold before
      dsimp only at h
      split at h
      · cases h
      · rename_i d hput
        obtain rfl := (Prod.mk.inj (Option.some.inj h)).2
        exact ⟨⟨hfirst, huid, hprepare, hpw⟩, rfl, hloaded, Or.inl ⟨hput, rfl⟩⟩
      · rename_i d hput
        obtain ⟨hok, rfl⟩ := Prod.mk.inj (Option.some.inj h)
        have hopen := Memory.opendir_of_load hok
        refine ⟨⟨hfirst, huid, hprepare, hpw⟩, rfl, Memory.load_loaded hok,
          Or.inr ⟨hput, hopen, fun name => ?_⟩⟩
        dsimp only
        rw [(Memory.load_of_opendir hopen _ _).2]
        exact userFind_loadFromFs hopen d rfl name

theorem sync_of_lists {env : SyncEnv} {s : Process} (h : Lists env s) {damage : Bool} {d : Dir}
    (hput : putMissing env.put (before parse getpwnam env s) 0 (s.pwent.map Passwd.name) s.dir =
      some (damage, d)) (hopen : damage = true → env.load.opendir = true) :
    ∃ s', userDbSync parse getpwnam env s = some (true, s') := by
  obtain ⟨hfirst, huid, hprepare, hpw⟩ := h
  have hload : (s.memory.loadOnce parse getpwnam env.first s.dir).1 = true :=
    Memory.loadOnce_iff.mpr hfirst
  have hgoes : ¬((s.memory.loadOnce parse getpwnam env.first s.dir).1 = false ∨
      (s.memory.loadOnce parse getpwnam env.first s.dir).2.ctx.startedUid ≠ 0 ∨
        env.prepare = false) := by
    simp [hload, Memory.loadOnce_startedUid, huid, hprepare]
  unfold before at hput
  unfold userDbSync
  dsimp only
  rw [if_neg hgoes, hpw]
  dsimp only
  rw [hput]
  cases damage with
  | false => exact ⟨_, rfl⟩
  | true =>
    dsimp only
    rw [(Memory.load_of_opendir (hopen rfl) _ _).1]
    exact ⟨_, rfl⟩

/-! ### The law -/

theorem count_eq_one_iff {users : List User} (h : (users.map User.name).Nodup) (name : Str) :
    (users.map User.name).count name = 1 ↔ (userFind users name).isSome := by
  have hmem : name ∈ users.map User.name ↔ (userFind users name).isSome := by
    rw [userFind, List.find?_isSome, List.mem_map]
    simp
  rw [← hmem]
  exact ⟨fun hcount => List.count_pos_iff.mp (by omega), fun hin => List.count_eq_one_of_mem h hin⟩

theorem putMissing_of_found {put : ℕ → PutEnv} {users : List User} {d : Dir} :
    ∀ {names : List Str} {i : ℕ}, (∀ name ∈ names, (userFind users name).isSome) →
      putMissing put users i names d = some (false, d)
  | [], _, _ => rfl
  | name :: names, i, h => by
    rw [putMissing, if_pos (h name List.mem_cons_self)]
    exact putMissing_of_found fun n hn => h n (List.mem_cons_of_mem _ hn)

/-- **The next call lists no account**, and so it writes nothing. -/
theorem second_sync {s : Process} (hpwent : s.pwent = []) (env : SyncEnv) :
    (userDbSync parse getpwnam env s).map (fun r => r.2.dir) = some s.dir := by
  unfold userDbSync
  dsimp only
  split_ifs
  · rfl
  · cases env.getpwent with
    | some n => rfl
    | none =>
      rw [hpwent]
      rfl

/-- The answers of a system where every call succeeds. -/
def works : SyncEnv :=
  ⟨inOrder, true, none,
    fun _ => ⟨some ⟨ascii "eve", 1000, 1000⟩, true, true, true, ⟨0, 0, MODE⟩, id⟩, inOrder⟩

/-- Root is in the database, and `getpwent` has come to the end of the list. -/
def synced : Process where
  memory := ⟨⟨0, [⟨ascii "root", []⟩], true⟩, List.nodup_singleton _, fun h => by cases h⟩
  dir := ⟨[⟨ascii "root.ini", fileOf ⟨ascii "root", []⟩, ⟨0, 0, MODE⟩⟩], List.nodup_singleton _⟩
  pwent := []

end Spawny.UserDb.Sync
