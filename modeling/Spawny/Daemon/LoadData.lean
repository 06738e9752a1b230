import Spawny.UserDb.Hello
import Spawny.Daemon.TemplateRegistry
import Spawny.Daemon.LoadSessions

/-! # _load_data: the answer to a HELLO

`_load_data` collects the templates, the users of the database and the sessions of the seat, and asks
passwd for the accounts of users and sessions. What passwd says may have changed since the database
was loaded. The use of a `NULL` pointer is `none`.

* `loadUser_listed`: a user of the database is sent if it has an account;
* `loadData_iff`: **when the answer is made, without the users and sessions that have no account**. -/

namespace Spawny.Daemon.LoadData

open Spawny.UserDb.Records Spawny.UserDb.Files Spawny.UserDb.Store Spawny.UserDb.Hello
open Spawny.Daemon.SessionMgt Spawny.Daemon.TemplateRegistry Spawny.Daemon.LoadSessions

variable {κ δ : Type*}

/-! ### The functions -/

/-- `Spawny__Server__SessionTemplate`; a field is `none` while it is `NULL`. -/
structure ServerTemplate where
  id : String
  name : Option String
  icon : Option String
  deriving DecidableEq, Repr

/-- `Spawny__Server__Data`. -/
structure ServerData where
  templates : List ServerTemplate
  users : List ServerUser
  sessions : List (Option ServerSession)
  deriving DecidableEq, Repr

/-- The template registry, the database in memory, and the answers of the system. -/
structure DataEnv (κ δ : Type*) extends SessionsEnv where
  reg : TemplateReg κ δ
  ctx : Context

/-- `_load_templates`. -/
def loadTemplates (reg : TemplateReg κ δ) : List ServerTemplate :=
  reg.get.map fun id =>
    let found := reg.detailsGet id
    ⟨id, found.map fun t => t.1, found.bind fun t => t.2.1⟩

/-- `_load_data`. -/
def loadData (env : DataEnv κ δ) : Option ServerData := do
  let templates := loadTemplates env.reg
  let users ← loadUsers env.getpwnam env.ctx
  let (number, sessions) ← loadSessions env.toSessionsEnv
  some ⟨templates, users, sessions.take number⟩

/-! ### Users and sessions with an account -/

/-- The entry for a user of the database, if the account exists. -/
def userEntry (env : DataEnv κ δ) (name : Str) : Option ServerUser :=
  (env.getpwnam name).map fun pass =>
    ⟨pass.uid, pass.name, (userDbFieldGet env.ctx name (ascii "icon")).join,
      (userDbFieldGet env.ctx name (ascii "prefered-session")).join⟩

/-- **The answer is right**: it has the users of the database and the sessions of the seat, without
those that have no account. -/
def LeavesOut (env : DataEnv κ δ) : Prop :=
  ∃ data, loadData env = some data ∧
    data.users = (userDbUsersIterate env.ctx).filterMap (userEntry env) ∧
    data.sessions = (kept env.toSessionsEnv 0 (sessionEnumerate env.toSessionsEnv)).map some

/-- Passwd knows all accounts that are looked up. -/
structure Accounts (env : DataEnv κ δ) : Prop where
  users : ∀ name ∈ userDbUsersIterate env.ctx, (env.getpwnam name).isSome = true
  sessions : ∀ i handle, (sessionEnumerate env.toSessionsEnv)[i]? = some handle →
    HasAccounts env.toSessionsEnv i handle

/-- A user that is listed is found again. -/
theorem loadUser_listed {env : DataEnv κ δ} {name : Str} (h : name ∈ userDbUsersIterate env.ctx) :
    loadUser env.getpwnam env.ctx name = userEntry env name := by
  obtain ⟨u', hu'⟩ := exists_userFind h
  have hget : ∀ field, userDbFieldGet env.ctx name field =
      some (u'.fieldGet field |>.map Pair.value) := by
    intro field
    rw [userDbFieldGet, hu']
    rfl
  unfold loadUser userEntry
  rw [hget, hget]
  cases env.getpwnam name <;> rfl

/-- `mapM` leaves nothing out. -/
theorem mapM_filterMap {α β : Type*} {f : α → Option β} : ∀ {l : List α},
    (∃ bs, l.mapM f = some bs) ↔ ∀ a ∈ l, (f a).isSome = true
  | [] => by simp
  | a :: l => by
    have ih := mapM_filterMap (f := f) (l := l)
    rw [List.forall_mem_cons, ← ih, List.mapM_cons]
    cases f a with
    | none => simp
    | some b => cases l.mapM f <;> simp

theorem mapM_eq_filterMap {α β : Type*} {f : α → Option β} : ∀ {l : List α} {bs : List β},
    l.mapM f = some bs → bs = l.filterMap f
  | [], bs, h => by simpa using h.symm
  | a :: l, bs, h => by
    rw [List.mapM_cons] at h
    obtain ⟨b, hb, h⟩ := Option.bind_eq_some_iff.mp h
    obtain ⟨bs', hbs', h⟩ := Option.bind_eq_some_iff.mp h
    rw [List.filterMap_cons_some hb, ← mapM_eq_filterMap hbs']
    exact (Option.some.inj h).symm

theorem loadUsers_eq (env : DataEnv κ δ) : loadUsers env.getpwnam env.ctx =
    (userDbUsersIterate env.ctx).mapM (userEntry env) := by
  have hcongr : ∀ {names : List Str}, (∀ name ∈ names, name ∈ userDbUsersIterate env.ctx) →
      names.mapM (loadUser env.getpwnam env.ctx) = names.mapM (userEntry env) := by
    intro names
    induction names with
    | nil => exact fun _ => rfl
    | cons name names ih =>
      intro h
      rw [List.mapM_cons, List.mapM_cons, loadUser_listed (h name List.mem_cons_self),
        ih fun n hn => h n (List.mem_cons_of_mem _ hn)]
  exact hcongr fun _ h => h

theorem isSome_userEntry {env : DataEnv κ δ} {name : Str} :
    (userEntry env name).isSome = (env.getpwnam name).isSome := by
  unfold userEntry
  rw [Option.isSome_map]

/-- **When the answer is made, without the users and sessions that have no account**: there are none
of them, and if a session does not fail the account of the greeter exists. -/
theorem loadData_iff (env : DataEnv κ δ) : LeavesOut env ↔ Accounts env := by
  constructor
  · rintro ⟨data, hload, -, -⟩
    unfold loadData at hload
    rw [loadUsers_eq] at hload
    obtain ⟨users, husers, hload⟩ := Option.bind_eq_some_iff.mp hload
    obtain ⟨r, hsessions, -⟩ := Option.bind_eq_some_iff.mp hload
    refine ⟨fun name hname => ?_, loadSessions_good hsessions⟩
    rw [← isSome_userEntry]
    exact mapM_filterMap.mp ⟨users, husers⟩ name hname
  · intro h
    obtain ⟨users, husers⟩ := mapM_filterMap.mpr fun name hname =>
      isSome_userEntry.trans (h.users name hname)
    obtain ⟨array, hsessions, htake⟩ := loads_of_accounts h.sessions
    refine ⟨⟨loadTemplates env.reg, users, array.take _⟩, ?_, mapM_eq_filterMap husers, htake⟩
    unfold loadData
    rw [loadUsers_eq, husers, hsessions]
    rfl

/-- One user and one session; passwd knows these names and user ids. -/
def oneSession (names : List Str) (uids : List ℕ) : DataEnv Unit Unit where
  seatSessions := some ["c1"]
  sd := fun _ =>
    { SdLogin.empty with
      vt := fun _ => ⟨0, some 1⟩
      uid := fun _ => ⟨0, some 1000⟩
      desktop := fun _ => ⟨-ENODATA, none⟩
      type := fun _ => ⟨0, some (some "tty")⟩ }
  locals := fun _ => ⟨0, none, none, ""⟩
  uid := fun _ => 0
  getpwnam := fun name => (names.find? fun n => n = name).map fun n => ⟨n, 90, 90⟩
  getpwuid := fun uid => if uid ∈ uids then some ⟨ascii "eve", uid, uid⟩ else none
  reg := TemplateReg.start
  ctx := ⟨0, [eve], true⟩

/-- **An account is gone**: that of a user of the database, that of the session's user, or that of the
greeter. In each case the daemon uses a `NULL` pointer; with all accounts it answers. -/
theorem account_gone :
    loadData (oneSession [SP_USER] [1000]) = none ∧
      loadData (oneSession [SP_USER, ascii "eve"] []) = none ∧
      loadData (oneSession [ascii "eve"] [1000]) = none ∧
      (loadData (oneSession [SP_USER, ascii "eve"] [1000])).isSome = true ∧
      ¬LeavesOut (oneSession [SP_USER] [1000]) := by
  have hnone : loadData (oneSession [SP_USER] [1000]) = none := by decide
  refine ⟨hnone, by decide, by decide, by decide, ?_⟩
  rintro ⟨data, hload, -⟩
  rw [hnone] at hload
  cases hload

end Spawny.Daemon.LoadData
