import Spawny.Lib.Runs
import Spawny.UserDb.Store

/-! # The users that a greeter is told of

The daemon and the processes that edit the database share its directory, and each has a list of its
own in memory. The daemon reads the directory when it starts; for a `HELLO` it sends what is in its
list.

* `daemon_run`: no run changes the list of the daemon;
* `hello_iff`: **a `HELLO` is answered with the stored values, if and only if they are those that were
  stored when the daemon started**. -/

namespace Spawny.UserDb.Hello

open Spawny.Lib.Ini Spawny.Lib.Runs Spawny.UserDb.Records Spawny.UserDb.Files
open Spawny.UserDb.RoundTrip Spawny.UserDb.Edits Spawny.UserDb.Store

variable (parse : Str → List Entry) (getpwnam : Str → Option Passwd)

/-! ### _load_users -/

/-- `Spawny__Server__User` as `_load_users` fills it. -/
structure ServerUser where
  uid : ℕ
  name : Str
  icon : Option Str
  preferedSession : Option Str
  deriving DecidableEq, Repr

/-- The body of the loop of `_load_users`; `none` is the use of a `NULL` pointer. -/
def loadUser (ctx : Context) (name : Str) : Option ServerUser := do
  let pass ← getpwnam name
  let icon ← userDbFieldGet ctx name (ascii "icon")
  let session ← userDbFieldGet ctx name (ascii "prefered-session")
  some ⟨pass.uid, pass.name, icon, session⟩

/-- `_load_users`. -/
def loadUsers (ctx : Context) : Option (List ServerUser) :=
  (userDbUsersIterate ctx).mapM (loadUser getpwnam ctx)

/-! ### The processes -/

/-- The directory, the list of the daemon, and those of the processes of `sp-user-db-util`. -/
structure Shared where
  dir : Dir
  daemon : Context
  utils : List Context

/-- A process starts and loads the database, or makes a call. A `HELLO` only reads. -/
inductive SharedEvent
  | start (uid : ℕ) (env : LoadEnv)
  | edit (util : ℕ) (env : EditEnv) (c : Call)
  | hello

/-- `user_db_init` of a user's process. -/
def userDbInit (env : LoadEnv) (uid : ℕ) (d : Dir) : Context :=
  (loadFromFs parse getpwnam env d ⟨uid, [], false⟩).2

/-- The daemon has started. -/
def Shared.start (env : LoadEnv) (uid : ℕ) (d : Dir) : Shared :=
  ⟨d, userDbInit parse getpwnam env uid d, []⟩

/-- The steps. A call that is undefined behaviour ends the process, and nothing else is known of it
here. -/
def step (s : Shared) : SharedEvent → Shared
  | .start uid env => { s with utils := s.utils ++ [userDbInit parse getpwnam env uid s.dir] }
  | .edit p env c =>
    match s.utils[p]? with
    | none => s
    | some ctx =>
      match call parse getpwnam env ⟨ctx, s.dir⟩ c with
      | none => s
      | some (_, db) => { s with dir := db.dir, utils := s.utils.set p db.ctx }
  | .hello => s

/-! ### What a greeter has to be told -/

/-- The value that the files hold for a field of an account. -/
def stored (env : LoadEnv) (d : Dir) (name field : Str) : Option Str :=
  (userDbFieldGet (userDbInit parse getpwnam env 0 d) name field).join

/-- The fields that are sent. -/
def shownFields : List Str := [ascii "icon", ascii "prefered-session"]

/-- What is sent for an account is what the files hold. -/
def Shows (env : LoadEnv) (d : Dir) (name : Str) (u : ServerUser) : Prop :=
  u.icon = stored parse getpwnam env d name (ascii "icon") ∧
    u.preferedSession = stored parse getpwnam env d name (ascii "prefered-session")

/-- The answer to a `HELLO` has the stored values, for every account that the daemon lists. -/
def HelloRight (env : LoadEnv) (s : Shared) : Prop :=
  ∃ users, loadUsers getpwnam s.daemon = some users ∧
    List.Forall₂ (Shows parse getpwnam env s.dir) (userDbUsersIterate s.daemon) users

variable {parse getpwnam}

theorem daemon_step (s : Shared) (e : SharedEvent) : (step parse getpwnam s e).daemon = s.daemon := by
  cases e with
  | start uid env => rfl
  | edit p env c =>
    dsimp only [step]
    rcases s.utils[p]? with _ | ctx
    · rfl
    · dsimp only
      rcases call parse getpwnam env ⟨ctx, s.dir⟩ c with _ | ⟨r, db⟩ <;> rfl
  | hello => rfl

/-- **The list of the daemon** is never loaded again. -/
theorem daemon_run (es : List SharedEvent) (s : Shared) :
    (run (step parse getpwnam) s es).daemon = s.daemon :=
  run_induction (I := fun s' => s'.daemon = s.daemon)
    (fun s' e h => (daemon_step s' e).trans h) es s rfl

/-- The user id of the process does not matter for what is loaded. -/
theorem userDbInit_user (env : LoadEnv) (uid : ℕ) (d : Dir) :
    (userDbInit parse getpwnam env uid d).user = (userDbInit parse getpwnam env 0 d).user := by
  unfold userDbInit loadFromFs
  split_ifs <;> rfl

theorem userDbFieldGet_congr {ctx ctx' : Context} (h : ctx.user = ctx'.user) (name field : Str) :
    userDbFieldGet ctx name field = userDbFieldGet ctx' name field := by
  rw [userDbFieldGet, h, userDbFieldGet]

/-- An account in the list is known to passwd. -/
theorem known_of_listed {env : LoadEnv} {uid : ℕ} {d : Dir} {name : Str}
    (h : name ∈ userDbUsersIterate (userDbInit parse getpwnam env uid d)) :
    (getpwnam name).isSome = true ∧
      ∃ u, userFind (userDbInit parse getpwnam env uid d).user name = some u := by
  obtain ⟨u', hu'⟩ := exists_userFind h
  refine ⟨?_, u', hu'⟩
  have hname : u'.name = name := by simpa using List.find?_some hu'
  unfold userDbInit at hu'
  cases hopen : env.opendir with
  | false => simp [loadFromFs, hopen, userFind] at hu'
  | true =>
    rw [userFind_loadFromFs hopen d rfl] at hu'
    obtain ⟨f, -, hoffer⟩ := List.mem_filterMap.mp (List.mem_of_find?_eq_some hu')
    rw [← hname]
    exact known_of_offer hoffer

/-- What the daemon sends for an account in its list. -/
theorem loadUser_listed {env : LoadEnv} {uid : ℕ} {d : Dir} {name : Str}
    (h : name ∈ userDbUsersIterate (userDbInit parse getpwnam env uid d)) :
    ∃ u, loadUser getpwnam (userDbInit parse getpwnam env uid d) name = some u ∧
      Shows parse getpwnam env d name u := by
  obtain ⟨hknown, u, hu⟩ := known_of_listed h
  obtain ⟨pass, hpass⟩ := Option.isSome_iff_exists.mp hknown
  have hget : ∀ field, userDbFieldGet (userDbInit parse getpwnam env uid d) name field =
      some (stored parse getpwnam env d name field) := by
    intro field
    rw [stored, ← userDbFieldGet_congr (userDbInit_user env uid d), userDbFieldGet, hu]
    rfl
  refine ⟨⟨pass.uid, pass.name, _, _⟩, ?_, rfl, rfl⟩
  unfold loadUser
  rw [hpass, hget, hget]
  rfl

/-- A list of accounts, each of which is sent. -/
theorem mapM_forall₂ {f : Str → Option ServerUser} {P : Str → ServerUser → Prop} :
    ∀ {names : List Str}, (∀ name ∈ names, ∃ u, f name = some u ∧ P name u) →
      ∃ users, names.mapM f = some users ∧ List.Forall₂ P names users
  | [], _ => ⟨[], rfl, List.Forall₂.nil⟩
  | name :: names, h => by
    obtain ⟨u, hu, hP⟩ := h name List.mem_cons_self
    obtain ⟨users, husers, hall⟩ := mapM_forall₂ fun n hn => h n (List.mem_cons_of_mem _ hn)
    refine ⟨u :: users, ?_, List.Forall₂.cons hP hall⟩
    rw [List.mapM_cons, hu, husers]
    rfl

/-- Two facts about the same entries. -/
theorem forall₂_and {P Q : Str → ServerUser → Prop} {names : List Str} {users : List ServerUser}
    (hP : List.Forall₂ P names users) (hQ : List.Forall₂ Q names users) :
    ∀ name ∈ names, ∃ u, P name u ∧ Q name u := by
  induction hP with
  | nil => simp
  | cons h _ ih =>
    obtain _ | ⟨hq, hrest⟩ := hQ
    intro name hname
    rcases List.mem_cons.mp hname with rfl | hname
    · exact ⟨_, h, hq⟩
    · exact ih hrest name hname

/-- **When a greeter is told the newest values**: they are those that were stored when the daemon
started. -/
theorem hello_iff (parse : Str → List Entry) (getpwnam : Str → Option Passwd) (env : LoadEnv)
    (uid : ℕ) (d : Dir) (es : List SharedEvent) :
    let s := run (step parse getpwnam) (Shared.start parse getpwnam env uid d) es
    HelloRight parse getpwnam env s ↔
      ∀ name ∈ userDbUsersIterate (Shared.start parse getpwnam env uid d).daemon,
        ∀ field ∈ shownFields,
          stored parse getpwnam env s.dir name field = stored parse getpwnam env d name field := by
  intro s
  have hdaemon : s.daemon = userDbInit parse getpwnam env uid d := daemon_run es _
  obtain ⟨users, hload, hstart⟩ := mapM_forall₂ fun name hname =>
    @loadUser_listed parse getpwnam env uid d name hname
  rw [HelloRight, hdaemon]
  constructor
  · rintro ⟨users', hload', hnow⟩ name hname field hfield
    obtain rfl := Option.some.inj (hload.symm.trans hload')
    obtain ⟨u, ⟨hicon, hsession⟩, hicon', hsession'⟩ := forall₂_and hstart hnow name hname
    simp only [shownFields, List.mem_cons, List.not_mem_nil, or_false] at hfield
    rcases hfield with rfl | rfl
    · rw [← hicon, hicon']
    · rw [← hsession, hsession']
  · intro hsame
    have hboth := (List.forall₂_and_left _ users).mpr ⟨hsame, hstart⟩
    refine ⟨users, hload, hboth.imp fun name u ⟨hname, hicon, hsession⟩ => ⟨?_, ?_⟩⟩
    · rw [hicon, hname _ (by simp [shownFields])]
    · rw [hsession, hname _ (by simp [shownFields])]

/-- Eve sets her icon while the daemon runs. -/
def eveEdits : List SharedEvent :=
  [.start 1000 inOrder,
    .edit 0 eveEnv (.set (some (ascii "eve")) (some (ascii "icon")) (some (ascii "b"))), .hello]

/-- A greeter is told of the old icon. -/
theorem hello_stale :
    let s := run (step entries (passwd [ascii "eve"]))
      (Shared.start entries (passwd [ascii "eve"]) inOrder 0 eveDb.dir) eveEdits
    stored entries (passwd [ascii "eve"]) inOrder s.dir (ascii "eve") (ascii "icon") =
        some (ascii "b") ∧
      loadUsers (passwd [ascii "eve"]) s.daemon =
        some [⟨1000, ascii "eve", some (ascii "a"), none⟩] ∧
      ¬HelloRight entries (passwd [ascii "eve"]) inOrder s := by
  intro s
  have hstored : stored entries (passwd [ascii "eve"]) inOrder s.dir (ascii "eve") (ascii "icon") =
      some (ascii "b") := by decide +kernel
  have hsent : loadUsers (passwd [ascii "eve"]) s.daemon =
      some [⟨1000, ascii "eve", some (ascii "a"), none⟩] := by decide +kernel
  have hnames : userDbUsersIterate s.daemon = [ascii "eve"] := by decide +kernel
  refine ⟨hstored, hsent, ?_⟩
  rintro ⟨users, hload, hshows⟩
  rw [hsent] at hload
  obtain rfl := Option.some.inj hload
  rw [hnames, List.forall₂_cons] at hshows
  have hicon := hshows.1.1
  rw [hstored] at hicon
  revert hicon
  decide

end Spawny.UserDb.Hello
