import Spawny.UserDb.RoundTrip
import Spawny.UserDb.Edits
import Mathlib.Logic.Function.Basic

/-! # The user database as a store

If every file was written by `_put_user` and everything in it is read back, then the database is a
map from names to records: it is loaded from the files name by name, and `user_db_field_set` updates
it at one name.

* `userFind_of_stored`: what is in memory is what the file of the name holds;
* `fieldSet_refines`: **a successful `user_db_field_set` updates the map**, and the database is as
  good as before;
* `fieldSets_refine`: the same for any number of calls;
* `fieldSet_law`: what this means for the lookups. -/

namespace Spawny.UserDb.Store

open Spawny.Lib.Ini Spawny.Lib.FirstMatch Spawny.UserDb.Records Spawny.UserDb.Files
open Spawny.UserDb.RoundTrip Spawny.UserDb.Edits

variable (getpwnam : Str → Option Passwd)

/-! ### A database that was written by _put_user -/

/-- Every file of the database was written for an account that passwd knows, under its own name, and
inih reads it back. -/
def Written (d : Dir) : Prop :=
  ∀ f ∈ d.files, isIni f.filename = true →
    ∃ u : User, f.filename = iniFile u.name ∧ f.content = fileOf u ∧ ReadsBack u ∧
      (getpwnam u.name).isSome

/-- The calls of the system succeed while the directory is read. -/
def LoadEnv.Works (env : LoadEnv) : Prop :=
  env.opendir = true ∧ ∀ filename, env.fopen filename = true

/-- The database is written, and what is in memory was loaded from it. -/
structure Stored (s : Db) : Prop where
  written : Written getpwnam s.dir
  loaded : ∃ env, LoadEnv.Works env ∧ ∃ ctx : Context, ctx.user = [] ∧
    s.ctx = (loadFromFs entries getpwnam env s.dir ctx).2

/-- All calls of the system succeed in an edit of the account, which is the caller's own. -/
structure EditEnv.Works (env : EditEnv) (name : Str) : Prop where
  passwd : ∃ pw, getpwnam name = some pw ∧ env.pw = some pw ∧ env.put.pw = some pw ∧
    pw.uid = env.uid
  fopen : env.put.fopen = true
  chown : env.put.chown = true
  chmod : env.put.chmod = true
  write : ∀ bs, env.put.write bs = bs
  load : LoadEnv.Works env.load

/-- `user_db_users_iterate`. -/
def userDbUsersIterate (ctx : Context) : List Str := ctx.user.map User.name

/-- An account in the list has a record. -/
theorem exists_userFind {ctx : Context} {name : Str} (h : name ∈ userDbUsersIterate ctx) :
    ∃ u, userFind ctx.user name = some u := by
  obtain ⟨u, hu, rfl⟩ := List.mem_map.mp h
  rw [← Option.isSome_iff_exists, userFind, List.find?_isSome]
  exact ⟨u, hu, by simp⟩

/-- `user_db_user_exists`. -/
def userDbUserExists (ctx : Context) (name : Str) : Bool := (userFind ctx.user name).isSome

variable {getpwnam}

/-! ### What is in memory -/

theorem iniFile_injective {m n : Str} (h : iniFile m = iniFile n) : m = n :=
  List.append_cancel_right h

/-- What a file that was written by `_put_user` offers. -/
theorem offer_written {env : LoadEnv} (henv : LoadEnv.Works env) {f : DbFile} {u : User}
    (hini : isIni f.filename = true) (hcontent : f.content = fileOf u) (hu : ReadsBack u)
    (hpw : (getpwnam u.name).isSome) : offer entries getpwnam env.fopen f = some u := by
  unfold offer
  rw [hini, henv.2, hcontent, readsBack_parse hu]
  simp [hpw]

/-- **What is loaded for a name**: the record in its file. -/
theorem userFind_written {env : LoadEnv} (henv : LoadEnv.Works env) {d : Dir}
    (hd : Written getpwnam d) {ctx : Context} (hctx : ctx.user = []) (name : Str) :
    userFind (loadFromFs entries getpwnam env d ctx).2.user name =
      (d.find (iniFile name)).bind (offer entries getpwnam env.fopen) := by
  -- a file that offers a record of the name is the file of the name
  have hown : ∀ f ∈ d.files, ∀ u, offer entries getpwnam env.fopen f = some u →
      f.filename = iniFile u.name := by
    intro f hf u hoffer
    cases hini : isIni f.filename with
    | false => simp [offer, hini] at hoffer
    | true =>
      obtain ⟨v, hname, hcontent, hv, hpw⟩ := hd f hf hini
      rw [offer_written henv hini hcontent hv hpw] at hoffer
      rw [← Option.some.inj hoffer, hname]
  rw [userFind_loadFromFs henv.1 d hctx]
  cases hfind : userFind ((env.readdir d).filterMap (offer entries getpwnam env.fopen)) name with
  | none =>
    refine Eq.symm (Option.bind_eq_none_iff.mpr fun f hf => ?_)
    obtain ⟨hmem, hname⟩ := Dir.mem_of_find hf
    cases hoffer : offer entries getpwnam env.fopen f with
    | none => rfl
    | some u =>
      have hu : u.name = name := iniFile_injective ((hown f hmem u hoffer).symm.trans hname)
      have hlisted := List.mem_filterMap.mpr ⟨f, (env.readdir_perm d).mem_iff.mpr hmem, hoffer⟩
      exact absurd (List.find?_eq_none.mp hfind u hlisted) (by simp [hu])
  | some u =>
    obtain ⟨f, hf, hoffer⟩ := List.mem_filterMap.mp (List.mem_of_find?_eq_some hfind)
    have hu : u.name = name := by simpa using List.find?_some hfind
    have hmem := (env.readdir_perm d).mem_iff.mp hf
    have hfile := Dir.find_of_mem hmem
    rw [hown f hmem u hoffer, hu] at hfile
    rw [hfile, Option.bind_some, hoffer]

theorem Stored.userFind_eq {s : Db} (h : Stored getpwnam s) (name : Str) :
    userFind s.ctx.user name =
      (s.dir.find (iniFile name)).bind (offer entries getpwnam fun _ => true) := by
  obtain ⟨env, henv, ctx, hctx, hs⟩ := h.loaded
  have hfopen : env.fopen = fun _ => true := funext henv.2
  rw [hs, userFind_written henv h.written hctx, hfopen]

theorem Stored.nodup {s : Db} (h : Stored getpwnam s) : (userDbUsersIterate s.ctx).Nodup := by
  obtain ⟨env, henv, ctx, hctx, hs⟩ := h.loaded
  rw [hs, userDbUsersIterate, loadFromFs, if_neg (by simp [henv.1])]
  dsimp only
  rw [foldl_loadEntry, hctx]
  exact nodup_foldl_addUser _ [] List.nodup_nil

/-- The record of an account in memory, and its file. -/
theorem Stored.file_of_userFind {s : Db} (h : Stored getpwnam s) {name : Str} {user : User}
    (huser : userFind s.ctx.user name = some user) :
    user.name = name ∧ isIni (iniFile name) = true ∧ ReadsBack user := by
  have hname : user.name = name := by simpa using List.find?_some huser
  rw [h.userFind_eq] at huser
  obtain ⟨f, hf, hoffer⟩ := Option.bind_eq_some_iff.mp huser
  obtain ⟨hmem, hfname⟩ := Dir.mem_of_find hf
  have hini : isIni f.filename = true := by
    cases hini : isIni f.filename with
    | true => rfl
    | false => simp [offer, hini] at hoffer
  obtain ⟨u, -, hcontent, hu, hpw⟩ := h.written f hmem hini
  have henv : LoadEnv.Works inOrder := ⟨rfl, fun _ => rfl⟩
  have hoffered := offer_written henv hini hcontent hu hpw
  obtain rfl : u = user := Option.some.inj (hoffered.symm.trans hoffer)
  exact ⟨hname, hfname ▸ hini, hu⟩

/-! ### Setting a field -/

theorem readsBack_fieldSet {u : User} (hu : ReadsBack u) {field value : Str}
    (hpair : PlainPair ⟨field, value⟩) : ReadsBack (u.fieldSet field value) where
  name := hu.name
  pairs := by
    intro p hp
    rcases mem_upsert hp with hp | rfl | ⟨q, -, hname, rfl⟩
    · exact hu.pairs p hp
    · exact hpair
    · obtain rfl : q.name = field := by simpa using hname
      exact hpair

/-- **A successful call updates the map at one name.** -/
theorem fieldSet_refines {s : Db} (h : Stored getpwnam s) {env : EditEnv} {name : Str}
    (henv : EditEnv.Works getpwnam env name) {user : User}
    (huser : userFind s.ctx.user name = some user) {field value : Str}
    (hpair : PlainPair ⟨field, value⟩) :
    ∃ s', userDbFieldSet entries getpwnam env (some name) (some field) (some value) s =
        some (true, s') ∧ Stored getpwnam s' ∧
      userFind s'.ctx.user =
        Function.update (userFind s.ctx.user) name (some (user.fieldSet field value)) := by
  obtain ⟨rfl, hini, hback⟩ := h.file_of_userFind huser
  obtain ⟨pw, hpw, hpw₁, hpw₂, huid⟩ := henv.passwd
  have hnew := readsBack_fieldSet hback hpair
  have hknown : (getpwnam (user.fieldSet field value).name).isSome := by
    change (getpwnam user.name).isSome
    rw [hpw]
    rfl
  -- the file that is written
  obtain ⟨perms, hput⟩ : ∃ perms, putUser env.put (user.fieldSet field value) s.dir =
      some (true, s.dir.put ⟨iniFile user.name, fileOf (user.fieldSet field value), perms⟩) := by
    have hput : env.put.Works :=
      ⟨henv.fopen, by rw [hpw₂]; rfl, henv.chown, henv.chmod, henv.write⟩
    exact putUser_works hput hnew.fits s.dir
  have hwritten : Written getpwnam
      (s.dir.put ⟨iniFile user.name, fileOf (user.fieldSet field value), perms⟩) := by
    intro f hf hfini
    rcases mem_upsert hf with hf | rfl | ⟨g, -, -, rfl⟩
    · exact h.written f hf hfini
    · exact ⟨user.fieldSet field value, rfl, rfl, hnew, hknown⟩
    · exact ⟨user.fieldSet field value, rfl, rfl, hnew, hknown⟩
  have hcall : ∃ ctx : Context, ctx.user = [] ∧
      userDbFieldSet entries getpwnam env (some user.name) (some field) (some value) s =
        some (true, ⟨(loadFromFs entries getpwnam env.load
            (s.dir.put ⟨iniFile user.name, fileOf (user.fieldSet field value), perms⟩) ctx).2,
          s.dir.put ⟨iniFile user.name, fileOf (user.fieldSet field value), perms⟩⟩) := by
    refine ⟨⟨s.ctx.startedUid, [], false⟩, rfl, ?_⟩
    unfold userDbFieldSet save
    simp only [hpw₁, huid, huser, hput, ne_eq, not_true, if_false]
    unfold loadFromFs
    rw [if_neg (by simp [henv.load.1]), if_neg (by simp [henv.load.1])]
    rfl
  obtain ⟨ctx, hctx, hcall⟩ := hcall
  refine ⟨_, hcall, ⟨hwritten, env.load, henv.load, ctx, hctx, rfl⟩, ?_⟩
  funext other
  have hfopen : env.load.fopen = fun _ => true := funext henv.load.2
  dsimp only
  rw [userFind_written henv.load hwritten hctx]
  by_cases hother : other = user.name
  · subst hother
    rw [Dir.find_put, Option.bind_some, Function.update_self]
    exact offer_written henv.load hini rfl hnew hknown
  · have hne : iniFile other ≠ iniFile user.name := fun heq => hother (iniFile_injective heq)
    rw [Dir.find_put_ne _ hne, hfopen, Function.update_of_ne hother, h.userFind_eq]

/-! ### Any number of calls -/

/-- A call of `user_db_field_set`, and how the system answers. -/
structure FieldSet where
  env : EditEnv
  name : Str
  field : Str
  value : Str

/-- The calls, one after the other; it ends at the first one that does not answer `true`. -/
def fieldSets (getpwnam : Str → Option Passwd) : Db → List FieldSet → Option Db
  | s, [] => some s
  | s, c :: cs =>
    match userDbFieldSet entries getpwnam c.env (some c.name) (some c.field) (some c.value) s with
    | some (true, s') => fieldSets getpwnam s' cs
    | _ => none

/-- The update of the map. -/
def FieldSet.update (view : Str → Option User) (c : FieldSet) : Str → Option User :=
  Function.update view c.name ((view c.name).map fun u => u.fieldSet c.field c.value)

/-- **Any number of calls** for accounts that are in memory update the map. -/
theorem fieldSets_refine : ∀ {cs : List FieldSet} {s : Db}, Stored getpwnam s →
    (∀ c ∈ cs, EditEnv.Works getpwnam c.env c.name ∧ (userFind s.ctx.user c.name).isSome ∧
      PlainPair ⟨c.field, c.value⟩) →
    ∃ s', fieldSets getpwnam s cs = some s' ∧ Stored getpwnam s' ∧
      userFind s'.ctx.user = cs.foldl FieldSet.update (userFind s.ctx.user)
  | [], s, h, _ => ⟨s, rfl, h, rfl⟩
  | c :: cs, s, h, hcs => by
    obtain ⟨henv, hsome, hpair⟩ := hcs c List.mem_cons_self
    obtain ⟨user, huser⟩ := Option.isSome_iff_exists.mp hsome
    obtain ⟨s₁, hcall, hs₁, hview⟩ := fieldSet_refines h henv huser hpair
    have hview : userFind s₁.ctx.user = FieldSet.update (userFind s.ctx.user) c := by
      rw [hview, FieldSet.update, huser, Option.map_some]
    -- the accounts stay in memory
    have hrest : ∀ c' ∈ cs, EditEnv.Works getpwnam c'.env c'.name ∧
        (userFind s₁.ctx.user c'.name).isSome ∧ PlainPair ⟨c'.field, c'.value⟩ := by
      intro c' hc'
      obtain ⟨henv', hsome', hpair'⟩ := hcs c' (List.mem_cons_of_mem _ hc')
      refine ⟨henv', ?_, hpair'⟩
      rw [hview, FieldSet.update]
      by_cases hname : c'.name = c.name
      · rw [hname, Function.update_self, huser]
        rfl
      · rw [Function.update_of_ne hname]
        exact hsome'
    obtain ⟨s', hcalls, hs', hview'⟩ := fieldSets_refine hs₁ hrest
    refine ⟨s', ?_, hs', ?_⟩
    · rw [fieldSets, hcall]
      exact hcalls
    · rw [hview', hview, List.foldl_cons]

/-! ### The lookups -/

/-- **The store law.** -/
theorem fieldSet_law {s : Db} (h : Stored getpwnam s) {env : EditEnv} {name : Str}
    (henv : EditEnv.Works getpwnam env name) {user : User}
    (huser : userFind s.ctx.user name = some user) {field value : Str}
    (hpair : PlainPair ⟨field, value⟩) :
    ∃ s', userDbFieldSet entries getpwnam env (some name) (some field) (some value) s =
        some (true, s') ∧
      userDbFieldGet s'.ctx name field = some (some value) ∧
      (∀ other, other ≠ field →
        userDbFieldGet s'.ctx name other = userDbFieldGet s.ctx name other) ∧
      (∀ account, account ≠ name → ∀ other,
        userDbFieldGet s'.ctx account other = userDbFieldGet s.ctx account other) ∧
      (∀ account, userDbUserExists s'.ctx account = userDbUserExists s.ctx account) ∧
      (∀ account, account ∈ userDbUsersIterate s'.ctx ↔ account ∈ userDbUsersIterate s.ctx) ∧
      (userDbUsersIterate s'.ctx).Nodup ∧
      (∃ user', userFind s'.ctx.user name = some user' ∧
        (user'.additional.map Pair.name =
          if (user.fieldGet field).isSome then user.additional.map Pair.name
          else user.additional.map Pair.name ++ [field]) ∧
        user'.additional.filter (fun p => p.name ≠ field) =
          user.additional.filter (fun p => p.name ≠ field)) ∧
      Stored getpwnam s' := by
  obtain ⟨s', hcall, hs', hview⟩ := fieldSet_refines h henv huser hpair
  have hname : userFind s'.ctx.user name = some (user.fieldSet field value) := by
    rw [hview, Function.update_self]
  have hother : ∀ account, account ≠ name →
      userFind s'.ctx.user account = userFind s.ctx.user account := by
    intro account hne
    rw [hview, Function.update_of_ne hne]
  have hexists : ∀ account, userDbUserExists s'.ctx account = userDbUserExists s.ctx account := by
    intro account
    unfold userDbUserExists
    by_cases haccount : account = name
    · rw [haccount, hname, huser]
      rfl
    · rw [hother account haccount]
  have hiterate (ctx : Context) (account : Str) :
      account ∈ userDbUsersIterate ctx ↔ userDbUserExists ctx account = true := by
    rw [userDbUsersIterate, userDbUserExists, userFind, List.find?_isSome, List.mem_map]
    simp
  refine ⟨s', hcall, ?_, fun other hne => ?_, fun account hne other => ?_, hexists,
    fun account => ?_, hs'.nodup, 
    ⟨_, hname, fieldSet_names user field value, fieldSet_filter user field value⟩, hs'⟩
  · rw [userDbFieldGet, hname, Option.map_some, fieldSet_fieldGet]
    rfl
  · rw [userDbFieldGet, userDbFieldGet, hname, huser, Option.map_some, Option.map_some,
      fieldSet_fieldGet_ne user value hne]
  · rw [userDbFieldGet, userDbFieldGet, hother account hne]
  · rw [hiterate, hiterate, hexists]

/-- A user with an icon, and the database that was loaded from the file of this record. -/
def eve : User := ⟨ascii "eve", [⟨ascii "icon", ascii "a"⟩]⟩

def eveDb : Db :=
  let d : Dir := ⟨[⟨iniFile (ascii "eve"), fileOf eve, ⟨1000, 1000, MODE⟩⟩], by simp⟩
  ⟨(loadFromFs entries (passwd [ascii "eve"]) inOrder d ⟨1000, [], false⟩).2, d⟩

def eveEnv : EditEnv :=
  ⟨1000, some ⟨ascii "eve", 1000, 1000⟩,
    ⟨some ⟨ascii "eve", 1000, 1000⟩, true, true, true, ⟨1000, 1000, MODE⟩, id⟩, inOrder⟩

theorem readsBack_eve : ReadsBack eve where
  name := ⟨by decide, by decide⟩
  pairs := by decide

/-- Eve sets her icon. -/
theorem fieldSet_law_icon :
    ∃ s', userDbFieldSet entries (passwd [ascii "eve"]) eveEnv (some (ascii "eve"))
        (some (ascii "icon")) (some (ascii "b")) eveDb = some (true, s') ∧
      userDbFieldGet s'.ctx (ascii "eve") (ascii "icon") = some (some (ascii "b")) := by
  have hpw : (passwd [ascii "eve"] (ascii "eve")).isSome := by decide
  have hworks : LoadEnv.Works inOrder := ⟨rfl, fun _ => rfl⟩
  have hwritten : Written (passwd [ascii "eve"]) eveDb.dir := by
    intro f hf _
    obtain rfl := List.mem_singleton.mp hf
    exact ⟨eve, rfl, rfl, readsBack_eve, hpw⟩
  have hstored : Stored (passwd [ascii "eve"]) eveDb :=
    ⟨hwritten, inOrder, hworks, ⟨1000, [], false⟩, rfl, rfl⟩
  have huser : userFind eveDb.ctx.user (ascii "eve") = some eve := by
    rw [hstored.userFind_eq]
    exact offer_written hworks (by decide) rfl readsBack_eve hpw
  have henv : EditEnv.Works (passwd [ascii "eve"]) eveEnv (ascii "eve") :=
    ⟨⟨_, rfl, rfl, rfl, rfl⟩, rfl, rfl, rfl, fun _ => rfl, hworks⟩
  have hpair : PlainPair ⟨ascii "icon", ascii "b"⟩ := by decide
  obtain ⟨s', hcall, hget, -⟩ := fieldSet_law hstored henv huser hpair
  exact ⟨s', hcall, hget⟩

end Spawny.UserDb.Store
