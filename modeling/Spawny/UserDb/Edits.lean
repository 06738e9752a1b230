import Spawny.UserDb.Files

/-! # Editing a field when something fails

`user_db_field_set` and `user_db_field_del` edit the record in memory, write its file, free the list
and load the whole directory again. Every call of the system can fail.

* `save_iff`: what is left when the new record is saved;
* `proper_iff`: **when a call ends with a result that tells the truth**;
* `deletes_iff`: **which fields can be deleted**. -/

namespace Spawny.UserDb.Edits

open Spawny.Lib.Ini Spawny.Lib.FirstMatch Spawny.UserDb.Records Spawny.UserDb.Files

variable (parse : Str → List Entry) (getpwnam : Str → Option Passwd)

/-! ### The calls -/

/-- How the system answers in a call: `getuid`, the first `getpwnam`, and the answers while the file
is written and the directory is read. -/
structure EditEnv where
  uid : ℕ
  pw : Option Passwd
  put : PutEnv
  load : LoadEnv

/-- The database in memory and its directory. -/
structure Db where
  ctx : Context
  dir : Dir

/-- The record `new` is the one in memory now; it is written, and everything is loaded again. -/
def save (env : EditEnv) (name : Str) (new : User) (s : Db) : Option (Bool × Db) :=
  let ctx := { s.ctx with
    user := modifyFirst (fun u => u.name = name) (fun _ => new) s.ctx.user }
  match putUser env.put new s.dir with
  | none => none
  | some (false, dir) => some (false, ⟨ctx, dir⟩)
  | some (true, dir) =>
    let r := loadFromFs parse getpwnam env.load dir (userListFree ctx)
    some (r.1, ⟨r.2, dir⟩)

/-- `user_db_field_set`; `none` is undefined behaviour. -/
def userDbFieldSet (env : EditEnv) (name field value : Option Str) (s : Db) :
    Option (Bool × Db) :=
  match name, field, value with
  | some name, some field, some value =>
    match env.pw with
    | none => none
    | some pw =>
      if pw.uid ≠ env.uid then some (false, s)
      else
        match userFind s.ctx.user name with
        | none => none
        | some user => save parse getpwnam env name (user.fieldSet field value) s
  | _, _, _ => some (false, s)

/-- `user_db_field_del`. -/
def userDbFieldDel (env : EditEnv) (name field : Option Str) (s : Db) : Option (Bool × Db) :=
  match name, field with
  | some name, some field =>
    match userFind s.ctx.user name with
    | none => none
    | some user => (user.pairRemove field).bind fun new => save parse getpwnam env name new s
  | _, _ => some (false, s)

inductive Call
  | set (name field value : Option Str)
  | del (name field : Option Str)

def Call.name : Call → Option Str
  | .set name _ _ => name
  | .del name _ => name

def call (env : EditEnv) (s : Db) : Call → Option (Bool × Db)
  | .set name field value => userDbFieldSet parse getpwnam env name field value s
  | .del name field => userDbFieldDel parse getpwnam env name field s

/-! ### What a call has to do -/

/-- The record with the edit, for an account in memory. -/
def Call.newRecord (s : Db) : Call → Option User
  | .set (some name) (some field) (some value) =>
    (userFind s.ctx.user name).map fun u => u.fieldSet field value
  | .del (some name) (some field) =>
    (userFind s.ctx.user name).map fun u =>
      { u with additional := u.additional.eraseP fun p => p.name = field }
  | _ => none

/-- There is a result; after `false` the database and the account's file are as before, and after
`true` the file holds the new record. -/
def Outcome (name : Option Str) (new : Option User) (s : Db) (res : Option (Bool × Db)) : Prop :=
  ∃ r s', res = some (r, s') ∧
    (r = false → s'.ctx = s.ctx ∧ ∀ n ∈ name, s'.dir.find (iniFile n) = s.dir.find (iniFile n)) ∧
    (r = true → ∃ n ∈ name, ∃ u ∈ new, ∃ f ∈ s'.dir.find (iniFile n), f.content = fileOf u)

/-- The call keeps its promise. -/
def Proper (env : EditEnv) (s : Db) (c : Call) : Prop :=
  Outcome c.name (c.newRecord s) s (call parse getpwnam env s c)

/-! ### When it does -/

/-- The file is the empty file that `fopen` leaves behind. -/
def Emptied (d : Dir) (name : Str) (ok : Perms → Prop) : Prop :=
  ∃ f, d.find (iniFile name) = some f ∧ f.content = [] ∧ ok f.perms

/-- Nothing is lost when `new` is saved for `old`: everything works, or what fails had nothing to
change. -/
def Saves (env : EditEnv) (old new : User) (s : Db) : Prop :=
  (env.put.fopen = false ∧ new = old) ∨
  ∃ pw, env.put.fopen = true ∧ env.put.pw = some pw ∧
    ((env.put.chown = false ∧ new = old ∧ Emptied s.dir new.name fun _ => True) ∨
     (env.put.chown = true ∧ env.put.chmod = false ∧ new = old ∧
        Emptied s.dir new.name fun perms => perms.uid = pw.uid ∧ perms.gid = pw.gid) ∨
     (env.put.chown = true ∧ env.put.chmod = true ∧ Fits new ∧
        env.put.write (fileOf new) = fileOf new ∧ env.load.opendir = true))

/-- The condition for a call: an argument is missing, or the account is another user's, or the
account is in memory and the new record is saved; a field that is deleted is not in front of
another one. -/
def Keeps (env : EditEnv) (s : Db) : Call → Prop
  | .set (some name) (some field) (some value) =>
    ∃ pw, env.pw = some pw ∧ (pw.uid ≠ env.uid ∨
      ∃ user, userFind s.ctx.user name = some user ∧ Saves env user (user.fieldSet field value) s)
  | .del (some name) (some field) =>
    ∃ user, userFind s.ctx.user name = some user ∧
      field ∉ user.additional.dropLast.map Pair.name ∧
      Saves env user { user with additional := user.additional.eraseP fun p => p.name = field } s
  | _ => True

variable {parse getpwnam}

theorem outcome_unchanged (name : Option Str) (new : Option User) (s : Db) :
    Outcome name new s (some (false, s)) :=
  ⟨false, s, rfl, fun _ => ⟨rfl, fun _ _ => rfl⟩, fun h => absurd h Bool.false_ne_true⟩

theorem not_outcome_none (name : Option Str) (new : Option User) (s : Db) :
    ¬Outcome name new s none := fun ⟨_, _, h, _⟩ => by cases h

theorem outcome_false_iff {name : Str} {new : Option User} {s s' : Db} :
    Outcome (some name) new s (some (false, s')) ↔
      s'.ctx = s.ctx ∧ s'.dir.find (iniFile name) = s.dir.find (iniFile name) := by
  constructor
  · rintro ⟨r, t, h, hfalse, -⟩
    obtain ⟨rfl, rfl⟩ := Prod.mk.inj (Option.some.inj h)
    exact ⟨(hfalse rfl).1, (hfalse rfl).2 name rfl⟩
  · rintro ⟨hctx, hfile⟩
    refine ⟨false, s', rfl, fun _ => ⟨hctx, fun n hn => ?_⟩, fun h => absurd h Bool.false_ne_true⟩
    obtain rfl := Option.some.inj hn
    exact hfile

theorem outcome_true_iff {name : Str} {new : User} {s s' : Db} {f : DbFile}
    (hf : s'.dir.find (iniFile name) = some f) :
    Outcome (some name) (some new) s (some (true, s')) ↔ f.content = fileOf new := by
  constructor
  · rintro ⟨r, t, h, -, htrue⟩
    obtain ⟨rfl, rfl⟩ := Prod.mk.inj (Option.some.inj h)
    obtain ⟨n, hn, u, hu, g, hg, hcontent⟩ := htrue rfl
    obtain rfl := Option.some.inj hn
    obtain rfl := Option.some.inj hu
    rw [hf] at hg
    obtain rfl := Option.some.inj hg
    exact hcontent
  · intro h
    exact ⟨true, s', rfl, fun h => absurd h.symm Bool.false_ne_true,
      fun _ => ⟨name, rfl, new, rfl, f, hf, h⟩⟩

/-- Writing the empty file again changes nothing. -/
theorem find_put_eq_iff {d : Dir} {name : Str} {f : DbFile} (hf : f.filename = iniFile name) :
    (d.put f).find (iniFile name) = d.find (iniFile name) ↔ d.find (iniFile name) = some f := by
  rw [← hf, d.find_put f, eq_comm]

/-- Opening the file again changes nothing, if it is empty and keeps its owner. -/
theorem find_opened_iff (env : PutEnv) (u : User) (d : Dir) (g : Perms → Perms) :
    d.find (iniFile u.name) = some { opened env u d with perms := g (opened env u d).perms } ↔
      Emptied d u.name fun perms => g perms = perms := by
  constructor
  · intro h
    have hperms : (opened env u d).perms = g (opened env u d).perms := by
      conv_lhs => rw [opened, h]
      rfl
    exact ⟨_, h, rfl, congrArg g hperms.symm⟩
  · rintro ⟨f, hf, hcontent, hperms⟩
    have hopened : (opened env u d).perms = f.perms := by
      rw [opened, hf]
      rfl
    obtain ⟨filename, content, perms⟩ := f
    obtain rfl : filename = iniFile u.name := (Dir.mem_of_find hf).2
    obtain rfl : content = [] := hcontent
    rw [hf, hopened, hperms]
    rfl

/-- The list in memory is the same, if and only if the record is. -/
theorem modifyFirst_ctx_iff {ctx : Context} {old new : User}
    (hold : userFind ctx.user old.name = some old) :
    (⟨ctx.startedUid, modifyFirst (fun u => u.name = old.name) (fun _ => new) ctx.user,
      ctx.loadedFromFs⟩ : Context) = ctx ↔ new = old := by
  rw [← modifyFirst_eq_self_iff (f := fun _ => new) hold]
  obtain ⟨uid, user, loaded⟩ := ctx
  simp

/-- **What is left when the new record is saved.** -/
theorem save_iff {env : EditEnv} {s : Db} {old new : User}
    (hold : userFind s.ctx.user old.name = some old) (hname : new.name = old.name) :
    Outcome (some old.name) (some new) s (save parse getpwnam env old.name new s) ↔
      Saves env old new s := by
  have hput := putUser_cases env.put new s.dir
  unfold save
  generalize putUser env.put new s.dir = res at hput
  cases hput with
  | fopen h =>
    dsimp only
    rw [outcome_false_iff, modifyFirst_ctx_iff hold]
    simp [Saves, h]
  | noPasswd h hpw => simp [Saves, h, hpw, not_outcome_none]
  | chown pw h hpw hchown =>
    dsimp only
    rw [outcome_false_iff, modifyFirst_ctx_iff hold, ← hname, find_put_eq_iff rfl]
    refine (and_congr_right fun _ => find_opened_iff env.put new s.dir id).trans ?_
    simp [Saves, h, hpw, hchown]
  | chmod pw h hpw hchown hchmod =>
    have hperms (perms : Perms) :
        { perms with uid := pw.uid, gid := pw.gid } = perms ↔
          perms.uid = pw.uid ∧ perms.gid = pw.gid := by
      obtain ⟨uid, gid, mode⟩ := perms
      simp [eq_comm]
    dsimp only
    rw [outcome_false_iff, modifyFirst_ctx_iff hold, ← hname, find_put_eq_iff rfl]
    unfold DbFile.chown
    rw [find_opened_iff env.put new s.dir
      fun perms => { perms with uid := pw.uid, gid := pw.gid }]
    simp [Saves, h, hpw, hchown, hchmod, hperms]
  | buffer pw h hpw hchown hchmod hfits =>
    simp [Saves, h, hpw, hchown, hchmod, hfits, not_outcome_none]
  | written pw h hpw hchown hchmod hfits =>
    dsimp only
    unfold loadFromFs
    cases hopen : env.load.opendir with
    | false =>
      -- the list is empty now, and it was not
      rw [if_pos rfl, outcome_false_iff]
      refine iff_of_false (fun hbefore => ?_) ?_
      · have huser : ([] : List User) = s.ctx.user := congrArg Context.user hbefore.1
        rw [← huser] at hold
        cases hold
      · simp [Saves, h, hchown, hchmod, hopen]
    | true =>
      rw [if_neg (by simp), outcome_true_iff (by rw [← hname]; exact Dir.find_put _ _)]
      simp [Saves, h, hpw, hchown, hchmod, hfits, hopen]

/-- A field that can be deleted at all is deleted. -/
theorem pairRemove_eq_some {u : User} {field : Str} :
    u.pairRemove field =
      if field ∈ u.additional.dropLast.map Pair.name then none
      else some { u with additional := u.additional.eraseP fun p => p.name = field } := by
  rw [pairRemove_eq]
  obtain ⟨name, cells⟩ := u
  induction cells using List.reverseRecOn with
  | nil => rfl
  | append_singleton cells p _ =>
    dsimp only
    rw [List.dropLast_concat, List.getLast?_concat, Option.map_some]
    split_ifs with hin hp
    · rfl
    · have hpname : p.name = field := Option.some.inj hp
      rw [List.eraseP_append_right _ fun q hq hqname => hin ?_]
      · simp [hpname]
      · exact List.mem_map.mpr ⟨q, hq, by simpa using hqname⟩
    · have hpname : p.name ≠ field := fun h => hp (congrArg some h)
      rw [List.eraseP_of_forall_not fun q hq hqname => ?_]
      have hqname : q.name = field := by simpa using hqname
      rcases List.mem_append.mp hq with hq | hq
      · exact hin (List.mem_map.mpr ⟨q, hq, hqname⟩)
      · exact hpname (List.mem_singleton.mp hq ▸ hqname)

/-- **When a call keeps its promise.** -/
theorem proper_iff (parse : Str → List Entry) (getpwnam : Str → Option Passwd) (env : EditEnv)
    (s : Db) (c : Call) : Proper parse getpwnam env s c ↔ Keeps env s c := by
  unfold Proper
  cases c with
  | set name field value =>
    match name, field, value with
    | none, _, _ => exact iff_of_true (outcome_unchanged _ _ s) trivial
    | some _, none, _ => exact iff_of_true (outcome_unchanged _ _ s) trivial
    | some _, some _, none => exact iff_of_true (outcome_unchanged _ _ s) trivial
    | some name, some field, some value =>
      simp only [Call.name, Call.newRecord, call, userDbFieldSet, Keeps]
      cases env.pw with
      | none => simp [not_outcome_none]
      | some pw =>
        by_cases huid : pw.uid = env.uid
        · simp only [huid, ne_eq, not_true, if_false, Option.some.injEq, exists_eq_left', false_or]
          cases hfind : userFind s.ctx.user name with
          | none => simp [not_outcome_none]
          | some user =>
            obtain rfl : user.name = name := by simpa using List.find?_some hfind
            simp only [Option.map_some, Option.some.injEq, exists_eq_left']
            exact save_iff hfind rfl
        · refine iff_of_true ?_ ⟨pw, rfl, Or.inl huid⟩
          dsimp only
          rw [if_pos huid]
          exact outcome_unchanged _ _ s
  | del name field =>
    match name, field with
    | none, _ => exact iff_of_true (outcome_unchanged _ _ s) trivial
    | some _, none => exact iff_of_true (outcome_unchanged _ _ s) trivial
    | some name, some field =>
      simp only [Call.name, Call.newRecord, call, userDbFieldDel, Keeps]
      cases hfind : userFind s.ctx.user name with
      | none => simp [not_outcome_none]
      | some user =>
        obtain rfl : user.name = name := by simpa using List.find?_some hfind
        simp only [Option.map_some, Option.some.injEq, exists_eq_left', pairRemove_eq_some]
        split_ifs with hin
        · exact iff_of_false (not_outcome_none _ _ s) fun h => h.1 hin
        · rw [Option.bind_some, and_iff_right hin]
          exact save_iff hfind rfl

/-- `getpwnam` does not find the account. -/
theorem not_proper_unknown :
    ¬∀ (env : EditEnv) (s : Db) (c : Call), Proper entries (passwd []) env s c := by
  intro h
  refine not_outcome_none _ _ _ (h ⟨1000, none, ⟨none, true, true, true, ⟨0, 0, 0⟩, id⟩, inOrder⟩
    ⟨⟨1000, [], true⟩, ⟨[], List.nodup_nil⟩⟩
    (.set (some (ascii "nobody")) (some (ascii "icon")) (some (ascii "x"))))

/-! ### Deleting a field -/

/-- The record without the pairs of a name. -/
def without (u : User) (field : Str) : User :=
  { u with additional := u.additional.filter fun p => p.name ≠ field }

/-- The pair of the name is removed, the others stay in their order, and nothing behind the array is
read; and whenever the file of the account is written by `user_db_field_del`, it has all fields but
that one. -/
def Deletes (u : User) (field : Str) : Prop :=
  u.pairRemove field = some (without u field) ∧
  ∀ (parse : Str → List Entry) (getpwnam : Str → Option Passwd) (env : EditEnv) (s : Db),
    userFind s.ctx.user u.name = some u → env.put.Works → Fits (without u field) →
      ∃ r s', userDbFieldDel parse getpwnam env (some u.name) (some field) s = some (r, s') ∧
        ∃ f ∈ s'.dir.find (iniFile u.name), f.content = fileOf (without u field)

/-- A pair whose name no pair in front of it has. -/
theorem dropLast_eq_filter {l : List Pair} {p : Pair} {field : Str}
    (hlast : l.getLast? = some p) (hname : p.name = field) (hin : field ∉ l.dropLast.map Pair.name) :
    l.dropLast = l.filter fun p => p.name ≠ field := by
  obtain ⟨l', rfl⟩ := List.getLast?_eq_some_iff.mp hlast
  rw [List.dropLast_concat] at hin ⊢
  have hkept : l'.filter (fun p => p.name ≠ field) = l' := by
    refine List.filter_eq_self.mpr fun q hq => ?_
    have hne : q.name ≠ field := by
      intro heq
      exact hin (List.mem_map.mpr ⟨q, hq, heq⟩)
    simpa using hne
  rw [List.filter_append, hkept]
  simp [hname]

/-- **When `_user_pair_remove` works**: no other pair comes behind the one that is removed. -/
theorem deletes_iff (u : User) (field : Str) :
    Deletes u field ↔ field ∉ u.additional.dropLast.map Pair.name := by
  constructor
  · rintro ⟨hremove, -⟩ hin
    rw [pairRemove_eq, if_pos hin] at hremove
    cases hremove
  · intro hin
    have hremove : u.pairRemove field = some (without u field) := by
      rw [pairRemove_eq, if_neg hin, without]
      split_ifs with hlast
      · obtain ⟨p, hp, hname⟩ := Option.map_eq_some_iff.mp hlast
        rw [dropLast_eq_filter hp hname hin]
      · have hkept : u.additional.filter (fun p => p.name ≠ field) = u.additional := by
          refine List.filter_eq_self.mpr fun p hp => ?_
          have hne : p.name ≠ field := by
            rintro rfl
            have hnil : u.additional ≠ [] := List.ne_nil_of_mem hp
            rw [← List.dropLast_append_getLast hnil] at hp
            rcases List.mem_append.mp hp with hp | hp
            · exact hin (List.mem_map.mpr ⟨p, hp, rfl⟩)
            · rw [List.mem_singleton.mp hp] at hlast
              exact hlast (by rw [List.getLast?_eq_getLast_of_ne_nil hnil, Option.map_some])
          simpa using hne
        rw [hkept]
    refine ⟨hremove, fun parse getpwnam env s hfind hput hfits => ?_⟩
    obtain ⟨perms, hwritten⟩ := putUser_works hput hfits s.dir
    set f : DbFile := ⟨iniFile u.name, fileOf (without u field), perms⟩
    have hcall : ∃ r ctx, userDbFieldDel parse getpwnam env (some u.name) (some field) s =
        some (r, ⟨ctx, s.dir.put f⟩) := by
      unfold userDbFieldDel
      simp only [hfind, hremove, Option.bind_some]
      unfold save
      rw [hwritten]
      exact ⟨_, _, rfl⟩
    obtain ⟨r, ctx, hcall⟩ := hcall
    exact ⟨r, _, hcall, f, Dir.find_put s.dir f, rfl⟩

/-- The first of two fields: the second is read behind the array. -/
theorem not_deletes_first :
    ¬∀ (u : User) (field : Str), (u.additional.map Pair.name).Nodup → Deletes u field := by
  intro h
  have hdel := h ⟨ascii "eve", [⟨ascii "icon", ascii "a"⟩, ⟨ascii "prefered-session", ascii "b"⟩]⟩
    (ascii "icon") (by decide)
  have hnone : (⟨ascii "eve", [⟨ascii "icon", ascii "a"⟩,
      ⟨ascii "prefered-session", ascii "b"⟩]⟩ : User).pairRemove (ascii "icon") = none := by decide
  have hsome := hdel.1
  rw [hnone] at hsome
  cases hsome

end Spawny.UserDb.Edits
