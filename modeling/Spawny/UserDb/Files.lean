import Spawny.Lib.Ini
import Spawny.UserDb.Records

/-! # The files of the user database

Every user has a file `<name>.ini` in the database directory. `_put_user` writes it, and
`_load_from_fs` reads all files of the directory in the order in which `readdir` lists them. inih is
a parameter: its calls of the handler for the content of a file.

* `userBytes_eq`: what `_put_user` writes, as long as every piece fits into its buffer;
* `putUser_cases`: **how a call of `_put_user` can end**;
* `userFind_loadFromFs`: **the record of a name is the first one that a file offers**. -/

namespace Spawny.UserDb.Files

open Spawny.Lib.Ini Spawny.Lib.FirstMatch Spawny.UserDb.Records

/-! ### The directory -/

/-- `struct passwd`. -/
structure Passwd where
  name : Str
  uid : ℕ
  gid : ℕ
  deriving DecidableEq, Repr

structure Perms where
  uid : ℕ
  gid : ℕ
  mode : ℕ
  deriving DecidableEq, Repr

structure DbFile where
  filename : Str
  content : Str
  perms : Perms
  deriving DecidableEq, Repr

/-- The directory; there is one file of a name. -/
structure Dir where
  files : List DbFile
  nodup : (files.map DbFile.filename).Nodup

def Dir.find (d : Dir) (filename : Str) : Option DbFile :=
  d.files.find? fun f => f.filename = filename

theorem Dir.mem_of_find {d : Dir} {filename : Str} {f : DbFile} (h : d.find filename = some f) :
    f ∈ d.files ∧ f.filename = filename :=
  ⟨List.mem_of_find?_eq_some h, by simpa using List.find?_some h⟩

theorem Dir.find_of_mem {d : Dir} {f : DbFile} (h : f ∈ d.files) : d.find f.filename = some f := by
  obtain ⟨files, hnodup⟩ := d
  induction files with
  | nil => exact (List.not_mem_nil h).elim
  | cons g files ih =>
    rw [List.map_cons, List.nodup_cons] at hnodup
    rcases List.mem_cons.mp h with rfl | h
    · exact List.find?_cons_of_pos (by simp)
    · have hne : g.filename ≠ f.filename := fun heq =>
        hnodup.1 (heq ▸ List.mem_map_of_mem h)
      exact (List.find?_cons_of_neg (by simpa using hne)).trans (ih hnodup.2 h)

/-- A file is written: the entry of the directory is replaced, or there is a new one. -/
def Dir.put (d : Dir) (f : DbFile) : Dir where
  files := upsert (fun g => g.filename = f.filename) (fun _ => f) f d.files
  nodup := nodup_map_upsert (fun _ _ => rfl) rfl d.nodup

theorem Dir.find_put (d : Dir) (f : DbFile) : (d.put f).find f.filename = some f := by
  rw [Dir.find, Dir.put, find?_upsert (fun _ _ => by simp) (by simp)]
  cases d.files.find? (fun g => g.filename = f.filename) <;> rfl

theorem Dir.find_put_ne (d : Dir) {f : DbFile} {filename : Str} (hne : filename ≠ f.filename) :
    (d.put f).find filename = d.find filename := by
  refine find?_upsert_of_disjoint (fun g hg => ?_) (by simp [hne.symm]) d.files
  have hname : g.filename = f.filename := by simpa using hg
  simp [hname, hne.symm]

/-! ### _put_user -/

/-- `S_IRUSR | S_IWUSR | S_IROTH`. -/
def MODE : ℕ := 0o604

/-- The size of the buffer for one piece of the file. -/
def BUF_SIZE : ℕ := 4048

def iniFile (name : Str) : Str := name ++ ascii ".ini"

def header (name : Str) : Str :=
  ascii "[identify]" ++ newline :: (ascii "name" ++ equals :: (name ++ newline ::
    (ascii "[info]" ++ [newline])))

def pairLine (p : Pair) : Str := p.name ++ equals :: (p.value ++ [newline])

/-- `snprintf` into the buffer and `fwrite` of as many bytes as `snprintf` returns, which is the
length of the whole text: `none` is a read behind the buffer. -/
def printed (s : Str) : Option Str := if s.length < BUF_SIZE then some s else none

/-- The loop over the pairs. -/
def pairBytes : List Pair → Option Str
  | [] => some []
  | p :: ps => do
    let piece ← printed (pairLine p)
    let rest ← pairBytes ps
    some (piece ++ rest)

/-- What `_put_user` hands to `fwrite`. -/
def userBytes (u : User) : Option Str := do
  let piece ← printed (header u.name)
  let rest ← pairBytes u.additional
  some (piece ++ rest)

/-- The file of a record, complete. -/
def fileOf (u : User) : Str := header u.name ++ u.additional.flatMap pairLine

/-- Every piece fits into the buffer. -/
def Fits (u : User) : Prop :=
  (header u.name).length < BUF_SIZE ∧ ∀ p ∈ u.additional, (pairLine p).length < BUF_SIZE

instance (u : User) : Decidable (Fits u) := by
  unfold Fits
  infer_instance

theorem pairBytes_eq : ∀ ps : List Pair,
    pairBytes ps = if ∀ p ∈ ps, (pairLine p).length < BUF_SIZE then some (ps.flatMap pairLine)
      else none
  | [] => by simp [pairBytes]
  | p :: ps => by
    rw [pairBytes, pairBytes_eq ps, printed]
    simp only [List.forall_mem_cons, List.flatMap_cons]
    split_ifs <;> first | rfl | tauto

theorem userBytes_eq (u : User) : userBytes u = if Fits u then some (fileOf u) else none := by
  rw [userBytes, pairBytes_eq, printed]
  by_cases hhead : (header u.name).length < BUF_SIZE
  · by_cases hpairs : ∀ p ∈ u.additional, (pairLine p).length < BUF_SIZE
    · rw [if_pos hhead, if_pos hpairs, if_pos ⟨hhead, hpairs⟩]
      rfl
    · rw [if_pos hhead, if_neg hpairs, if_neg fun h : Fits u => hpairs h.2]
      rfl
  · rw [if_neg hhead, if_neg fun h : Fits u => hhead h.1]
    rfl

/-- How the system answers in a call of `_put_user`: the result of `getpwnam`, which calls succeed,
what a file gets that `fopen` creates, and what arrives in the file of what is written. -/
structure PutEnv where
  pw : Option Passwd
  fopen : Bool
  chown : Bool
  chmod : Bool
  created : Perms
  write : Str → Str

/-- The file right after `fopen`. -/
def opened (env : PutEnv) (u : User) (d : Dir) : DbFile where
  filename := iniFile u.name
  content := []
  perms := ((d.find (iniFile u.name)).map DbFile.perms).getD env.created

def DbFile.chown (f : DbFile) (pw : Passwd) : DbFile :=
  { f with perms := { f.perms with uid := pw.uid, gid := pw.gid } }

def DbFile.chmod (f : DbFile) : DbFile := { f with perms := { f.perms with mode := MODE } }

/-- `_put_user`; `none` is undefined behaviour. -/
def putUser (env : PutEnv) (u : User) (d : Dir) : Option (Bool × Dir) :=
  if env.fopen = false then some (false, d)
  else
    match env.pw with
    | none => none
    | some pw =>
      if env.chown = false then some (false, d.put (opened env u d))
      else if env.chmod = false then some (false, d.put ((opened env u d).chown pw))
      else
        (userBytes u).map fun bs =>
          (true, d.put { ((opened env u d).chown pw).chmod with content := env.write bs })

/-- **How a call of `_put_user` can end.** -/
inductive PutUser (env : PutEnv) (u : User) (d : Dir) : Option (Bool × Dir) → Prop
  | fopen (h : env.fopen = false) : PutUser env u d (some (false, d))
  | noPasswd (h : env.fopen = true) (hpw : env.pw = none) : PutUser env u d none
  | chown (pw : Passwd) (h : env.fopen = true) (hpw : env.pw = some pw)
    (hchown : env.chown = false) : PutUser env u d (some (false, d.put (opened env u d)))
  | chmod (pw : Passwd) (h : env.fopen = true) (hpw : env.pw = some pw) (hchown : env.chown = true)
    (hchmod : env.chmod = false) :
    PutUser env u d (some (false, d.put ((opened env u d).chown pw)))
  | buffer (pw : Passwd) (h : env.fopen = true) (hpw : env.pw = some pw) (hchown : env.chown = true)
    (hchmod : env.chmod = true) (hfits : ¬Fits u) : PutUser env u d none
  | written (pw : Passwd) (h : env.fopen = true) (hpw : env.pw = some pw)
    (hchown : env.chown = true) (hchmod : env.chmod = true) (hfits : Fits u) :
    PutUser env u d (some (true,
      d.put { ((opened env u d).chown pw).chmod with content := env.write (fileOf u) }))

theorem putUser_cases (env : PutEnv) (u : User) (d : Dir) : PutUser env u d (putUser env u d) := by
  unfold putUser
  rw [userBytes_eq]
  cases hfopen : env.fopen with
  | false => exact .fopen hfopen
  | true =>
    cases hpw : env.pw with
    | none => exact .noPasswd hfopen hpw
    | some pw =>
      cases hchown : env.chown with
      | false => exact .chown pw hfopen hpw hchown
      | true =>
        cases hchmod : env.chmod with
        | false => exact .chmod pw hfopen hpw hchown hchmod
        | true =>
          by_cases hfits : Fits u
          · simp only [hfits, if_true]
            exact .written pw hfopen hpw hchown hchmod hfits
          · simp only [hfits, if_false]
            exact .buffer pw hfopen hpw hchown hchmod hfits

/-- Every call of the system succeeds while the file is written. -/
structure PutEnv.Works (env : PutEnv) : Prop where
  fopen : env.fopen = true
  passwd : env.pw.isSome = true
  chown : env.chown = true
  chmod : env.chmod = true
  write : ∀ bs, env.write bs = bs

/-- **The file of a record** is written as a whole. -/
theorem putUser_works {env : PutEnv} (henv : env.Works) {u : User} (hu : Fits u) (d : Dir) :
    ∃ perms, putUser env u d = some (true, d.put ⟨iniFile u.name, fileOf u, perms⟩) := by
  obtain ⟨pw, hpw⟩ := Option.isSome_iff_exists.mp henv.passwd
  refine ⟨(((opened env u d).chown pw).chmod).perms, ?_⟩
  unfold putUser
  rw [userBytes_eq, if_pos hu]
  simp only [henv.fopen, hpw, henv.chown, henv.chmod, henv.write, Bool.true_eq_false, if_false,
    Option.map_some]
  rfl

/-! ### Loading -/

/-- The `User` on the stack of `_load_file`. -/
structure Loaded where
  name : Option Str
  additional : List Pair
  deriving DecidableEq, Repr

/-- `_load_ini_parse`; what it returns does not stop the parser. -/
def loadIniParse (user : Loaded) (e : Entry) : Loaded :=
  if e.sect = ascii "identify" then
    if e.name = ascii "name" then { user with name := some e.value } else user
  else if e.sect = ascii "info" then
    { user with additional := user.additional ++ [⟨e.name, e.value⟩] }
  else user

variable (parse : Str → List Entry) (getpwnam : Str → Option Passwd)

/-- What `ini_parse_file` leaves in the `User`. -/
def parseFile (content : Str) : Loaded := (parse content).foldl loadIniParse ⟨none, []⟩

/-- `_load_file`, with the content if the file can be opened. -/
def loadFile (users : List User) (content : Option Str) : Bool × List User :=
  match content with
  | none => (false, users)
  | some bs =>
    match (parseFile parse bs).name with
    | none => (false, users)
    | some name =>
      if (getpwnam name).isNone then (false, users)
      else if (userFind users name).isSome then (false, users)
      else (true, users ++ [⟨name, (parseFile parse bs).additional⟩])

/-- The test for the files that are loaded. -/
def isIni (filename : Str) : Bool :=
  4 < filename.length && filename.drop (filename.length - 4) == ascii ".ini"

/-- How the system answers while the directory is read: `readdir` lists the files in some order. -/
structure LoadEnv where
  opendir : Bool
  readdir : Dir → List DbFile
  readdir_perm : ∀ d, (readdir d).Perm d.files
  fopen : Str → Bool

/-- Every call succeeds, and the files are listed in their order. -/
def inOrder : LoadEnv := ⟨true, fun d => d.files, fun _ => List.Perm.refl _, fun _ => true⟩

/-- A `getpwnam` that knows these accounts. -/
def passwd (names : List Str) (name : Str) : Option Passwd :=
  if name ∈ names then some ⟨name, 1000, 1000⟩ else none

/-- `Context`. -/
structure Context where
  startedUid : ℕ
  user : List User
  loadedFromFs : Bool
  deriving DecidableEq, Repr

/-- The body of the loop of `_load_from_fs`. -/
def loadEntry (env : LoadEnv) (users : List User) (f : DbFile) : List User :=
  if isIni f.filename then
    (loadFile parse getpwnam users (if env.fopen f.filename then some f.content else none)).2
  else users

/-- `_load_from_fs`. -/
def loadFromFs (env : LoadEnv) (d : Dir) (ctx : Context) : Bool × Context :=
  if env.opendir = false then (false, ctx)
  else
    (true, { ctx with
      user := (env.readdir d).foldl (loadEntry parse getpwnam env) ctx.user
      loadedFromFs := true })

/-- `_user_list_free`. -/
def userListFree (ctx : Context) : Context := { ctx with user := [], loadedFromFs := false }

/-- `user_db_field_get`; `none` is a missing user, whose pairs are looked at all the same. -/
def userDbFieldGet (ctx : Context) (name field : Str) : Option (Option Str) :=
  (userFind ctx.user name).map fun u => (u.fieldGet field).map Pair.value

/-! ### What is loaded -/

/-- The record that a file offers. -/
def offer (fopen : Str → Bool) (f : DbFile) : Option User :=
  if isIni f.filename && fopen f.filename then
    match (parseFile parse f.content).name with
    | none => none
    | some name =>
      if (getpwnam name).isSome then some ⟨name, (parseFile parse f.content).additional⟩ else none
  else none

theorem known_of_offer {parse : Str → List Entry} {getpwnam : Str → Option Passwd}
    {fopen : Str → Bool} {f : DbFile} {u : User} (h : offer parse getpwnam fopen f = some u) :
    (getpwnam u.name).isSome = true := by
  unfold offer at h
  split_ifs at h
  cases hname : (parseFile parse f.content).name with
  | none => simp [hname] at h
  | some name =>
    rw [hname] at h
    dsimp only at h
    split_ifs at h with hknown
    obtain rfl := Option.some.inj h
    exact hknown

/-- A record is added, unless there is one of the name. -/
def addUser (users : List User) (u : User) : List User :=
  if (userFind users u.name).isSome then users else users ++ [u]

variable {parse getpwnam}

theorem loadEntry_eq (env : LoadEnv) (users : List User) (f : DbFile) :
    loadEntry parse getpwnam env users f =
      ((offer parse getpwnam env.fopen f).map (addUser users)).getD users := by
  unfold loadEntry offer loadFile
  cases hini : isIni f.filename with
  | false => rfl
  | true =>
    cases hopen : env.fopen f.filename with
    | false => rfl
    | true =>
      cases hname : (parseFile parse f.content).name with
      | none => simp [hname]
      | some name =>
        simp only [hname, if_true, Bool.and_self]
        cases hpw : getpwnam name with
        | none => rfl
        | some pw =>
          unfold addUser
          simp only [Option.isNone_some, Option.isSome_some, Bool.false_eq_true, if_false, if_true,
            Option.map_some, Option.getD_some]
          split_ifs <;> rfl

theorem foldl_loadEntry (env : LoadEnv) : ∀ (fs : List DbFile) (users : List User),
    fs.foldl (loadEntry parse getpwnam env) users =
      (fs.filterMap (offer parse getpwnam env.fopen)).foldl addUser users
  | [], _ => rfl
  | f :: fs, users => by
    rw [List.foldl_cons, loadEntry_eq, foldl_loadEntry env fs]
    cases hoffer : offer parse getpwnam env.fopen f with
    | none => rw [List.filterMap_cons_none hoffer, Option.map_none, Option.getD_none]
    | some u =>
      rw [List.filterMap_cons_some hoffer, Option.map_some, Option.getD_some, List.foldl_cons]

theorem userFind_addUser (users : List User) (u : User) (name : Str) :
    userFind (addUser users u) name = (userFind users name).or (userFind [u] name) := by
  unfold addUser
  split_ifs with h
  · by_cases hname : u.name = name
    · rw [hname] at h
      obtain ⟨v, hv⟩ := Option.isSome_iff_exists.mp h
      rw [hv]
      rfl
    · have hnone : userFind [u] name = none := by simp [userFind, hname]
      rw [hnone, Option.or_none]
  · exact List.find?_append

theorem userFind_foldl_addUser : ∀ (us users : List User) (name : Str),
    userFind (us.foldl addUser users) name = (userFind users name).or (userFind us name)
  | [], users, name => by simp [userFind]
  | u :: us, users, name => by
    have hcons : userFind ([u] ++ us) name = (userFind [u] name).or (userFind us name) :=
      List.find?_append
    rw [List.singleton_append] at hcons
    rw [List.foldl_cons, userFind_foldl_addUser us, userFind_addUser, Option.or_assoc, ← hcons]

theorem nodup_foldl_addUser : ∀ (us users : List User), (users.map User.name).Nodup →
    ((us.foldl addUser users).map User.name).Nodup
  | [], _, h => h
  | u :: us, users, h => by
    refine nodup_foldl_addUser us _ ?_
    unfold addUser
    split_ifs with hfind
    · exact h
    · rw [List.map_append, List.map_singleton, List.nodup_append_comm, List.singleton_append,
        List.nodup_cons]
      refine ⟨fun hmem => hfind ?_, h⟩
      obtain ⟨v, hv, hname⟩ := List.mem_map.mp hmem
      exact List.find?_isSome.mpr ⟨v, hv, by simpa using hname⟩

/-- **What a lookup finds after loading**: the first record of the name that a file offers. -/
theorem userFind_loadFromFs {env : LoadEnv} (h : env.opendir = true) (d : Dir) {ctx : Context}
    (hctx : ctx.user = []) (name : Str) :
    userFind (loadFromFs parse getpwnam env d ctx).2.user name =
      userFind ((env.readdir d).filterMap (offer parse getpwnam env.fopen)) name := by
  unfold loadFromFs
  rw [if_neg (by simp [h])]
  dsimp only
  rw [foldl_loadEntry, userFind_foldl_addUser, hctx]
  rfl

end Spawny.UserDb.Files
