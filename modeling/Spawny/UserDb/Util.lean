import Spawny.Lib.Words
import Spawny.UserDb.Store

/-! # user_db_util.c: editing the database from the command line

`main` goes over its arguments twice: for `--user`, wherever it stands, and for the edits. What
`user_db_init` has loaded, and how the system answers in each edit, are parameters; `none` is
undefined behaviour.

* `strtok_iff`: which operands of `--edit` are divided as they are meant;
* `shifted_iff`: what the arguments behind the name of a `--user` are taken for;
* `applies_iff`: **when the tool does what its arguments say** and returns what came of it. -/

namespace Spawny.UserDb.Util

open Spawny.Lib.Words Spawny.Lib.Ini Spawny.UserDb.Records Spawny.UserDb.Files
open Spawny.UserDb.Edits Spawny.UserDb.Store

def EXIT_SUCCESS : ℕ := 0

def EXIT_FAILURE : ℕ := 1

def MAX_VALUE : ℕ := 1048

/-- The process: its user with the name in passwd, the database if `user_db_init` returns true, and
the answers of the system in the edits. -/
structure Caller where
  uid : ℕ
  pwuid : Option Str
  opened : Option Db
  envs : ℕ → EditEnv

/-- The database, and the calls of the library with their results so far. -/
structure Run where
  db : Db
  calls : List (Call × Bool)

variable (parse : Str → List Entry) (getpwnam : Str → Option Passwd) (p : Caller)

/-- A call of the library. -/
def perform (c : Call) (r : Run) : Option (Bool × Run) :=
  (call parse getpwnam { p.envs r.calls.length with uid := p.uid } r.db c).map fun res =>
    (res.1, ⟨res.2, r.calls ++ [(c, res.1)]⟩)

/-! ### The functions of user_db_util.c -/

def isComma (b : UInt8) : Bool := b == 44

/-- `strtok` with a comma: the token and what follows. -/
def strtok (s : Str) : Option (Str × Str) := nextWord isComma s

/-- What `_field_edit` makes of its argument. -/
def splitEdit (arg : Str) : Option Str × Option Str :=
  let name := strtok arg
  let value := name.bind fun t => strtok t.2
  (name.map Prod.fst, value.map Prod.fst)

def fieldEdit (username : Str) (arg : Option Str) (r : Run) : Option (Bool × Run) :=
  match arg with
  | none => none
  | some arg =>
    if MAX_VALUE ≤ arg.length then none
    else perform parse getpwnam p (.set username (splitEdit arg).1 (splitEdit arg).2) r

def fieldDel (username : Str) (arg : Option Str) (r : Run) : Option (Bool × Run) :=
  perform parse getpwnam p (.del username arg) r

/-- `if (!..) return EXIT_FAILURE;` -/
def orFail (res : Option (Bool × Run)) (next : Run → Option (ℕ × Run)) : Option (ℕ × Run) :=
  res.bind fun res => if res.1 = true then next res.2 else some (EXIT_FAILURE, res.2)

/-- The second loop of `main` and what follows it. An operand that is missing is the `NULL` behind
the arguments. -/
def mainLoop (username : Str) : List Str → Run → Option (ℕ × Run)
  | [], r => some (EXIT_FAILURE, r)
  | arg :: rest, r =>
    let next := fun r => match rest with
      | [] => some (EXIT_FAILURE, r)
      | _ :: rest => mainLoop username rest r
    if arg = ascii "--edit" then orFail (fieldEdit parse getpwnam p username rest.head? r) next
    else if arg = ascii "--icon" then
      orFail (perform parse getpwnam p (.set username (ascii "icon") rest.head?) r) next
    else if arg = ascii "--prefered-session" then
      orFail (perform parse getpwnam p (.set username (ascii "prefered-session") rest.head?) r) next
    else if arg = ascii "--del" then orFail (fieldDel parse getpwnam p username rest.head? r) next
    else if arg = ascii "--help" then some (EXIT_FAILURE, r)
    else if arg = ascii "--user" then
      if p.uid = 0 then mainLoop username rest r else some (EXIT_FAILURE, r)
    else some (EXIT_FAILURE, r)

/-- The first loop: the argument behind the first `--user`, if there is one. -/
def findUser : List Str → Option (Option Str)
  | [] => some none
  | arg :: rest =>
    if arg = ascii "--user" then
      match rest with
      | [] => none
      | name :: _ => some (some name)
    else findUser rest

/-- The account that `main` takes. -/
def takenUser (args : List Str) : Option Str :=
  (if p.uid = 0 then findUser args else some none).bind fun name =>
    match name with
    | some name => some name
    | none => p.pwuid

/-- `main`: the exit status, and what was done if the database could be opened. -/
def main (args : List Str) : Option (ℕ × Option Run) :=
  match p.opened with
  | none => some (EXIT_FAILURE, none)
  | some db =>
    (takenUser p args).bind fun username =>
      if userDbUserExists db.ctx username = true then
        (mainLoop parse getpwnam p username args ⟨db, []⟩).map fun r => (r.1, some r.2)
      else some (EXIT_FAILURE, some ⟨db, []⟩)

/-! ### What the arguments say -/

/-- A key of an edit ends at the first comma. -/
abbrev Key := { key : Str // ∀ b ∈ key, isComma b = false }

/-- The documented options. -/
inductive Opt
  | icon (name : Str)
  | preferedSession (session : Str)
  | edit (key : Key) (value : Str)
  | del (key : Str)
  | user (name : Str)

def Opt.words : Opt → List Str
  | .icon name => [ascii "--icon", name]
  | .preferedSession session => [ascii "--prefered-session", session]
  | .edit key value => [ascii "--edit", key.1 ++ 44 :: value]
  | .del key => [ascii "--del", key]
  | .user name => [ascii "--user", name]

def Opt.account : Opt → Option Str
  | .user name => some name
  | _ => none

/-- The edit of an option. -/
def Opt.call (account : Str) : Opt → Option Call
  | .icon name => some (.set account (ascii "icon") name)
  | .preferedSession session => some (.set account (ascii "prefered-session") session)
  | .edit key value => some (.set account key.1 value)
  | .del key => some (.del account key)
  | .user _ => none

/-- A vector of options: root may give one `--user`. -/
structure Vector (uid : ℕ) where
  opts : List Opt
  one : (opts.filterMap Opt.account).length ≤ if uid = 0 then 1 else 0

def Vector.args {uid : ℕ} (v : Vector uid) : List Str := v.opts.flatMap Opt.words

/-- The account of `--user`, otherwise the caller's own. -/
def chosenUser (opts : List Opt) : Option Str := (opts.filterMap Opt.account).head?.or p.pwuid

/-- The edits one after the other, up to the first one that fails. -/
def applyEdits (account : Str) : List Opt → Run → Option (Bool × Run)
  | [], r => some (true, r)
  | o :: os, r =>
    match o.call account with
    | none => applyEdits account os r
    | some c => (perform parse getpwnam p c r).bind fun res =>
      if res.1 = true then applyEdits account os res.2 else some (false, res.2)

/-- What is to come of the vector: whether all edits have succeeded, and what was done. Without the
database or the account none can. -/
def meant (opts : List Opt) : Option (Bool × Option Run) :=
  match p.opened with
  | none => some (false, none)
  | some db =>
    match chosenUser p opts with
    | none => some (false, some ⟨db, []⟩)
    | some account =>
      if userDbUserExists db.ctx account = true then
        (applyEdits parse getpwnam p account opts ⟨db, []⟩).map fun r => (r.1, some r.2)
      else some (false, some ⟨db, []⟩)

/-- **The tool does what its arguments say**: these edits of this account in this order, and it
returns success if and only if all of them have succeeded. -/
def Applies (v : Vector p.uid) : Prop :=
  ∃ exit ok run, main parse getpwnam p v.args = some (exit, run) ∧
    meant parse getpwnam p v.opts = some (ok, run) ∧ (exit = EXIT_SUCCESS ↔ ok = true)

/-! ### When it does -/

/-- `--edit` with this operand is read as it is meant. -/
def Opt.Plain : Opt → Prop
  | .edit key value => key.1 ≠ [] ∧ value ≠ [] ∧ (∀ b ∈ value, isComma b = false) ∧
      (key.1 ++ 44 :: value).length < MAX_VALUE
  | _ => True

/-- What an option with an operand does, by its text. -/
def callOf (account text operand : Str) : Option Call :=
  if text = ascii "--icon" then some (.set account (ascii "icon") operand)
  else if text = ascii "--prefered-session" then
    some (.set account (ascii "prefered-session") operand)
  else if text = ascii "--del" then some (.del account operand)
  else none

/-- Behind a `--user` whose name is the option `text`: the name and the first word of each option are
taken for an option, which is the same edit, until one fails. -/
def FailsShifted (account text : Str) : List Opt → Run → Prop
  | [], _ => False
  | o :: os, r => ∃ c operand, o.call account = some c ∧ o.words.head? = some operand ∧
      callOf account text operand = some c ∧ ∃ ok r', perform parse getpwnam p c r = some (ok, r') ∧
        (ok = false ∨ o.words = [text, text] ∧ FailsShifted account text os r')

/-- **An edit fails, and the options up to it are read as they are meant.** The name of a `--user`
counts as an option of its own. -/
def FailsPlain (account : Str) : List Opt → Run → Prop
  | [], _ => False
  | o :: os, r =>
    match o with
    | .user name =>
      if name = ascii "--user" then FailsPlain account os r
      else FailsShifted parse getpwnam p account name os r
    | o => o.Plain ∧ ∃ c ok r', o.call account = some c ∧
        perform parse getpwnam p c r = some (ok, r') ∧ (ok = false ∨ FailsPlain account os r')

/-- The condition. -/
def Fails (v : Vector p.uid) (db : Db) : Prop :=
  ∃ account, takenUser p v.args = some account ∧
    ((userDbUserExists db.ctx account = false ∧
        ∀ chosen ∈ chosenUser p v.opts, userDbUserExists db.ctx chosen = false) ∨
      (userDbUserExists db.ctx account = true ∧ chosenUser p v.opts = some account ∧
        FailsPlain parse getpwnam p account v.opts ⟨db, []⟩))

variable {parse getpwnam p}

/-! ### strtok -/

theorem splitEdit_eq (arg : Str) :
    splitEdit arg = ((words isComma arg)[0]?, (words isComma arg)[1]?) := by
  unfold splitEdit strtok
  rcases hname : nextWord isComma arg with _ | ⟨name, rest⟩
  · rw [nextWord_eq_none_iff.mp hname]
    rfl
  · rw [words_of_nextWord hname]
    rcases hvalue : nextWord isComma rest with _ | ⟨value, rest'⟩
    · simp [hvalue, nextWord_eq_none_iff.mp hvalue]
    · simp [hvalue, words_of_nextWord hvalue]

/-- **Which operands are divided as they are meant.** -/
theorem strtok_iff (key : Key) (value : Str) :
    splitEdit (key.1 ++ 44 :: value) = (some key.1, some value) ↔
      key.1 ≠ [] ∧ value ≠ [] ∧ ∀ b ∈ value, isComma b = false := by
  rw [splitEdit_eq, words_append_cons (by rfl), Prod.mk.injEq]
  constructor
  · rintro ⟨hkey, hvalue⟩
    rcases eq_or_ne key.1 [] with hnil | hne
    · -- the value alone makes the words, and no word is empty
      rw [hnil, words_nil, List.nil_append] at hkey
      exact absurd rfl (mem_words (List.mem_of_getElem? hkey)).1
    · rw [words_eq_singleton hne key.2] at hvalue
      exact ⟨hne, mem_words (List.mem_of_getElem? hvalue)⟩
  · rintro ⟨hkey, hvalue, hcomma⟩
    rw [words_eq_singleton hkey key.2, words_eq_singleton hvalue hcomma]
    exact ⟨rfl, rfl⟩

/-- A word without a comma has no value. -/
theorem splitEdit_of_word {w : Str} (h : ∀ b ∈ w, isComma b = false) : (splitEdit w).2 = none := by
  rw [splitEdit_eq]
  rcases eq_or_ne w [] with rfl | hne
  · rw [words_nil]
    rfl
  · rw [words_eq_singleton hne h]
    rfl

/-! ### The calls that are made -/

theorem calls_perform {c : Call} {r r' : Run} {ok : Bool}
    (h : perform parse getpwnam p c r = some (ok, r')) : r'.calls = r.calls ++ [(c, ok)] := by
  obtain ⟨res, -, hres⟩ := Option.map_eq_some_iff.mp h
  obtain ⟨rfl, rfl⟩ := Prod.mk.inj hres
  rfl

/-- **A call that fails** is the last one. -/
theorem calls_applyEdits {account : Str} : ∀ {os : List Opt} {r r' : Run} {ok : Bool},
    applyEdits parse getpwnam p account os r = some (ok, r') → r.calls <+: r'.calls ∧
      (ok = false → r.calls ≠ r'.calls)
  | [], r, r', ok, h => by
    obtain ⟨rfl, rfl⟩ := Prod.mk.inj (Option.some.inj h)
    exact ⟨List.prefix_refl _, fun h => absurd h (by simp)⟩
  | o :: os, r, r', ok, h => by
    rw [applyEdits] at h
    rcases hc : o.call account with _ | c
    · rw [hc] at h
      exact calls_applyEdits h
    · rw [hc] at h
      obtain ⟨⟨ok₁, r₁⟩, hcall, h⟩ := Option.bind_eq_some_iff.mp h
      have hcalls := calls_perform hcall
      have hpre : r.calls <+: r₁.calls := hcalls ▸ List.prefix_append _ _
      have hless : r.calls.length < r₁.calls.length := by
        rw [hcalls, List.length_append]
        exact Nat.lt_succ_self _
      have hmore : r₁.calls <+: r'.calls := by
        rcases ok₁ with _ | _
        · obtain ⟨-, rfl⟩ := Prod.mk.inj (Option.some.inj h)
          exact List.prefix_refl _
        · exact (calls_applyEdits h).1
      refine ⟨hpre.trans hmore, fun _ heq => ?_⟩
      have hlen := hmore.length_le
      rw [← heq] at hlen
      omega

theorem mainLoop_cons (account arg : Str) (rest : List Str) (r : Run) :
    mainLoop parse getpwnam p account (arg :: rest) r =
      if arg = ascii "--edit" then
        orFail (fieldEdit parse getpwnam p account rest.head? r)
          (mainLoop parse getpwnam p account rest.tail)
      else if arg = ascii "--icon" then
        orFail (perform parse getpwnam p (.set account (ascii "icon") rest.head?) r)
          (mainLoop parse getpwnam p account rest.tail)
      else if arg = ascii "--prefered-session" then
        orFail (perform parse getpwnam p (.set account (ascii "prefered-session") rest.head?) r)
          (mainLoop parse getpwnam p account rest.tail)
      else if arg = ascii "--del" then
        orFail (fieldDel parse getpwnam p account rest.head? r)
          (mainLoop parse getpwnam p account rest.tail)
      else if arg = ascii "--help" then some (EXIT_FAILURE, r)
      else if arg = ascii "--user" then
        if p.uid = 0 then mainLoop parse getpwnam p account rest r else some (EXIT_FAILURE, r)
      else some (EXIT_FAILURE, r) := by
  rcases rest with _ | ⟨w, rest⟩ <;> rfl

/-- The loop ends in a failure, and what was done before it is done. -/
def Ends (r : Run) (res : Option (ℕ × Run)) : Prop :=
  ∀ exit run, res = some (exit, run) → exit = EXIT_FAILURE ∧ r.calls <+: run.calls

theorem ends_stop (r : Run) : Ends r (some (EXIT_FAILURE, r)) := by
  intro exit run h
  obtain ⟨rfl, rfl⟩ := Prod.mk.inj (Option.some.inj h)
  exact ⟨rfl, List.prefix_refl _⟩

theorem ends_orFail {c : Call} {r : Run} {next : Run → Option (ℕ × Run)}
    (hnext : ∀ r, Ends r (next r)) : Ends r (orFail (perform parse getpwnam p c r) next) := by
  intro exit run h
  obtain ⟨⟨ok, r'⟩, hcall, h⟩ := Option.bind_eq_some_iff.mp h
  have hpre : r.calls <+: r'.calls := calls_perform hcall ▸ List.prefix_append _ _
  dsimp only at h
  split_ifs at h
  · obtain ⟨hexit, hmore⟩ := hnext r' exit run h
    exact ⟨hexit, hpre.trans hmore⟩
  · obtain ⟨rfl, rfl⟩ := Prod.mk.inj (Option.some.inj h)
    exact ⟨rfl, hpre⟩

/-- **`main` never returns success**: the loop over any arguments. -/
theorem mainLoop_ends (account : Str) : ∀ (n : ℕ) (args : List Str) (r : Run), args.length ≤ n →
    Ends r (mainLoop parse getpwnam p account args r)
  | _, [], r, _ => ends_stop r
  | n + 1, arg :: rest, r, hn => by
    have hrest : rest.length ≤ n := by simpa using hn
    have hnext : ∀ r, Ends r (mainLoop parse getpwnam p account rest.tail r) := by
      intro r
      exact mainLoop_ends account n rest.tail r (by rw [List.length_tail]; omega)
    rw [mainLoop_cons]
    split_ifs
    · unfold fieldEdit
      rcases rest.head? with _ | w
      · exact fun exit run h => by simp [orFail] at h
      · dsimp only
        split_ifs
        · exact fun exit run h => by simp [orFail] at h
        · exact ends_orFail hnext
    · exact ends_orFail hnext
    · exact ends_orFail hnext
    · exact ends_orFail hnext
    · exact ends_stop r
    · exact mainLoop_ends account n rest r hrest
    · exact ends_stop r
    · exact ends_stop r

/-! ### Two runs side by side -/

/-- The code ends in a run in which an edit of the vector has failed. -/
def Agree (res : Option (ℕ × Run)) (edits : Option (Bool × Run)) : Prop :=
  ∃ exit run, res = some (exit, run) ∧ edits = some (false, run)

theorem not_agree_stop (account : Str) (os : List Opt) (exit : ℕ) (r : Run) :
    ¬Agree (some (exit, r)) (applyEdits parse getpwnam p account os r) := by
  rintro ⟨exit', run, hstop, hedits⟩
  obtain ⟨-, rfl⟩ := Prod.mk.inj (Option.some.inj hstop)
  exact (calls_applyEdits hedits).2 rfl rfl

/-- The first call of the code. -/
theorem first_orFail {c : Call} {r run : Run} {next : Run → Option (ℕ × Run)} {exit : ℕ}
    (hnext : ∀ r, Ends r (next r))
    (h : orFail (perform parse getpwnam p c r) next = some (exit, run)) :
    ∃ ok r', perform parse getpwnam p c r = some (ok, r') ∧ r.calls ++ [(c, ok)] <+: run.calls ∧
      (ok = true → next r' = some (exit, run)) := by
  obtain ⟨⟨ok, r'⟩, hcall, h⟩ := Option.bind_eq_some_iff.mp h
  refine ⟨ok, r', hcall, ?_⟩
  rw [← calls_perform hcall]
  rcases ok with _ | _
  · obtain ⟨-, rfl⟩ := Prod.mk.inj (Option.some.inj h)
    exact ⟨List.prefix_refl _, by rintro ⟨⟩⟩
  · exact ⟨(hnext r' exit run h).2, fun _ => h⟩

/-- The first call of the vector. -/
theorem first_applyEdits {account : Str} {o : Opt} {c : Call} (hc : o.call account = some c)
    {os : List Opt} {r run : Run} {res : Bool}
    (h : applyEdits parse getpwnam p account (o :: os) r = some (res, run)) :
    ∃ ok r', perform parse getpwnam p c r = some (ok, r') ∧ r.calls ++ [(c, ok)] <+: run.calls ∧
      (ok = true → applyEdits parse getpwnam p account os r' = some (res, run)) := by
  rw [applyEdits, hc] at h
  obtain ⟨⟨ok, r'⟩, hcall, h⟩ := Option.bind_eq_some_iff.mp h
  refine ⟨ok, r', hcall, ?_⟩
  rw [← calls_perform hcall]
  rcases ok with _ | _
  · obtain ⟨-, rfl⟩ := Prod.mk.inj (Option.some.inj h)
    exact ⟨List.prefix_refl _, by rintro ⟨⟩⟩
  · exact ⟨(calls_applyEdits h).1, fun _ => h⟩

/-- Two runs that end in the same one began with the same call. -/
theorem first_eq {r run : Run} {c c' : Call} {ok ok' : Bool}
    (h : r.calls ++ [(c, ok)] <+: run.calls) (h' : r.calls ++ [(c', ok')] <+: run.calls) :
    c = c' ∧ ok = ok' := by
  have heq := (List.prefix_of_prefix_length_le h h' (by simp)).eq_of_length (by simp)
  simpa using heq

/-- **One edit on both sides**: it is the same one, and it fails or both go on. -/
theorem agree_orFail {c c' : Call} {r : Run} {next : Run → Option (ℕ × Run)} {account : Str}
    {o : Opt} {os : List Opt} (hnext : ∀ r, Ends r (next r)) (hc : o.call account = some c') :
    Agree (orFail (perform parse getpwnam p c r) next)
        (applyEdits parse getpwnam p account (o :: os) r) ↔
      c = c' ∧ ∃ ok r', perform parse getpwnam p c' r = some (ok, r') ∧
        (ok = false ∨ Agree (next r') (applyEdits parse getpwnam p account os r')) := by
  constructor
  · rintro ⟨exit, run, hcode, hedits⟩
    obtain ⟨ok, r₁, hcall, hpre, hcode⟩ := first_orFail hnext hcode
    obtain ⟨ok', r₂, hcall', hpre', hedits⟩ := first_applyEdits hc hedits
    obtain ⟨rfl, rfl⟩ := first_eq hpre hpre'
    obtain rfl : r₁ = r₂ := by
      rw [hcall] at hcall'
      exact (Prod.mk.inj (Option.some.inj hcall')).2
    refine ⟨rfl, ok, r₁, hcall, ?_⟩
    rcases ok with _ | _
    · exact Or.inl rfl
    · exact Or.inr ⟨exit, run, hcode rfl, hedits rfl⟩
  · rintro ⟨rfl, ok, r', hcall, hrest⟩
    rw [applyEdits, hc]
    dsimp only
    rcases ok with _ | _
    · exact ⟨EXIT_FAILURE, r', by rw [hcall]; rfl, by rw [hcall]; rfl⟩
    · obtain ⟨exit, run, hcode, hedits⟩ := hrest.resolve_left (by simp)
      exact ⟨exit, run, by rw [hcall]; exact hcode, by rw [hcall]; exact hedits⟩

/-! ### Options and texts -/

/-- **A text that is an option with an operand.** -/
theorem mainLoop_callOf {account text operand : Str} {c : Call}
    (h : callOf account text operand = some c) (rest : List Str) (r : Run) :
    mainLoop parse getpwnam p account (text :: operand :: rest) r =
      orFail (perform parse getpwnam p c r) (mainLoop parse getpwnam p account rest) := by
  unfold callOf at h
  split_ifs at h with hicon hpref hdel
  · subst hicon
    obtain rfl := Option.some.inj h
    rw [mainLoop_cons, if_neg (by decide), if_pos rfl]
    rfl
  · subst hpref
    obtain rfl := Option.some.inj h
    rw [mainLoop_cons, if_neg (by decide), if_neg (by decide), if_pos rfl]
    rfl
  · subst hdel
    obtain rfl := Option.some.inj h
    rw [mainLoop_cons, if_neg (by decide), if_neg (by decide), if_neg (by decide), if_pos rfl]
    rfl

theorem callOf_eq_none {account text : Str} (hicon : text ≠ ascii "--icon")
    (hpref : text ≠ ascii "--prefered-session") (hdel : text ≠ ascii "--del") :
    callOf account text [] = none := by
  rw [callOf, if_neg hicon, if_neg hpref, if_neg hdel]

/-- Any other text stops the loop, unless it is `--edit` or `--user`. -/
theorem mainLoop_other {account text operand : Str} (h : callOf account text operand = none)
    (hedit : text ≠ ascii "--edit") (huser : text ≠ ascii "--user") (rest : List Str) (r : Run) :
    mainLoop parse getpwnam p account (text :: rest) r = some (EXIT_FAILURE, r) := by
  unfold callOf at h
  split_ifs at h with hicon hpref hdel
  rw [mainLoop_cons, if_neg hedit, if_neg hicon, if_neg hpref, if_neg hdel, if_neg huser]
  split_ifs <;> rfl

theorem mainLoop_edit (account arg : Str) (rest : List Str) (r : Run) :
    mainLoop parse getpwnam p account (ascii "--edit" :: arg :: rest) r =
      if MAX_VALUE ≤ arg.length then none
      else orFail (perform parse getpwnam p (.set account (splitEdit arg).1 (splitEdit arg).2) r)
        (mainLoop parse getpwnam p account rest) := by
  rw [mainLoop_cons, if_pos rfl, List.head?_cons, fieldEdit, List.tail_cons]
  split_ifs <;> rfl

theorem mainLoop_user (account : Str) (hroot : p.uid = 0) (rest : List Str) (r : Run) :
    mainLoop parse getpwnam p account (ascii "--user" :: rest) r =
      mainLoop parse getpwnam p account rest r := by
  rw [mainLoop_cons, if_neg (by decide), if_neg (by decide), if_neg (by decide),
    if_neg (by decide), if_neg (by decide), if_pos rfl, if_pos hroot]

/-- The first word of an option. -/
def Opt.text : Opt → Str
  | .icon _ => ascii "--icon"
  | .preferedSession _ => ascii "--prefered-session"
  | .edit _ _ => ascii "--edit"
  | .del _ => ascii "--del"
  | .user _ => ascii "--user"

def Opt.operand : Opt → Str
  | .icon name => name
  | .preferedSession session => session
  | .edit key value => key.1 ++ 44 :: value
  | .del key => key
  | .user name => name

theorem Opt.words_eq (o : Opt) : o.words = [o.text, o.operand] := by
  rcases o <;> rfl

theorem Opt.text_noComma (o : Opt) : ∀ b ∈ o.text, isComma b = false := by
  have hall : o.text.all (fun b => !isComma b) = true := by
    rcases o with _ | _ | _ | _ | _
    · exact (by decide : (ascii "--icon").all (fun b => !isComma b) = true)
    · exact (by decide : (ascii "--prefered-session").all (fun b => !isComma b) = true)
    · exact (by decide : (ascii "--edit").all (fun b => !isComma b) = true)
    · exact (by decide : (ascii "--del").all (fun b => !isComma b) = true)
    · exact (by decide : (ascii "--user").all (fun b => !isComma b) = true)
  intro b hb
  have hnot := List.all_eq_true.mp hall b hb
  simpa using hnot

/-- **What follows a shifted option** that was the right edit: it is the same text twice, or its
operand is no option. -/
theorem shift_cases {account text : Str} {o : Opt} {c : Call} (hcall : o.call account = some c)
    (htext : callOf account text o.text = some c) :
    o.words = [text, text] ∨ ∀ rest r,
      mainLoop parse getpwnam p account (o.operand :: rest) r = some (EXIT_FAILURE, r) := by
  have hne : ascii "icon" ≠ ascii "prefered-session" := by decide
  unfold callOf at htext
  rcases o with name | session | ⟨key, value⟩ | key | name
  · obtain rfl := Option.some.inj hcall
    split_ifs at htext with hicon hpref hdel
    · simp only [Option.some.injEq, Call.set.injEq, true_and] at htext
      left
      rw [hicon, ← htext]
      rfl
    · simp only [Option.some.injEq, Call.set.injEq, true_and] at htext
      exact absurd htext.1.symm hne
    · simp at htext
  · obtain rfl := Option.some.inj hcall
    split_ifs at htext with hicon hpref hdel
    · simp only [Option.some.injEq, Call.set.injEq, true_and] at htext
      exact absurd htext.1 hne
    · simp only [Option.some.injEq, Call.set.injEq, true_and] at htext
      left
      rw [hpref, ← htext]
      rfl
    · simp at htext
  · obtain rfl := Option.some.inj hcall
    -- the operand is `icon,--edit` or `prefered-session,--edit`
    right
    intro rest r
    split_ifs at htext with hicon hpref hdel
    · simp only [Option.some.injEq, Call.set.injEq, true_and] at htext
      have hoperand : (Opt.edit key value).operand = ascii "icon,--edit" := by
        show key.1 ++ 44 :: value = _
        rw [← htext.1, ← htext.2]
        rfl
      rw [hoperand]
      exact mainLoop_other (callOf_eq_none (by decide) (by decide) (by decide)) (by decide)
        (by decide) rest r
    · simp only [Option.some.injEq, Call.set.injEq, true_and] at htext
      have hoperand : (Opt.edit key value).operand = ascii "prefered-session,--edit" := by
        show key.1 ++ 44 :: value = _
        rw [← htext.1, ← htext.2]
        rfl
      rw [hoperand]
      exact mainLoop_other (callOf_eq_none (by decide) (by decide) (by decide)) (by decide)
        (by decide) rest r
    · simp at htext
  · obtain rfl := Option.some.inj hcall
    split_ifs at htext with hicon hpref hdel
    · simp at htext
    · simp at htext
    · simp only [Option.some.injEq, Call.del.injEq, true_and] at htext
      left
      rw [hdel, ← htext]
      rfl
  · exact absurd hcall (by simp [Opt.call])

/-! ### The iff -/

theorem ends_mainLoop (account : Str) (args : List Str) (r : Run) :
    Ends r (mainLoop parse getpwnam p account args r) :=
  mainLoop_ends account _ args r (Nat.le_refl _)

/-- Only `--user` is no edit. -/
theorem exists_call (account : Str) {o : Opt} (h : o.account = none) :
    ∃ c, o.call account = some c := by
  rcases o with _ | _ | _ | _ | name
  · exact ⟨_, rfl⟩
  · exact ⟨_, rfl⟩
  · exact ⟨_, rfl⟩
  · exact ⟨_, rfl⟩
  · exact absurd h (by simp [Opt.account])

/-- **Behind the name of a `--user`**, if it is not `--user` itself. -/
theorem shifted_iff (account : Str) {text : Str} (huser : text ≠ ascii "--user") :
    ∀ (os : List Opt) (r : Run), (∀ o ∈ os, o.account = none) →
      (Agree (mainLoop parse getpwnam p account (text :: os.flatMap Opt.words) r)
          (applyEdits parse getpwnam p account os r) ↔
        FailsShifted parse getpwnam p account text os r)
  | [], r, _ => by
    refine iff_of_false ?_ (fun h => h)
    rintro ⟨exit, run, -, hedits⟩
    simp [applyEdits] at hedits
  | o :: os, r, hos => by
    obtain ⟨c, hc⟩ := exists_call account (hos o List.mem_cons_self)
    have ih := fun r => shifted_iff account huser os r fun o' ho' =>
      hos o' (List.mem_cons_of_mem o ho')
    have hargs : text :: (o :: os).flatMap Opt.words =
        text :: o.text :: o.operand :: os.flatMap Opt.words := by
      rw [List.flatMap_cons, o.words_eq]
      rfl
    have hhead : o.words.head? = some o.text := by rw [o.words_eq]; rfl
    rw [hargs]
    rcases hcode : callOf account text o.text with _ | c'
    · -- no edit is made, or one without a value
      refine iff_of_false ?_ ?_
      · by_cases hedit : text = ascii "--edit"
        · rw [hedit, mainLoop_edit]
          split_ifs
          · rintro ⟨exit, run, hnone, -⟩
            cases hnone
          · rw [agree_orFail (ends_mainLoop account _) hc, splitEdit_of_word o.text_noComma]
            rintro ⟨rfl, -⟩
            rcases o <;> simp [Opt.call] at hc
        · rw [mainLoop_other hcode hedit huser]
          exact not_agree_stop account _ _ r
      · rintro ⟨c'', operand, -, hoperand, hcall, -⟩
        rw [hhead] at hoperand
        obtain rfl := Option.some.inj hoperand
        rw [hcode] at hcall
        cases hcall
    · rw [mainLoop_callOf hcode, agree_orFail (ends_mainLoop account _) hc]
      have hsame : o.words = [text, text] → o.operand = text := by
        intro hwords
        rw [o.words_eq] at hwords
        simp only [List.cons.injEq, and_true] at hwords
        exact hwords.2
      constructor
      · rintro ⟨rfl, ok, r', hcall, hrest⟩
        refine ⟨c', o.text, hc, hhead, hcode, ok, r', hcall, hrest.imp_right fun hrest => ?_⟩
        rcases shift_cases hc hcode with hwords | hstop
        · rw [hsame hwords] at hrest
          exact ⟨hwords, (ih r').mp hrest⟩
        · rw [hstop] at hrest
          exact absurd hrest (not_agree_stop account _ _ _)
      · rintro ⟨c'', operand, hc'', hoperand, hcall', ok, r', hcall, hrest⟩
        obtain rfl := Option.some.inj (hc.symm.trans hc'')
        rw [hhead] at hoperand
        obtain rfl := Option.some.inj hoperand
        refine ⟨Option.some.inj (hcode.symm.trans hcall'), ok, r', hcall,
          hrest.imp_right fun hrest => ?_⟩
        rw [hsame hrest.1]
        exact (ih r').mpr hrest.2

theorem callOf_text (account : Str) {o : Opt} {c : Call} (hc : o.call account = some c)
    (hedit : o.text ≠ ascii "--edit") : callOf account o.text o.operand = some c := by
  rcases o with name | session | ⟨key, value⟩ | key | name
  · obtain rfl := Option.some.inj hc
    exact if_pos rfl
  · obtain rfl := Option.some.inj hc
    exact (if_neg (by decide : ascii "--prefered-session" ≠ ascii "--icon")).trans (if_pos rfl)
  · exact absurd rfl hedit
  · obtain rfl := Option.some.inj hc
    exact (if_neg (by decide : ascii "--del" ≠ ascii "--icon")).trans
      ((if_neg (by decide : ascii "--del" ≠ ascii "--prefered-session")).trans (if_pos rfl))
  · exact absurd hc (by simp [Opt.call])

/-- **One option** that is an edit. -/
theorem agree_option (account : Str) {o : Opt} {c : Call} (hc : o.call account = some c)
    (os : List Opt) (rest : List Str) (r : Run) :
    Agree (mainLoop parse getpwnam p account (o.words ++ rest) r)
        (applyEdits parse getpwnam p account (o :: os) r) ↔
      o.Plain ∧ ∃ ok r', perform parse getpwnam p c r = some (ok, r') ∧ (ok = false ∨
        Agree (mainLoop parse getpwnam p account rest r')
          (applyEdits parse getpwnam p account os r')) := by
  have hargs : o.words ++ rest = o.text :: o.operand :: rest := by
    rw [o.words_eq]
    rfl
  rw [hargs]
  by_cases hedit : o.text = ascii "--edit"
  · rcases o with _ | _ | ⟨key, value⟩ | _ | _
    · exact absurd hedit (by decide : ascii "--icon" ≠ ascii "--edit")
    · exact absurd hedit (by decide : ascii "--prefered-session" ≠ ascii "--edit")
    · obtain rfl := Option.some.inj hc
      have hsplit := strtok_iff key value
      rw [Prod.ext_iff] at hsplit
      rw [hedit, mainLoop_edit]
      by_cases hlen : MAX_VALUE ≤ (key.1 ++ 44 :: value).length
      · rw [Opt.operand, if_pos hlen]
        refine iff_of_false ?_ fun h => ?_
        · rintro ⟨exit, run, hnone, -⟩
          cases hnone
        · have hshort := h.1.2.2.2
          omega
      · rw [Opt.operand, if_neg hlen, agree_orFail (ends_mainLoop account _) rfl, Call.set.injEq,
          and_iff_right rfl, hsplit, Opt.Plain]
        refine and_congr_left fun _ => ?_
        constructor
        · rintro ⟨hkey, hvalue, hcomma⟩
          exact ⟨hkey, hvalue, hcomma, by omega⟩
        · rintro ⟨hkey, hvalue, hcomma, -⟩
          exact ⟨hkey, hvalue, hcomma⟩
    · exact absurd hedit (by decide : ascii "--del" ≠ ascii "--edit")
    · exact absurd hedit (by decide : ascii "--user" ≠ ascii "--edit")
  · have hplain : o.Plain := by
      rcases o with _ | _ | ⟨key, value⟩ | _ | _
      · trivial
      · trivial
      · exact absurd rfl hedit
      · trivial
      · trivial
    rw [mainLoop_callOf (callOf_text account hc hedit), agree_orFail (ends_mainLoop account _) hc]
    exact and_congr_left fun _ => iff_of_true rfl hplain

theorem failsPlain_of_call {account : Str} {o : Opt} {c : Call} (hc : o.call account = some c)
    (os : List Opt) (r : Run) : FailsPlain parse getpwnam p account (o :: os) r ↔
      o.Plain ∧ ∃ ok r', perform parse getpwnam p c r = some (ok, r') ∧
        (ok = false ∨ FailsPlain parse getpwnam p account os r') := by
  have hsome : ∀ {P : Call → Prop}, (∃ c', o.call account = some c' ∧ P c') ↔ P c := by
    intro P
    constructor
    · rintro ⟨c', hc', hP⟩
      obtain rfl := Option.some.inj (hc.symm.trans hc')
      exact hP
    · exact fun hP => ⟨c, hc, hP⟩
  have hmerge : FailsPlain parse getpwnam p account (o :: os) r ↔
      o.Plain ∧ ∃ c', o.call account = some c' ∧ ∃ ok r',
        perform parse getpwnam p c' r = some (ok, r') ∧
          (ok = false ∨ FailsPlain parse getpwnam p account os r') := by
    rcases o with _ | _ | _ | _ | name
    · simp [FailsPlain]
    · simp [FailsPlain]
    · simp [FailsPlain]
    · simp [FailsPlain]
    · exact absurd hc (by simp [Opt.call])
  rw [hmerge, hsome]

/-- **From the first argument on**, with at most one `--user`. -/
theorem plain_iff (account : Str) : ∀ (os : List Opt) (r : Run),
    (os.filterMap Opt.account).length ≤ (if p.uid = 0 then 1 else 0) →
      (Agree (mainLoop parse getpwnam p account (os.flatMap Opt.words) r)
          (applyEdits parse getpwnam p account os r) ↔
        FailsPlain parse getpwnam p account os r)
  | [], r, _ => by
    refine iff_of_false ?_ (fun h => h)
    rintro ⟨exit, run, -, hedits⟩
    simp [applyEdits] at hedits
  | o :: os, r, hone => by
    rcases haccount : o.account with _ | name
    · obtain ⟨c, hc⟩ := exists_call account haccount
      rw [List.filterMap_cons_none haccount] at hone
      rw [List.flatMap_cons, agree_option account hc, failsPlain_of_call hc]
      have ih := fun r => plain_iff account os r hone
      simp only [ih]
    · -- the `--user` of root; there is no other one behind it
      obtain rfl : o = .user name := by
        rcases o with _ | _ | _ | _ | name'
        · cases haccount
        · cases haccount
        · cases haccount
        · cases haccount
        · exact congrArg Opt.user (Option.some.inj haccount)
      rw [List.filterMap_cons_some haccount, List.length_cons] at hone
      have hroot : p.uid = 0 := by
        by_contra hne
        rw [if_neg hne] at hone
        omega
      rw [if_pos hroot] at hone
      have hnone : os.filterMap Opt.account = [] := List.length_eq_zero_iff.mp (by omega)
      have hedits : applyEdits parse getpwnam p account (.user name :: os) r =
          applyEdits parse getpwnam p account os r := rfl
      have hargs : (Opt.user name :: os).flatMap Opt.words =
          ascii "--user" :: name :: os.flatMap Opt.words := rfl
      rw [hargs, hedits, mainLoop_user account hroot, FailsPlain]
      split_ifs with hname
      · rw [hname, mainLoop_user account hroot]
        exact plain_iff account os r (by rw [hnone]; exact Nat.zero_le _)
      · exact shifted_iff account hname os r (List.filterMap_eq_nil_iff.mp hnone)

/-- The loop ends in a failure, so it is right only if an edit fails. -/
theorem agree_iff {res : Option (ℕ × Run)} {edits : Option (Bool × Run)} {r : Run}
    (hres : Ends r res) : (∃ exit ok run, res.map (fun x => (x.1, some x.2)) = some (exit, run) ∧
      edits.map (fun x => (x.1, some x.2)) = some (ok, run) ∧
      (exit = EXIT_SUCCESS ↔ ok = true)) ↔ Agree res edits := by
  constructor
  · rintro ⟨exit, ok, run, hmain, hmeant, hexit⟩
    obtain ⟨⟨exit, r₁⟩, hcode, heq⟩ := Option.map_eq_some_iff.mp hmain
    obtain ⟨rfl, rfl⟩ := Prod.mk.inj heq
    obtain ⟨⟨ok, r₂⟩, hedits, heq⟩ := Option.map_eq_some_iff.mp hmeant
    obtain ⟨rfl, hrun⟩ := Prod.mk.inj heq
    obtain rfl : r₂ = r₁ := Option.some.inj hrun
    obtain ⟨rfl, -⟩ := hres exit r₂ hcode
    rcases ok with _ | _
    · exact ⟨_, r₂, hcode, hedits⟩
    · have hsuccess : EXIT_FAILURE = EXIT_SUCCESS := hexit.mpr rfl
      exact absurd hsuccess (by decide)
  · rintro ⟨exit, run, hcode, hedits⟩
    obtain ⟨rfl, -⟩ := hres exit run hcode
    exact ⟨EXIT_FAILURE, false, some run, by rw [hcode]; rfl, by rw [hedits]; rfl, by decide⟩

/-- **If another account is taken than the one that is meant**, an edit stands in front: its operand
is taken for `--user`. -/
theorem exists_edit_of_ne {v : Vector p.uid} {account : Str}
    (htaken : takenUser p v.args = some account) (hne : chosenUser p v.opts ≠ some account) :
    ∃ o os, v.opts = o :: os ∧ o.account = none := by
  obtain ⟨opts, hone⟩ := v
  rcases opts with _ | ⟨o, os⟩
  · refine absurd ?_ hne
    rw [← htaken, takenUser]
    split_ifs <;> rfl
  refine ⟨o, os, rfl, ?_⟩
  rcases haccount : o.account with _ | name
  · rfl
  refine absurd ?_ hne
  rw [List.filterMap_cons_some haccount, List.length_cons] at hone
  have hroot : p.uid = 0 := by
    by_contra hno
    rw [if_neg hno] at hone
    omega
  have hwords : o.words = [ascii "--user", name] := by
    rcases o with _ | _ | _ | _ | name'
    · cases haccount
    · cases haccount
    · cases haccount
    · cases haccount
    · rw [← Option.some.inj haccount]
      rfl
  have hargs : Vector.args ⟨o :: os, by rwa [List.filterMap_cons_some haccount]⟩ =
      ascii "--user" :: name :: os.flatMap Opt.words := by
    rw [Vector.args, List.flatMap_cons, hwords]
    rfl
  rw [hargs, takenUser, if_pos hroot, findUser, if_pos rfl, Option.bind_some] at htaken
  rw [chosenUser, List.filterMap_cons_some haccount]
  exact htaken

theorem name_of_call {account : Str} {o : Opt} {c : Call} (hc : o.call account = some c) :
    c.name = some account := by
  rcases o with _ | _ | _ | _ | _
  · obtain rfl := Option.some.inj hc
    rfl
  · obtain rfl := Option.some.inj hc
    rfl
  · obtain rfl := Option.some.inj hc
    rfl
  · obtain rfl := Option.some.inj hc
    rfl
  · exact absurd hc (by simp [Opt.call])

/-- The calls of the loop are for the account that was taken. -/
theorem exists_call_mainLoop {account : Str} {o : Opt} (ho : o.account = none) {rest : List Str}
    {r run : Run} {exit : ℕ}
    (h : mainLoop parse getpwnam p account (o.words ++ rest) r = some (exit, run)) :
    ∃ c ok, c.name = some account ∧ r.calls ++ [(c, ok)] <+: run.calls := by
  obtain ⟨c, hc⟩ := exists_call account ho
  have hargs : o.words ++ rest = o.text :: o.operand :: rest := by
    rw [o.words_eq]
    rfl
  rw [hargs] at h
  by_cases hedit : o.text = ascii "--edit"
  · rw [hedit, mainLoop_edit] at h
    split_ifs at h
    obtain ⟨ok, -, -, hpre, -⟩ := first_orFail (ends_mainLoop account rest) h
    exact ⟨_, ok, rfl, hpre⟩
  · rw [mainLoop_callOf (callOf_text account hc hedit)] at h
    obtain ⟨ok, -, -, hpre, -⟩ := first_orFail (ends_mainLoop account rest) h
    exact ⟨c, ok, name_of_call hc, hpre⟩

theorem meant_known {db : Db} {opts : List Opt} {account : Str} (hopened : p.opened = some db)
    (hchosen : chosenUser p opts = some account)
    (hknown : userDbUserExists db.ctx account = true) : meant parse getpwnam p opts =
      (applyEdits parse getpwnam p account opts ⟨db, []⟩).map fun r => (r.1, some r.2) := by
  unfold meant
  rw [hopened, hchosen]
  exact if_pos hknown

theorem meant_unknown {db : Db} {opts : List Opt} (hopened : p.opened = some db)
    (h : ∀ chosen ∈ chosenUser p opts, userDbUserExists db.ctx chosen = false) :
    meant parse getpwnam p opts = some (false, some ⟨db, []⟩) := by
  unfold meant
  rw [hopened]
  rcases hchosen : chosenUser p opts with _ | chosen
  · rfl
  · have hno : ¬userDbUserExists db.ctx chosen = true := by
      rw [h chosen hchosen]
      exact Bool.false_ne_true
    exact if_neg hno

/-- The account that is meant is known, or nothing can be done. -/
theorem known_or_unknown (db : Db) (opts : List Opt) :
    (∃ chosen, chosenUser p opts = some chosen ∧ userDbUserExists db.ctx chosen = true) ∨
      ∀ chosen ∈ chosenUser p opts, userDbUserExists db.ctx chosen = false := by
  rcases hchosen : chosenUser p opts with _ | chosen
  · right
    rintro _ ⟨⟩
  · rcases hknown : userDbUserExists db.ctx chosen with _ | _
    · right
      intro chosen' h
      obtain rfl := Option.some.inj h
      exact hknown
    · exact Or.inl ⟨chosen, rfl, hknown⟩

/-- **For another account** something else is done. -/
theorem not_applies_of_ne {db : Db} {v : Vector p.uid} {account : Str}
    (hopened : p.opened = some db) (htaken : takenUser p v.args = some account)
    (hne : chosenUser p v.opts ≠ some account) {exit : ℕ} {ok : Bool} {run : Run}
    (hcode : mainLoop parse getpwnam p account v.args ⟨db, []⟩ = some (exit, run)) :
    meant parse getpwnam p v.opts ≠ some (ok, some run) := by
  intro hmeant
  obtain ⟨o, os, hopts, ho⟩ := exists_edit_of_ne htaken hne
  rw [Vector.args, hopts, List.flatMap_cons] at hcode
  obtain ⟨c, b, hname, hpre⟩ := exists_call_mainLoop ho hcode
  rcases known_or_unknown (p := p) db v.opts with ⟨chosen, hchosen, hknown⟩ | hunknown
  · rw [meant_known hopened hchosen hknown, hopts] at hmeant
    obtain ⟨⟨ok', run'⟩, hedits, heq⟩ := Option.map_eq_some_iff.mp hmeant
    obtain ⟨-, hrun⟩ := Prod.mk.inj heq
    obtain rfl : run' = run := Option.some.inj hrun
    obtain ⟨c', hc'⟩ := exists_call chosen ho
    obtain ⟨b', -, -, hpre', -⟩ := first_applyEdits hc' hedits
    obtain ⟨rfl, -⟩ := first_eq hpre hpre'
    refine hne (hchosen.trans ?_)
    rw [← name_of_call hc', hname]
  · rw [meant_unknown hopened hunknown] at hmeant
    obtain ⟨-, hrun⟩ := Prod.mk.inj (Option.some.inj hmeant)
    rw [← Option.some.inj hrun] at hpre
    have hlen := hpre.length_le
    simp at hlen

/-- **When the tool does what its arguments say.** It never returns success, so an edit must fail,
and the options up to it must be read as they are meant, for the same account. -/
theorem applies_iff (parse : Str → List Entry) (getpwnam : Str → Option Passwd) (p : Caller)
    (v : Vector p.uid) : Applies parse getpwnam p v ↔
      p.opened = none ∨ ∃ db, p.opened = some db ∧ Fails parse getpwnam p v db := by
  unfold Applies main
  rcases hopened : p.opened with _ | db
  · have hmeant : meant parse getpwnam p v.opts = some (false, none) := by
      unfold meant
      rw [hopened]
    exact iff_of_true ⟨EXIT_FAILURE, false, none, rfl, hmeant, by decide⟩ (Or.inl rfl)
  have hdb : (some db = none ∨ ∃ db', some db = some db' ∧ Fails parse getpwnam p v db') ↔
      Fails parse getpwnam p v db := by simp
  rw [hdb, Fails]
  dsimp only
  rcases htaken : takenUser p v.args with _ | account
  · refine iff_of_false ?_ ?_
    · rintro ⟨exit, ok, run, hmain, -⟩
      cases hmain
    · rintro ⟨account, haccount, -⟩
      cases haccount
  have htakes : ∀ {P : Str → Prop}, (∃ taken, some account = some taken ∧ P taken) ↔ P account := by
    intro P
    simp
  rw [htakes, Option.bind_some]
  by_cases hknown : userDbUserExists db.ctx account = true
  · rw [if_pos hknown]
    have hleft : ¬userDbUserExists db.ctx account = false := by rw [hknown]; simp
    rw [or_iff_right fun h => hleft h.1, and_iff_right hknown]
    by_cases hsame : chosenUser p v.opts = some account
    · rw [meant_known hopened hsame hknown, and_iff_right hsame]
      exact (agree_iff (ends_mainLoop account _ _)).trans (plain_iff account v.opts _ v.one)
    · refine iff_of_false ?_ fun h => hsame h.1
      rintro ⟨exit, ok, run, hmain, hmeant, -⟩
      obtain ⟨⟨exit, run'⟩, hcode, heq⟩ := Option.map_eq_some_iff.mp hmain
      obtain ⟨rfl, rfl⟩ := Prod.mk.inj heq
      exact not_applies_of_ne hopened htaken hsame hcode hmeant
  · -- nothing is done, so nothing may be left to do
    have hno : userDbUserExists db.ctx account = false := Bool.not_eq_true _ |>.mp hknown
    rw [if_neg hknown, and_iff_right hno, or_iff_left fun h => hknown h.1]
    rcases known_or_unknown (p := p) db v.opts with ⟨chosen, hchosen, hchosen'⟩ | hunknown
    · refine iff_of_false ?_ fun h => ?_
      · rintro ⟨exit, ok, run, hmain, hmeant, hexit⟩
        obtain ⟨rfl, rfl⟩ := Prod.mk.inj (Option.some.inj hmain)
        rw [meant_known hopened hchosen hchosen'] at hmeant
        obtain ⟨⟨ok, run⟩, hedits, heq⟩ := Option.map_eq_some_iff.mp hmeant
        obtain ⟨rfl, hrun⟩ := Prod.mk.inj heq
        obtain rfl := Option.some.inj hrun
        rcases ok with _ | _
        · exact (calls_applyEdits hedits).2 rfl rfl
        · exact absurd (hexit.mpr rfl) (by decide)
      · rw [h chosen hchosen] at hchosen'
        cases hchosen'
    · refine iff_of_true ?_ hunknown
      exact ⟨EXIT_FAILURE, false, _, rfl, meant_unknown hopened hunknown, by decide⟩

/-- Eve, with a database that she may edit. -/
def eveCaller : Caller := ⟨1000, some (ascii "eve"), some eveDb, fun _ => eveEnv⟩

def setIcon : Vector eveCaller.uid := ⟨[.icon (ascii "b")], by decide⟩

/-- **Every edit succeeds, and the tool returns a failure.** -/
theorem icon_failure :
    ((main entries (passwd [ascii "eve"]) eveCaller setIcon.args).map Prod.fst) =
        some EXIT_FAILURE ∧
      ((meant entries (passwd [ascii "eve"]) eveCaller setIcon.opts).map Prod.fst) = some true ∧
      ¬Applies entries (passwd [ascii "eve"]) eveCaller setIcon := by
  have hmain : ((main entries (passwd [ascii "eve"]) eveCaller setIcon.args).map Prod.fst) =
      some EXIT_FAILURE := by decide +kernel
  have hmeant : ((meant entries (passwd [ascii "eve"]) eveCaller setIcon.opts).map Prod.fst) =
      some true := by decide +kernel
  refine ⟨hmain, hmeant, ?_⟩
  rintro ⟨exit, ok, run, hcode, hedits, hexit⟩
  rw [hcode] at hmain
  rw [hedits] at hmeant
  obtain rfl : exit = EXIT_FAILURE := Option.some.inj hmain
  obtain rfl : ok = true := Option.some.inj hmeant
  exact absurd (hexit.mpr rfl) (by decide)

end Spawny.UserDb.Util
