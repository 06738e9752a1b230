import Spawny.Lib.FlatArray
import Spawny.UserDb.Files
import Spawny.Daemon.SessionMgt

/-! # _load_sessions: the sessions that a greeter is told of

`_load_sessions` fills an array with the sessions of a seat and leaves out those that fail and those
of the account of the greeter. The place for the next session is `i - offset`: it is given back when a
session fails, and the array is made smaller; for a session of the greeter's account it is written
again in the next round. A write behind the end of the array, an unsigned difference below zero and
the use of a `NULL` pointer are `none`.

The record that `getpwnam` returned is read after calls of `getpwuid`; in glibc each of the two has
its own.

* `loadSession_inv`: one round puts the session behind those kept before, or leaves it out;
* `loadSessions_good`: if the loop comes to its end, it has found all accounts it has looked up;
* `loadSessions_eq`: **the sessions that are kept, in their order**. -/

namespace Spawny.Daemon.LoadSessions

open Spawny.Lib.FlatArray Spawny.UserDb.Records Spawny.UserDb.Files
open Spawny.Daemon.SessionMgt

/-! ### The function -/

/-- `Spawny__Server__Session`; a field is `none` while it is `NULL`. -/
structure ServerSession where
  id : Option String
  user : Option Str
  name : Option String
  icon : Option String
  deriving DecidableEq, Repr

/-- `spawny__server__session__init`. -/
def ServerSession.init : ServerSession := ⟨none, none, none, none⟩

/-- What the system answers in `_load_sessions`: the sessions of the seat, `none` for a negative
return value; in round `i` the answers of logind, and what the locals of `session_details` and the
variable `uid` hold before; and the accounts. -/
structure SessionsEnv where
  seatSessions : Option (List String)
  sd : ℕ → SdLogin
  locals : ℕ → Locals
  uid : ℕ → ℕ
  getpwnam : Str → Option Passwd
  getpwuid : ℕ → Option Passwd

def SP_USER : Str := ascii "spawny"

/-- `session_enumerate`. -/
def sessionEnumerate (env : SessionsEnv) : List String := env.seatSessions.getD []

/-- `sizeof(Spawny__Server__Session)` in pointers: three for the base, and the fields. -/
def SESSION_SIZE : ℕ := 7

/-- The array as it was last resized, and `offset`. -/
structure Loading where
  sessions : List (Option ServerSession)
  offset : ℕ
  deriving DecidableEq, Repr

/-- The difference of two `unsigned int`, if it is not below zero. -/
def diff (a b : ℕ) : Option ℕ := if b ≤ a then some (a - b) else none

/-- `sessions[k] = x`. -/
def store {α : Type*} (k : ℕ) (x : α) (sessions : List α) : Option (List α) :=
  if k < sessions.length then some (sessions.set k x) else none

/-- The call of `session_details` in round `i`: the user id and the name. -/
def details (env : SessionsEnv) (i : ℕ) (handle : String) : Option (ℕ × String) :=
  (sessionDetails (env.sd i) (env.locals i) (some handle) (some (env.uid i))).map fun d =>
    (d.uid.getD (env.uid i), d.name)

/-- One round of the loop. -/
def loadSession (env : SessionsEnv) (number i : ℕ) (handle : String) (s : Loading) :
    Option Loading := do
  let k ← diff i s.offset
  let sessions ← store k (some ServerSession.init) s.sessions
  match details env i handle with
  | none =>
    let sessions ← store k none sessions
    let room ← diff number (s.offset + 1)
    some ⟨resize none (room * SESSION_SIZE) sessions, s.offset + 1⟩
  | some (uid, name) =>
    let sessions ← store k (some { ServerSession.init with name := some name }) sessions
    let startUser ← env.getpwnam SP_USER
    if uid = startUser.uid then some ⟨sessions, s.offset + 1⟩
    else
      let user ← env.getpwuid uid
      let sessions ← store k (some ⟨some handle, some user.name, some name, none⟩) sessions
      some ⟨sessions, s.offset⟩

/-- The loop, from round `i` on. -/
def loadLoop (env : SessionsEnv) (number : ℕ) : ℕ → List String → Loading → Option Loading
  | _, [], s => some s
  | i, handle :: handles, s =>
    (loadSession env number i handle s).bind (loadLoop env number (i + 1) handles)

/-- `_load_sessions`: `n_sessions` and `sessions`. -/
def loadSessions (env : SessionsEnv) : Option (ℕ × List (Option ServerSession)) := do
  let handles := sessionEnumerate env
  let s ← loadLoop env handles.length 0 handles ⟨List.replicate handles.length none, 0⟩
  let n ← diff handles.length s.offset
  some (n, s.sessions)

/-! ### What is kept -/

/-- The entry for a session, if it is kept: `session_details` succeeds, its user is not the account of
the greeter, and has an account. -/
def keep (env : SessionsEnv) (i : ℕ) (handle : String) : Option ServerSession :=
  match details env i handle with
  | none => none
  | some (uid, name) =>
    if (env.getpwnam SP_USER).map Passwd.uid = some uid then none
    else (env.getpwuid uid).map fun user => ⟨some handle, some user.name, some name, none⟩

/-- The entries for the sessions from round `i` on. -/
def kept (env : SessionsEnv) (i : ℕ) (handles : List String) : List ServerSession :=
  (handles.zipIdx i).filterMap fun p => keep env p.2 p.1

/-- The accounts that the round looks up are there. -/
def HasAccounts (env : SessionsEnv) (i : ℕ) (handle : String) : Prop :=
  ∀ uid name, details env i handle = some (uid, name) →
    ∃ startUser, env.getpwnam SP_USER = some startUser ∧
      (uid = startUser.uid ∨ (env.getpwuid uid).isSome = true)

theorem kept_cons (env : SessionsEnv) (i : ℕ) (handle : String) (handles : List String) :
    kept env i (handle :: handles) = (keep env i handle).toList ++ kept env (i + 1) handles := by
  unfold kept
  rw [List.zipIdx_cons, List.filterMap_cons]
  cases keep env i handle <;> rfl

/-! ### The loop -/

/-- In front of round `i`: the kept entries lie at the start of the array, `offset` counts the others,
and there is room for the rest. -/
structure Inv (number i : ℕ) (done : List ServerSession) (s : Loading) : Prop where
  count : done.length + s.offset = i
  slots : s.sessions.take done.length = done.map some
  room : number ≤ s.sessions.length + s.offset

theorem store_of_lt {α : Type*} {k : ℕ} {sessions : List α} (h : k < sessions.length) (x : α) :
    store k x sessions = some (sessions.set k x) := if_pos h

theorem diff_of_add {a b c : ℕ} (h : c + b = a) : diff a b = some c := by
  rw [diff, if_pos (by omega)]
  exact congrArg some (by omega)

section round

variable {env : SessionsEnv} {number i : ℕ} {done : List ServerSession} {s : Loading}

theorem Inv.lt (h : Inv number i done s) (hi : i < number) : done.length < s.sessions.length := by
  have hcount := h.count
  have hroom := h.room
  omega

/-- The slot that is written lies behind those of the kept entries. -/
theorem Inv.take_set (h : Inv number i done s) (x : Option ServerSession) :
    (s.sessions.set done.length x).take done.length = done.map some := by
  rw [List.take_set_of_le (le_refl _), h.slots]

/-- A round that leaves the session out. -/
theorem Inv.skip (h : Inv number i done s) (x : Option ServerSession) :
    Inv number (i + 1) done ⟨s.sessions.set done.length x, s.offset + 1⟩ := by
  have hcount := h.count
  have hroom := h.room
  refine ⟨by dsimp only; omega, h.take_set x, ?_⟩
  rw [List.length_set]
  dsimp only
  omega

/-- The array is made smaller. -/
theorem Inv.shrink (h : Inv number i done s) (hi : i < number) :
    Inv number (i + 1) done
      ⟨resize none ((number - (s.offset + 1)) * SESSION_SIZE) (s.sessions.set done.length none),
        s.offset + 1⟩ := by
  have hcount := h.count
  have hlt := h.lt hi
  have hfits : done.length ≤ (number - (s.offset + 1)) * SESSION_SIZE := by
    unfold SESSION_SIZE
    omega
  refine ⟨by dsimp only; omega, ?_, ?_⟩
  · dsimp only
    have hlen : done.length ≤ ((s.sessions.set done.length none).take
        ((number - (s.offset + 1)) * SESSION_SIZE)).length := by
      rw [List.length_take, List.length_set]
      omega
    rw [resize, List.take_append_of_le_length hlen, List.take_take, Nat.min_eq_left hfits,
      h.take_set]
  · rw [length_resize]
    unfold SESSION_SIZE
    dsimp only
    omega

/-- A round that keeps the session. -/
theorem Inv.push (h : Inv number i done s) (hi : i < number) (e : ServerSession) :
    Inv number (i + 1) (done ++ [e]) ⟨s.sessions.set done.length (some e), s.offset⟩ := by
  have hcount := h.count
  have hroom := h.room
  have hlt := h.lt hi
  have hlen : (done ++ [e]).length = done.length + 1 := by simp
  refine ⟨by rw [hlen]; dsimp only; omega, ?_, ?_⟩
  · rw [hlen, List.take_add_one, h.take_set, List.getElem?_set_self hlt, List.map_append]
    rfl
  · rw [List.length_set]
    exact hroom

/-- **One round** with the accounts it looks up. -/
theorem loadSession_inv (h : Inv number i done s) (hi : i < number) {handle : String}
    (hacc : HasAccounts env i handle) : ∃ s', loadSession env number i handle s = some s' ∧
      Inv number (i + 1) (done ++ (keep env i handle).toList) s' := by
  have hlt := h.lt hi
  have hlt' : ∀ x : Option ServerSession, done.length < (s.sessions.set done.length x).length := by
    intro x
    rw [List.length_set]
    exact hlt
  have hroom : diff number (s.offset + 1) = some (number - (s.offset + 1)) := by
    have hcount := h.count
    exact diff_of_add (by omega)
  unfold loadSession keep
  rw [diff_of_add h.count]
  simp only [Option.bind_eq_bind, Option.bind_some, store_of_lt hlt, store_of_lt (hlt' _)]
  rcases hd : details env i handle with _ | ⟨uid, name⟩
  · simp only [hroom, Option.bind_some, List.set_set, Option.toList_none, List.append_nil]
    exact ⟨_, rfl, h.shrink hi⟩
  · obtain ⟨startUser, hstart, haccount⟩ := hacc uid name hd
    simp only [hstart, Option.bind_some, List.set_set, Option.map_some, Option.some.injEq]
    by_cases huid : uid = startUser.uid
    · rw [if_pos huid, if_pos huid.symm, Option.toList_none, List.append_nil]
      exact ⟨_, rfl, h.skip _⟩
    · obtain ⟨user, huser⟩ := Option.isSome_iff_exists.mp (haccount.resolve_left huid)
      rw [if_neg huid, if_neg (Ne.symm huid), huser]
      simp only [Option.bind_some, store_of_lt (hlt' _), List.set_set, Option.map_some,
        Option.toList_some]
      exact ⟨_, rfl, h.push hi _⟩

/-- **A round that comes to an end** has found the accounts it has looked up. -/
theorem loadSession_good {handle : String} {s' : Loading}
    (h : loadSession env number i handle s = some s') : HasAccounts env i handle := by
  intro uid name hd
  unfold loadSession at h
  simp only [hd, Option.bind_eq_bind, Option.bind_eq_some_iff] at h
  obtain ⟨k, -, sessions, -, sessions', -, startUser, hstart, h⟩ := h
  refine ⟨startUser, hstart, ?_⟩
  split_ifs at h with huid
  · exact Or.inl huid
  · obtain ⟨user, huser, -⟩ := Option.bind_eq_some_iff.mp h
    exact Or.inr (by rw [huser]; rfl)

end round

/-- **The loop** with all accounts. -/
theorem loadLoop_inv {env : SessionsEnv} {number : ℕ} : ∀ (handles : List String) (i : ℕ)
    (done : List ServerSession) (s : Loading), Inv number i done s → i + handles.length = number →
      (∀ j handle, handles[j]? = some handle → HasAccounts env (i + j) handle) →
        ∃ s', loadLoop env number i handles s = some s' ∧
          Inv number number (done ++ kept env i handles) s'
  | [], i, done, s, h, hlen, _ => by
    obtain rfl : i = number := hlen
    exact ⟨s, rfl, by simpa [kept] using h⟩
  | handle :: handles, i, done, s, h, hlen, hacc => by
    rw [List.length_cons] at hlen
    obtain ⟨s₁, hround, h₁⟩ := loadSession_inv h (by omega) (hacc 0 handle rfl)
    obtain ⟨s₂, hloop, h₂⟩ := loadLoop_inv handles (i + 1) _ s₁ h₁ (by omega)
      fun j handle' hj => by
        rw [Nat.add_assoc, Nat.add_comm 1 j]
        exact hacc (j + 1) handle' hj
    refine ⟨s₂, ?_, ?_⟩
    · rw [loadLoop, hround, Option.bind_some, hloop]
    · rw [kept_cons, ← List.append_assoc]
      exact h₂

/-- A loop that comes to its end has found all accounts. -/
theorem loadLoop_good {env : SessionsEnv} {number : ℕ} : ∀ (handles : List String) (i : ℕ)
    (done : List ServerSession) (s s' : Loading), Inv number i done s →
      i + handles.length = number → loadLoop env number i handles s = some s' →
        ∀ j handle, handles[j]? = some handle → HasAccounts env (i + j) handle
  | [], _, _, _, _, _, _, _ => fun j handle hj => by simp at hj
  | handle :: handles, i, done, s, s', h, hlen, hloop => by
    rw [List.length_cons] at hlen
    obtain ⟨s₁, hround, hrest⟩ := Option.bind_eq_some_iff.mp hloop
    have hgood := loadSession_good hround
    obtain ⟨s₂, hround', h₁⟩ := loadSession_inv h (by omega) hgood
    obtain rfl := Option.some.inj (hround.symm.trans hround')
    have ih := loadLoop_good handles (i + 1) _ s₁ s' h₁ (by omega) hrest
    intro j handle' hj
    cases j with
    | zero =>
      obtain rfl := Option.some.inj hj
      exact hgood
    | succ j =>
      rw [← Nat.add_assoc, Nat.add_right_comm]
      exact ih j handle' hj

theorem inv_start (number : ℕ) : Inv number 0 [] ⟨List.replicate number none, 0⟩ where
  count := rfl
  slots := rfl
  room := by simp

/-- **When `_load_sessions` comes to its end**, it has found all accounts. -/
theorem loadSessions_good {env : SessionsEnv} {r : ℕ × List (Option ServerSession)}
    (h : loadSessions env = some r) (i : ℕ) (handle : String)
    (hi : (sessionEnumerate env)[i]? = some handle) : HasAccounts env i handle := by
  obtain ⟨s', hloop, -⟩ := Option.bind_eq_some_iff.mp h
  have hgood := loadLoop_good _ 0 [] _ s' (inv_start _) (by omega) hloop i handle hi
  rwa [Nat.zero_add] at hgood

/-- The result: so many sessions, which lie at the start of the array. -/
def Loads (env : SessionsEnv) (sessions : List ServerSession) : Prop :=
  ∃ array, loadSessions env = some (sessions.length, array) ∧
    array.take sessions.length = sessions.map some

/-- With all accounts there is a result. -/
theorem loads_of_accounts {env : SessionsEnv}
    (hacc : ∀ i handle, (sessionEnumerate env)[i]? = some handle → HasAccounts env i handle) :
    Loads env (kept env 0 (sessionEnumerate env)) := by
  have hstart := inv_start (sessionEnumerate env).length
  obtain ⟨s', hloop, h⟩ := loadLoop_inv (sessionEnumerate env) 0 [] _ hstart (by omega)
    fun j handle hj => by
      rw [Nat.zero_add]
      exact hacc j handle hj
  rw [List.nil_append] at h
  have hcount := diff_of_add h.count
  refine ⟨s'.sessions, ?_, h.slots⟩
  unfold loadSessions
  simp only [Option.bind_eq_bind, hloop, Option.bind_some, hcount]

/-- **The sessions that `_load_sessions` keeps**: those that do not fail and are not of the greeter's
account, in their order. -/
theorem loadSessions_eq {env : SessionsEnv} {startUser : Passwd}
    (hstart : env.getpwnam SP_USER = some startUser)
    (hacc : ∀ i handle uid name, (sessionEnumerate env)[i]? = some handle →
      details env i handle = some (uid, name) → uid ≠ startUser.uid →
        (env.getpwuid uid).isSome = true) :
    ∃ array, loadSessions env = some ((kept env 0 (sessionEnumerate env)).length, array) ∧
      array.take (kept env 0 (sessionEnumerate env)).length =
        (kept env 0 (sessionEnumerate env)).map some := by
  refine loads_of_accounts fun i handle hi uid name hd => ⟨startUser, hstart, ?_⟩
  by_cases huid : uid = startUser.uid
  · exact Or.inl huid
  · exact Or.inr (hacc i handle uid name hi hd huid)

/-- A seat with a session that is gone, one of the greeter, and two of a user. -/
def fourSessions : SessionsEnv where
  seatSessions := some ["c1", "c2", "c3", "c4"]
  sd := fun i =>
    { SdLogin.empty with
      vt := fun _ => if i = 0 then ⟨- ENXIO, none⟩ else ⟨0, some i⟩
      uid := fun _ => ⟨0, some (if i = 1 then 90 else 1000)⟩
      desktop := fun _ => ⟨-ENODATA, none⟩
      type := fun _ => ⟨0, some (some "tty")⟩ }
  locals := fun _ => ⟨0, none, none, ""⟩
  uid := fun _ => 0
  getpwnam := fun name => if name = SP_USER then some ⟨SP_USER, 90, 90⟩ else none
  getpwuid := fun uid => some ⟨ascii "eve", uid, uid⟩

/-- Two are kept, and the array has had room for them. -/
theorem loadSessions_four : ∃ array, loadSessions fourSessions = some (2, array) ∧
    array.take 2 = [some ⟨some "c3", some (ascii "eve"), some "tty", none⟩,
      some ⟨some "c4", some (ascii "eve"), some "tty", none⟩] := by
  have hstart : fourSessions.getpwnam SP_USER = some ⟨SP_USER, 90, 90⟩ := rfl
  exact loadSessions_eq hstart fun _ _ _ _ _ _ _ => rfl

end Spawny.Daemon.LoadSessions
