import Mathlib.Data.Int.Notation
import Mathlib.Tactic.Common

/-! # sessionmgt_logind.c: what the daemon asks logind

The answers of `sd-login` are a parameter (`SdLogin`): each call has a return value and may store
something through its pointer. `sessionDetails` follows `session_details` call by call; the contents
the stack happens to have where its locals lie (`Locals`) are a parameter as well, since the macro
`GET_FIELD` leaves a variable as it is on the error codes it does not list.

A C string is a `String` whose characters stand for its bytes.

* `sessionDetails_eq_none`: `session_details` fails exactly on `-ENXIO`;
* `SdLogin.Lawful`: what logind answers for ids that are malformed or name no session;
* `activateCommand_id`: the command for a well-formed id names one well-formed id, also if cut. -/

namespace Spawny.Daemon.SessionMgt

/-! ### The answers of sd-login -/

/-- A well-formed session id: ASCII letters and digits, at least one. -/
def WellFormedId (s : String) : Prop := s ≠ "" ∧ ∀ c ∈ s.toList, c.isAlphanum = true

-- only the characters of `s` are looked at, not every `Char`
instance (s : String) : Decidable (WellFormedId s) :=
  have : Decidable (∀ c ∈ s.toList, c.isAlphanum = true) := List.decidableBAll _ _
  inferInstanceAs (Decidable (s ≠ "" ∧ ∀ c ∈ s.toList, c.isAlphanum = true))

def ENXIO : ℤ := 6
def ENOMEM : ℤ := 12
def EINVAL : ℤ := 22
def ENODATA : ℤ := 61

/-- One `sd_session_get_*` call: the return value, and what it stored if it stored anything. -/
structure SdAnswer (α : Type) where
  ret : ℤ
  stored : Option α

/-- The answers of sd-login. `pidSession` and `sessionSeat` are `sd_pid_get_session` and
`sd_session_get_seat`, `none` for a negative return value. -/
structure SdLogin where
  pidSession : ℤ → Option String
  sessionSeat : String → Option String
  vt : Option String → SdAnswer ℕ
  uid : Option String → SdAnswer ℕ
  desktop : Option String → SdAnswer (Option String)
  type : Option String → SdAnswer (Option String)

/-- `session_get`. -/
def sessionGet (sd : SdLogin) (pid : ℤ) : Option String := sd.pidSession pid

/-- `seat_get`. -/
def seatGet (sd : SdLogin) (pid : ℤ) : Option String := (sessionGet sd pid).bind sd.sessionSeat

/-! ### session_details -/

/-- `GET_FIELD(func, field, errval)` on a variable that held `old`: `none` if it returns false from
the enclosing function, else `ret` and the variable. -/
def getField {α : Type} (ans : SdAnswer α) (old errval : α) : Option (ℤ × α) :=
  if ans.ret = - ENXIO then none
  else if ans.ret = -ENODATA ∨ ans.ret = -EINVAL ∨ ans.ret = -ENOMEM then some (ans.ret, errval)
  else some (ans.ret, ans.stored.getD old)

/-- What the locals of `session_details` hold before they are assigned. -/
structure Locals where
  vtnrRaw : ℕ
  tmpDesktop : Option String
  tmpType : Option String
  maxName : String

/-- What `session_details` hands out when it returns true, and the strings it frees. -/
structure Details where
  vtnr : ℤ
  uid : Option ℕ
  name : String
  freed : List String

/-- `snprintf` into a buffer of `size` bytes. -/
def snprintf (size : ℕ) (s : String) : String := String.ofList (s.toList.take (size - 1))

/-- The text built in `max_name`. -/
def sessionName (junk : String) (tmpType tmpDesktop : Option String) : String :=
  match tmpType, tmpDesktop with
  | some t, some d => snprintf 1024 (t ++ " - " ++ d)
  | some t, none => snprintf 1024 t
  | none, some d => snprintf 1024 d
  | none, none => junk

/-- `session_details`; `uid` is `none` if the caller passes `NULL`, else what its variable holds.
`none` is the return value false. -/
def sessionDetails (sd : SdLogin) (junk : Locals) (handle : Option String) (uid : Option ℕ) :
    Option Details := do
  let (ret, vtnrRaw) ← getField (sd.vt handle) junk.vtnrRaw 0
  let vtnr : ℤ := if ret < 0 then -1 else vtnrRaw
  let uid ← match uid with
    | none => some none
    | some old => (getField (sd.uid handle) old 0).map fun r => some r.2
  let (_, tmpDesktop) ← getField (sd.desktop handle) junk.tmpDesktop none
  let (_, tmpType) ← getField (sd.type handle) junk.tmpType none
  some { vtnr := vtnr, uid := uid, name := sessionName junk.maxName tmpType tmpDesktop,
         freed := tmpDesktop.toList ++ tmpType.toList }

theorem getField_eq_none {α : Type} {ans : SdAnswer α} {old errval : α} :
    getField ans old errval = none ↔ ans.ret = - ENXIO := by
  unfold getField
  split_ifs with h1 h2 <;> simp [h1]

/-- **When `session_details` fails**, called without a place for the user id: one of its three calls
says that the session does not exist. Every other error code lets it succeed. -/
theorem sessionDetails_eq_none {sd : SdLogin} {junk : Locals} {handle : Option String} :
    sessionDetails sd junk handle none = none ↔
      (sd.vt handle).ret = - ENXIO ∨ (sd.desktop handle).ret = - ENXIO ∨
        (sd.type handle).ret = - ENXIO := by
  rw [← getField_eq_none,
    ← getField_eq_none,
    ← getField_eq_none]
  unfold sessionDetails
  rcases getField (sd.vt handle) junk.vtnrRaw 0 with _ | ⟨ret, vt⟩
  · simp
  rcases getField (sd.desktop handle) junk.tmpDesktop none with _ | d
  · simp
  rcases getField (sd.type handle) junk.tmpType none with _ | t <;> simp

/-- What logind documents for these calls, where `Exists` says which sessions there are. -/
structure SdLogin.Lawful (sd : SdLogin) (Exists : String → Prop) : Prop where
  wellFormed : ∀ s, Exists s → WellFormedId s
  malformed : ∀ s, ¬WellFormedId s → (sd.vt (some s)).ret = -EINVAL ∧
    (sd.desktop (some s)).ret = -EINVAL ∧ (sd.type (some s)).ret = -EINVAL
  missing : ∀ s, WellFormedId s → ¬Exists s → (sd.vt (some s)).ret = - ENXIO ∧
    (sd.desktop (some s)).ret = - ENXIO ∧ (sd.type (some s)).ret = - ENXIO

/-- The answers of a logind that knows no session. -/
def SdLogin.empty : SdLogin :=
  let ret (handle : Option String) : ℤ :=
    match handle with
    | none => -EINVAL
    | some s => if WellFormedId s then - ENXIO else -EINVAL
  { pidSession := fun _ => none
    sessionSeat := fun _ => none
    vt := fun handle => ⟨ret handle, none⟩
    uid := fun handle => ⟨ret handle, none⟩
    desktop := fun handle => ⟨ret handle, none⟩
    type := fun handle => ⟨ret handle, none⟩ }

theorem SdLogin.lawful_empty : SdLogin.empty.Lawful fun _ => False where
  wellFormed _ := False.elim
  malformed s hs := by simp [SdLogin.empty, hs]
  missing s hs _ := by simp [SdLogin.empty, hs]

/-! ### session_activate -/

def PATH_MAX : ℕ := 4096

/-- The text `session_activate` gives to `system()`. -/
def activateCommand (handle : String) : String := snprintf PATH_MAX ("loginctl activate " ++ handle)

/-- **The command for a well-formed id** is `loginctl activate ` with one well-formed id, though an
id longer than the buffer is cut. -/
theorem activateCommand_id {handle : String} (h : WellFormedId handle) :
    ∃ id, WellFormedId id ∧ activateCommand handle = "loginctl activate " ++ id := by
  refine ⟨String.ofList (handle.toList.take 4077), ⟨?_, ?_⟩, ?_⟩
  · intro hempty
    have hlist : handle.toList.take 4077 = [] := by
      simpa using congrArg String.toList hempty
    rcases List.take_eq_nil_iff.mp hlist with h0 | h0
    · omega
    · exact h.1 (String.toList_eq_nil_iff.mp h0)
  · intro c hc
    rw [String.toList_ofList] at hc
    exact h.2 c (List.mem_of_mem_take hc)
  · unfold activateCommand snprintf PATH_MAX
    apply String.toList_injective
    simp only [String.toList_ofList, String.toList_append]
    rw [List.take_append, List.take_of_length_le (by simp)]
    rfl

end Spawny.Daemon.SessionMgt
