import Spawny.Daemon.SafeCalls

/-! # server.c: what reaches the shell

`SESSION_ACTIVATION` gives a string of the client to `session_activate`, and so to `system()`. The
only guard is `session_details`.

* `since_activation`: what is recorded for the request, case by case;
* `activatesOnly_iff`: **only ids of existing sessions reach the shell, exactly if every string from
  a client that may make the call is a well-formed id**; `session_details` takes the error of
  logind for a malformed string for a missing field. -/

namespace Spawny.Daemon.Activation

open Spawny.Lib.Wire Spawny.Lib.Descriptors Spawny.Protocol Spawny.Protocol.Messages
open Spawny.Daemon.SessionMgt Spawny.Daemon.State Spawny.Daemon.SpawnService
open Spawny.Daemon.GreeterTable Spawny.Daemon.Client Spawny.Daemon.Server
open Spawny.Daemon.SafeCalls

variable (C : FieldCode SpawnField)

/-- The request with the string `s`. -/
def activation (login : Option Login) (s : String) : GreeterMessage :=
  ⟨.sessionActivation, login, some s⟩

/-- The reply for a session that does not exist. -/
def notFound (c fd : ℕ) (w : World) : Obs :=
  .sent (.reply c) (lookup w.fdtab fd) ⟨.loginFeedback, some ⟨false, "Session not found"⟩, none⟩

theorem since_append {w w' : World} {os : List Obs} (h : w'.trace = w.trace ++ os) :
    since w w' = os := by simp [since, h]

variable {C} {a : Answers} {c fd : ℕ} {login : Option Login} {s : String} {w : World}

/-- The fallback seat changes nothing that is recorded. -/
theorem trace_activation (hinput : a.input = .msg (activation login s)) :
    (clientData C a c fd w).trace =
      (clientMessage C a c fd (activation login s) w).trace := by
  unfold clientData
  rw [hinput]
  dsimp only
  split_ifs <;> rfl

/-- Nothing is recorded for a client that may not make the call. -/
theorem since_denied (hinput : a.input = .msg (activation login s))
    (hc : clientIsGreeter a c w = false) : since w (clientData C a c fd w) = [] := by
  refine since_append ?_
  rw [trace_activation hinput, List.append_nil]
  simp [clientMessage, activation, hc, clientFree, World.modClient, World.closeFd,
    World.unregisterFd]

/-- If `session_details` fails, the reply is all there is. -/
theorem since_notFound (hinput : a.input = .msg (activation login s))
    (hc : clientIsGreeter a c w = true) (hd : sessionDetails a.sd a.locals (some s) none = none) :
    since w (clientData C a c fd w) = [notFound c fd w] := by
  refine since_append ?_
  rw [trace_activation hinput]
  simp only [clientMessage, activation, hc, if_true, sessionActivation, hd]
  rfl

/-- If `session_details` succeeds, the command is run, and it is the only one. -/
theorem since_activated (hinput : a.input = .msg (activation login s))
    (hc : clientIsGreeter a c w = true) (hd : sessionDetails a.sd a.locals (some s) none ≠ none) :
    ∃ os, since w (clientData C a c fd w) = .system (activateCommand s) :: os ∧
      ∀ o ∈ os, ∀ cmd, o ≠ .system cmd := by
  obtain ⟨d, hd⟩ := Option.ne_none_iff_exists'.mp hd
  -- the feedback, then the lockout if there is a record for the seat, then the goodbye
  set w₁ := serverSpawnserviceFeedback (.reply c) false
    (some "Activation is called on this session") fd (sessionActivate (some s) w) with hw₁
  have htrace : (clientData C a c fd w).trace =
      (clientGoodbye (.reply c) c (greeterLockout (requestSeat a c w) w₁)).trace := by
    rw [trace_activation hinput]
    simp only [clientMessage, activation, hc, if_true, sessionActivation, hd, hw₁]
  have hbye : ∀ w' : World, ∃ o, (clientGoodbye (.reply c) c w').trace = w'.trace ++ [o] ∧
      ∀ cmd, o ≠ .system cmd := fun w' => ⟨_, rfl, fun cmd => Obs.noConfusion⟩
  obtain ⟨o, ho, hno⟩ := hbye (greeterLockout (requestSeat a c w) w₁)
  have h₁ : w₁.trace = w.trace ++ [.system (activateCommand s), .sent (.reply c)
      (lookup w.fdtab fd) ⟨.loginFeedback,
        some ⟨false, "Activation is called on this session"⟩, none⟩] := by
    rw [hw₁]
    exact List.append_assoc w.trace [_] [_]
  rcases trace_greeterLockout (requestSeat a c w) w₁ with hl | ⟨seat, hl⟩
  · refine ⟨_, since_append (by rw [htrace, ho, hl, h₁, List.append_assoc]; rfl), ?_⟩
    simpa using hno
  · refine ⟨_, since_append (by rw [htrace, ho, hl, h₁, List.append_assoc, List.append_assoc]; rfl),
      ?_⟩
    simpa using hno

/-! ### Only ids of existing sessions -/

/-- What the request with the string `s` should do: a command is run only if `s` is the id of an
existing session, and it names one well-formed id; for any other string, the reply is that there is
no such session, and that is all. -/
def ActivatesOnly (C : FieldCode SpawnField) (Exists : String → Prop) (a : Answers) (c fd : ℕ)
    (s : String) (w : World) : Prop :=
  (∀ cmd, .system cmd ∈ since w (clientData C a c fd w) →
    Exists s ∧ ∃ id, WellFormedId id ∧ cmd = "loginctl activate " ++ id) ∧
  (clientIsGreeter a c w = true → ¬Exists s → since w (clientData C a c fd w) = [notFound c fd w])

/-- **What reaches the shell.** In any state and for all answers of logind, the request does what it
should exactly if the string is a well-formed id or the client may not make the call. -/
theorem activatesOnly_iff {Exists : String → Prop} (hsd : a.sd.Lawful Exists)
    (hinput : a.input = .msg (activation login s)) :
    ActivatesOnly C Exists a c fd s w ↔ (clientIsGreeter a c w = true → WellFormedId s) := by
  constructor
  · intro ⟨hcmd, _⟩ hc
    by_contra hs
    obtain ⟨hvt, hdesktop, htype⟩ := hsd.malformed s hs
    -- no call says `-ENXIO`, so `session_details` succeeds
    have hd : sessionDetails a.sd a.locals (some s) none ≠ none := by
      rw [Ne, sessionDetails_eq_none, hvt, hdesktop, htype]
      decide
    obtain ⟨os, hos, -⟩ := since_activated (C := C) hinput hc hd
    exact hs (hsd.wellFormed s (hcmd _ (hos ▸ List.mem_cons_self)).1)
  · intro hwf
    by_cases hc : clientIsGreeter a c w = true
    · by_cases hex : Exists s
      · refine ⟨fun cmd hcmd => ⟨hex, ?_⟩, fun _ hn => absurd hex hn⟩
        by_cases hd : sessionDetails a.sd a.locals (some s) none = none
        · rw [since_notFound hinput hc hd] at hcmd
          simp [notFound] at hcmd
        · obtain ⟨os, hos, hno⟩ := since_activated (C := C) hinput hc hd
          rw [hos] at hcmd
          rcases List.mem_cons.mp hcmd with h | h
          · obtain ⟨id, hid, heq⟩ := activateCommand_id (hwf hc)
            exact ⟨id, hid, by rw [← heq]; exact Obs.system.inj h⟩
          · exact absurd rfl (hno _ h cmd)
      · have hd : sessionDetails a.sd a.locals (some s) none = none :=
          sessionDetails_eq_none.mpr (Or.inl (hsd.missing s (hwf hc) hex).1)
        have hsince : since w (clientData C a c fd w) = [notFound c fd w] :=
          since_notFound hinput hc hd
        refine ⟨fun cmd hcmd => ?_, fun _ _ => hsince⟩
        rw [hsince] at hcmd
        simp [notFound] at hcmd
    · have hsince : since w (clientData C a c fd w) = [] :=
        since_denied hinput (by simpa using hc)
      refine ⟨fun cmd hcmd => ?_, fun h => absurd h hc⟩
      rw [hsince] at hcmd
      cases hcmd

/-- The request with a string, to a daemon with one greeter and its client. -/
def request (s : String) : Answers :=
  { Answers.plain with input := .msg (activation none s) }

theorem activatesOnly_iff_c2 :
    ActivatesOnly Encoding.spawnCode (fun _ => False) (request "c2") 0 4 "c2" greeterConnected :=
  (activatesOnly_iff SdLogin.lawful_empty rfl).mpr fun _ => by decide

/-- **A command of the client's choice**: logind knows no session and rejects the string as
malformed, and the shell runs it. -/
theorem activation_runs_malformed :
    SdLogin.empty.Lawful (fun _ => False) ∧ ¬WellFormedId "1; reboot" ∧
      .system "loginctl activate 1; reboot" ∈
        since greeterConnected (clientData Encoding.spawnCode (request "1; reboot") 0 4
          greeterConnected) ∧
      ¬ActivatesOnly Encoding.spawnCode (fun _ => False) (request "1; reboot") 0 4 "1; reboot"
        greeterConnected := by
  have hmem : .system "loginctl activate 1; reboot" ∈
      since greeterConnected (clientData Encoding.spawnCode (request "1; reboot") 0 4
        greeterConnected) := by decide
  exact ⟨SdLogin.lawful_empty, by decide, hmem, fun h => (h.1 _ hmem).1⟩

end Spawny.Daemon.Activation
