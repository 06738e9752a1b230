import Spawny.Daemon.Replies

/-! # Whether the answers are true

A `LOGIN_FEEDBACK` with success should mean that the request was carried out, and the `LEAVE` that
answers a `GREETER_START` that a greeter is or will be there.

* `activated_iff`, `answered_iff`: the requests that are carried out without a callback;
* `truthful_iff`: **when the answers of a step are true**, for every step of every run;
* `activation_denied`: an activation that was carried out and is answered with a failure. -/

namespace Spawny.Daemon.TrueAnswers

open Spawny.Lib.Wire Spawny.Lib.Descriptors Spawny.Lib.Runs Spawny.Protocol Spawny.Protocol.Messages
open Spawny.Daemon.Manager Spawny.Daemon.SpawnRegistry
open Spawny.Daemon.SessionMgt Spawny.Daemon.State Spawny.Daemon.SpawnService
open Spawny.Daemon.GreeterTable Spawny.Daemon.Client Spawny.Daemon.Greeter Spawny.Daemon.Activations
open Spawny.Daemon.Server Spawny.Daemon.SafeCalls Spawny.Daemon.Loop Spawny.Daemon.Steps
open Spawny.Daemon.Trace Spawny.Daemon.TryLife Spawny.Daemon.TryCells Spawny.Daemon.Outcomes
  Spawny.Daemon.Pipes
open Spawny.Daemon.Activation Spawny.Daemon.OneGreeter Spawny.Daemon.GreeterStarts
open Spawny.Daemon.Replies

variable {C : FieldCode SpawnField} {Exists : String → Prop} {w : World} {e : Event}

/-! ### Requests -/

/-- The step handles the message `m`, which the client `c` has sent to the descriptor `fd`. -/
structure Handles (w : World) (e : Event) (a : Answers) (c fd : ℕ) (m : GreeterMessage) : Prop where
  event : e = .next a
  reading : w.fds.readout = true
  idle : w.registry.evalMode = false
  ready : ready w = some ⟨some (.clientData c), fd⟩
  input : a.input = .msg m

theorem Handles.step {a : Answers} {c fd : ℕ} {m : GreeterMessage} (h : Handles w e a c fd m) :
    step C w e = clientData C a c fd (advance w) := by
  rw [h.event]
  exact step_client C h.reading h.idle h.ready

/-- The seat that a `GREETER_START` of the client is for. -/
def startSeat (a : Answers) (c : ℕ) (w : World) : String := (requestSeat a c w).getD FALLBACK_SEAT

/-- The session of the greeter of the seat. -/
def seatSession (a : Answers) (seat : String) (w : World) : Option String :=
  greeterSession a (recordOf seat w) w

/-! ### True answers -/

variable (C Exists) in
/-- **The answers of the step are true**: a success is told exactly for an activation of an existing
session, and for a login that ends with its session active; a `GREETER_START` is answered with
`LEAVE` only if a session of the seat's greeter was activated or a start is in flight for the seat. -/
structure Truthful (w : World) (e : Event) : Prop where
  activation : ∀ c, Succeeds (.reply c) (since w (step C w e)) ↔
    ∃ a fd login s, Handles w e a c fd (activation login s) ∧ Exists s ∧
      .system (activateCommand s) ∈ since w (step C w e)
  login : ∀ t, Succeeds (.sessionDone t) (since w (step C w e)) ↔
    EndsActive (since w (step C w e)) (step C w e) t
  greeterStart : ∀ a c fd m dest, Handles w e a c fd m → m.type = .greeterStart →
    .sent (.reply c) dest ⟨.leave, none, none⟩ ∈ since w (step C w e) →
      (∃ s, seatSession a (startSeat a c w) w = some s ∧
        .system (activateCommand s) ∈ since w (step C w e)) ∨
      StartInFlight (startSeat a c w) (step C w e)

variable (Exists) in
/-- When they are: no existing session is activated, no login whose session is active ends because its
child has gone, and for a `GREETER_START` the greeter has a session, or a start is in flight for the
seat, or one of the spawns forks. -/
structure TruthfulWhen (w : World) (e : Event) : Prop where
  activation : ∀ a c fd login s, Handles w e a c fd (activation login s) → Exists s →
    clientIsGreeter a c w = true → sessionDetails a.sd a.locals (some s) none = none
  login : ∀ t, loginGone w e = some t → active ∉ (w.tryAt t).written
  greeterStart : ∀ a c fd m, Handles w e a c fd m → m.type = .greeterStart →
    a.alive (w.clientAt c).pid = true →
      (seatSession a (startSeat a c w) w).isSome = true ∨ StartInFlight (startSeat a c w) w ∨
        forksGreeter a maxActivate (recordOf (startSeat a c w) w).runGen w.tries.length = true

/-! ### What is carried out -/

/-- A session is activated for a client that may make the call if `session_details` succeeds. -/
theorem activated_iff {a : Answers} {c fd : ℕ} {login : Option Login} {s : String}
    (h : Handles w e a c fd (activation login s)) :
    .system (activateCommand s) ∈ since w (step C w e) ↔
      clientIsGreeter a c w = true ∧ sessionDetails a.sd a.locals (some s) none ≠ none := by
  rw [h.step]
  show _ ∈ since (advance w) _ ↔ clientIsGreeter a c (advance w) = true ∧ _
  by_cases hc : clientIsGreeter a c (advance w) = true
  · by_cases hd : sessionDetails a.sd a.locals (some s) none = none
    · rw [since_notFound h.input hc hd]
      simp [notFound, hd]
    · obtain ⟨os, hos, -⟩ := since_activated (C := C) h.input hc hd
      rw [hos]
      exact iff_of_true List.mem_cons_self ⟨hc, hd⟩
  · rw [since_denied h.input (by simpa using hc)]
    simp [hc]

/-- A `GREETER_START` of a process that is not alive has no answer. -/
theorem not_answered {a : Answers} {c fd : ℕ} {m : GreeterMessage} (h : Handles w e a c fd m)
    (htype : m.type = .greeterStart) (halive : a.alive (w.clientAt c).pid ≠ true) :
    since w (step C w e) = [] := by
  refine since_append ?_
  rw [h.step, List.append_nil]
  have hmessage : clientMessage C a c fd m (advance w) = clientFree c (advance w) := by
    simp only [clientMessage, htype, greeterStartRequest]
    exact if_neg halive
  unfold clientData
  rw [h.input]
  dsimp only
  rw [hmessage]
  split_ifs <;> rfl

/-- Any other is answered after the activation. -/
theorem step_answered {a : Answers} {c fd : ℕ} {m : GreeterMessage} (h : Handles w e a c fd m)
    (htype : m.type = .greeterStart) (halive : a.alive (w.clientAt c).pid = true) :
    ∃ w', (w' = clientGoodbye (.reply c) c (greeterActivate C a (startSeat a c w) (advance w))) ∧
      (step C w e = w' ∨ step C w e = w'.fault) := by
  refine ⟨_, rfl, ?_⟩
  rw [h.step]
  have hmessage : clientMessage C a c fd m (advance w) = clientGoodbye (.reply c) c
      (greeterActivate C a (startSeat a c w) (advance w)) := by
    simp only [clientMessage, htype, greeterStartRequest]
    exact if_pos halive
  unfold clientData
  rw [h.input]
  dsimp only
  rw [hmessage]
  split_ifs
  · exact Or.inr rfl
  · exact Or.inl rfl

theorem trace_answered {a : Answers} {c fd : ℕ} {m : GreeterMessage} (h : Handles w e a c fd m)
    (htype : m.type = .greeterStart) (halive : a.alive (w.clientAt c).pid = true) :
    (∃ dest, (step C w e).trace = (greeterActivate C a (startSeat a c w) (advance w)).trace ++
        [.sent (.reply c) dest ⟨.leave, none, none⟩]) ∧
      (step C w e).tries = (greeterActivate C a (startSeat a c w) (advance w)).tries := by
  obtain ⟨w', hw', hstep⟩ := step_answered (C := C) h htype halive
  generalize greeterActivate C a (startSeat a c w) (advance w) = w₁ at hw' ⊢
  rcases hstep with hstep | hstep <;> rw [hstep, hw'] <;> exact ⟨⟨_, rfl⟩, rfl⟩

theorem answered {a : Answers} {c fd : ℕ} {m : GreeterMessage} (h : Handles w e a c fd m)
    (htype : m.type = .greeterStart) (halive : a.alive (w.clientAt c).pid = true) :
    ∃ dest, .sent (.reply c) dest ⟨.leave, none, none⟩ ∈ since w (step C w e) := by
  obtain ⟨⟨dest, htrace⟩, -⟩ := trace_answered (C := C) h htype halive
  have hbegan : Began w.trace (advance w) := List.prefix_rfl
  obtain ⟨os, hos⟩ := hbegan.activate (C := C) a (startSeat a c w)
  rw [← hos, List.append_assoc] at htrace
  refine ⟨dest, ?_⟩
  rw [since_append htrace]
  simp

/-- **When a `GREETER_START` is answered truly.** -/
theorem answered_iff {a : Answers} {c fd : ℕ} {m : GreeterMessage} (h : Handles w e a c fd m)
    (htype : m.type = .greeterStart) (halive : a.alive (w.clientAt c).pid = true) :
    ((∃ s, seatSession a (startSeat a c w) w = some s ∧
        .system (activateCommand s) ∈ since w (step C w e)) ∨
      StartInFlight (startSeat a c w) (step C w e)) ↔
    (seatSession a (startSeat a c w) w).isSome = true ∨ StartInFlight (startSeat a c w) w ∨
      forksGreeter a maxActivate (recordOf (startSeat a c w) w).runGen w.tries.length = true := by
  obtain ⟨⟨dest, htrace⟩, htries⟩ := trace_answered (C := C) h htype halive
  cases hs : seatSession a (startSeat a c w) w with
  | some s =>
    have hactivate := greeterActivate_session (C := C) (w := advance w) (a := a) hs
    refine iff_of_true (Or.inl ⟨s, rfl, ?_⟩) (Or.inl rfl)
    have hsince : since w (step C w e) = [.system (activateCommand s)] ++
        [.sent (.reply c) dest ⟨.leave, none, none⟩] := by
      refine since_append ?_
      rw [htrace, hactivate, World.log_trace, List.append_assoc]
      rfl
    simp [hsince]
  | none =>
    have hstart := startInFlight_activate (C := C) (w := advance w) (a := a) hs
    rw [startInFlight_congr htries, hstart]
    simp only [reduceCtorEq, false_and, exists_false, false_or, Option.isSome_none,
      Bool.false_eq_true]
    exact Iff.rfl

/-- **When the answers are true.** For every step of every run: they are exactly under the condition
`TruthfulWhen`. -/
theorem truthful_iff (Exists : String → Prop) (debug : Bool) (templates : List Template)
    (es : List Event) (e : Event) :
    Truthful C Exists (run (step C) (World.start debug templates) es) e ↔
      TruthfulWhen Exists (run (step C) (World.start debug templates) es) e := by
  obtain ⟨hlife, hcells, hreads⟩ :=
    run_induction (I := fun w => Life none w ∧ Cells Undecided w ∧ Reads C w)
      (fun _ e h => ⟨life_step h.1, undecided_step h.2.1 e, reads_step h.2.2 h.1 e⟩) es _
      ⟨life_start debug templates, undecided_start debug templates, reads_start debug templates⟩
  generalize run (step C) (World.start debug templates) es = w at hlife hcells hreads ⊢
  have htold := told_step hlife hcells hreads e
  constructor
  · intro h
    refine ⟨fun a c fd login s hreq hexists hgreeter => ?_, fun t hgone hactive => ?_,
      fun a c fd m hreq htype halive => ?_⟩
    · by_contra hd
      have hsystem := (activated_iff (C := C) hreq).mpr ⟨hgreeter, hd⟩
      exact htold.reply c ((h.activation c).mpr ⟨a, fd, login, s, hreq, hexists, hsystem⟩)
    · have hends := (htold.ended t).mpr (Or.inr ⟨hgone, hactive⟩)
      have hread := (htold.login t).mp ((h.login t).mpr hends)
      obtain ⟨a, fd, m, rfl, -⟩ := loginActive_eq_some hread
      cases hgone
    · obtain ⟨dest, hsent⟩ := answered (C := C) hreq htype halive
      exact (answered_iff (C := C) hreq htype halive).mp
        (h.greeterStart a c fd m dest hreq htype hsent)
  · intro h
    refine ⟨fun c => iff_of_false (htold.reply c) ?_, fun t => ?_,
      fun a c fd m dest hreq htype hsent => ?_⟩
    · rintro ⟨a, fd, login, s, hreq, hexists, hsystem⟩
      obtain ⟨hgreeter, hd⟩ := (activated_iff hreq).mp hsystem
      exact hd (h.activation a c fd login s hreq hexists hgreeter)
    · rw [htold.login, htold.ended]
      constructor
      · exact Or.inl
      · rintro (hread | ⟨hgone, hactive⟩)
        · exact hread
        · exact absurd hactive (h.login t hgone)
    · by_cases halive : a.alive (w.clientAt c).pid = true
      · exact (answered_iff hreq htype halive).mpr (h.greeterStart a c fd m hreq htype halive)
      · rw [not_answered hreq htype halive] at hsent
        cases hsent

/-! ### An activation -/

/-- There are the sessions `c1` of the greeter and `c2`. -/
def TwoSessions (s : String) : Prop := s = "c1" ∨ s = "c2"

instance : DecidablePred TwoSessions := fun s => inferInstanceAs (Decidable (s = "c1" ∨ s = "c2"))

/-- A logind that knows these two; a session without a desktop and a type. -/
def twoSessions : SdLogin :=
  let ret (handle : Option String) : ℤ :=
    match handle with
    | none => -EINVAL
    | some s => if TwoSessions s then -ENODATA else if WellFormedId s then - ENXIO else -EINVAL
  { pidSession := fun _ => some "c1"
    sessionSeat := fun _ => some "seat0"
    vt := fun handle => ⟨ret handle, none⟩
    uid := fun handle => ⟨ret handle, none⟩
    desktop := fun handle => ⟨ret handle, none⟩
    type := fun handle => ⟨ret handle, none⟩ }

theorem lawful_twoSessions : twoSessions.Lawful TwoSessions where
  wellFormed s hs := by
    rcases hs with rfl | rfl <;> decide
  malformed s hs := by
    have hno : ¬TwoSessions s := by
      rintro (rfl | rfl) <;> exact hs (by decide)
    simp [twoSessions, hno, hs]
  missing s hs hno := by simp [twoSessions, hno, hs]

/-- A process of the greeter of seat0 has connected as client 1 and has sent a request. -/
def greeterAsks : List Event :=
  greeterStarts ++ turn [3] { Answers.plain with peer := some 100 } ++
    [.select [4] [], .next Answers.plain, .next Answers.plain]

/-- The request is to activate the session `c2`. -/
def activatesSession : Event :=
  .next { Answers.plain with input := .msg (activation none "c2"), sd := twoSessions }

set_option maxRecDepth 4000 in
/-- **An activation that is denied**: `c2` is activated, and the greeter is told that it failed. -/
theorem activation_denied :
    let w := run (step Encoding.spawnCode) (World.start false []) greeterAsks
    twoSessions.Lawful TwoSessions ∧
      since w (step Encoding.spawnCode w activatesSession) =
        [.system "loginctl activate c2", .sent (.reply 1) (some (.sock 1))
          ⟨.loginFeedback, some ⟨false, "Activation is called on this session"⟩, none⟩,
          .lockout "seat0", .sent (.reply 1) (some (.sock 1)) ⟨.leave, none, none⟩] ∧
      ¬Truthful Encoding.spawnCode TwoSessions w activatesSession := by
  intro w
  have hsince : since w (step Encoding.spawnCode w activatesSession) =
      [.system "loginctl activate c2", .sent (.reply 1) (some (.sock 1))
        ⟨.loginFeedback, some ⟨false, "Activation is called on this session"⟩, none⟩,
        .lockout "seat0", .sent (.reply 1) (some (.sock 1)) ⟨.leave, none, none⟩] := by decide
  refine ⟨lawful_twoSessions, hsince, fun h => ?_⟩
  have hhandles : Handles w activatesSession
      { Answers.plain with input := .msg (activation none "c2"), sd := twoSessions } 1 4
        (activation none "c2") := ⟨rfl, by decide, by decide, by decide, rfl⟩
  have hsystem : .system (activateCommand "c2") ∈
      since w (step Encoding.spawnCode w activatesSession) := by
    rw [hsince]
    decide
  obtain ⟨dest, fb, hmem, hsuccess⟩ :=
    (h.activation 1).mpr ⟨_, _, _, _, hhandles, Or.inr rfl, hsystem⟩
  rw [hsince] at hmem
  simp at hmem
  rw [hmem.2] at hsuccess
  cases hsuccess

end Spawny.Daemon.TrueAnswers
