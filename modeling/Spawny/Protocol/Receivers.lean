import Spawny.Client.Read
import Spawny.Daemon.TrueAnswers

/-! # Messages without their payload

In all three protocols a payload is optional and independent of the type, so a message can lack what
its type needs. A receiver should read nothing else, and should refuse a message that lacks it.

* `clientMessage_needed`, `childMessage_needed`, `handle_needed`: no receiver looks at a payload that
  the type does not need;
* `clientDataSafe_iff`, `childDataSafe_iff`, `readSafe_iff`: when a receiver refuses what lacks it;
* `receivers_iff`: **all three together**;
* `absent_payload_used`: a login without its payload ends the daemon. -/

namespace Spawny.Protocol.Receivers

open Spawny.Lib.Wire Spawny.Lib.Descriptors Spawny.Lib.Runs Spawny.Protocol Spawny.Protocol.Messages
open Spawny.Client.Read hiding MAX_MSG_SIZE
open Spawny.Daemon.SessionMgt Spawny.Daemon.State Spawny.Daemon.SpawnService
open Spawny.Daemon.GreeterTable Spawny.Daemon.Client Spawny.Daemon.Greeter Spawny.Daemon.Server
open Spawny.Daemon.SafeCalls Spawny.Daemon.Loop Spawny.Daemon.Steps Spawny.Daemon.TrueAnswers

variable {C : FieldCode SpawnField}

/-! ### What a type needs -/

/-- The message without the payloads its type does not need. -/
def GreeterMessage.needed (m : GreeterMessage) : GreeterMessage where
  type := m.type
  login := if m.type = .loginTry then m.login else none
  session := if m.type = .sessionActivation then m.session else none

/-- The payload that the type needs is absent. -/
def GreeterMessage.lacks (m : GreeterMessage) : Bool :=
  match m.type with
  | .loginTry => m.login.isNone
  | .sessionActivation => m.session.isNone
  | _ => false

def SpawnMessage.needed (m : SpawnMessage) : SpawnMessage where
  type := m.type
  exit := if m.type = .errorExit then m.exit else none

def SpawnMessage.lacks (m : SpawnMessage) : Bool :=
  match m.type with
  | .errorExit => m.exit.isNone
  | _ => false

def ServerMessage.needed (m : ServerMessage) : ServerMessage where
  type := m.type
  feedback := if m.type = .loginFeedback then m.feedback else none
  data := if m.type = .dataUpdate then m.data else none

def ServerMessage.lacks (m : ServerMessage) : Bool :=
  match m.type with
  | .dataUpdate => m.data.isNone
  | .loginFeedback => m.feedback.isNone
  | .leave => false

/-! ### _client_data -/

/-- `_client_data` looks only at the payload that the type needs. -/
theorem clientMessage_needed (a : Answers) (c fd : ℕ) (m : GreeterMessage) (w : World) :
    clientMessage C a c fd (GreeterMessage.needed m) w = clientMessage C a c fd m w := by
  rcases m with ⟨type, login, session⟩
  cases type <;> rfl

/-- The message is answered with an error, or dropped: it is left alone, or its client is. -/
inductive Refused (c fd : ℕ) (w : World) : World → Prop
  | answered (text : String) : Refused c fd w
      (w.log (.sent (.reply c) (lookup w.fdtab fd) ⟨.loginFeedback, some ⟨false, text⟩, none⟩))
  | released : Refused c fd w (clientFree c w)
  | ignored : Refused c fd w w

variable (C) in
/-- **What `_client_data` should do** with the message `m`: it looks at no payload but the one that
the type needs; if that is absent the message is refused, and the daemon goes on. -/
structure ClientDataSafe (a : Answers) (c fd : ℕ) (m : GreeterMessage) (w : World) : Prop where
  reads : clientMessage C a c fd (GreeterMessage.needed m) w = clientMessage C a c fd m w
  refuses : GreeterMessage.lacks m = true →
    (clientData C a c fd w).ub = false ∧ Refused c fd w (clientData C a c fd w)

/-- What refuses such a message: the client may not make the call, or has a login already, or
`session_details` fails without a session; and there is no fallback seat to be freed. -/
def refusesAbsent (a : Answers) (c : ℕ) (m : GreeterMessage) (w : World) : Bool :=
  ((seatGet a.sd (w.clientAt c).pid).isSome || !w.debug) &&
    (!clientIsGreeter a c w ||
      match m.type with
      | .loginTry => (w.clientAt c).spawnTry.isSome
      | _ => (sessionDetails a.sd a.locals none none).isNone)

theorem Refused.length_trace {c fd : ℕ} {w w' : World} (h : Refused c fd w w') :
    w'.trace.length ≤ w.trace.length + 1 := by
  cases h with
  | answered text => simp
  | released => simp [clientFree]
  | ignored => omega

/-- An activation that is carried out is not refused: it has two answers. -/
theorem not_refused_sessionActivation {a : Answers} {c fd : ℕ} {session : Option String} {w : World}
    (hd : sessionDetails a.sd a.locals session none ≠ none) :
    ¬Refused c fd w (sessionActivation a c fd session w) := by
  intro h
  obtain ⟨d, hd⟩ := Option.ne_none_iff_exists'.mp hd
  set w₁ := serverSpawnserviceFeedback (.reply c) false
    (some "Activation is called on this session") fd (sessionActivate session w) with hw₁
  have hactivation : sessionActivation a c fd session w =
      clientGoodbye (.reply c) c (greeterLockout (requestSeat a c w) w₁) := by
    rw [sessionActivation, hd]
  -- the feedback and the goodbye
  have hbye : (sessionActivation a c fd session w).trace.length =
      (greeterLockout (requestSeat a c w) w₁).trace.length + 1 := by
    rw [hactivation]
    exact List.length_append
  have hlock := (prefix_greeterLockout (requestSeat a c w) w₁).length_le
  have hfeedback : w₁.trace.length = (sessionActivate session w).trace.length + 1 := by
    rw [hw₁]
    exact List.length_append
  have hactivate := (prefix_sessionActivate session w).length_le
  have hlen := h.length_trace
  omega

/-- A message that lacks its payload, before the seat is freed. -/
theorem clientMessage_lacks {a : Answers} {c fd : ℕ} {m : GreeterMessage} {w : World}
    (hrun : w.ub = false) (hlacks : GreeterMessage.lacks m = true)
    (hseat : ((seatGet a.sd (w.clientAt c).pid).isSome || !w.debug) = true) :
    ((clientMessage C a c fd m w).ub = false ∧ Refused c fd w (clientMessage C a c fd m w)) ↔
      refusesAbsent a c m w = true := by
  unfold refusesAbsent
  rw [hseat, Bool.true_and]
  by_cases hgreeter : clientIsGreeter a c w = true
  · rw [hgreeter, Bool.not_true, Bool.false_or]
    cases htype : m.type with
    | loginTry =>
      have hnone : m.login = none := by simpa [GreeterMessage.lacks, htype] using hlacks
      simp only [clientMessage, htype, hgreeter, if_true, hnone]
      by_cases hbusy : (w.clientAt c).spawnTry.isSome = true
      · rw [if_pos hbusy]
        exact iff_of_true ⟨hrun, .answered _⟩ hbusy
      · rw [if_neg hbusy]
        simp [hbusy]
    | sessionActivation =>
      have hnone : m.session = none := by simpa [GreeterMessage.lacks, htype] using hlacks
      simp only [clientMessage, htype, hgreeter, if_true, hnone]
      cases hd : sessionDetails a.sd a.locals none none with
      | none =>
        rw [sessionActivation, hd]
        exact iff_of_true ⟨hrun, .answered _⟩ rfl
      | some d =>
        have hno : ¬Refused c fd w (sessionActivation a c fd none w) :=
          not_refused_sessionActivation (by simp [hd])
        simp [hno]
    | hello | greeterStart | unknown n => simp [GreeterMessage.lacks, htype] at hlacks
  · have hfree : clientMessage C a c fd m w = clientFree c w := by
      cases htype : m.type with
      | loginTry | sessionActivation => simp [clientMessage, htype, hgreeter]
      | hello | greeterStart | unknown n => simp [GreeterMessage.lacks, htype] at hlacks
    rw [hfree]
    exact iff_of_true ⟨hrun, .released⟩ (by simp [hgreeter])

/-- **When `_client_data` does so.** -/
theorem clientDataSafe_iff {a : Answers} {c fd : ℕ} {m : GreeterMessage} {w : World}
    (hinput : a.input = .msg m) (hrun : w.ub = false) :
    ClientDataSafe C a c fd m w ↔ (GreeterMessage.lacks m = true → refusesAbsent a c m w = true) := by
  refine Iff.trans ⟨fun h => h.refuses, fun h => ⟨clientMessage_needed a c fd m w, h⟩⟩ ?_
  refine imp_congr_right fun hlacks => ?_
  have hdata : clientData C a c fd w =
      if (seatGet a.sd (w.clientAt c).pid).isNone && w.debug then (clientMessage C a c fd m w).fault
      else clientMessage C a c fd m w := by
    rw [clientData, hinput]
  by_cases hseat : ((seatGet a.sd (w.clientAt c).pid).isNone && w.debug) = true
  · rw [hdata, if_pos hseat]
    have hno : refusesAbsent a c m w = false := by
      rw [Bool.and_eq_true] at hseat
      simp [refusesAbsent, hseat.1, hseat.2]
    simp [hno]
  · rw [hdata, if_neg hseat]
    refine clientMessage_lacks hrun hlacks ?_
    cases hs : seatGet a.sd (w.clientAt c).pid with
    | some seat => rfl
    | none => simpa [hs] using hseat

/-! ### _child_data -/

/-- `_child_data` looks only at the text that the type needs. -/
theorem childMessage_needed (onDone : OnDone) (a : Answers) (t : ℕ) (m : SpawnMessage) (w : World) :
    childMessage onDone a t (SpawnMessage.needed m) w = childMessage onDone a t m w := by
  rcases m with ⟨type, exit⟩
  cases type <;> rfl

variable (C) in
/-- **What `_child_data` should do** with the message `m`: a message without the text that its type
needs is dropped, or taken for one that cannot be decoded, and the daemon goes on. -/
structure ChildDataSafe (onDone : OnDone) (a : Answers) (t fd : ℕ) (m : SpawnMessage) (w : World) :
    Prop where
  reads : childMessage onDone a t (SpawnMessage.needed m) w = childMessage onDone a t m w
  refuses : SpawnMessage.lacks m = true → (childData C onDone a t fd w).ub = false ∧
    (childData C onDone a t fd w = w.modTry t SpawnTry.readPipe ∨
      childData C onDone a t fd w = forceQuit t ((w.modTry t SpawnTry.readPipe).unregisterFd fd))

/-- The text is used in every case. -/
theorem childDataSafe_iff {onDone : OnDone} {a : Answers} {t fd : ℕ} {m : SpawnMessage} {w : World}
    (hmsg : SpawnMessage.unpack C ((w.tryAt t).pipe.take MAX_MSG_SIZE) = some m) :
    ChildDataSafe C onDone a t fd m w ↔ SpawnMessage.lacks m = false := by
  constructor
  · intro h
    by_contra hlacks
    have hlacks : SpawnMessage.lacks m = true := by simpa using hlacks
    have hub := (h.refuses hlacks).1
    cases htype : m.type with
    | errorExit =>
      have hnone : m.exit = none := by simpa [SpawnMessage.lacks, htype] using hlacks
      simp [childData, hmsg, childMessage, htype, hnone] at hub
    | connect | setupDone | sessionActive => simp [SpawnMessage.lacks, htype] at hlacks
  · intro hlacks
    refine ⟨childMessage_needed onDone a t m w, fun h => ?_⟩
    rw [hlacks] at h
    cases h

/-! ### sp_client_read -/

/-- `sp_client_read` looks only at the payload that the type needs. -/
theorem handle_needed (m : ServerMessage) : handle (ServerMessage.needed m) = handle m := by
  rcases m with ⟨type, feedback, data⟩
  cases type <;> rfl

/-- **What `sp_client_read` should do** with the bytes of the message `m`: if the payload that the type
needs is absent it returns and calls no callback. -/
structure ReadSafe (S : FieldCode ServerField) (interface : Option Interface) (buf : List UInt8)
    (m : ServerMessage) : Prop where
  reads : handle (ServerMessage.needed m) = handle m
  refuses : ServerMessage.lacks m = true →
    ∃ result, spClientRead S interface buf = .returns result none

/-- The payload is used whenever the message is read at all. -/
theorem readSafe_iff {S : FieldCode ServerField} {interface : Option Interface} {buf : List UInt8}
    {m : ServerMessage} (hmsg : ServerMessage.unpack S buf = some m) :
    ReadSafe S interface buf m ↔
      (ServerMessage.lacks m = true → interfaceCheck interface = false) := by
  refine Iff.trans ⟨fun h => h.refuses, fun h => ⟨handle_needed m, h⟩⟩ ?_
  refine imp_congr_right fun hlacks => ?_
  have hbuf : ¬buf.length < 1 := by
    cases buf with
    | nil => simp [ServerMessage.unpack, ServerMessage.assemble] at hmsg
    | cons b bs => simp
  have hcrash : handle m = .crash := by
    cases htype : m.type with
    | dataUpdate =>
      have hnone : m.data = none := by simpa [ServerMessage.lacks, htype] using hlacks
      simp [handle, htype, hnone]
    | loginFeedback =>
      have hnone : m.feedback = none := by simpa [ServerMessage.lacks, htype] using hlacks
      simp [handle, htype, hnone]
    | leave => simp [ServerMessage.lacks, htype] at hlacks
  unfold spClientRead
  rw [if_neg hbuf, hmsg]
  cases interfaceCheck interface <;> simp [hcrash]

/-! ### All receivers -/

/-- **When the receivers are safe**, for every message that can be decoded. -/
theorem receivers_iff (C : FieldCode SpawnField) (S : FieldCode ServerField) :
    (∀ (a : Answers) (c fd : ℕ) (m : GreeterMessage) (w : World), a.input = .msg m → w.ub = false →
      (ClientDataSafe C a c fd m w ↔
        (GreeterMessage.lacks m = true → refusesAbsent a c m w = true))) ∧
    (∀ (onDone : OnDone) (a : Answers) (t fd : ℕ) (m : SpawnMessage) (w : World),
      SpawnMessage.unpack C ((w.tryAt t).pipe.take MAX_MSG_SIZE) = some m →
        (ChildDataSafe C onDone a t fd m w ↔ SpawnMessage.lacks m = false)) ∧
    (∀ (interface : Option Interface) (buf : List UInt8) (m : ServerMessage),
      ServerMessage.unpack S buf = some m →
        (ReadSafe S interface buf m ↔
          (ServerMessage.lacks m = true → interfaceCheck interface = false))) :=
  ⟨fun _ _ _ _ _ hinput hrun => clientDataSafe_iff hinput hrun,
    fun _ _ _ _ _ _ hmsg => childDataSafe_iff hmsg, fun _ _ _ hmsg => readSafe_iff hmsg⟩

/-- A `LOGIN_TRY` without its payload, from client 1. -/
def emptyLogin : Answers := { Answers.plain with input := .msg ⟨.loginTry, none, none⟩ }

/-- The child of the greeter of seat0 has told of its connection. -/
def childConnects : List Event := greeterStarts ++ [.childWrite 0 .connect]

/-- A client of another session is dropped, the message of the child is whole, and so is a `LEAVE`. -/
theorem receivers_refuse :
    ClientDataSafe Encoding.spawnCode { emptyLogin with sids := fun _ => none } 1 4
      ⟨.loginTry, none, none⟩ (run (step Encoding.spawnCode) (World.start false []) greeterAsks) ∧
    ChildDataSafe Encoding.spawnCode (onDone Encoding.spawnCode Answers.plain) Answers.plain 0 5
      ⟨.connect, none⟩ (run (step Encoding.spawnCode) (World.start false []) childConnects) ∧
    ReadSafe Encoding.serverCode (some ⟨true, true⟩)
      (ServerMessage.pack Encoding.serverCode ⟨.leave, none, none⟩) ⟨.leave, none, none⟩ :=
  ⟨((receivers_iff Encoding.spawnCode Encoding.serverCode).1 _ _ _ _ _ rfl (by decide)).mpr
      fun _ => by decide,
    ((receivers_iff Encoding.spawnCode Encoding.serverCode).2.1 _ _ _ _ _ _ (by decide)).mpr rfl,
    ((receivers_iff Encoding.spawnCode Encoding.serverCode).2.2 _ _ _
      (ServerMessage.unpack_pack _ _)).mpr fun h => by cases h⟩

set_option maxRecDepth 4000 in
/-- **Payloads that are used though they are absent**: that of a login of a greeter's process, the text
of a child that gives up, and the feedback of an answer. -/
theorem absent_payload_used :
    let w := run (step Encoding.spawnCode) (World.start false []) greeterAsks
    (w.ub = false ∧ (step Encoding.spawnCode w (.next emptyLogin)).ub = true ∧
      ¬ClientDataSafe Encoding.spawnCode emptyLogin 1 4 ⟨.loginTry, none, none⟩ w) ∧
    handle ⟨.loginFeedback, none, none⟩ = .crash := by
  intro w
  refine ⟨⟨by decide, by decide, fun h => ?_⟩, rfl⟩
  have hub := (h.refuses rfl).1
  have hused : (clientData Encoding.spawnCode emptyLogin 1 4 w).ub = true := by decide
  rw [hused] at hub
  cases hub

end Spawny.Protocol.Receivers
