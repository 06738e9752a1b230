import Spawny.Lib.Runs
import Spawny.Daemon.Steps
import Spawny.Protocol.Encoding

/-! # The child in pam_auth and the daemon at the other end of its pipe

The child of a try writes what the PAM modules say to its pipe, from the conversation callback
`_pam_conv`; the daemon reads in `_child_data`, at any time in between. What is left of the two for
this is a small protocol: the child's script, the bytes in the pipe, and whether the daemon still
listens.

* `childData_keepsListening`: when `_child_data` stops listening;
* `agreed_iff`: **the daemon always listens to a child that waits for its session, if and only if
  the modules said nothing.** -/

namespace Spawny.Daemon.Conversation

open Spawny.Lib.Wire Spawny.Lib.Protobuf Spawny.Lib.Runs Spawny.Protocol Spawny.Protocol.Encoding
open Spawny.Protocol.Messages Spawny.Daemon.Manager Spawny.Daemon.State Spawny.Daemon.SpawnService
open Spawny.Daemon.Greeter Spawny.Daemon.Loop Spawny.Daemon.Steps

/-! ### _pam_conv -/

/-- The styles of a PAM message; `other` is for the `default` branch. -/
inductive PamStyle
  | promptEchoOff
  | promptEchoOn
  | errorMsg
  | textInfo
  | other
  deriving DecidableEq, Repr

/-- `struct pam_message`. -/
structure PamMessage where
  style : PamStyle
  msg : String

/-- What `_pam_conv` does for one message: the response, and what it writes to the pipe. -/
def pamReply (pw : Option String) (m : PamMessage) : Option String × List ServiceMessage :=
  match m.style with
  | .promptEchoOn => (none, [])
  | .promptEchoOff => (pw, [])
  | .errorMsg => (none, [.errorExit m.msg])
  | .textInfo => (none, [.errorExit m.msg])
  | .other => (none, [])

/-- `_pam_conv`; it writes the responses to `rp[i]`, and there is only an `rp[0]`: `none` is
undefined behaviour. -/
def pamConv (pw : Option String) :
    List PamMessage → Option (List (Option String) × List ServiceMessage)
  | [] => some ([], [])
  | [m] => some ([(pamReply pw m).1], (pamReply pw m).2)
  | _ :: _ :: _ => none

/-- What the calls of `_pam_conv` write to the pipe. -/
def conversation (pw : Option String) : List (List PamMessage) → Option (List ServiceMessage)
  | [] => some []
  | call :: calls => do
    let r ← pamConv pw call
    let rest ← conversation pw calls
    some (r.2 ++ rest)

/-- What the child writes up to `wait_session_active`, if `pam_auth` succeeds. -/
def childScript (pw : Option String) (calls : List (List PamMessage)) :
    Option (List ServiceMessage) :=
  (conversation pw calls).map fun ms => .connect :: ms ++ [.setupDone]

/-! ### The two parties -/

/-- The child is on its way and has still to write `todo`, or it waits in `wait_session_active`,
or nothing of it writes to the pipe any more. -/
inductive Child
  | running (todo : List ServiceMessage)
  | waiting
  | gone
  deriving DecidableEq, Repr

/-- The child, the bytes in the pipe, whether the daemon listens to it, and whether it has activated
the session. -/
structure Talk where
  child : Child
  pipe : List UInt8
  registered : Bool
  activated : Bool
  deriving DecidableEq, Repr

/-- The child writes its next message; the session gets active; the child ends; the daemon reads,
and `session_get` answers `session`. -/
inductive TalkEvent
  | write
  | active
  | exit
  | read (session : Option String)

/-- The pipe is registered after the message. -/
def keepsListening : Option SpawnMessage → Bool
  | none => false
  | some m =>
    match m.type with
    | .connect => true
    | .setupDone => true
    | .sessionActive => false
    | .errorExit => false

/-- `_child_data`. `_force_quit` kills the child: without a session, and if the bytes are no
message. -/
def Talk.read (s : Talk) (session : Option String) : Talk :=
  let msg := SpawnMessage.unpack spawnCode (s.pipe.take MAX_MSG_SIZE)
  let s := { s with pipe := s.pipe.drop MAX_MSG_SIZE, registered := keepsListening msg }
  match msg with
  | none => { s with child := .gone }
  | some m =>
    match m.type with
    | .setupDone =>
      match session with
      | none => { s with child := .gone }
      | some _ => { s with activated := true }
    | _ => s

/-- The steps; a step that is not possible changes nothing. -/
def Talk.step (s : Talk) : TalkEvent → Talk
  | .write =>
    match s.child with
    | .running (m :: todo) =>
      { s with pipe := s.pipe ++ m.message.pack spawnCode,
               child := if todo = [] then .waiting else .running todo }
    | _ => s
  | .active =>
    match s.child with
    | .waiting =>
      { s with pipe := s.pipe ++ ServiceMessage.sessionActive.message.pack spawnCode,
               child := .gone }
    | _ => s
  | .exit => { s with child := .gone }
  | .read session =>
    -- a `read` on an empty pipe returns when the child has closed it
    if s.registered = true ∧ (s.pipe ≠ [] ∨ s.child = .gone) then s.read session else s

/-- The child has been forked. -/
def Talk.start (script : List ServiceMessage) : Talk where
  child := .running script
  pipe := []
  registered := true
  activated := false

theorem forceQuit_fds (t : ℕ) (w : World) : (forceQuit t w).fds = w.fds := by
  unfold forceQuit
  split_ifs <;> rfl

theorem sessionActivate_fds (handle : Option String) (w : World) :
    (sessionActivate handle w).fds = w.fds := by
  cases handle <;> rfl

/-- **When `_child_data` stops listening.** A message that does not end the try leaves the table of
descriptors as it is, or takes the pipe out of it. -/
theorem childData_keepsListening {C : FieldCode SpawnField} {a : Answers} {t fd : ℕ} {w : World}
    (hfd : fd = (w.tryAt t).readFd) (hmsg : ∀ m, SpawnMessage.unpack C
      ((w.tryAt t).pipe.take MAX_MSG_SIZE) = some m → m.type ≠ .sessionActive) :
    (childData C (onDone C a) a t fd w).fds =
      if keepsListening (SpawnMessage.unpack C ((w.tryAt t).pipe.take MAX_MSG_SIZE)) then w.fds
      else w.fds.unregisterFd fd := by
  have hdoes := childData_does C a t fd w
  generalize childData C (onDone C a) a t fd w = w' at hdoes
  cases hdoes with
  | undecodable h =>
    rw [h, keepsListening, forceQuit_fds]
    rfl
  | connect m h htype =>
    rw [h, keepsListening, htype]
    rfl
  | setupDone m h htype session =>
    rw [h, keepsListening, htype, sessionActivate_fds]
    split_ifs with hsession hkeep
    · rw [forceQuit_fds]
      rfl
    · exact absurd rfl hkeep
    · rfl
    · exact absurd rfl ‹_›
  | sessionActive m h htype _ _ => exact absurd htype (hmsg m h)
  | errorExit m h htype reason _ =>
    rw [h, keepsListening, htype, hfd]
    rfl
  | noReason m h htype _ =>
    rw [h, keepsListening, htype, hfd]
    rfl

/-! ### What the daemon has to do -/

/-- The daemon listens, and it has activated the session or will do so for what is in the pipe. -/
def Talk.Heard (s : Talk) : Prop :=
  s.registered = true ∧
    if s.pipe = [] then s.activated = true
    else (SpawnMessage.unpack spawnCode (s.pipe.take MAX_MSG_SIZE)).map SpawnMessage.type =
      some .setupDone

instance (s : Talk) : Decidable s.Heard := by
  unfold Talk.Heard
  infer_instance

/-- **A child that waits for its session is heard**, in every order of reads and writes. -/
def Agreed (pw : Option String) (calls : List (List PamMessage)) : Prop :=
  ∃ script, childScript pw calls = some script ∧ ∀ es : List TalkEvent,
    (run Talk.step (Talk.start script) es).child = .waiting →
      (run Talk.step (Talk.start script) es).Heard

/-- The modules only prompt, with one message in a call. -/
def Prompts (calls : List (List PamMessage)) : Prop :=
  ∀ call ∈ calls, call.length ≤ 1 ∧ ∀ m ∈ call, m.style ≠ .errorMsg ∧ m.style ≠ .textInfo

/-! ### Prompts only -/

theorem conversation_of_prompts {pw : Option String} : ∀ {calls : List (List PamMessage)},
    Prompts calls → conversation pw calls = some []
  | [], _ => rfl
  | call :: calls, h => by
    obtain ⟨hlen, hstyle⟩ := h call List.mem_cons_self
    have ih : conversation pw calls = some [] :=
      conversation_of_prompts fun c hc => h c (List.mem_cons_of_mem _ hc)
    have hcall : ∃ rs, pamConv pw call = some (rs, []) := by
      match call, hlen with
      | [], _ => exact ⟨[], rfl⟩
      | [m], _ =>
        obtain ⟨herr, hinfo⟩ := hstyle m List.mem_cons_self
        refine ⟨[(pamReply pw m).1], ?_⟩
        rw [pamConv]
        unfold pamReply
        cases hs : m.style with
        | errorMsg => exact absurd hs herr
        | textInfo => exact absurd hs hinfo
        | promptEchoOff => rfl
        | promptEchoOn => rfl
        | other => rfl
    obtain ⟨rs, hrs⟩ := hcall
    rw [conversation, hrs, ih]
    rfl

/-- What can be in the pipe of a child that has only `CONNECT` and `SETUP_DONE` to write. -/
inductive Quiet : Talk → Prop
  | begins : Quiet (.start [.connect, .setupDone])
  | connected (pipe : List UInt8)
    (hpipe : pipe = [] ∨ pipe = ServiceMessage.connect.message.pack spawnCode) :
    Quiet ⟨.running [.setupDone], pipe, true, false⟩
  | setUp (pipe : List UInt8)
    (hpipe : pipe = ServiceMessage.setupDone.message.pack spawnCode ∨
      pipe = ServiceMessage.connect.message.pack spawnCode ++
        ServiceMessage.setupDone.message.pack spawnCode) :
    Quiet ⟨.waiting, pipe, true, false⟩
  | active : Quiet ⟨.waiting, [], true, true⟩
  | finished (s : Talk) (h : s.child = .gone) : Quiet s

theorem Quiet.heard {s : Talk} (h : Quiet s) (hwait : s.child = .waiting) : s.Heard := by
  cases h with
  | begins => cases hwait
  | connected _ _ => cases hwait
  | setUp pipe hpipe => rcases hpipe with rfl | rfl <;> decide
  | active => decide
  | finished _ h =>
    rw [h] at hwait
    cases hwait

theorem Talk.child_read_gone {s : Talk} (h : s.child = .gone) (session : Option String) :
    (s.read session).child = .gone := by
  unfold Talk.read
  dsimp only
  split
  · rfl
  · split
    · cases session with
      | none => rfl
      | some _ => exact h
    · exact h

theorem Quiet.step {s : Talk} (h : Quiet s) (e : TalkEvent) : Quiet (s.step e) := by
  cases h with
  | begins =>
    cases e with
    | write => exact .connected _ (Or.inr rfl)
    | active => exact .begins
    | exit => exact .finished _ rfl
    | read session => exact .begins
  | connected pipe hpipe =>
    cases e with
    | write =>
      rcases hpipe with rfl | rfl
      · exact .setUp _ (Or.inl rfl)
      · exact .setUp _ (Or.inr rfl)
    | active => exact .connected _ hpipe
    | exit => exact .finished _ rfl
    | read session =>
      rcases hpipe with rfl | rfl
      · exact .connected _ (Or.inl rfl)
      · exact .connected _ (Or.inl rfl)
  | setUp pipe hpipe =>
    cases e with
    | write => exact .setUp _ hpipe
    | active => exact .finished _ rfl
    | exit => exact .finished _ rfl
    | read session =>
      cases session with
      | none => rcases hpipe with rfl | rfl <;> exact .finished _ rfl
      | some _ => rcases hpipe with rfl | rfl <;> exact .active
  | active =>
    cases e with
    | write => exact .active
    | active => exact .finished _ rfl
    | exit => exact .finished _ rfl
    | read session => exact .active
  | finished _ h =>
    refine .finished _ ?_
    cases e with
    | write => simp only [Talk.step, h]
    | active => simp only [Talk.step, h]
    | exit => rfl
    | read session =>
      dsimp only [Talk.step]
      split_ifs
      · exact Talk.child_read_gone h session
      · exact h

/-! ### Anything else -/

theorem errorExit_of_conversation {pw : Option String} :
    ∀ {calls : List (List PamMessage)} {ms : List ServiceMessage}, conversation pw calls = some ms →
      Prompts calls ∨ ∃ reason rest, ms = .errorExit reason :: rest
  | [], _, _ => Or.inl fun _ hcall => absurd hcall List.not_mem_nil
  | call :: calls, ms, h => by
    obtain ⟨r, hr, h⟩ := Option.bind_eq_some_iff.mp h
    obtain ⟨rest, hrest, h⟩ := Option.bind_eq_some_iff.mp h
    obtain rfl : r.2 ++ rest = ms := Option.some.inj h
    have ih := errorExit_of_conversation hrest
    -- a call that writes nothing leaves it to the others
    have hquiet (hlen : call.length ≤ 1)
        (hstyle : ∀ m ∈ call, m.style ≠ .errorMsg ∧ m.style ≠ .textInfo) (hr : r.2 = []) :
        Prompts (call :: calls) ∨ ∃ reason rest', r.2 ++ rest = .errorExit reason :: rest' := by
      rw [hr, List.nil_append]
      refine ih.imp_left fun hprompts c hc => ?_
      rcases List.mem_cons.mp hc with rfl | hc
      · exact ⟨hlen, hstyle⟩
      · exact hprompts c hc
    match call, hr with
    | [], hr =>
      obtain rfl := Option.some.inj hr
      exact hquiet (Nat.zero_le 1) (fun _ hm => absurd hm List.not_mem_nil) rfl
    | [m], hr =>
      obtain rfl := Option.some.inj hr
      cases hs : m.style with
      | errorMsg => exact Or.inr ⟨m.msg, rest, by simp only [pamReply, hs, List.singleton_append]⟩
      | textInfo => exact Or.inr ⟨m.msg, rest, by simp only [pamReply, hs, List.singleton_append]⟩
      | promptEchoOff => exact hquiet le_rfl (by simp [hs]) (by simp only [pamReply, hs])
      | promptEchoOn => exact hquiet le_rfl (by simp [hs]) (by simp only [pamReply, hs])
      | other => exact hquiet le_rfl (by simp [hs]) (by simp only [pamReply, hs])

theorem Talk.step_write {s : Talk} {m : ServiceMessage} {todo : List ServiceMessage}
    (h : s.child = .running (m :: todo)) (hne : todo ≠ []) :
    s.step .write =
      { s with pipe := s.pipe ++ m.message.pack spawnCode, child := .running todo } := by
  simp only [Talk.step, h, hne, if_false]

theorem Talk.step_read {s : Talk} (hreg : s.registered = true) (hpipe : s.pipe ≠ [])
    (session : Option String) : s.step (.read session) = s.read session :=
  if_pos ⟨hreg, Or.inl hpipe⟩

theorem pack_ne_nil (m : SpawnMessage) : m.pack spawnCode ≠ [] := by
  rw [SpawnMessage.pack, Ne, FieldCode.encode_eq_nil]
  exact List.cons_ne_nil _ _

theorem run_writes : ∀ (todo : List ServiceMessage) (s : Talk), s.child = .running todo →
    todo ≠ [] → run Talk.step s (List.replicate todo.length .write) =
      { s with child := .waiting,
               pipe := s.pipe ++ todo.flatMap fun m => m.message.pack spawnCode }
  | [], _, _, hne => absurd rfl hne
  | [m], s, h, _ => by
    rw [List.length_singleton, List.replicate_one, run_cons, run_nil, List.flatMap_singleton]
    simp only [Talk.step, h, if_true]
  | m :: m' :: todo, s, h, _ => by
    have hne : m' :: todo ≠ [] := List.cons_ne_nil m' todo
    have hstep := Talk.step_write h hne
    have ih := run_writes (m' :: todo) (s.step .write) (by rw [hstep]) hne
    rw [List.length_cons, List.replicate_succ, run_cons, ih, hstep]
    simp only [List.flatMap_cons, List.append_assoc]

/-- The message with the text that ends the daemon's interest. -/
theorem Talk.read_errorExit (child : Child) {reason : String}
    (hlen : ((ServiceMessage.errorExit reason).message.pack spawnCode).length ≤ MAX_MSG_SIZE)
    (session : Option String) :
    (Talk.mk child ((ServiceMessage.errorExit reason).message.pack spawnCode) true false).read
      session = ⟨child, [], false, false⟩ := by
  unfold Talk.read
  dsimp only
  rw [List.take_of_length_le hlen, List.drop_of_length_le hlen, SpawnMessage.unpack_pack]
  rfl

/-- A text that is too long for the buffer of `_child_data` is cut, and the bytes are no message. -/
theorem unpack_errorExit_cut {reason : String}
    (hlen : MAX_MSG_SIZE < ((ServiceMessage.errorExit reason).message.pack spawnCode).length)
    (rest : List UInt8) :
    SpawnMessage.unpack spawnCode
      (((ServiceMessage.errorExit reason).message.pack spawnCode ++ rest).take MAX_MSG_SIZE) =
        none := by
  rw [List.take_append_of_le_length hlen.le]
  have hsplit : (ServiceMessage.errorExit reason).message.pack spawnCode =
      spawnCode.encode [.type .errorExit] ++ spawnCode.enc (.exit reason) := by
    rw [SpawnMessage.pack]
    simp [SpawnMessage.fields, ServiceMessage.message]
  have htype : (spawnCode.encode [.type .errorExit]).length = 2 := by decide
  have hmax : 2 < MAX_MSG_SIZE := by decide
  rw [hsplit] at hlen ⊢
  rw [List.length_append, htype] at hlen
  rw [List.take_append, List.take_of_length_le (by rw [htype]; decide), htype, SpawnMessage.unpack,
    spawnCode.decode_truncated _ (.exit reason) (List.take_append_drop (MAX_MSG_SIZE - 2) _).symm]
  · rfl
  · refine List.ne_nil_of_length_pos ?_
    rw [List.length_take]
    omega
  · refine List.ne_nil_of_length_pos ?_
    rw [List.length_drop]
    omega

/-- **One text is enough.** The daemon reads it before the child writes the next message. -/
theorem not_heard_of_errorExit (reason : String) (rest : List ServiceMessage) :
    ∃ es : List TalkEvent,
      (run Talk.step (Talk.start (.connect :: (.errorExit reason :: rest) ++ [.setupDone]))
        es).child = .waiting ∧
      ¬(run Talk.step (Talk.start (.connect :: (.errorExit reason :: rest) ++ [.setupDone]))
        es).Heard := by
  have hne : rest ++ [ServiceMessage.setupDone] ≠ [] := by simp
  have hconnect :
      run Talk.step (Talk.start (.connect :: (.errorExit reason :: rest) ++ [.setupDone]))
          [.write, .read none] =
        ⟨.running (.errorExit reason :: (rest ++ [.setupDone])), [], true, false⟩ := rfl
  by_cases hlen : ((ServiceMessage.errorExit reason).message.pack spawnCode).length ≤ MAX_MSG_SIZE
  · refine ⟨[.write, .read none] ++ ([.write, .read none] ++
      List.replicate (rest ++ [ServiceMessage.setupDone]).length .write), ?_⟩
    have hread :
        run Talk.step ⟨.running (.errorExit reason :: (rest ++ [.setupDone])), [], true, false⟩
          [.write, .read none] = ⟨.running (rest ++ [.setupDone]), [], false, false⟩ := by
      rw [run_cons, run_cons, run_nil, Talk.step_write rfl hne, Talk.step_read rfl (pack_ne_nil _)]
      exact Talk.read_errorExit _ hlen none
    rw [run_append, hconnect, run_append, hread, run_writes _ _ rfl hne]
    exact ⟨rfl, fun h => Bool.false_ne_true h.1⟩
  · refine ⟨[.write, .read none] ++
      List.replicate (.errorExit reason :: (rest ++ [ServiceMessage.setupDone])).length .write, ?_⟩
    rw [run_append, hconnect, run_writes _ _ rfl (List.cons_ne_nil _ _)]
    refine ⟨rfl, fun h => ?_⟩
    have hheard := h.2
    dsimp only at hheard
    rw [List.nil_append, List.flatMap_cons, unpack_errorExit_cut (not_le.mp hlen), if_neg] at hheard
    · cases hheard
    · exact List.append_ne_nil_of_left_ne_nil (pack_ne_nil _) _

/-- **When the parties agree**: the modules only prompt, with one message at a time. -/
theorem agreed_iff (pw : Option String) (calls : List (List PamMessage)) :
    Agreed pw calls ↔ Prompts calls := by
  constructor
  · rintro ⟨script, hscript, hall⟩
    obtain ⟨ms, hms, rfl⟩ := Option.map_eq_some_iff.mp hscript
    rcases errorExit_of_conversation hms with hprompts | ⟨reason, rest, rfl⟩
    · exact hprompts
    · obtain ⟨es, hwait, hnot⟩ := not_heard_of_errorExit reason rest
      exact absurd (hall es hwait) hnot
  · intro hprompts
    refine ⟨[.connect, .setupDone], by rw [childScript, conversation_of_prompts hprompts]; rfl, ?_⟩
    intro es hwait
    have hquiet : Quiet (run Talk.step (Talk.start [.connect, .setupDone]) es) :=
      run_induction (fun _ e h => h.step e) es _ .begins
    exact hquiet.heard hwait

/-- A module that greets the user. -/
theorem not_agreed_textInfo : ¬∀ (pw : Option String) (calls : List (List PamMessage)),
    Agreed pw calls := by
  intro h
  obtain ⟨script, hscript, hall⟩ := h none [[⟨.textInfo, "Last login: Monday"⟩]]
  obtain rfl := Option.some.inj hscript
  obtain ⟨es, hwait, hnot⟩ := not_heard_of_errorExit "Last login: Monday" []
  exact hnot (hall es hwait)

end Spawny.Daemon.Conversation
