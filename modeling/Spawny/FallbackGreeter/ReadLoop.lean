import Spawny.Daemon.Sockets
import Spawny.Daemon.TrueAnswers
import Spawny.FallbackGreeter.Main

/-! # sp-fallback-greeter/main.c: the loop over the messages

The greeter prompts when it gets the data for the first time, and again for each answer without
success. A message that is read takes it through one round of the loop of `main`.

* `promptRun_sends`: a prompt that returns 1 has written one message, and one with 0 none;
* `readLoop`: the loop of `main`, with what its reads return;
* `exitStatus_readLoop`: the greeter always ends with a failure;
* `greeter_requests`: **one request for each prompt, and a prompt for each answer without success**,
  whatever the daemon says in a run;
* `greeter_waits`: **the greeter waits for the answer** to a request before it writes the next one. -/

namespace Spawny.FallbackGreeter.ReadLoop

open Spawny.Lib.Wire Spawny.Lib.Loops Spawny.Lib.Stdio Spawny.Lib.Runs Spawny.Protocol.Messages
open Spawny.Protocol Spawny.Client.Read Spawny.FallbackGreeter.Main
open Spawny.UserDb.Records (Str)
open Spawny.Daemon.Farewells (Talk IsReply Farewell leaveMessage received talks_run)
open Spawny.Daemon.LockoutCalls (loggedIn)
open Spawny.Protocol.Requests (GreeterField greeterCode)
open Spawny.Daemon.Turns (isAnswer answers)
open Spawny.Daemon.Sockets (Transport Net NetEvent Waits sockets net_world)

variable {ctx : Context} {getpass : Str → Str × Str} {write : ℕ → Bool}

/-! ### What is written -/

/-- The id in the message of a call, if the index is valid. -/
def idOf : Call → Option String
  | .login _ _ _ id => id
  | .sessionActivate _ id => id

variable (write) in
/-- The calls whose message is written. -/
def requests (calls : List Call) : List Call :=
  (calls.zipIdx.filter fun p => (idOf p.1).isSome && write p.2).map Prod.fst

theorem requests_append (calls : List Call) (c : Call) : requests write (calls ++ [c]) =
    requests write calls ++ if (idOf c).isSome && write calls.length then [c] else [] := by
  unfold requests
  rw [List.zipIdx_append, List.filter_append, List.map_append, List.zipIdx_singleton, Nat.zero_add,
    List.filter_singleton]
  cases (idOf c).isSome && write calls.length <;> rfl

/-- One message more is written. -/
def Sends (write : ℕ → Bool) (calls calls' : List Call) : Prop :=
  ∃ c, requests write calls' = requests write calls ++ [c]

/-! ### One prompt -/

section Rounds

variable {σ ρ : Type} (worldOf : σ → World)

/-- What a round of a loop has written: nothing if it goes on, one message if it ends. -/
def RoundSends (write : ℕ → Bool) (calls : List Call) : σ ⊕ World → Prop
  | .inl s => requests write (worldOf s).calls = requests write calls
  | .inr w' => Sends write calls w'.calls

/-- A round calls nothing. -/
def RoundQuiet (resultOf : ρ → World) (calls : List Call) : σ ⊕ ρ → Prop
  | .inl s => (worldOf s).calls = calls
  | .inr r => (resultOf r).calls = calls

variable {worldOf}

/-- A round ends with a call that succeeds. -/
theorem roundSends_call {w : World} {success : Bool} {s : σ} {c : Call}
    (hs : (worldOf s).calls = w.calls ++ [c])
    (h : success = ((idOf c).isSome && write w.calls.length)) :
    RoundSends worldOf write w.calls (if success then .inr (w.call c) else .inl s) := by
  have hrequests : requests write (w.call c).calls = requests write w.calls ++
      if (idOf c).isSome && write w.calls.length then [c] else [] := requests_append w.calls c
  rw [← h] at hrequests
  cases success
  · exact (congrArg (requests write) hs).trans (hrequests.trans (List.append_nil _))
  · exact ⟨c, hrequests⟩

/-- **A loop whose rounds write nothing until it ends** writes one message. -/
theorem loop_sends {round : σ → Option (σ ⊕ World)}
    (hround : ∀ s x, round s = some x → RoundSends worldOf write (worldOf s).calls x) {s : σ} {n : ℕ}
    {w' : World} (h : loop round s n = some w') : Sends write (worldOf s).calls w'.calls := by
  obtain ⟨s', hs', hlast⟩ := exists_last
    (I := fun s' => requests write (worldOf s').calls = requests write (worldOf s).calls)
    (fun s₁ s₂ h₁ hnext => (hround s₁ _ hnext).trans h₁) rfl h
  obtain ⟨c, hc⟩ := hround s' _ hlast
  exact ⟨c, by rw [hc, hs']⟩

theorem loop_quiet {resultOf : ρ → World} {round : σ → Option (σ ⊕ ρ)}
    (hround : ∀ s x, round s = some x → RoundQuiet worldOf resultOf (worldOf s).calls x) {s : σ}
    {n : ℕ} {r : ρ} (h : loop round s n = some r) : (resultOf r).calls = (worldOf s).calls := by
  obtain ⟨s', hs', hlast⟩ := exists_last (I := fun s' => (worldOf s').calls = (worldOf s).calls)
    (fun s₁ s₂ h₁ hnext => (hround s₁ _ hnext).trans h₁) rfl h
  have hr : (resultOf r).calls = (worldOf s').calls := hround s' _ hlast
  exact hr.trans hs'

end Rounds

section Template

variable {user : Client.Read.User} {default : Template} {username password : Str}

theorem templateChosen_sends {text : Str} {w : World} {x : (Option Str × World) ⊕ World}
    (h : templateChosen ctx write user default username password text w = some x) :
    RoundSends Prod.snd write w.calls x := by
  unfold templateChosen at h
  split at h
  · obtain rfl := Option.some.inj h
    rfl
  · rw [Option.ite_none_right_eq_some] at h
    obtain rfl := Option.some.inj h.2
    exact roundSends_call rfl rfl
  · obtain rfl := Option.some.inj h
    rfl

theorem templateRound_sends (s : Option Str × World) (x : (Option Str × World) ⊕ World)
    (h : templateRound ctx write user default username password s = some x) :
    RoundSends Prod.snd write s.2.calls x := by
  obtain ⟨template, w⟩ := s
  simp only [templateRound] at h
  split at h
  · obtain ⟨text, -, h⟩ := Option.bind_eq_some_iff.mp h
    have hsends := templateChosen_sends h
    exact hsends
  · have hsends := templateChosen_sends h
    exact hsends

end Template

theorem findUser_quiet {username : Option Str} {w : World} {x : (Option Str × World) ⊕ Entered}
    (h : findUser ctx username w = some x) : RoundQuiet Prod.snd Entered.world w.calls x := by
  unfold findUser at h
  split at h
  · rw [Option.ite_none_right_eq_some] at h
    obtain rfl := Option.some.inj h.2
    rfl
  · split at h <;> obtain rfl := Option.some.inj h <;> rfl

theorem userRound_quiet (s : Option Str × World) (x : (Option Str × World) ⊕ Entered)
    (h : userRound ctx s = some x) : RoundQuiet Prod.snd Entered.world s.2.calls x := by
  obtain ⟨username, w⟩ := s
  simp only [userRound] at h
  split at h
  · have hquiet := findUser_quiet h
    exact hquiet
  · rw [Option.ite_none_right_eq_some] at h
    have hquiet := findUser_quiet h.2
    exact hquiet

theorem login_sends {w w' : World} {fuel : ℕ} (h : login ctx getpass write w fuel = some w') :
    Sends write w.calls w'.calls := by
  obtain ⟨e, he, h⟩ := Option.bind_eq_some_iff.mp h
  have hcalls : e.world.calls = w.calls := loop_quiet userRound_quiet he
  dsimp only at h
  split at h
  · cases h
  · obtain ⟨c, hc⟩ := loop_sends templateRound_sends h
    exact ⟨c, by rw [hc, ← hcalls]; rfl⟩

theorem activate_sends (session : ℤ) (w : World) : RoundSends id write w.calls
    (if (spClientSessionActivate ctx write session w).1
      then .inr (spClientSessionActivate ctx write session w).2
      else .inl (spClientSessionActivate ctx write session w).2) :=
  roundSends_call rfl rfl

theorem sessionRound_sends (w : World) (x : World ⊕ World)
    (h : sessionRound ctx write w = some x) : RoundSends id write w.calls x := by
  unfold sessionRound at h
  split at h
  · cases h
  · next line input _ =>
    dsimp only at h
    rw [Option.ite_none_left_eq_some, Option.ite_none_right_eq_some] at h
    obtain rfl := Option.some.inj h.2.2
    exact activate_sends _ (w.rest input)

theorem listsessions_sends {w w' : World} {fuel : ℕ}
    (h : listsessions ctx write w fuel = some w') : Sends write w.calls w'.calls := by
  have hsends := loop_sends sessionRound_sends h
  exact hsends

theorem actionRound_quiet (s : UInt8 × World) (x : (UInt8 × World) ⊕ (Action × World))
    (h : actionRound s = some x) : RoundQuiet Prod.snd Prod.snd s.2.calls x := by
  obtain ⟨c, w⟩ := s
  simp only [actionRound] at h
  split at h
  · obtain rfl := Option.some.inj h
    rfl
  · have hcalls : (w.print (if c = 0 then [] else [.invalidInput c])).calls = w.calls := rfl
    generalize w.print (if c = 0 then [] else [.invalidInput c]) = w' at h hcalls
    split_ifs at h <;> obtain rfl := Option.some.inj h <;> exact hcalls

/-- **A prompt** that returns 1 has written one message, and one that returns 0 none. -/
theorem promptRun_sends {w : World} {fuel : ℕ} {r : ℕ × World}
    (h : promptRun ctx getpass write w fuel = some r) :
    (r.1 = 0 ∧ r.2.calls = w.calls) ∨ (r.1 = 1 ∧ Sends write w.calls r.2.calls) := by
  obtain ⟨a, ha, h⟩ := Option.bind_eq_some_iff.mp h
  have hcalls : a.2.calls = w.calls := loop_quiet actionRound_quiet ha
  rw [← hcalls]
  unfold perform at h
  split at h
  · obtain rfl := Option.some.inj h
    exact Or.inl ⟨rfl, rfl⟩
  · obtain ⟨w', hw', rfl⟩ := Option.map_eq_some_iff.mp h
    exact Or.inr ⟨rfl, login_sends hw'⟩
  · obtain ⟨w', hw', rfl⟩ := Option.map_eq_some_iff.mp h
    exact Or.inr ⟨rfl, listsessions_sends hw'⟩

/-! ### main -/

/-- The greeter between two reads, with the results of the prompts so far. -/
structure Greeter where
  prompted : Bool
  ctx : Context
  world : World
  prompts : List ℕ
  deriving DecidableEq, Repr

/-- The arrays of the library are empty. -/
def Greeter.start (w : World) : Greeter := ⟨false, ⟨[], [], [], [], []⟩, w, []⟩

variable (S : FieldCode ServerField) (getpass : Str → Str × Str) (write : ℕ → Bool)

/-- A call of `prompt_run`. -/
def prompt (s : Greeter) (fuel : ℕ) : Option Greeter :=
  (promptRun s.ctx getpass write s.world fuel).map fun r =>
    { s with world := r.2, prompts := s.prompts ++ [r.1] }

/-- `_data_cb`. -/
def dataCb (s : Greeter) (fuel : ℕ) : Option Greeter :=
  if s.prompted then some s
  else (prompt getpass write s fuel).map fun s => { s with prompted := true }

/-- `_login_cb`. -/
def loginCb (success : Bool) (s : Greeter) (fuel : ℕ) : Option Greeter :=
  if success then some s else prompt getpass write s fuel

/-- The callbacks, which `sp_client_read` calls with its arrays filled. -/
def callback (cb : Option Callback) (s : Greeter) (fuel : ℕ) : Option Greeter :=
  match cb with
  | none => some s
  | some (.data ctx) => dataCb getpass write { s with ctx := ctx } fuel
  | some (.feedback success _) => loginCb getpass write success s fuel

/-- `interface`. -/
def interface : Option Interface := some ⟨true, true⟩

/-- The loop of `main`, where the reads return `bufs`: the result it ends with, or `none` if it waits for
the next message. -/
def readLoop : List (List UInt8) → Greeter → ℕ → Option (Greeter × Option ReadResult)
  | [], s, _ => some (s, none)
  | buf :: bufs, s, fuel =>
    match spClientRead S interface buf with
    | .crash => none
    | .returns res cb =>
      (callback getpass write cb s fuel).bind fun s =>
        if res = .success then readLoop bufs s fuel else some (s, some res)

/-- What `main` returns behind its loop. -/
def exitStatus (res : ReadResult) : ℕ := if res = .success then 0 else 1

variable {S getpass write} in
/-- **`main` never returns `EXIT_SUCCESS`**, a login that succeeded or not. -/
theorem exitStatus_readLoop {bufs : List (List UInt8)} {s s' : Greeter} {fuel : ℕ} {res : ReadResult}
    (h : readLoop S getpass write bufs s fuel = some (s', some res)) : exitStatus res = 1 := by
  induction bufs generalizing s with
  | nil => cases h
  | cons buf bufs ih =>
    rw [readLoop] at h
    split at h
    · cases h
    · obtain ⟨s₁, -, h⟩ := Option.bind_eq_some_iff.mp h
      split_ifs at h with hsuccess
      · exact ih h
      · obtain ⟨-, hres⟩ := Prod.mk.inj (Option.some.inj h)
        rw [← Option.some.inj hres]
        exact if_neg hsuccess

/-! ### The prompts that are due -/

/-- The messages for which there is a prompt: the first data, and each answer without success. -/
def due (prompted : Bool) (ms : List ServerMessage) : ℕ :=
  (if !prompted && ms.any (fun m => m.type == .dataUpdate) then 1 else 0) +
    ms.countP fun m => m.feedback.any fun fb => !fb.success

theorem due_data (prompted : Bool) (d : Data) (ms : List ServerMessage) :
    due prompted (⟨.dataUpdate, none, some d⟩ :: ms) = (if prompted then 0 else 1) + due true ms := by
  cases prompted <;> simp [due]

theorem due_refused (prompted : Bool) (text : String) (ms : List ServerMessage) :
    due prompted (⟨.loginFeedback, some ⟨false, text⟩, none⟩ :: ms) = 1 + due prompted ms := by
  simp [due]
  omega

theorem due_loggedIn (prompted : Bool) (ms : List ServerMessage) :
    due prompted (loggedIn :: ms) = due prompted ms := by
  simp [due, loggedIn]

theorem due_leave (prompted : Bool) (ms : List ServerMessage) :
    due prompted (ms ++ [leaveMessage]) = due prompted ms := by
  simp [due, leaveMessage]

variable {S getpass write}

/-- **Progress**: there were `n` prompts, and each that returned 1 has written one message. -/
def Progress (write : ℕ → Bool) (n : ℕ) (s s' : Greeter) : Prop :=
  ∃ rs, s'.prompts = s.prompts ++ rs ∧ rs.length = n ∧ (∀ r ∈ rs, r = 0 ∨ r = 1) ∧
    (requests write s'.world.calls).length = (requests write s.world.calls).length + rs.count 1

theorem Progress.refl (s : Greeter) : Progress write 0 s s :=
  ⟨[], (List.append_nil _).symm, rfl, fun _ h => absurd h List.not_mem_nil, rfl⟩

theorem Progress.trans {n m : ℕ} {s s' s'' : Greeter} (h : Progress write n s s')
    (h' : Progress write m s' s'') : Progress write (n + m) s s'' := by
  obtain ⟨rs, hprompts, hlength, hrs, hcount⟩ := h
  obtain ⟨rs', hprompts', hlength', hrs', hcount'⟩ := h'
  refine ⟨rs ++ rs', by rw [hprompts', hprompts, List.append_assoc], ?_, ?_, ?_⟩
  · rw [List.length_append, hlength, hlength']
  · exact fun r hr => (List.mem_append.mp hr).elim (hrs r) (hrs' r)
  · rw [hcount', hcount, List.count_append, Nat.add_assoc]

theorem prompt_progress {s s' : Greeter} {fuel : ℕ} (h : prompt getpass write s fuel = some s') :
    Progress write 1 s s' ∧ s'.prompted = s.prompted := by
  obtain ⟨r, hr, rfl⟩ := Option.map_eq_some_iff.mp h
  refine ⟨⟨[r.1], rfl, rfl, ?_, ?_⟩, rfl⟩
  · rcases promptRun_sends hr with ⟨hzero, -⟩ | ⟨hone, -⟩ <;> simp [*]
  · rcases promptRun_sends hr with ⟨hzero, hcalls⟩ | ⟨hone, c, hc⟩
    · rw [hzero]
      exact congrArg (fun calls => (requests write calls).length) hcalls
    · rw [hone]
      exact (congrArg List.length hc).trans List.length_append

theorem dataCb_progress {s s' : Greeter} {fuel : ℕ} (h : dataCb getpass write s fuel = some s') :
    Progress write (if s.prompted then 0 else 1) s s' ∧ s'.prompted = true := by
  unfold dataCb at h
  split_ifs at h with hprompted
  · obtain rfl := Option.some.inj h
    rw [if_pos hprompted]
    exact ⟨Progress.refl s, hprompted⟩
  · obtain ⟨s₁, hs₁, rfl⟩ := Option.map_eq_some_iff.mp h
    rw [if_neg hprompted]
    exact ⟨(prompt_progress hs₁).1, rfl⟩

/-! ### A talk with the daemon -/

/-- A message that is read on its own. -/
theorem readLoop_cons (m : DaemonMessage) (bufs : List (List UInt8)) (s : Greeter) (fuel : ℕ) :
    readLoop S getpass write (m.bytes S :: bufs) s fuel =
      match m.delivery with
      | .crash => none
      | .returns res cb =>
        (callback getpass write cb s fuel).bind fun s =>
          if res = .success then readLoop S getpass write bufs s fuel else some (s, some res) := by
  have hi : interfaceCheck interface = true := rfl
  rw [readLoop, spClientRead_bytes hi]

/-- **The greeter goes on** behind each message that is no `LEAVE`, and prompts as it has to. -/
theorem readLoop_front {front : List ServerMessage}
    (hfront : ∀ m ∈ front, IsReply m ∨ m = loggedIn) (last : List ServerMessage) {s : Greeter}
    {fuel : ℕ} {r : Greeter × Option ReadResult}
    (h : readLoop S getpass write ((front ++ last).map (ServerMessage.pack S)) s fuel = some r) :
    ∃ s', Progress write (due s.prompted front) s s' ∧
      readLoop S getpass write (last.map (ServerMessage.pack S)) s' fuel = some r := by
  induction front generalizing s with
  | nil =>
    refine ⟨s, ?_, h⟩
    have hdue : due s.prompted [] = 0 := by simp [due]
    rw [hdue]
    exact Progress.refl s
  | cons m front ih =>
    have hrest := fun m' hm' => hfront m' (List.mem_cons_of_mem m hm')
    rw [List.cons_append, List.map_cons] at h
    rcases hfront m List.mem_cons_self with hreply | rfl
    · cases hreply with
      | data d =>
        have hcons := (readLoop_cons (.dataUpdate d) _ s fuel).symm.trans h
        obtain ⟨s₁, hs₁, h₁⟩ := Option.bind_eq_some_iff.mp hcons
        obtain ⟨hprogress, hprompted⟩ := dataCb_progress hs₁
        obtain ⟨s', hprogress', h'⟩ := ih hrest h₁
        rw [hprompted] at hprogress'
        refine ⟨s', ?_, h'⟩
        rw [due_data]
        exact Progress.trans hprogress hprogress'
      | refused text =>
        have hcons := (readLoop_cons (.loginFeedback ⟨false, text⟩) _ s fuel).symm.trans h
        obtain ⟨s₁, hs₁, h₁⟩ := Option.bind_eq_some_iff.mp hcons
        obtain ⟨hprogress, hprompted⟩ := prompt_progress hs₁
        obtain ⟨s', hprogress', h'⟩ := ih hrest h₁
        rw [hprompted] at hprogress'
        refine ⟨s', ?_, h'⟩
        rw [due_refused]
        exact hprogress.trans hprogress'
    · have hcons := (readLoop_cons (.loginFeedback ⟨true, "You are logged in!"⟩) _ s fuel).symm.trans h
      obtain ⟨s₁, hs₁, h₁⟩ := Option.bind_eq_some_iff.mp hcons
      obtain rfl := Option.some.inj hs₁
      obtain ⟨s', hprogress', h'⟩ := ih hrest h₁
      refine ⟨s', ?_, h'⟩
      rw [due_loggedIn]
      exact hprogress'

/-- What is read of a talk: messages of which none is a `LEAVE`, and then perhaps one. -/
theorem exists_front {ms talk : List ServerMessage} (htalk : Talk talk) (h : ms <+: talk) :
    ∃ front last, ms = front ++ last ∧ (∀ m ∈ front, IsReply m ∨ m = loggedIn) ∧
      (last = [] ∨ last = [leaveMessage]) := by
  have hfront : ∃ front last, talk = front ++ last ∧ (∀ m ∈ front, IsReply m ∨ m = loggedIn) ∧
      (last = [] ∨ last = [leaveMessage]) := by
    obtain ⟨replies, rest, rfl, hreplies, hrest⟩ := htalk
    rcases hrest with rfl | (_ | _)
    · exact ⟨replies, [], rfl, fun m hm => Or.inl (hreplies m hm), Or.inl rfl⟩
    · exact ⟨replies, _, rfl, fun m hm => Or.inl (hreplies m hm), Or.inr rfl⟩
    · refine ⟨replies ++ [loggedIn], [leaveMessage], by simp, fun m hm => ?_, Or.inr rfl⟩
      rcases List.mem_append.mp hm with hm | hm
      · exact Or.inl (hreplies m hm)
      · exact Or.inr (List.mem_singleton.mp hm)
  obtain ⟨front, last, rfl, hfront, hlast⟩ := hfront
  have hpart : ms <+: front → ∃ front last, ms = front ++ last ∧
      (∀ m ∈ front, IsReply m ∨ m = loggedIn) ∧ (last = [] ∨ last = [leaveMessage]) := fun h =>
    ⟨ms, [], (List.append_nil ms).symm, fun m hm => hfront m (h.subset hm), Or.inl rfl⟩
  rcases hlast with rfl | rfl
  · rw [List.append_nil] at h
    exact hpart h
  · rcases List.prefix_concat_iff.mp h with rfl | h
    · exact ⟨front, [leaveMessage], rfl, hfront, Or.inr rfl⟩
    · exact hpart h

theorem leave_notMem {front : List ServerMessage}
    (hfront : ∀ m ∈ front, IsReply m ∨ m = loggedIn) : leaveMessage ∉ front := by
  intro hm
  rcases hfront _ hm with hreply | hlogin
  · cases hreply
  · cases hlogin

/-- What a greeter has done that has read the front of a talk. -/
theorem readLoop_talk {ms talk : List ServerMessage} (htalk : Talk talk) (hread : ms <+: talk) {w : World}
    {fuel : ℕ} {s : Greeter} {res : Option ReadResult}
    (h : readLoop S getpass write (ms.map (ServerMessage.pack S)) (.start w) fuel = some (s, res)) :
    Progress write (due false ms) (.start w) s ∧
      res = if leaveMessage ∈ ms then some .exit else none := by
  obtain ⟨front, last, rfl, hfront, hlast⟩ := exists_front htalk hread
  obtain ⟨s', hprogress, h'⟩ := readLoop_front hfront last h
  rcases hlast with rfl | rfl
  · obtain ⟨rfl, rfl⟩ := Prod.mk.inj (Option.some.inj h')
    rw [List.append_nil, if_neg (leave_notMem hfront)]
    exact ⟨hprogress, rfl⟩
  · have hleave := (readLoop_cons .leave [] s' fuel).symm.trans h'
    obtain ⟨rfl, rfl⟩ := Prod.mk.inj (Option.some.inj hleave)
    rw [due_leave, if_pos (List.mem_append_right front List.mem_cons_self)]
    exact ⟨hprogress, rfl⟩

/-- **One request for each prompt, and a prompt for each answer without success.** In every run of the
daemon a greeter that reads the messages on its connection one by one prompts for the first data and
for each refusal, and it leaves with the `LEAVE`. -/
theorem greeter_requests (C : FieldCode SpawnField) (S : FieldCode ServerField)
    (getpass : Str → Str × Str) (write : ℕ → Bool) (debug : Bool)
    (templates : List Daemon.State.Template) (es : List Daemon.Loop.Event) (c : ℕ)
    (ms : List ServerMessage)
    (hread : ms <+: received c (run (Daemon.Loop.step C) (.start debug templates) es).trace)
    (w : World) (fuel : ℕ) (s : Greeter) (res : Option ReadResult)
    (h : readLoop S getpass write (ms.map (ServerMessage.pack S)) (.start w) fuel = some (s, res)) :
    s.prompts.length = due false ms ∧ (∀ r ∈ s.prompts, r = 0 ∨ r = 1) ∧
      (requests write s.world.calls).length = (requests write w.calls).length + s.prompts.count 1 ∧
      res = if leaveMessage ∈ ms then some .exit else none := by
  obtain ⟨⟨rs, hprompts, hlength, hrs, hcount⟩, hres⟩ :=
    readLoop_talk ((talks_run (C := C) debug templates es).talk c) hread h
  have hprompts' : s.prompts = rs := hprompts
  rw [hprompts']
  exact ⟨hlength, hrs, hcount, hres⟩

/-- logind knows the session `c2`. -/
def secondSession : Data := ⟨[], [⟨"c2", "eve", "gnome", ""⟩], []⟩

/-- A client connects, says hello, and asks for the session `c2`. -/
def activates : List Daemon.Loop.Event :=
  Daemon.Loop.turn [3] .plain ++
    Daemon.Loop.turn [4] { Daemon.State.Answers.plain with
      input := .msg ⟨.hello, none, none⟩, data := secondSession } ++
    Daemon.Loop.turn [4] { Daemon.State.Answers.plain with
      input := .msg ⟨.sessionActivation, none, some "c2"⟩, sd := Daemon.TrueAnswers.twoSessions }

/-- What the client reads: its data, and the answer in front of its `LEAVE`. -/
def activationTalk : List ServerMessage :=
  [⟨.dataUpdate, none, some secondSession⟩,
    ⟨.loginFeedback, some ⟨false, "Activation is called on this session"⟩, none⟩, leaveMessage]

/-- The greeter that has asked for the session twice. -/
def askedTwice : Greeter where
  prompted := true
  ctx := dataConvert secondSession
  world := ⟨[], [.session 1 "eve" "gnome", .session 1 "eve" "gnome"],
    [.sessionActivate 0 (some "c2"), .sessionActivate 0 (some "c2")]⟩
  prompts := [1, 1]

set_option maxRecDepth 8000 in
/-- An activation that is carried out: the greeter prompts a second time before it reads the `LEAVE`. -/
theorem greeter_requests_activation : askedTwice.prompts.length = due false activationTalk ∧
    (∀ r ∈ askedTwice.prompts, r = 0 ∨ r = 1) ∧
      (requests (fun _ => true) askedTwice.world.calls).length =
        (requests (fun _ => true) []).length + askedTwice.prompts.count 1 ∧
      some ReadResult.exit = if leaveMessage ∈ activationTalk then some .exit else none :=
  greeter_requests Encoding.spawnCode Encoding.serverCode (fun input => ([], input)) (fun _ => true)
    true [] activates 0 activationTalk
    (by
      have hreceived : received 0 (run (Daemon.Loop.step Encoding.spawnCode) (.start true [])
        activates).trace = activationTalk := by decide
      exact hreceived ▸ List.prefix_refl activationTalk)
    ⟨Spawny.UserDb.Records.ascii "s\n1\ns\n1\n", [], []⟩ 5 askedTwice (some .exit) (by decide)

/-! ### Waiting -/

/-- Prompts are due for answers only. -/
theorem due_le {front : List ServerMessage} (hfront : ∀ m ∈ front, IsReply m ∨ m = loggedIn)
    (prompted : Bool) : due prompted front ≤ front.countP isAnswer := by
  induction front generalizing prompted with
  | nil => simp [due]
  | cons m front ih =>
    have hrest := ih fun m' hm' => hfront m' (List.mem_cons_of_mem m hm')
    rcases hfront m List.mem_cons_self with hreply | rfl
    · cases hreply with
      | data d =>
        rw [due_data, List.countP_cons_of_pos rfl]
        have htrue := hrest true
        split_ifs <;> omega
      | refused text =>
        rw [due_refused, List.countP_cons_of_pos rfl]
        have hsame := hrest prompted
        omega
    · rw [due_loggedIn, List.countP_cons_of_pos rfl]
      exact (hrest prompted).trans (Nat.le_succ _)

/-- **The greeter waits**: between its `HELLO` and the daemon's answer to its last request it writes
nothing else. When it has read `ms`, all it has written is answered once the next answer `m` is there. -/
theorem greeter_waits {σ : Type} (C : FieldCode SpawnField) (S : FieldCode ServerField)
    (G : FieldCode GreeterField) (T : Transport σ) (getpass : Str → Str × Str) (write : ℕ → Bool)
    (debug : Bool) (templates : List Daemon.State.Template) (es : List NetEvent) (c : ℕ)
    (ms : List ServerMessage) (m : ServerMessage)
    (hread : ms ++ [m] <+: received c (run (Net.step C T) (.start T debug templates) es).world.trace)
    (hm : m ≠ leaveMessage) (input : Str) (fuel : ℕ) (s : Greeter) (res : Option ReadResult)
    (h : readLoop S getpass write (ms.map (ServerMessage.pack S)) (.start ⟨input, [], []⟩) fuel =
      some (s, res))
    (hwritten : (run (Net.step C T) (.start T debug templates) es).written c =
      1 + (requests write s.world.calls).length)
    (req : GreeterMessage)
    (hsize : (Requests.GreeterMessage.pack G req).length ≤ Requests.MAX_MSG_SIZE) :
    Waits G T (run (Net.step C T) (.start T debug templates) es) (.write c req) := by
  refine ⟨?_, hsize⟩
  obtain ⟨es', hes'⟩ := net_world C T es (.start T debug templates)
  have htalk : Talk (received c (run (Net.step C T) (.start T debug templates) es).world.trace) := by
    rw [hes']
    exact (talks_run debug templates es').talk c
  -- the prompts so far are due for answers, and `m` is one more
  obtain ⟨⟨rs, -, hlength, -, hcount⟩, -⟩ := readLoop_talk htalk ((List.prefix_append ms [m]).trans hread) h
  obtain ⟨front, last, heq, hfront, hlast⟩ := exists_front htalk hread
  have hlast' : last = [] := by
    rcases hlast with hnil | hleave
    · exact hnil
    · rw [hleave] at heq
      exact absurd (List.append_inj' heq rfl).2 (by simpa using hm)
  rw [hlast', List.append_nil] at heq
  have hmem : ∀ m' ∈ ms, IsReply m' ∨ m' = loggedIn := fun m' hm' =>
    hfront m' (heq ▸ List.mem_append_left [m] hm')
  have hanswer : isAnswer m = true := by
    rcases hfront m (heq ▸ List.mem_append_right ms (List.mem_singleton_self m)) with hreply | rfl
    · cases hreply <;> rfl
    · rfl
  have hdue := due_le hmem false
  have hanswers : (ms ++ [m]).countP isAnswer ≤
      answers c (run (Net.step C T) (.start T debug templates) es).world :=
    hread.sublist.countP_le
  rw [List.countP_append, List.countP_singleton, if_pos hanswer] at hanswers
  have hrs : rs.count 1 ≤ rs.length := List.count_le_length
  have hnone : (requests write (Greeter.start ⟨input, [], []⟩).world.calls).length = 0 := rfl
  omega

/-- The same client over its socket. -/
def activatesOverSocket : List NetEvent :=
  (Daemon.Loop.turn [3] .plain).map .daemon ++ [.write 0 ⟨.hello, none, none⟩] ++
    (Daemon.Loop.turn [4] { Daemon.State.Answers.plain with data := secondSession }).map .daemon ++
    [.write 0 ⟨.sessionActivation, none, some "c2"⟩] ++
    (Daemon.Loop.turn [4]
      { Daemon.State.Answers.plain with sd := Daemon.TrueAnswers.twoSessions }).map .daemon

/-- The greeter that has asked for the session once. -/
def askedOnce : Greeter where
  prompted := true
  ctx := dataConvert secondSession
  world := ⟨[], [.session 1 "eve" "gnome"], [.sessionActivate 0 (some "c2")]⟩
  prompts := [1]

set_option maxRecDepth 8000 in
theorem greeter_waits_activation : Waits greeterCode (sockets greeterCode)
    (run (Net.step Encoding.spawnCode (sockets greeterCode))
      (.start (sockets greeterCode) true []) activatesOverSocket)
    (.write 0 ⟨.sessionActivation, none, some "c2"⟩) :=
  greeter_waits Encoding.spawnCode Encoding.serverCode greeterCode
    (sockets greeterCode) (fun input => ([], input)) (fun _ => true) true []
    activatesOverSocket 0 [⟨.dataUpdate, none, some secondSession⟩]
    ⟨.loginFeedback, some ⟨false, "Activation is called on this session"⟩, none⟩
    (by
      have hreceived : received 0 (run (Net.step Encoding.spawnCode
        (sockets greeterCode)) (.start (sockets greeterCode) true [])
        activatesOverSocket).world.trace = activationTalk := by decide
      exact hreceived ▸ ⟨[leaveMessage], rfl⟩)
    (by decide) (Spawny.UserDb.Records.ascii "s\n1\n") 5 askedOnce none (by decide) (by decide)
    ⟨.sessionActivation, none, some "c2"⟩ (by decide)

end Spawny.FallbackGreeter.ReadLoop
