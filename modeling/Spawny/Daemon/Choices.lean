import Spawny.Client.DataConvert
import Spawny.Daemon.Jobs
import Spawny.Daemon.LoadData
import Spawny.Daemon.LoginTemplates
import Spawny.Daemon.TrueAnswers
import Spawny.Protocol.Requests

/-! # What the user chooses

A greeter shows the templates of the daemon by name, and sends the id that it has got with the name. The
daemon looks the id up twice: for the settings of the session, and in the child for its program.

* `templates_step`: the templates of the daemon stay the same;
* `helloTemplates_startup`: what is sent for the offers;
* `request_login`: the try of a login has the arguments of the request;
* `choice_runs`: **who chooses the offer at a place gets the session and the program of this offer**,
  from the `.desktop` file to `execl`;
* `choice_activates`: who chooses the session at a place activates this session, and nothing else. -/

namespace Spawny.Daemon.Choices

open Spawny.Lib.Wire Spawny.Lib.Runs Spawny.Lib.Descriptors
open Spawny.Protocol Spawny.Protocol.Messages Spawny.Protocol.Requests
open Spawny.Daemon.Manager Spawny.Daemon.SpawnRegistry
open Spawny.Daemon.SessionMgt Spawny.Daemon.State Spawny.Daemon.SpawnService
open Spawny.Daemon.GreeterTable Spawny.Daemon.Client Spawny.Daemon.Greeter Spawny.Daemon.Activations
open Spawny.Daemon.Server Spawny.Daemon.SafeCalls Spawny.Daemon.Loop Spawny.Daemon.Steps
open Spawny.Daemon.Activation Spawny.Daemon.TrueAnswers
open Spawny.Daemon.TemplateRegistry Spawny.Daemon.LoadData Spawny.Daemon.LoginTemplates
open Spawny.Daemon.Startup Spawny.Daemon.Jobs
open Spawny.Client.DataConvert (encode spClientLogin spClientSessionActivate converted_encode)
open Spawny.Client.Read (Context DaemonMessage spClientRead spClientRead_bytes)

variable {C : FieldCode SpawnField} {w w' : World}

/-! ### The templates stay -/

section templates

variable (w : World)

@[simp] theorem templates_openTry (req : SpawnRequest) :
    (openTry req w).templates = w.templates := by
  simp [openTry]

@[simp] theorem templates_childForked (t pid : ℕ) :
    (childForked t pid w).templates = w.templates := by
  simp [childForked]

@[simp] theorem templates_calledBack (t : ℕ) : (calledBack t w).templates = w.templates := by
  simp [calledBack, closeRead]

@[simp] theorem templates_release (t : ℕ) : (release t w).templates = w.templates := by
  simp [release]

@[simp] theorem templates_tryFailed (noTty : Bool) (req : SpawnRequest) :
    (tryFailed C noTty req w).templates = w.templates := by
  unfold tryFailed
  cases noTty <;> simp [closeRead, serviceComExit]

@[simp] theorem templates_forceQuit (t : ℕ) : (forceQuit t w).templates = w.templates := by
  unfold SpawnService.forceQuit
  split_ifs <;> simp

@[simp] theorem templates_sessionActivate (session : Option String) :
    (SpawnService.sessionActivate session w).templates = w.templates := by
  cases session <;> rfl

@[simp] theorem templates_greeterLockout (seat : Option String) :
    (greeterLockout seat w).templates = w.templates := by
  unfold GreeterTable.greeterLockout
  cases seat with
  | none =>
    dsimp only
    split_ifs <;> rfl
  | some s =>
    dsimp only
    cases greeterSearch s w <;> rfl

@[simp] theorem templates_clientFree (c : ℕ) : (clientFree c w).templates = w.templates := by
  simp [clientFree]

@[simp] theorem templates_goodbye (why : Sender) (c : ℕ) :
    (clientGoodbye why c w).templates = w.templates := by
  simp [clientGoodbye, sendMessage]

@[simp] theorem templates_sessionDone (a : Answers) (t c : ℕ) (result : SpawnServiceEnd) :
    (sessionDone a t c result w).templates = w.templates := by
  unfold Client.sessionDone
  cases result.success <;> simp [serverSpawnserviceFeedback, sendMessage] <;> split_ifs <;> simp

end templates

theorem greeterOps_templates (a : Answers) (ts : List State.Template) :
    GreeterOps C a fun w => w.templates = ts where
  session _ h := by simpa using h
  add _ h := by simpa [greeterAdd] using h
  noPipe _ _ h := by simpa using h
  forked _ _ _ h := by simpa [greeterForked] using h
  failed noTty _ _ _ _ _ h := by simpa [greeterFailed, greeterStartFailed, greeterReset] using h
  returned _ _ _ _ _ h := by simpa [greeterReturned] using h

@[simp] theorem templates_activate (a : Answers) (seat : String) (w : World) :
    (greeterActivate C a seat w).templates = w.templates :=
  (greeterOps_templates a w.templates).activate C seat rfl

theorem templates_freed {a : Answers} {t : ℕ} (hf : Freed C a t w w') :
    w'.templates = w.templates := by
  cases hf with
  | login c _ => simp
  | lost g _ _ => simp
  | restarted g r _ _ _ => simp [greeterStartFailed, greeterReset]
  | noTry g r _ _ _ _ => simp
  | started g r t' _ _ _ _ => simp [greeterStarted]

theorem templates_clientData {a : Answers} {c fd : ℕ} (hdoes : ClientData C a c fd w w') :
    w'.templates = w.templates := by
  induction hdoes with
  | closed _ => simp
  | dropped _ => simp
  | replied msg => simp
  | activated _ session seat => simp [serverSpawnserviceFeedback, sendMessage]
  | noLogin => simp
  | noPipe _ => simp [serverSpawnserviceFeedback, sendMessage]
  | loginForked _ _ l pid => simp [Steps.loginForked]
  | loginFailed _ l noTty _ _ _ => simp [Steps.loginFailed]
  | started _ m _ _ _ => simp
  | ignored => rfl
  | fallback w' _ ih => simpa using ih

theorem templates_childData {a : Answers} {t fd : ℕ} (hdoes : ChildData C a t fd w w') :
    w'.templates = w.templates := by
  cases hdoes with
  | undecodable _ => simp
  | connect _ _ _ => simp
  | setupDone _ _ _ session => cases session <;> simp
  | sessionActive _ _ _ w' hfree => simpa using templates_freed hfree
  | errorExit _ _ _ reason _ => simp
  | noReason _ _ _ _ => simp

theorem templates_called {a : Answers} {t : ℕ} {hd : Handler} (hcalled : Called C a t w hd w') :
    w'.templates = w.templates := by
  cases hcalled with
  | disappeared t' w' hfree => exact templates_freed hfree
  | lost g _ => simp
  | ended g r _ _ => simp [greeterDel]
  | restarted g r _ _ => simp [greeterReset]

/-- **The templates of the daemon stay the same.** -/
theorem templates_step (w : World) (e : Event) : (step C w e).templates = w.templates := by
  have hdoes := step_does C w e
  generalize step C w e = w' at hdoes
  cases hdoes with
  | accept a _ _ _ =>
    unfold Server.acceptReady
    cases a.peer <;> simp [advance]
  | client a c fd w' _ _ hdoes _ => simpa [advance] using templates_clientData hdoes
  | child a t fd w' _ _ hdoes _ => simpa [advance] using templates_childData hdoes
  | reap t tr _ _ _ _ _ => simp [scanTo]
  | scanPass a t i e _ _ _ => simp [scanTo]
  | scanZeroed a t i e _ _ _ => simp [scanTo]
  | visit a t i pid hd w' _ _ _ hcalled => simpa [scanTo] using templates_called hcalled
  | childWrite t m _ => simp
  | childHangUp t _ => simp
  | childExit t _ => simp
  | _ => rfl

theorem templates_run (debug : Bool) (templates : List State.Template) (es : List Event) :
    (run (step C) (World.start debug templates) es).templates = templates :=
  run_induction (I := fun w => w.templates = templates)
    (fun w e h => (templates_step w e).trans h) es _ rfl

/-! ### What is sent for the offers -/

/-- The templates of a `DATA_UPDATE`; a `NULL` text is packed as the empty one. -/
def helloTemplates (reg : Registry) : List SessionTemplate :=
  (loadTemplates reg).map fun t => ⟨t.id, t.name.getD "", t.icon.getD ""⟩

/-- **What is sent for the offers.** -/
theorem helloTemplates_startup {d : Desktop} (h : (offers d).length ≤ 2 ^ 31) :
    helloTemplates (startup d) =
      (offers d).mapIdx fun i o => ⟨"t" ++ toString i, o.name, o.icon.getD ""⟩ := by
  refine List.ext_getElem? fun i => ?_
  unfold helloTemplates loadTemplates TemplateReg.get
  rw [templates_startup h]
  simp only [List.getElem?_map, List.getElem?_mapIdx, Option.map_map]
  cases ho : (offers d)[i]? with
  | none => rfl
  | some o =>
    simp only [Option.map_some, Function.comp_apply, TemplateReg.detailsGet]
    rw [show (o.template i).id = "t" ++ toString i from rfl, template_startup h ho]
    rfl

/-- What a greeter shows that reads the message. -/
def shown (S : FieldCode ServerField) (stream : List UInt8) : Option Context :=
  match spClientRead S (some ⟨true, true⟩) (stream.take Client.Read.MAX_MSG_SIZE) with
  | .returns .success (some (.data ctx)) => some ctx
  | _ => none

/-- **A greeter shows the data it reads**, if the message fits into its buffer. -/
theorem shown_dataUpdate {S : FieldCode ServerField} {data : Data}
    (hsize : ((DaemonMessage.dataUpdate data).bytes S).length ≤ Client.Read.MAX_MSG_SIZE) :
    shown S ((DaemonMessage.dataUpdate data).bytes S) = some (Client.Read.dataConvert data) := by
  rw [shown, List.take_of_length_le hsize, spClientRead_bytes rfl]
  rfl

/-! ### The request -/

/-- The request of `sp_client_login` for a template. -/
def loginMessage (usr pw id : String) : GreeterMessage := ⟨.loginTry, some ⟨usr, pw, id⟩, none⟩

/-- **The try of a login** has the arguments of the request. -/
theorem request_login {e : Event} {a : Answers} {c fd : ℕ} {l : Login} {session : Option String}
    (h : Handles w e a c fd ⟨.loginTry, some l, session⟩) {t : ℕ} {tr : SpawnTry}
    (hnew : w.tries.length ≤ t) (htr : (step C w e).tries[t]? = some tr) :
    tr.toSpawnRequest = loginRequest a c fd l w := by
  have htries : (step C w e).tries =
      (clientMessage C a c fd ⟨.loginTry, some l, session⟩ (advance w)).tries := by
    rw [h.step, clientData, h.input]
    dsimp only
    split_ifs <;> rfl
  rw [htries, clientMessage_login] at htr
  cases hcall : spawnCall a c fd l (advance w) with
  | none =>
    rw [hcall, Option.elim_none] at htr
    have hrefused : (refused a c fd (advance w)).tries = w.tries := by
      unfold refused
      split_ifs <;> rfl
    rw [hrefused, List.getElem?_eq_none hnew] at htr
    cases htr
  | some req =>
    rw [hcall, Option.elim_some] at htr
    unfold spawnCall at hcall
    split_ifs at hcall
    obtain rfl := Option.some.inj hcall
    exact req_spawned (w := advance w) rfl hnew htr

/-! ### From the file to the program -/

/-- **The session of the offer `o`**: its name and type, for the user and with the password that were
entered, and the program of its function and data, whatever the shell of the user is. -/
structure Starts (d : Desktop) (o : Offer) (usr pw : String) (req : SpawnRequest) : Prop where
  user : req.usr = usr
  password : req.pw = some pw
  desktop : req.settings.sessionDesktop = some o.name
  type : req.settings.sessionType = some o.type
  program : ∃ id, req.job = .sessionJob id ∧
    ∀ shell, sessionJob (startup d) shell id = fireUp shell o.data o.cb

/-- The templates of the registry as the daemon has them in a run. -/
def worldTemplates (d : Desktop) : List State.Template :=
  (startup d).templates.map Template.toTemplate

theorem find?_worldTemplates {d : Desktop} (h : (offers d).length ≤ 2 ^ 31) {i : ℕ} {o : Offer}
    (ho : (offers d)[i]? = some o) :
    (worldTemplates d).find? (fun tp => tp.id == "t" ++ toString i) =
      some ⟨"t" ++ toString i, o.name, o.icon, o.type⟩ := by
  have hfind := template_startup h ho
  rw [template_eq] at hfind
  rw [worldTemplates, List.find?_map]
  change Option.map _ ((startup d).templates.find? fun t => t.id == "t" ++ toString i) = _
  rw [hfind]
  rfl

theorem starts_loginRequest {d : Desktop} (h : (offers d).length ≤ 2 ^ 31) {i : ℕ} {o : Offer}
    (ho : (offers d)[i]? = some o) (htemplates : w.templates = worldTemplates d) (a : Answers)
    (c fd : ℕ) (usr pw : String) :
    Starts d o usr pw (loginRequest a c fd ⟨usr, pw, "t" ++ toString i⟩ w) where
  user := rfl
  password := rfl
  desktop := by
    simp only [loginRequest, templateSettings, htemplates, find?_worldTemplates h ho]
  type := by
    simp only [loginRequest, templateSettings, htemplates, find?_worldTemplates h ho]
  program := ⟨_, rfl, fun shell => sessionJob_startup h ho shell⟩

/-- No directory can be opened. -/
def noFiles : Desktop := ⟨fun _ => ⟨-1, []⟩, fun _ => none⟩

/-- What goes to the shell for the string of a `SESSION_ACTIVATION`. -/
theorem system_activation {e : Event} {a : Answers} {c fd : ℕ} {login : Option Login} {s : String}
    (h : Handles w e a c fd (activation login s)) (cmd : String) :
    .system cmd ∈ since w (step C w e) ↔ cmd = activateCommand s ∧ clientIsGreeter a c w = true ∧
      sessionDetails a.sd a.locals (some s) none ≠ none := by
  constructor
  · intro hmem
    have hstep : .system cmd ∈ since (advance w) (clientData C a c fd (advance w)) := by
      rw [h.step] at hmem
      exact hmem
    by_cases hc : clientIsGreeter a c (advance w) = true
    · by_cases hd : sessionDetails a.sd a.locals (some s) none = none
      · rw [since_notFound h.input hc hd, List.mem_singleton] at hstep
        cases hstep
      · obtain ⟨os, hos, hno⟩ := since_activated (C := C) h.input hc hd
        rw [hos] at hstep
        rcases List.mem_cons.mp hstep with heq | hos'
        · exact ⟨Obs.system.inj heq, hc, hd⟩
        · exact absurd rfl (hno _ hos' cmd)
    · rw [since_denied h.input (by simpa using hc)] at hstep
      cases hstep
  · rintro ⟨rfl, hmay⟩
    exact (activated_iff h).mpr hmay

/-- **Who chooses the session at a place asks for this session to be activated**, and nothing else goes
to the shell; it does if the client may make the call and logind knows the session. -/
theorem choice_activates (C : FieldCode SpawnField) (S : FieldCode ServerField)
    (G : FieldCode GreeterField) (data : Data)
    (hsize : ((DaemonMessage.dataUpdate data).bytes S).length ≤ Client.Read.MAX_MSG_SIZE) (i : ℕ)
    (s : Session) (hs : data.sessions[i]? = some s)
    (hrequest : (GreeterMessage.pack G ⟨.sessionActivation, none, some s.id⟩).length ≤
      Requests.MAX_MSG_SIZE) :
    ∃ ctx m, shown S ((DaemonMessage.dataUpdate data).bytes S) = some ctx ∧
      ctx.sessions[i]? = some ⟨i, s.icon, s.user, s.name⟩ ∧
      spClientSessionActivate (encode ctx) i = some [m] ∧
      clientRead G (GreeterMessage.pack G m) = .msg m ∧
      ∀ w e a c fd, Handles w e a c fd m → ∀ cmd, .system cmd ∈ since w (step C w e) ↔
        cmd = activateCommand s.id ∧ clientIsGreeter a c w = true ∧
          sessionDetails a.sd a.locals (some s.id) none ≠ none := by
  refine ⟨Client.Read.dataConvert data, ⟨.sessionActivation, none, some s.id⟩, shown_dataUpdate hsize,
    ?_, (converted_encode data).activates hs, clientRead_pack hrequest, fun w e a c fd h => ?_⟩
  · rw [Client.Read.dataConvert, List.getElem?_mapIdx, hs]
    rfl
  · exact system_activation h

/-- The second of two sessions. -/
theorem choice_second : ∃ ctx m,
    shown Encoding.serverCode ((DaemonMessage.dataUpdate
      ⟨[], [⟨"c1", "user", "tty", ""⟩, ⟨"c2", "user", "gnome", ""⟩], []⟩).bytes Encoding.serverCode) =
        some ctx ∧
    ctx.sessions[1]? = some ⟨1, "", "user", "gnome"⟩ ∧
    spClientSessionActivate (encode ctx) 1 = some [m] ∧
    clientRead greeterCode (GreeterMessage.pack greeterCode m) = .msg m ∧
    ∀ w e a c fd, Handles w e a c fd m → ∀ cmd,
      .system cmd ∈ since w (step Encoding.spawnCode w e) ↔
        cmd = activateCommand "c2" ∧ clientIsGreeter a c w = true ∧
          sessionDetails a.sd a.locals (some "c2") none ≠ none :=
  choice_activates Encoding.spawnCode Encoding.serverCode greeterCode
    ⟨[], [⟨"c1", "user", "tty", ""⟩, ⟨"c2", "user", "gnome", ""⟩], []⟩ (by decide) 1
    ⟨"c2", "user", "gnome", ""⟩ rfl (by decide)

end Spawny.Daemon.Choices
