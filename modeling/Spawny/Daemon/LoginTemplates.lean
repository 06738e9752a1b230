import Spawny.Protocol.Encoding
import Spawny.Daemon.TryViews

/-! # The template of a login

`LOGIN_TRY` looks up the template that the client names and hands its name and type to
`spawnservice_spawn`. The place for them lies uninitialized on the stack, and what
`template_details_get` returns is not looked at.

* `clientMessage_login`: the call of `spawnservice_spawn` taken out of `_client_data`;
* `req_spawned`: the only try that is made has the arguments of this call;
* `templateUsed_iff`: **when the settings are those of the template that was named**. -/

namespace Spawny.Daemon.LoginTemplates

open Spawny.Lib.Wire Spawny.Lib.Descriptors Spawny.Lib.Runs Spawny.Protocol Spawny.Protocol.Messages
open Spawny.Daemon.SessionMgt Spawny.Daemon.State Spawny.Daemon.SpawnService
open Spawny.Daemon.Client Spawny.Daemon.Greeter Spawny.Daemon.Activations Spawny.Daemon.Server
open Spawny.Daemon.Loop Spawny.Daemon.Steps Spawny.Daemon.TryViews

variable (C : FieldCode SpawnField)

/-! ### The call of spawnservice_spawn -/

/-- The arguments with which a `LOGIN_TRY` calls `spawnservice_spawn`, if it does. -/
def spawnCall (a : Answers) (c fd : ℕ) (l : Login) (w : World) : Option SpawnRequest :=
  if clientIsGreeter a c w = true ∧ (w.clientAt c).spawnTry = none then
    some (loginRequest a c fd l w)
  else none

/-- The call, and what follows it. -/
def spawned (a : Answers) (c fd : ℕ) (req : SpawnRequest) (w : World) : World :=
  let s := spawnserviceSpawn C (onDone C a) a req w
  let w := s.1.modClient c fun cl => { cl with spawnTry := s.2 }
  if s.2.isNone then serverSpawnserviceFeedback (.reply c) false (some "spawn failed.") fd w else w

/-- A `LOGIN_TRY` that is refused. -/
def refused (a : Answers) (c fd : ℕ) (w : World) : World :=
  if clientIsGreeter a c w then
    serverSpawnserviceFeedback (.reply c) false (some "There is already a login try!") fd w
  else clientFree c w

/-- **`LOGIN_TRY` with its payload.** -/
theorem clientMessage_login (a : Answers) (c fd : ℕ) (l : Login) (session : Option String)
    (w : World) : clientMessage C a c fd ⟨.loginTry, some l, session⟩ w =
      (spawnCall a c fd l w).elim (refused a c fd w) fun req => spawned C a c fd req w := by
  unfold clientMessage spawnCall refused
  by_cases hgreeter : clientIsGreeter a c w = true
  · cases hbusy : (w.clientAt c).spawnTry with
    | none =>
      simp only [hgreeter, if_true, true_and, Option.elim_some]
      unfold loginTry
      rw [hbusy]
      rfl
    | some t =>
      have hno : ¬(clientIsGreeter a c w = true ∧ some t = none) := fun h => by cases h.2
      simp only [hgreeter, if_true, reduceCtorEq, and_false, if_false, Option.elim_none]
      unfold loginTry
      rw [hbusy]
      rfl
  · have hno : ¬(clientIsGreeter a c w = true ∧ (w.clientAt c).spawnTry = none) :=
      fun h => hgreeter h.1
    simp only [if_neg hgreeter, if_neg hno, Option.elim_none]

variable {C}

/-- **The only try that is made** has the arguments of the call. -/
theorem req_spawned {a : Answers} {c fd t : ℕ} {req : SpawnRequest} {w : World} {tr : SpawnTry}
    (hreq : req.done = .sessionDone c) (hnew : w.tries.length ≤ t)
    (htr : (spawned C a c fd req w).tries[t]? = some tr) : tr.toSpawnRequest = req := by
  have hview : (spawned C a c fd req w).tries =
      (spawnserviceSpawn C (onDone C a) a req w).1.tries := by
    unfold spawned
    dsimp only
    split_ifs <;> rfl
  have hold : view w t = none := by
    rw [view, List.getElem?_eq_none hnew, Option.map_none]
  have hv : view (spawnserviceSpawn C (onDone C a) a req w).1 t = some (SpawnTry.view tr) :=
    view_of_get (hview ▸ htr)
  by_cases hpipe : (a.spawn w.tries.length).pipeOk = true
  · by_cases hfork : ∃ pid, (a.spawn w.tries.length).child = .forks pid
    · obtain ⟨pid, hchild⟩ := hfork
      rw [spawnserviceSpawn_forks C hpipe hchild] at hv
      dsimp only at hv
      rw [view_forked, hold] at hv
      split_ifs at hv
      exact (congrArg TryView.req (Option.some.inj hv)).symm
    · rw [spawnserviceSpawn_fails C hpipe (not_exists.mp hfork), onDone_tryFailed C hreq] at hv
      dsimp only at hv
      rw [view_release, (steady_sessionDone a _ c _ _).views, view_tryFailed, hold] at hv
      by_cases ht : t = w.tries.length
      · rw [if_pos ht.symm, if_pos ht] at hv
        exact (congrArg TryView.req (Option.some.inj hv)).symm
      · rw [if_neg (Ne.symm ht), if_neg ht] at hv
        cases hv
  · rw [spawnserviceSpawn_pipeFails C (by simpa using hpipe)] at hv
    dsimp only at hv
    rw [hold] at hv
    cases hv

/-! ### What LOGIN_TRY has to do -/

/-- The id is that of a template. -/
def Registered (id : String) (w : World) : Prop := ∃ tp ∈ w.templates, tp.id = id

/-- The settings are the name and the type registered under the id. -/
def SettingsOf (id : String) (w : World) (settings : XdgSettings) : Prop :=
  ∃ tp ∈ w.templates, tp.id = id ∧ settings.sessionDesktop = some tp.name ∧
    settings.sessionType = some tp.type

/-- **A `LOGIN_TRY` uses the template that it names**: `spawnservice_spawn` gets its name and type, so
that the try has them; for an id that is not registered there is no call, and a client that may make
the request is told that it has failed; and what the stack holds does not matter. -/
structure TemplateUsed (C : FieldCode SpawnField) (a : Answers) (c fd : ℕ) (l : Login)
    (session : Option String) (w : World) : Prop where
  call : ∀ req, spawnCall a c fd l w = some req → SettingsOf l.templateId w req.settings
  tries : ∀ (t : ℕ) (tr : SpawnTry), w.tries.length ≤ t →
    (clientMessage C a c fd ⟨.loginTry, some l, session⟩ w).tries[t]? = some tr →
      SettingsOf l.templateId w tr.settings
  refused : ¬Registered l.templateId w → spawnCall a c fd l w = none ∧
    (clientIsGreeter a c w = true → ∃ text,
      (clientMessage C a c fd ⟨.loginTry, some l, session⟩ w).trace =
        w.trace ++ [.sent (.reply c) (lookup w.fdtab fd) ⟨.loginFeedback, some ⟨false, text⟩, none⟩])
  assigned : ∀ junk, spawnCall { a with settings := junk } c fd l w = spawnCall a c fd l w

theorem find?_of_registered {id : String} {w : World} (h : Registered id w) :
    ∃ tp ∈ w.templates, tp.id = id ∧ (w.templates.find? fun tp => tp.id == id) = some tp := by
  obtain ⟨tp, htp, hid⟩ := h
  obtain ⟨tp', hfind⟩ : ∃ tp', (w.templates.find? fun tp => tp.id == id) = some tp' := by
    rw [← Option.isSome_iff_exists, List.find?_isSome]
    exact ⟨tp, htp, by simpa using hid⟩
  exact ⟨tp', List.mem_of_find?_eq_some hfind, by simpa using List.find?_some hfind, hfind⟩

/-- The settings of a login with a template that is registered. -/
theorem settings_of_registered (a : Answers) (c fd : ℕ) {l : Login} {w : World}
    (h : Registered l.templateId w) :
    SettingsOf l.templateId w (loginRequest a c fd l w).settings ∧
      ∀ junk, loginRequest { a with settings := junk } c fd l w = loginRequest a c fd l w := by
  obtain ⟨tp, htp, hid, hfind⟩ := find?_of_registered h
  have hsettings : ∀ junk, templateSettings l.templateId junk w =
      { junk with sessionDesktop := some tp.name, sessionType := some tp.type } := by
    intro junk
    unfold templateSettings
    rw [hfind]
  refine ⟨⟨tp, htp, hid, ?_, ?_⟩, fun junk => ?_⟩
  · simp only [loginRequest, hsettings]
  · simp only [loginRequest, hsettings]
  · simp only [loginRequest, hsettings]
    rfl

/-- **When a `LOGIN_TRY` uses the template that it names**: the template is registered, or the client
may not make the request or has a login try already. -/
theorem templateUsed_iff (C : FieldCode SpawnField) (a : Answers) (c fd : ℕ) (l : Login)
    (session : Option String) (w : World) :
    TemplateUsed C a c fd l session w ↔
      (clientIsGreeter a c w = true → (w.clientAt c).spawnTry = none →
        Registered l.templateId w) := by
  constructor
  · intro h hgreeter hidle
    obtain ⟨tp, htp, hid, -⟩ := h.call _ (if_pos ⟨hgreeter, hidle⟩)
    exact ⟨tp, htp, hid⟩
  · intro h
    by_cases hcall : clientIsGreeter a c w = true ∧ (w.clientAt c).spawnTry = none
    · have hreg := h hcall.1 hcall.2
      obtain ⟨hsettings, hjunk⟩ := settings_of_registered a c fd hreg
      have hsome : spawnCall a c fd l w = some (loginRequest a c fd l w) := if_pos hcall
      refine ⟨fun req hreq => ?_, fun t tr hnew htr => ?_, fun hno => absurd hreg hno,
        fun junk => ?_⟩
      · obtain rfl := Option.some.inj (hsome.symm.trans hreq)
        exact hsettings
      · rw [clientMessage_login, hsome] at htr
        rw [req_spawned rfl hnew htr]
        exact hsettings
      · rw [hsome]
        exact (if_pos hcall).trans (congrArg some (hjunk junk))
    · have hnone : spawnCall a c fd l w = none := if_neg hcall
      refine ⟨fun req hreq => ?_, fun t tr hnew htr => ?_, fun _ => ⟨hnone, fun hgreeter => ?_⟩,
        fun junk => ?_⟩
      · rw [hnone] at hreq
        cases hreq
      · rw [clientMessage_login, hnone, Option.elim_none] at htr
        have htries : (LoginTemplates.refused a c fd w).tries = w.tries := by
          unfold LoginTemplates.refused
          split_ifs <;> rfl
        rw [htries, List.getElem?_eq_none hnew] at htr
        cases htr
      · refine ⟨"There is already a login try!", ?_⟩
        rw [clientMessage_login, hnone, Option.elim_none, LoginTemplates.refused, if_pos hgreeter]
        rfl
      · rw [hnone]
        exact if_neg hcall

/-- A login with an id that nobody has registered, and something on the stack. -/
def strayLogin : Answers :=
  { Answers.plain with settings := ⟨some "junk type", some "junk desktop", none⟩ }

/-- **A login with an id that is not registered** spawns a session with what lies on the stack. -/
theorem junk_spawned :
    let w := run (step Encoding.spawnCode) (World.start true []) connects
    let w' := clientMessage Encoding.spawnCode strayLogin 0 4
      ⟨.loginTry, some ⟨"user", "secret", "t9"⟩, none⟩ w
    w.templates = [] ∧
      w'.tries.map (fun tr => tr.settings) = [⟨some "junk type", some "junk desktop", some "seat0"⟩] ∧
      w'.trace = w.trace ++ [.spawned 0] ∧
      ¬TemplateUsed Encoding.spawnCode strayLogin 0 4 ⟨"user", "secret", "t9"⟩ none w := by
  intro w w'
  have htries : w'.tries.map (fun tr => tr.settings) =
      [⟨some "junk type", some "junk desktop", some "seat0"⟩] := by decide
  refine ⟨by decide, htries, by decide, fun h => ?_⟩
  obtain ⟨tr, htr, -⟩ := List.map_eq_singleton_iff.mp htries
  obtain ⟨tp, htp, -⟩ := h.tries 0 tr (by decide) (by rw [htr]; rfl)
  have hnone : w.templates = [] := by decide
  rw [hnone] at htp
  cases htp

end Spawny.Daemon.LoginTemplates
