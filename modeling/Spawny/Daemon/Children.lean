import Spawny.Daemon.ActiveSessions
import Spawny.Daemon.ForkEval
import Spawny.Daemon.ChildOutcomes
import Spawny.Daemon.Listening
import Spawny.Daemon.TryRequests

/-! # The daemon and its children

`System` couples the daemon with the programs of its children: a child runs `childBranch`, with the
descriptors that it has got from the daemon, and what it writes to its pipe are the messages of this
program in their order, while the daemon goes on. What the system and PAM answer to the child of the try
`t` is `env t`.

* `forking_keeps`: what holds where the daemon forks;
* `written_of_script`: what the messages of a child stand for;
* `authenticated`: **nobody is logged in who was not authenticated**, in every run. -/

namespace Spawny.Daemon.Children

open Spawny.Lib.Wire Spawny.Lib.Descriptors Spawny.Lib.Runs Spawny.Lib.Programs
open Spawny.Protocol Spawny.Protocol.Messages
open Spawny.Daemon.Manager Spawny.Daemon.SpawnRegistry
open Spawny.Daemon.SessionMgt Spawny.Daemon.State Spawny.Daemon.SpawnService
open Spawny.Daemon.GreeterTable Spawny.Daemon.Client Spawny.Daemon.Greeter Spawny.Daemon.Activations
open Spawny.Daemon.Server Spawny.Daemon.SafeCalls Spawny.Daemon.Loop Spawny.Daemon.Steps
open Spawny.Daemon.TryViews Spawny.Daemon.TryLife Spawny.Daemon.TryCells Spawny.Daemon.Outcomes
open Spawny.Daemon.Pipes Spawny.Daemon.Replies Spawny.Daemon.TrueAnswers Spawny.Daemon.LockoutCalls
open Spawny.Daemon.Forks Spawny.Daemon.ForkEval Spawny.Daemon.Listening Spawny.Daemon.TryRequests
open Spawny.Daemon.Child Spawny.Daemon.ChildOutcomes Spawny.Daemon.ActiveSessions

variable {C : FieldCode SpawnField} {w w' : World}

/-! ### Where the daemon forks -/

theorem clientForks_keeps {I : World → Prop} {a : Answers} {c fd : ℕ} {s : SpawnCall}
    (hops : GreeterOps C a I) (h : I w) (hs : clientForks C a c fd w = some s) : I s.1 := by
  unfold clientForks at hs
  cases hinput : a.input with
  | eof | bad => simp [hinput] at hs
  | msg m =>
    simp only [hinput, messageForks] at hs
    cases htype : m.type with
    | loginTry =>
      simp only [htype] at hs
      split_ifs at hs
      obtain ⟨l, -, hl⟩ := Option.bind_eq_some_iff.mp hs
      unfold loginForks at hl
      split_ifs at hl
      rw [← Option.some.inj hl]
      exact h
    | greeterStart =>
      simp only [htype] at hs
      split_ifs at hs
      exact activateForksUpTo_keeps hops maxActivate _ w s h hs
    | hello | sessionActivation | unknown n => simp [htype] at hs

/-- **What the callbacks keep holds where the daemon forks.** -/
theorem forking_keeps {I : World → Prop} {e : Event} {s : SpawnCall}
    (hops : ∀ a, GreeterOps C a I) (hadvance : I (advance w))
    (hreset : ∀ t g r, w.greeters[g]? = some r →
      I (greeterReset g (w.log (.greeterCb t (some r.seat)))))
    (hfailed : ∀ t t' g, called w = some (t', .spawnedSessionDisappear t) →
      I (greeterStartFailed t g (calledBack t w)))
    (hs : forking C w e = some s) : I s.1 := by
  cases e with
  | next a =>
    dsimp only [forking] at hs
    split_ifs at hs
    obtain ⟨r, -, hr⟩ := Option.bind_eq_some_iff.mp hs
    unfold dispatchForks at hr
    split at hr
    · exact clientForks_keeps (hops a) hadvance hr
    · cases hr
  | visit a =>
    obtain ⟨⟨t', hd⟩, hcalled, hs'⟩ := Option.bind_eq_some_iff.mp hs
    cases hd with
    | greeterDone g =>
      obtain ⟨r, hg, hr⟩ := Option.bind_eq_some_iff.mp hs'
      split_ifs at hr
      exact activateForksUpTo_keeps (hops a) maxActivate _ _ s (hreset t' g r hg) hr
    | spawnedSessionDisappear t =>
      change freedForks C a t w = some s at hs'
      unfold freedForks at hs'
      split at hs'
      · obtain ⟨r, -, hr⟩ := Option.bind_eq_some_iff.mp hs'
        exact activateForksUpTo_keeps (hops a) maxActivate _ _ s (hfailed t t' _ hcalled) hr
      · cases hs'
  | select _ _ | sigchld | reap _ | sigchldReturn | childWrite _ _ | childHangUp _ | childExit _ =>
    cases hs

/-- No try is forgotten. -/
theorem greeterOps_length (a : Answers) (n : ℕ) : GreeterOps C a fun w => n ≤ w.tries.length where
  session _ h := h
  add _ h := h
  noPipe _ _ h := h
  forked _ _ _ h := by
    simp only [greeterForked, childForked, openTry, World.modGreeter_tries]
    simp
    omega
  failed noTty _ _ _ _ _ h := by
    cases noTty <;>
      simp [greeterFailed, greeterStartFailed, greeterReset, tryFailed, closeRead, SpawnService.serviceComExit,
        openTry] <;> omega
  returned _ _ _ _ _ h := by
    simpa [greeterReturned, release] using h

theorem length_le_forking {e : Event} {s : SpawnCall} (hs : forking C w e = some s) :
    w.tries.length ≤ s.1.tries.length := by
  refine forking_keeps (fun a => greeterOps_length a w.tries.length) (le_refl w.tries.length)
    (fun _ _ _ _ => ?_) (fun t _ _ _ => ?_) hs
  · simp [greeterReset]
  · simp [greeterStartFailed, greeterReset, calledBack, closeRead]

/-- **The first four descriptors are open where the daemon forks**, so the pipe has higher numbers. -/
theorem base_forking (hlife : Life none w) (h : Base False w) {e : Event} {s : SpawnCall}
    (hs : forking C w e = some s) : Base False s.1 := by
  refine forking_keeps greeterOps_base (h.same (fun _ => rfl) rfl rfl rfl) (fun _ _ _ _ => ?_)
    (fun t t' g hcalled => ?_) hs
  · exact (h.log _).modGreeter _ _
  · obtain ⟨i, pid, -, he, -⟩ := step_visit (C := C) (a := Answers.plain) hcalled
    obtain ⟨v, hv, -⟩ := hlife.pending_of_handler he t rfl
    exact ((h.calledBack hv).log _).modGreeter _ _

theorem four_le_newWriteFd {s : SpawnCall} (h : Base False s.1) : 4 ≤ newWriteFd s.1 := by
  by_contra hlt
  exact h.low _ (Nat.not_le.mp hlt) (lookup_newWriteFd s.1)

/-! ### The children -/

/-- The daemon, the calls that have forked by the number of their try, and the calls of
`greeter_lockout` so far. -/
structure System where
  world : World
  call : ℕ → Option SpawnCall
  lockouts : List LockoutCall

section program

variable (env : ℕ → ChildEnv) (vtnr : ℕ → ℕ)

/-- What the child of the call is answered: it has the descriptors that `manager_fork_eval` leaves. -/
def childEnv (s : SpawnCall) : ChildEnv := { env s.1.tries.length with fds := childFdtab s.1 s.2 }

/-- **The program of the child**, run by itself. -/
def runChild (s : SpawnCall) : Except Stop Unit × Proc :=
  childBranch s.1.tries.length (newWriteFd s.1) (lowestFree s.1.fdtab) (childEnv env s) s.2
    (vtnr s.1.tries.length) (Proc.start (childEnv env s).fds)

/-- What the child of the try `t` writes to its pipe. -/
def System.script (s : System) (t : ℕ) : List SpawnMessage :=
  ((s.call t).map fun c => (runChild env vtnr c).2.written.map ServiceMessage.message).getD []

/-- A child writes the next message of its program. -/
def System.admits (s : System) : Event → Bool
  | .childWrite t m =>
    decide ((s.script env vtnr t)[(s.world.tryAt t).written.length]? = some m.message)
  | _ => true

/-- The calls after a step: the one that forks is new. -/
def System.callsAfter (C : FieldCode SpawnField) (s : System) (e : Event) :
    ℕ → Option SpawnCall :=
  match forking C s.world e with
  | some c => Function.update s.call c.1.tries.length (some c)
  | none => s.call

def System.step (C : FieldCode SpawnField) (s : System) (e : Event) : System :=
  if s.admits env vtnr e then
    { world := Loop.step C s.world e
      call := s.callsAfter C e
      lockouts := s.lockouts ++ (lockoutCall C s.world e).toList }
  else s

def System.start (debug : Bool) (templates : List Template) : System :=
  ⟨World.start debug templates, fun _ => none, []⟩

/-- **The child of the try has been let in**: PAM has authenticated the user of the try, and all other
steps of the child have succeeded too. -/
def System.Passed (s : System) (t : ℕ) : Prop :=
  ∃ c, s.call t = some c ∧ Passes (childEnv env c) (s.world.tryAt t).toSpawnRequest (vtnr t)

/-- The child of the try has come as far as to its session. -/
def System.SetUp (s : System) (t : ℕ) : Prop :=
  ∃ c, s.call t = some c ∧ TtyWorks (childEnv env c) ∧
    PamWorks (childEnv env c) (s.world.tryAt t).toSpawnRequest (vtnr t)

/-- **Nobody is logged in who was not authenticated**: the child does not tell that its session is set up,
or active, the done callback gets no success, the client of the login is told of none, and no greeter is
locked out for the login. -/
structure Authenticated (s : System) : Prop where
  setUp : ∀ t, ServiceMessage.setupDone.message ∈ (s.world.tryAt t).written → s.SetUp env vtnr t
  written : ∀ t, active ∈ (s.world.tryAt t).written → s.Passed env vtnr t
  done : ∀ t message, .done t ⟨.success, message⟩ ∈ s.world.trace → s.Passed env vtnr t
  feedback : ∀ t, Succeeds (.sessionDone t) s.world.trace → s.Passed env vtnr t
  lockout : ∀ call t, call ∈ s.lockouts → call.login = some t → s.Passed env vtnr t
  called : ∀ seat, .lockout seat ∈ s.world.trace → ∃ call ∈ s.lockouts, call.seat = some seat

end program

variable {env : ℕ → ChildEnv} {vtnr : ℕ → ℕ}

/-! ### What the messages stand for -/

/-- The call has made the try `t`. -/
structure Made (w : World) (t : ℕ) (c : SpawnCall) : Prop where
  number : c.1.tries.length = t
  pipe : 4 ≤ newWriteFd c.1
  made : HasTry c w

theorem Made.lt {t : ℕ} {c : SpawnCall} (h : Made w t c) : t < w.tries.length := by
  obtain ⟨rfl, -, tr, htr, -⟩ := h
  exact (List.getElem?_eq_some_iff.mp htr).1

theorem Made.request {t : ℕ} {c : SpawnCall} (h : Made w t c) :
    (w.tryAt t).toSpawnRequest = c.2 := by
  obtain ⟨rfl, -, tr, htr, hreq⟩ := h
  rw [World.tryAt_eq htr, hreq]

theorem Made.step {t : ℕ} {c : SpawnCall} (h : Made w t c) (e : Event) :
    Made (step C w e) t c := ⟨h.number, h.pipe, h.made.kept (requests_step w e)⟩

theorem message_injective {m m' : ServiceMessage} (h : m.message = m'.message) : m = m' := by
  cases m <;> cases m' <;> simp [ServiceMessage.message] at h ⊢
  exact h

/-- How the child of a call ends. -/
theorem outcome_of_made {t : ℕ} {c : SpawnCall} (hc : Made w t c) : ∃ stop,
    Outcome t (lowestFree c.1.fdtab) (newWriteFd c.1) (childEnv env c) c.2 (vtnr t) stop
      (runChild env vtnr c).2 := by
  obtain ⟨rfl, hpipe, -⟩ := hc
  have hwp : wp (childBranch c.1.tries.length (newWriteFd c.1) (lowestFree c.1.fdtab) (childEnv env c)
      c.2 (vtnr c.1.tries.length)) (fun _ _ => False) _ (Proc.start (childEnv env c).fds) :=
    wp_childBranch (by omega)
  obtain ⟨stop, s, hrun, hout⟩ := exists_stop hwp
  refine ⟨stop, ?_⟩
  rw [runChild, hrun]
  exact hout

theorem mem_script {s : System} {t : ℕ} {m : ServiceMessage}
    (h : m.message ∈ s.script env vtnr t) :
    ∃ c, s.call t = some c ∧ m ∈ (runChild env vtnr c).2.written := by
  unfold System.script at h
  cases hc : s.call t with
  | none =>
    rw [hc] at h
    cases h
  | some c =>
    rw [hc] at h
    obtain ⟨m', hm', heq⟩ := List.mem_map.mp h
    exact ⟨c, rfl, message_injective heq ▸ hm'⟩

/-! ### What the children have written -/

/-- The child has written the beginning of its script, or there is no child. -/
def Follows (script : List SpawnMessage) (tr : SpawnTry) : Prop :=
  tr.written <+: script ∨
    (tr.childPid = 0 ∧ tr.written = [(ServiceMessage.errorExit "Failed to find tty").message])

theorem cellOps_follows (script : ℕ → List SpawnMessage) :
    CellOpsAt C fun t tr => Follows (script t) tr where
  new _ _ _ _ _ := Or.inl List.nil_prefix
  failed _ noTty _ _ _ := by
    cases noTty
    · exact Or.inl List.nil_prefix
    · exact Or.inr ⟨rfl, rfl⟩
  read h := h
  session _ h := h
  errorMsg _ h := h
  called h := h
  succeeded h := h
  released h := h
  reaped h := h
  hungUp h := h
  exited h := h

theorem prefix_concat {α : Type} {l l' : List α} {a : α} (h : l <+: l') (ha : l'[l.length]? = some a) :
    l ++ [a] <+: l' := by
  obtain ⟨rest, rfl⟩ := h
  rw [List.getElem?_append_right (le_refl _), Nat.sub_self] at ha
  cases rest with
  | nil => cases ha
  | cons b rest =>
    obtain rfl := Option.some.inj ha
    exact ⟨rest, by simp⟩

/-- A child of which the next message is written. -/
theorem follows_write {script : ℕ → List SpawnMessage} {t : ℕ} {m : ServiceMessage}
    (h : CellsAt (fun t tr => Follows (script t) tr) w)
    (hnext : (script t)[(w.tryAt t).written.length]? = some m.message) :
    CellsAt (fun t tr => Follows (script t) tr) (step C w (.childWrite t m)) := by
  dsimp only [Loop.step]
  split_ifs with hok
  · have hrun := (Bool.and_eq_true_iff.mp hok).1
    intro t' tr' htr'
    rw [World.getElem?_modTry] at htr'
    obtain ⟨tr, htr, rfl⟩ := Option.map_eq_some_iff.mp htr'
    split_ifs with ht
    · subst ht
      rw [World.tryAt_eq htr] at hrun hnext
      rcases h t tr htr with hfollows | ⟨hpid, -⟩
      · exact Or.inl (prefix_concat hfollows hnext)
      · simp [SpawnTry.running, hpid] at hrun
    · exact h t' tr htr
  · exact h

variable {s : System}

/-- **The pipes**: every step that is admitted keeps to the scripts. -/
theorem follows_step {e : Event} (hadmits : s.admits env vtnr e = true)
    (h : CellsAt (fun t tr => Follows (s.script env vtnr t) tr) s.world) :
    CellsAt (fun t tr => Follows (s.script env vtnr t) tr) (step C s.world e) := by
  by_cases hwrites : ∃ t m, e = .childWrite t m
  · obtain ⟨t, m, rfl⟩ := hwrites
    exact follows_write h (of_decide_eq_true hadmits)
  · refine (cellOps_follows (s.script env vtnr)).step h e fun t m tr he _ => ?_
    exact absurd ⟨t, m, he⟩ hwrites

/-! ### The invariant -/

variable (env vtnr C) in
/-- **The invariant**: every child that there is was forked by a call that is kept, and it follows the
script of its program. -/
structure Sound (s : System) : Prop extends Authenticated env vtnr s where
  life : Life none s.world
  cells : Cells Undecided s.world
  reads : Reads C s.world
  base : Base False s.world
  made : ∀ t c, s.call t = some c → Made s.world t c
  follows : CellsAt (fun t tr => Follows (s.script env vtnr t) tr) s.world

/-- The calls after a step: only a new try gets one. -/
theorem callsAfter_cases (e : Event) (t : ℕ) : s.callsAfter C e t = s.call t ∨
    ∃ c, forking C s.world e = some c ∧ c.1.tries.length = t ∧ s.callsAfter C e t = some c := by
  unfold System.callsAfter
  cases hc : forking C s.world e with
  | none => exact Or.inl rfl
  | some c =>
    dsimp only
    by_cases ht : t = c.1.tries.length
    · subst ht
      exact Or.inr ⟨c, rfl, rfl, Function.update_self _ _ _⟩
    · exact Or.inl (Function.update_of_ne ht _ _)

theorem callsAfter_old {e : Event} {t : ℕ} (ht : t < s.world.tries.length) :
    s.callsAfter C e t = s.call t := by
  rcases callsAfter_cases (C := C) (s := s) e t with h | ⟨c, hc, hnum, -⟩
  · exact h
  · have := length_le_forking hc
    omega

theorem script_old {e : Event} {t : ℕ} {lockouts : List LockoutCall} (ht : t < s.world.tries.length) :
    System.script env vtnr ⟨step C s.world e, s.callsAfter C e, lockouts⟩ t = s.script env vtnr t := by
  have hcall : s.callsAfter C e t = s.call t := callsAfter_old ht
  unfold System.script
  dsimp only
  rw [hcall]

/-- No child, no script. -/
theorem Sound.script_new (h : Sound C env vtnr s) {t : ℕ} (ht : s.world.tries.length ≤ t) :
    s.script env vtnr t = [] := by
  unfold System.script
  cases hc : s.call t with
  | none => rfl
  | some c =>
    have hlt := (h.made t c hc).lt
    omega

/-- A call that is kept stays. -/
theorem Sound.kept (h : Sound C env vtnr s) {e : Event} {t : ℕ} {c : SpawnCall}
    (hc : s.call t = some c) : s.callsAfter C e t = some c := by
  exact (callsAfter_old (h.made t c hc).lt).trans hc

/-- **What the messages of a child stand for.** -/
theorem outcome_of_written (hmade : ∀ t c, s.call t = some c → Made s.world t c)
    (hfollows : CellsAt (fun t tr => Follows (s.script env vtnr t) tr) s.world) {t : ℕ}
    {m : ServiceMessage} (hm : ∀ reason, m ≠ .errorExit reason)
    (hwritten : m.message ∈ (s.world.tryAt t).written) :
    ∃ c out, s.call t = some c ∧ m ∈ (runChild env vtnr c).2.written ∧
      Outcome t (lowestFree c.1.fdtab) (newWriteFd c.1) (childEnv env c) c.2 (vtnr t) out
        (runChild env vtnr c).2 := by
  cases htr : s.world.tries[t]? with
  | none =>
    rw [World.tryAt, htr] at hwritten
    cases hwritten
  | some tr =>
    rw [World.tryAt_eq htr] at hwritten
    rcases hfollows t tr htr with hwrote | ⟨-, hfailed⟩
    · obtain ⟨c, hc, hsaid⟩ := mem_script (hwrote.subset hwritten)
      obtain ⟨out, hout⟩ := outcome_of_made (hmade t c hc)
      exact ⟨c, out, hc, hsaid, hout⟩
    · rw [hfailed, List.mem_singleton] at hwritten
      exact absurd (message_injective hwritten) (hm _)

theorem passed_of_written (hmade : ∀ t c, s.call t = some c → Made s.world t c)
    (hfollows : CellsAt (fun t tr => Follows (s.script env vtnr t) tr) s.world) (t : ℕ)
    (hactive : active ∈ (s.world.tryAt t).written) : s.Passed env vtnr t := by
  obtain ⟨c, out, hc, hsaid, hout⟩ := outcome_of_written hmade hfollows (m := .sessionActive) (by simp)
    hactive
  refine ⟨c, hc, ?_⟩
  rw [(hmade t c hc).request]
  exact hout.passes hsaid

theorem setUp_of_written (hmade : ∀ t c, s.call t = some c → Made s.world t c)
    (hfollows : CellsAt (fun t tr => Follows (s.script env vtnr t) tr) s.world) (t : ℕ)
    (hsetup : ServiceMessage.setupDone.message ∈ (s.world.tryAt t).written) :
    s.SetUp env vtnr t := by
  obtain ⟨c, out, hc, hsaid, hout⟩ := outcome_of_written hmade hfollows (m := .setupDone) (by simp)
    hsetup
  refine ⟨c, hc, ?_⟩
  rw [(hmade t c hc).request]
  exact hout.setUp hsaid

/-- The try whose `SESSION_ACTIVE` is read. -/
theorem Sound.read (h : Sound C env vtnr s) {e : Event} {t : ℕ}
    (hread : activeRead C s.world e = some t) : s.Passed env vtnr t := by
  obtain ⟨a, fd, m, -, -, -, hready, hmsg, htype⟩ := activeRead_eq_some.mp hread
  exact h.written t (h.reads.active (ready_mem_live hready) hmsg htype)

/-- **Every step keeps the invariant.** -/
theorem sound_step (h : Sound C env vtnr s) (e : Event) : Sound C env vtnr (s.step env vtnr C e) := by
  unfold System.step
  split_ifs with hadmits
  · set s' : System := {
      world := step C s.world e
      call := s.callsAfter C e
      lockouts := s.lockouts ++ (lockoutCall C s.world e).toList } with hs'
    obtain ⟨os, htrace, hall⟩ := ActiveSessions.reports_step h.life h.cells e
    have hmade : ∀ t c, s'.call t = some c → Made s'.world t c := by
      intro t c hc
      rcases callsAfter_cases (C := C) (s := s) e t with hold | ⟨c', hfork, hnum, hnew⟩
      · exact (h.made t c (hold.symm.trans hc)).step e
      · obtain rfl := Option.some.inj (hnew.symm.trans hc)
        exact ⟨hnum, four_le_newWriteFd (base_forking h.life h.base hfork), hasTry_step hfork⟩
    have hpassed : ∀ t, s.Passed env vtnr t → s'.Passed env vtnr t := by
      rintro t ⟨c, hc, hpasses⟩
      refine ⟨c, h.kept hc, ?_⟩
      rw [(hmade t c (h.kept hc)).request, ← (h.made t c hc).request]
      exact hpasses
    have hread : ∀ t, activeRead C s.world e = some t → s'.Passed env vtnr t :=
      fun t hread => hpassed t (h.read hread)
    have hfollows : CellsAt (fun t tr => Follows (s'.script env vtnr t) tr) s'.world := by
      intro t tr htr
      have hold : Follows (s.script env vtnr t) tr := follows_step hadmits h.follows t tr htr
      by_cases ht : t < s.world.tries.length
      · rwa [script_old ht]
      · -- the new try has written nothing that a child writes
        rw [h.script_new (Nat.not_lt.mp ht)] at hold
        refine hold.imp_left fun hnil => ?_
        rw [List.prefix_nil.mp hnil]
        exact List.nil_prefix
    exact {
      life := life_step h.life
      cells := undecided_step h.cells e
      reads := reads_step h.reads h.life e
      base := (base_step h.life h.base).mono fun hp => hp.elim
      made := hmade
      follows := hfollows
      setUp := setUp_of_written hmade hfollows
      written := passed_of_written hmade hfollows
      done := fun t message hmem => by
        rw [hs', htrace] at hmem
        rcases List.mem_append.mp hmem with hmem | hmem
        · exact hpassed t (h.done t message hmem)
        · exact hread t ((hall _ hmem).done t message rfl)
      feedback := by
        rintro t ⟨dest, fb, hmem, hsuccess⟩
        rw [hs', htrace] at hmem
        rcases List.mem_append.mp hmem with hmem | hmem
        · exact hpassed t (h.feedback t ⟨dest, fb, hmem, hsuccess⟩)
        · exact hread t ((hall _ hmem).feedback t dest fb rfl hsuccess)
      lockout := fun call t hcall hlog => by
        rcases List.mem_append.mp hcall with hcall | hcall
        · exact hpassed t (h.lockout call t hcall hlog)
        · obtain ⟨a, rfl, ⟨t', c, hactive, -, rfl⟩ | ⟨c, -, rfl⟩⟩ :=
            lockoutCall_eq_some (Option.mem_toList.mp hcall)
          · obtain rfl := Option.some.inj hlog
            exact hread _ hactive
          · cases hlog
      called := fun seat hmem => by
        rw [hs', htrace] at hmem
        rcases List.mem_append.mp hmem with hmem | hmem
        · obtain ⟨call, hcall, hseat⟩ := h.called seat hmem
          exact ⟨call, List.mem_append_left _ hcall, hseat⟩
        · obtain ⟨call, hcall, hseat⟩ := (hall _ hmem).lockout seat rfl
          exact ⟨call, List.mem_append_right _ (Option.mem_toList.mpr hcall), hseat⟩ }
  · exact h

theorem sound_start (debug : Bool) (templates : List Template) :
    Sound C env vtnr (System.start debug templates) where
  life := life_start debug templates
  cells := undecided_start debug templates
  reads := reads_start debug templates
  base := base_start debug templates
  made _ _ hc := by cases hc
  follows t tr htr := by simp [System.start, World.start] at htr
  setUp t hmem := by
    simp [System.start, World.start, World.tryAt, default, instInhabitedSpawnTry.default] at hmem
  written t hmem := by
    simp [System.start, World.start, World.tryAt, default, instInhabitedSpawnTry.default] at hmem
  done _ _ hmem := by cases hmem
  feedback := by
    rintro t ⟨dest, fb, hmem, -⟩
    cases hmem
  lockout _ _ hcall := by cases hcall
  called _ hmem := by cases hmem

/-- **Nobody is logged in who was not authenticated**, in every run of the daemon and its children,
whatever they are answered. -/
theorem authenticated (C : FieldCode SpawnField) (env : ℕ → ChildEnv) (vtnr : ℕ → ℕ) (debug : Bool)
    (templates : List Template) (es : List Event) :
    Authenticated env vtnr (run (System.step env vtnr C) (System.start debug templates) es) :=
  (run_induction (I := Sound C env vtnr) (fun _ e h => sound_step h e) es _
    (sound_start debug templates)).toAuthenticated

set_option maxRecDepth 8000 in
/-- A login that is answered: the pipe is read once while the child sets up, and once at its end. -/
example : .done 1 ⟨.success, none⟩ ∈
    (run (System.step (fun _ => everyStepWorks) (fun _ => 11) Encoding.spawnCode)
      (System.start false gnomeStart.templates)
      (loginAsks ++ [.childWrite 1 .connect, .childWrite 1 .setupDone] ++ readsPipe ++
        .childWrite 1 .sessionActive :: readsPipe)).world.trace := by decide

end Spawny.Daemon.Children
