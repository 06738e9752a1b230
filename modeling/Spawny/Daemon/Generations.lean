import Spawny.Daemon.StartCounts
import Spawny.Daemon.GreeterFlags

/-! # Generations of a greeter record

`run_gen` of a record is to count the starts that have failed and the unexpected exits, so that a
seat whose greeter does not come up is given up in the end. `talliedStep` runs the daemon together
with what happened to the greeter of each seat since the seat has its record.

* `Even`, `even_clientData`, …: the steps in which nothing is counted;
* `stepCounts_of_counts`: what a step counts that ends with an activation;
* `stepCounts_step`: **what every step counts**, if its callback finds the record of its seat;
* `generations_counted`: **`run_gen` counts all failures but those of `pipe`, and they cause at most
  `FALLBACK_RUN_GENERATION` restarts**, in runs of such steps;
* `failure_not_counted`: two runs in which a start fails and is not counted. -/

namespace Spawny.Daemon.Generations

open Spawny.Lib.Wire Spawny.Lib.Descriptors Spawny.Lib.Runs Spawny.Protocol Spawny.Protocol.Messages
open Spawny.Daemon.Manager Spawny.Daemon.SpawnRegistry
open Spawny.Daemon.SessionMgt Spawny.Daemon.State Spawny.Daemon.SpawnService
open Spawny.Daemon.GreeterTable Spawny.Daemon.Client Spawny.Daemon.Greeter Spawny.Daemon.Activations
open Spawny.Daemon.Server Spawny.Daemon.Loop Spawny.Daemon.Steps Spawny.Daemon.TryViews
open Spawny.Daemon.TryCells Spawny.Daemon.TryLife Spawny.Daemon.TryFields Spawny.Daemon.GreeterSlots
open Spawny.Daemon.OneGreeter Spawny.Daemon.GreeterStarts Spawny.Daemon.TrueAnswers
open Spawny.Daemon.GreeterFlags Spawny.Daemon.StartCounts

variable {C : FieldCode SpawnField} {seat : String} {w w' w'' : World}

/-! ### What a step counts -/

/-- The try has started its greeter. -/
def SpawnTry.succeeded (tr : SpawnTry) : Bool := tr.doneCalled && decide (tr.success = .success)

/-- The seat of a greeter that is not meant to end. -/
def unexpected (w : World) (tr : SpawnTry) : Option String :=
  (SpawnTry.greeterSeat tr).filter fun s => w.greeters.any fun r => r.seat == s && !r.ended

/-- No `_greeter_done` will be called for the child of the try. -/
def unheard (w : World) (tr : SpawnTry) : Bool :=
  w.registry.live.all fun l => decide (l.pid ≠ tr.childPid) || (l.handler.bind Handler.slot).isNone

/-- The seat of the greeter whose start has failed or that has exited unexpectedly: the step calls
the listener for it, or, if there is none, it reaps the child. -/
def failing (w : World) (e : Event) : Option String :=
  match e with
  | .visit _ => (called w).bind fun c =>
      match c.2 with
      | .spawnedSessionDisappear t => SpawnTry.greeterSeat (w.tryAt t)
      | .greeterDone _ =>
        if SpawnTry.succeeded (w.tryAt c.1) then unexpected w (w.tryAt c.1) else none
  | .reap t =>
    if w.registry.evalMode = true ∧ w.scan = none ∧ (w.tryAt t).childPid ≠ 0 ∧
        (w.tryAt t).reaped = false ∧ SpawnTry.succeeded (w.tryAt t) ∧ unheard w (w.tryAt t) then
      unexpected w (w.tryAt t)
    else none
  | _ => none

/-- The callback for the end of a greeter finds the record of its seat, `_greeter_done` is called for
a greeter that was started, and somebody listens for every such greeter that ends unexpectedly. -/
def toldRight (w : World) (e : Event) : Bool :=
  match e with
  | .visit _ => (called w).all fun c =>
      match c.2 with
      | .spawnedSessionDisappear t => (DoneCb.slot (w.tryAt t).done).all fun g =>
          decide (seatAt w g = SpawnTry.greeterSeat (w.tryAt t))
      | .greeterDone g => SpawnTry.succeeded (w.tryAt c.1) &&
          decide (seatAt w g = SpawnTry.greeterSeat (w.tryAt c.1))
  | .reap _ => (failing w e).isNone
  | _ => true

/-- The greeter tries of a step. -/
def newStarts (w w' : World) : List (String × Bool) := (attempts w').drop (attempts w).length

/-- The starts of the seat's greeter in the step for which there is no pipe. -/
def noPipe (seat : String) (w : World) (e : Event) : ℕ :=
  match e with
  | .next a =>
    if startHandled w e = some seat ∧ seatSession a seat w = none then
      (pipeFails a maxActivate (generation seat w) w.tries.length).toNat
    else 0
  | .visit a =>
    if failing w e = some seat then
      (pipeFails a maxActivate (generation seat w + 1) w.tries.length).toNat
    else 0
  | _ => 0

/-- A failed start or an unexpected exit of the seat's greeter. -/
def reported (seat : String) (w : World) (e : Event) : ℕ := if failing w e = some seat then 1 else 0

/-- The step handles a `GREETER_START` for the seat. -/
def asked (seat : String) (w : World) (e : Event) : ℕ :=
  if startHandled w e = some seat then 1 else 0

variable (C) in
/-- The calls of `spawnservice_spawn` for the seat's greeter in the step. -/
def starts (seat : String) (w : World) (e : Event) : ℕ :=
  (newStarts w (step C w e)).countP (fun p => p.1 == seat) + noPipe seat w e

/-- What happened to the greeter of a seat: the starts that have failed and the unexpected exits,
those of them that had no pipe, and the starts that were not asked for by a `GREETER_START`. -/
structure Tally where
  failures : ℕ
  noPipe : ℕ
  restarts : ℕ
  deriving DecidableEq, Repr

def Tally.add (x y : Tally) : Tally :=
  ⟨x.failures + y.failures, x.noPipe + y.noPipe, x.restarts + y.restarts⟩

variable (C) in
def stepTally (w : World) (e : Event) (seat : String) : Tally where
  failures := reported seat w e + (newStarts w (step C w e)).count (seat, true) + noPipe seat w e
  noPipe := noPipe seat w e
  restarts := starts C seat w e - asked seat w e

variable (C) in
/-- **What the step does to `run_gen` of the seat**: it counts the failures but those of `pipe`; each
of them causes at most one restart, and only while `run_gen` allows it. -/
structure StepCounts (w : World) (e : Event) (seat : String) : Prop where
  counts : ∀ n, (seat, n) ∈ gens (step C w e) →
    n + (stepTally C w e seat).noPipe = generation seat w + (stepTally C w e seat).failures
  restarts : (stepTally C w e seat).restarts + (stepTally C w e seat).noPipe ≤
    (stepTally C w e seat).failures
  spawns : 0 < starts C seat w e →
    generation seat w + (stepTally C w e seat).restarts ≤ FALLBACK_RUN_GENERATION

/-! ### Steps that count nothing -/

/-- No record is added and none changes its `run_gen`, and no try for a greeter is made. -/
structure Even (w w' : World) : Prop where
  gens : ∀ p ∈ gens w', p ∈ gens w
  seats : greeterSeats w' = greeterSeats w

theorem Even.refl (w : World) : Even w w := ⟨fun _ hp => hp, rfl⟩

theorem Even.trans (h : Even w w') (h' : Even w' w'') : Even w w'' :=
  ⟨fun p hp => h.gens p (h'.gens p hp), h'.seats.trans h.seats⟩

theorem Even.newStarts (h : Even w w') : newStarts w w' = [] := by
  have hlength : (attempts w').length = (attempts w).length := by
    rw [length_attempts, h.seats, length_attempts]
  rw [Generations.newStarts, ← hlength, List.drop_length]

theorem even_of (hgens : StartCounts.gens w' = StartCounts.gens w) (htries : w'.tries = w.tries) :
    Even w w' := by
  refine ⟨fun p hp => ?_, by rw [greeterSeats, htries, greeterSeats]⟩
  rwa [hgens] at hp

theorem even_same (hgreeters : w'.greeters = w.greeters) (htries : w'.tries = w.tries) :
    Even w w' := even_of (by rw [StartCounts.gens, hgreeters, StartCounts.gens]) htries

theorem Even.still (h : Even w w') (hgreeters : w''.greeters = w'.greeters)
    (htries : w''.tries = w'.tries) : Even w w'' := h.trans (even_same hgreeters htries)

theorem Even.modTry (h : Even w w') {f : SpawnTry → SpawnTry}
    (hf : ∀ tr, (f tr).toSpawnRequest = tr.toSpawnRequest) (t : ℕ) : Even w (w'.modTry t f) := by
  refine h.trans ⟨fun p hp => hp, filterMap_modify (fun tr => ?_) w'.tries t⟩
  unfold SpawnTry.greeterSeat
  rw [hf]

theorem Even.called (h : Even w w') (t : ℕ) :
    Even w (w'.modTry t fun tr => { tr with doneCalled := true }) := by
  refine h.modTry ?_ t
  exact fun _ => rfl

theorem Even.closeRead (h : Even w w') (t : ℕ) : Even w (closeRead t w') :=
  h.still (by simp [SpawnService.closeRead]) (by simp [SpawnService.closeRead])

theorem Even.calledBack (h : Even w w') (t : ℕ) : Even w (calledBack t w') :=
  ((h.closeRead t).called t).still rfl rfl

theorem Even.release (h : Even w w') (t : ℕ) : Even w (release t w') := by
  have hunlisten : Even w (w'.unlisten (w'.tryAt t).pid (.spawnedSessionDisappear t)) :=
    h.still rfl rfl
  refine hunlisten.modTry ?_ t
  exact fun _ => rfl

theorem gens_greeterLockout (seat : Option String) (w : World) :
    gens (greeterLockout seat w) = gens w := by
  unfold greeterLockout
  cases seat with
  | none =>
    dsimp only
    split_ifs <;> rfl
  | some s =>
    dsimp only
    cases greeterSearch s w with
    | none => rfl
    | some g =>
      refine gens_modGreeter ?_ g w
      exact fun _ => ⟨rfl, rfl⟩

theorem gens_clientGoodbye (why : Sender) (c : ℕ) (w : World) :
    gens (clientGoodbye why c w) = gens w := rfl

theorem gens_sessionDone (a : Answers) (t c : ℕ) (result : SpawnServiceEnd) (w : World) :
    gens (sessionDone a t c result w) = gens w := by
  have hfault : gens (if (w.clientAt c).freed then w.fault else w) = gens w := by
    split_ifs <;> rfl
  unfold sessionDone
  dsimp only
  generalize (if (w.clientAt c).freed then w.fault else w) = w' at hfault ⊢
  cases result.success with
  | error => exact hfault
  | success =>
    have hlockout := gens_greeterLockout (seatGet a.sd (w'.clientAt c).pid) w'
    exact (gens_clientGoodbye _ _ _).trans (hlockout.trans hfault)

theorem Even.sessionDone (h : Even w w') (a : Answers) (t c : ℕ) (result : SpawnServiceEnd) :
    Even w (sessionDone a t c result w') :=
  h.trans (even_of (gens_sessionDone a t c result w') (tries_sessionDone a t c result w'))

theorem Even.forceQuit (h : Even w w') (t : ℕ) : Even w (forceQuit t w') := by
  unfold SpawnService.forceQuit
  split_ifs <;> exact h.still rfl rfl

theorem Even.sessionActivate (h : Even w w') (session : Option String) :
    Even w (sessionActivate session w') := by
  cases session <;> exact h.still rfl rfl

/-! ### Tries for logins -/

theorem even_openTry (req : SpawnRequest) {c : ℕ} (hreq : req.done = .sessionDone c) (w : World) :
    Even w (openTry req w) := by
  refine ⟨fun p hp => ?_, ?_⟩
  · rwa [gens, greeters_openTry] at hp
  · have hlogin : ∀ readFd writeFd, SpawnTry.greeterSeat (newTry req readFd writeFd) = none := by
      intro readFd writeFd
      simp [SpawnTry.greeterSeat, newTry, hreq, DoneCb.slot]
    simp [greeterSeats, openTry, hlogin]

theorem Even.childForked (h : Even w w') (t pid : ℕ) : Even w (childForked t pid w') := by
  have hchild : Even w (w'.modTry t fun tr => { tr with childPid := pid }) := by
    refine h.modTry ?_ t
    exact fun _ => rfl
  unfold SpawnService.childForked
  refine Even.modTry ?_ ?_ t
  · exact hchild.still rfl rfl
  · exact fun _ => rfl

theorem even_tryFailed (req : SpawnRequest) {c : ℕ} (hreq : req.done = .sessionDone c) (noTty : Bool)
    (w : World) : Even w (tryFailed C noTty req w) := by
  have hopened := even_openTry req hreq w
  unfold tryFailed
  refine Even.still (Even.called (Even.closeRead ?_ _) _) (World.log_greeters _ _)
    (World.log_tries _ _)
  cases noTty with
  | false => exact hopened
  | true =>
    refine hopened.modTry ?_ w.tries.length
    exact fun _ => rfl

/-! ### The callbacks -/

/-- The end of a try that is no failed start of a greeter with a record. -/
theorem even_freed {a : Answers} {t : ℕ} (hf : Freed C a t w w')
    (hok : ∀ g r, (w.tryAt t).done = .greeterStartDone g → w.greeters[g]? = some r →
      (w.tryAt t).success ≠ .error) : Even w w' := by
  have hcalled := (Even.refl w).calledBack t
  cases hf with
  | login c _ => exact (hcalled.sessionDone a t c _).release t
  | lost g _ _ =>
    refine Even.release ?_ t
    exact hcalled.still rfl rfl
  | restarted g r hdone hg hres => exact absurd hres (hok g r hdone hg)
  | noTry g r _ _ _ _ =>
    refine Even.release ?_ t
    exact hcalled.still rfl rfl
  | started g r t' _ _ _ _ =>
    have hset : gens (greeterStarted t g t' (calledBack t w)) = gens (calledBack t w) := by
      refine (gens_modGreeter ?_ g _).trans rfl
      exact fun _ => ⟨rfl, rfl⟩
    exact (hcalled.trans (even_of hset rfl)).release t

/-- A request of a client that is no `GREETER_START` of a process that is alive. -/
theorem even_clientData {a : Answers} {c fd : ℕ} (hdoes : ClientData C a c fd w w')
    (hno : ∀ m, a.input = .msg m → m.type = .greeterStart → a.alive (w.clientAt c).pid ≠ true) :
    Even w w' := by
  induction hdoes with
  | closed _ => exact even_same rfl rfl
  | dropped _ => exact even_same rfl rfl
  | replied msg => exact even_same rfl rfl
  | activated _ session seat =>
    have hanswered : Even w (serverSpawnserviceFeedback (.reply c) false
        (some "Activation is called on this session") fd (sessionActivate session w)) :=
      ((Even.refl w).sessionActivate session).still rfl rfl
    have hlocked := hanswered.trans
      (even_of (gens_greeterLockout seat _) (tries_greeterLockout seat _))
    exact hlocked.still rfl rfl
  | noLogin => exact even_same rfl rfl
  | noPipe _ => exact even_same rfl rfl
  | loginForked _ _ l pid =>
    have hopened := even_openTry (loginRequest a c fd l w) rfl w
    exact (hopened.childForked _ _).still (World.modClient_greeters _ _ _)
      (World.modClient_tries _ _ _)
  | loginFailed _ l noTty _ _ _ =>
    have hfailed := even_tryFailed (C := C) (loginRequest a c fd l w) rfl noTty w
    have hdone := hfailed.sessionDone a w.tries.length c ⟨.error, none⟩
    exact (hdone.release w.tries.length).still (World.modClient_greeters _ _ _)
      (World.modClient_tries _ _ _)
  | started _ m hinput htype halive => exact absurd halive (hno m hinput htype)
  | ignored => exact Even.refl w
  | fallback w' _ ih => exact ih.still rfl rfl

theorem even_childData {a : Answers} {t fd : ℕ} {tr : SpawnTry} (ht : w.tries[t]? = some tr)
    (hdoes : ChildData C a t fd w w') : Even w w' := by
  have hread : Even w (w.modTry t SpawnTry.readPipe) := by
    refine (Even.refl w).modTry ?_ t
    exact fun _ => rfl
  have hunreg : ∀ n, Even w ((w.modTry t SpawnTry.readPipe).unregisterFd n) :=
    fun n => hread.still rfl rfl
  cases hdoes with
  | undecodable _ => exact (hunreg _).forceQuit t
  | connect _ _ _ => exact hread
  | setupDone _ _ _ session =>
    refine Even.sessionActivate ?_ session
    have hset : Even w ((w.modTry t SpawnTry.readPipe).modTry t
        fun tr => { tr with session := session }) := by
      refine hread.modTry ?_ t
      exact fun _ => rfl
    split_ifs
    · exact hset.forceQuit t
    · exact hset
  | sessionActive _ _ _ w' hfree =>
    have hset : Even w (((w.modTry t SpawnTry.readPipe).unregisterFd (w.tryAt t).readFd).modTry t
        fun tr => { tr with success := .success }) := by
      refine (hunreg _).modTry ?_ t
      exact fun _ => rfl
    refine hset.trans (even_freed hfree fun g r _ _ => ?_)
    rw [World.tryAt_eq (getElem?_succeeded ht _)]
    exact nofun
  | errorExit _ _ _ reason _ =>
    refine (hunreg _).modTry ?_ t
    exact fun _ => rfl
  | noReason _ _ _ _ => exact (hunreg (w.tryAt t).readFd).still rfl rfl

/-! ### What a step counts -/

theorem stepCounts_of_even {e : Event} (hnodup : (seats w).Nodup) (heven : Even w (step C w e))
    (hreported : reported seat w e = 0) (hno : noPipe seat w e = 0) : StepCounts C w e seat := by
  have hnew := heven.newStarts
  have hstarts : starts C seat w e = 0 := by simp [starts, hnew, hno]
  have hfailures : (stepTally C w e seat).failures = 0 := by
    simp [stepTally, hnew, hno, hreported]
  have hrestarts : (stepTally C w e seat).restarts = 0 := by simp [stepTally, hstarts]
  have hpipe : (stepTally C w e seat).noPipe = 0 := hno
  refine ⟨fun n hn => ?_, by omega, by omega⟩
  have hgeneration := generation_of_mem hnodup (heven.gens _ hn)
  omega

/-- **A step that ends with an activation** of the seat `seat`: a failure is reported before it, or
a `GREETER_START` asks for it. -/
theorem stepCounts_of_counts {e : Event} {w₁ : World} {n p : ℕ} (hnodup : (seats w).Nodup)
    (hgains : Gains seat n w w₁) (hlength : (attempts w₁).length = (attempts w).length)
    (hcounts : Counts seat p w₁ (step C w e)) (hreported : reported seat w e = n)
    (hasked : n + asked seat w e = 1) (hpipe : noPipe seat w e = p)
    (hother : ∀ s, s ≠ seat → reported s w e = 0 ∧ noPipe s w e = 0) (s : String) :
    StepCounts C w e s := by
  obtain ⟨failed, forked, hgains', hattempts, hlast, hbound⟩ := hcounts
  have hnodup' := nodup_step (C := C) hnodup e
  have hnew : newStarts w (step C w e) = outcome seat failed forked := by
    rw [newStarts, hattempts, ← hlength, List.drop_left]
  have htotal := hgains.trans hgains'
  have hown := hgains.own
  have hown' := htotal.own
  by_cases hs : s = seat
  · subst hs
    have hstarts : starts C s w e = failed + forked + p := by
      rw [starts, hnew, countP_outcome, if_pos rfl, hpipe]
    have hfailures : (stepTally C w e s).failures = n + failed + p := by
      unfold stepTally
      rw [hnew, count_outcome, if_pos rfl, hpipe, hreported]
    have hrestarts : (stepTally C w e s).restarts = failed + forked + p - asked s w e := by
      rw [← hstarts]
      rfl
    have hnoPipe : (stepTally C w e s).noPipe = p := hpipe
    refine ⟨fun m hm => ?_, by omega, fun hpos => by omega⟩
    have hgeneration := generation_of_mem hnodup' hm
    omega
  · obtain ⟨hreported', hpipe'⟩ := hother s hs
    have hstarts : starts C s w e = 0 := by
      rw [starts, hnew, countP_outcome, if_neg hs, hpipe']
    have hfailures : (stepTally C w e s).failures = 0 := by
      unfold stepTally
      rw [hnew, count_outcome, if_neg hs, hpipe', hreported']
    have hrestarts : (stepTally C w e s).restarts = 0 := by
      rw [stepTally, hstarts, Nat.zero_sub]
    have hnoPipe : (stepTally C w e s).noPipe = 0 := hpipe'
    refine ⟨fun m hm => ?_, by omega, by omega⟩
    have hgeneration := generation_of_mem hnodup (htotal.others _ hm hs)
    omega

/-! ### A `GREETER_START` -/

theorem stepCounts_of_asked {e : Event} {s : String} (hnodup : (seats w).Nodup)
    (h : startHandled w e = some s) (seat : String) : StepCounts C w e seat := by
  obtain ⟨a, c, fd, m, hreq, htype, halive, rfl⟩ := startHandled_eq_some.mp h
  obtain ⟨w₁, hw₁, hstep⟩ := step_answered (C := C) hreq htype halive
  obtain rfl := hreq.event
  have hanswered : gens (step C w (.next a)) =
      gens (greeterActivate C a (startSeat a c w) (advance w)) ∧ (step C w (.next a)).tries =
        (greeterActivate C a (startSeat a c w) (advance w)).tries := by
    generalize greeterActivate C a (startSeat a c w) (advance w) = w₂ at hw₁ ⊢
    rcases hstep with hstep | hstep <;> rw [hstep, hw₁] <;> exact ⟨rfl, rfl⟩
  obtain ⟨hgens, htries⟩ := hanswered
  have hreported : ∀ s, reported s w (.next a) = 0 := fun s => by simp [reported, failing]
  cases hsession : seatSession a (startSeat a c w) w with
  | some s =>
    have hactivate := greeterActivate_session (C := C) (w := advance w) (a := a) hsession
    rw [hactivate] at hgens htries
    refine stepCounts_of_even hnodup (even_of hgens htries) (hreported seat) ?_
    refine if_neg ?_
    rintro ⟨hstart, hnone⟩
    obtain rfl := Option.some.inj (h.symm.trans hstart)
    rw [hsession] at hnone
    cases hnone
  | none =>
    have hcounts := counts_activate (C := C) (w := advance w) (a := a) hsession
    have hstep' := hcounts.congr hgens (by rw [attempts, htries, attempts])
    have hasked : asked (startSeat a c w) w (.next a) = 1 := if_pos h
    refine stepCounts_of_counts hnodup (Gains.refl _ w) rfl
      (hstep'.after (w := w) (gains_of_gens rfl) rfl) (hreported _) (by omega) ?_ ?_ seat
    · exact if_pos ⟨h, hsession⟩
    · refine fun s hne => ⟨hreported s, if_neg ?_⟩
      rintro ⟨hstart, -⟩
      exact hne (Option.some.inj (hstart.symm.trans h))

/-! ### The end of a child -/

theorem unexpected_eq {tr : SpawnTry} {g : ℕ} {r : SeatGreeter} (hnodup : (seats w).Nodup)
    (hg : w.greeters[g]? = some r) (hseat : SpawnTry.greeterSeat tr = some r.seat) :
    unexpected w tr = if r.ended then none else some r.seat := by
  have hany : (w.greeters.any fun r' => r'.seat == r.seat && !r'.ended) = !r.ended := by
    refine Bool.eq_iff_iff.mpr (List.any_eq_true.trans ⟨?_, fun hend => ?_⟩)
    · rintro ⟨r', hr', heq⟩
      obtain ⟨hseat', hend'⟩ := Bool.and_eq_true_iff.mp heq
      obtain ⟨g', hg'⟩ := List.mem_iff_getElem?.mp hr'
      have hsame := greeterSearch_of_nodup hnodup hg'
      rw [eq_of_beq hseat', greeterSearch_of_nodup hnodup hg] at hsame
      obtain rfl := Option.some.inj hsame
      obtain rfl := Option.some.inj (hg.symm.trans hg')
      exact hend'
    · exact ⟨r, List.mem_of_getElem? hg, by simp [hend]⟩
  rw [unexpected, hseat, Option.filter_some, hany]
  cases r.ended <;> rfl

/-- Nothing is reported. -/
theorem stepCounts_of_quiet {a : Answers} (hnodup : (seats w).Nodup)
    (hquiet : failing w (.visit a) = none) (heven : Even w (step C w (.visit a))) :
    StepCounts C w (.visit a) seat := by
  refine stepCounts_of_even hnodup heven (if_neg ?_) (if_neg ?_)
  · simp [hquiet]
  · simp [hquiet]

/-- The record in slot `g` is reset and its seat is activated. -/
theorem stepCounts_of_reset {a : Answers} {g : ℕ} {r : SeatGreeter} {w₀ : World}
    (hnodup : (seats w).Nodup) (hg : w.greeters[g]? = some r)
    (hreported : failing w (.visit a) = some r.seat) (hgreeters : w₀.greeters = w.greeters)
    (heven : Even w w₀) (hlength : w₀.tries.length = w.tries.length)
    (hgens : gens (step C w (.visit a)) = gens (greeterActivate C a r.seat (greeterReset g w₀)))
    (hattempts : attempts (step C w (.visit a)) =
      attempts (greeterActivate C a r.seat (greeterReset g w₀))) (s : String) :
    StepCounts C w (.visit a) s := by
  have hgens₀ : gens w₀ = gens w := by rw [gens, hgreeters, gens]
  have hseats : seats w₀ = seats w := by rw [← map_gens, hgens₀, map_gens]
  have hg₀ : w₀.greeters[g]? = some r := by rw [hgreeters, hg]
  have hsearch : greeterSearch r.seat w₀ = some g := by
    rw [greeterSearch_congr hseats, greeterSearch_of_nodup hnodup hg]
  have hgains : Gains r.seat 1 w (greeterReset g w₀) :=
    (gains_of_gens hgens₀).trans (gains_greeterReset hsearch hg₀)
  have hlength' : (attempts (greeterReset g w₀)).length = (attempts w).length := by
    rw [length_attempts, length_attempts]
    exact congrArg List.length heven.seats
  have hrecord : recordOf r.seat (greeterReset g w₀) =
      SeatGreeter.runReset { r with runGen := r.runGen + 1 } := by
    refine recordOf_eq (g := g) ?_ ?_
    · rw [greeterSearch_congr (seats_greeterReset g w₀), hsearch]
    · rw [greeterReset, World.getElem?_modGreeter, hg₀, Option.map_some, if_pos rfl]
  have hsession : greeterSession a (recordOf r.seat (greeterReset g w₀)) (greeterReset g w₀) =
      none := by
    rw [hrecord]
    exact greeterSession_runReset a _
  have hcounts := counts_activate (C := C) hsession
  have hasked : asked r.seat w (.visit a) = 0 := if_neg (by simp [startHandled])
  refine stepCounts_of_counts hnodup hgains hlength' (hcounts.congr hgens hattempts)
    (if_pos hreported) (by omega) ?_ ?_ s
  · have hlen : (greeterReset g w₀).tries.length = w.tries.length := hlength
    rw [hgains.own, hlen]
    exact if_pos hreported
  · refine fun s' hne => ⟨if_neg ?_, if_neg ?_⟩ <;> rw [hreported] <;>
      exact fun heq => hne (Option.some.inj heq).symm

/-- The child of a try whose callback is still to come. -/
theorem stepCounts_of_freed {a : Answers} {t t' : ℕ} (hnodup : (seats w).Nodup)
    (hown : toldRight w (.visit a) = true)
    (hcalled : called w = some (t, .spawnedSessionDisappear t'))
    (herror : (w.tryAt t').success = .error) (hfree : Freed C a t' w w')
    (hgens : gens (step C w (.visit a)) = gens w')
    (htries : (step C w (.visit a)).tries = w'.tries) (seat : String) :
    StepCounts C w (.visit a) seat := by
  have hfailing : failing w (.visit a) = SpawnTry.greeterSeat (w.tryAt t') := by
    simp [failing, hcalled]
  have hslot : ∀ {g}, (w.tryAt t').done = .greeterStartDone g →
      failing w (.visit a) = seatAt w g := by
    intro g hdone
    have hseat : seatAt w g = SpawnTry.greeterSeat (w.tryAt t') := by
      simpa [toldRight, hcalled, hdone, DoneCb.slot] using hown
    rw [hfailing, hseat]
  by_cases hgreeter : ∃ g r, (w.tryAt t').done = .greeterStartDone g ∧ w.greeters[g]? = some r
  · obtain ⟨g, r, hdone, hg⟩ := hgreeter
    obtain rfl := hfree.eq_restarted hdone hg herror
    set w₀ := (calledBack t' w).log (.greeterCb t' (seatAt (calledBack t' w) g)) with hw₀
    have hgreeters : w₀.greeters = w.greeters := greeters_calledBack w t'
    have hlength : w₀.tries.length = w.tries.length := by simp [hw₀, calledBack, closeRead]
    have heven : Even w w₀ := ((Even.refl w).calledBack t').still rfl rfl
    have hrelease : attempts (step C w (.visit a)) =
        attempts (greeterActivate C a r.seat (greeterReset g w₀)) := by
      rw [attempts, htries]
      exact attempts_release t' _
    exact stepCounts_of_reset hnodup hg ((hslot hdone).trans (seatAt_get hg)) hgreeters heven hlength
      (hgens.trans rfl) hrelease seat
  · have heven : Even w w' := even_freed hfree fun g r hdone hg =>
      absurd ⟨g, r, hdone, hg⟩ hgreeter
    refine stepCounts_of_quiet hnodup ?_ (heven.trans (even_of hgens htries))
    cases hdone : (w.tryAt t').done with
    | sessionDone c => rw [hfailing, SpawnTry.greeterSeat, hdone]; rfl
    | greeterStartDone g =>
      rw [hslot hdone, seatAt]
      cases hg : w.greeters[g]? with
      | none => rfl
      | some r => exact absurd ⟨g, r, hdone, hg⟩ hgreeter

/-- The listener of a greeter. -/
theorem stepCounts_of_greeterDone {a : Answers} {t g : ℕ} (hnodup : (seats w).Nodup)
    (hown : toldRight w (.visit a) = true) (hcalled : called w = some (t, .greeterDone g))
    (hcalls : Called C a t w (.greeterDone g) w') (hgens : gens (step C w (.visit a)) = gens w')
    (htries : (step C w (.visit a)).tries = w'.tries) (seat : String) :
    StepCounts C w (.visit a) seat := by
  obtain ⟨hsucceeded, hseat⟩ : SpawnTry.succeeded (w.tryAt t) = true ∧
      seatAt w g = SpawnTry.greeterSeat (w.tryAt t) := by
    simpa [toldRight, hcalled] using hown
  have hfailing : failing w (.visit a) = unexpected w (w.tryAt t) := by
    simp [failing, hcalled, hsucceeded]
  have hsame : Even w' (step C w (.visit a)) := even_of hgens htries
  have hlogged : ∀ s, Even w (w.log (.greeterCb t s)) := fun s => even_same rfl rfl
  cases hcalls with
  | lost _ hg =>
    have hnone : SpawnTry.greeterSeat (w.tryAt t) = none := by
      rw [← hseat, seatAt, hg]
      rfl
    refine stepCounts_of_quiet hnodup ?_ (Even.trans ?_ hsame)
    · rw [hfailing, unexpected, hnone]
      rfl
    · exact (hlogged none).still rfl rfl
  | ended _ r hg hend =>
    have hquiet : failing w (.visit a) = none := by
      rw [hfailing, unexpected_eq hnodup hg (hseat.symm.trans (seatAt_get hg)), if_pos hend]
    have hdeleted : Even w (greeterDel r.seat (w.log (.greeterCb t (some r.seat)))) := by
      refine ⟨fun p hp => ?_, rfl⟩
      obtain ⟨r', hr', rfl⟩ := List.mem_map.mp hp
      exact List.mem_map_of_mem (List.mem_of_mem_eraseP hr')
    exact stepCounts_of_quiet hnodup hquiet (hdeleted.trans hsame)
  | restarted _ r hg hend =>
    have hreported : failing w (.visit a) = some r.seat := by
      rw [hfailing, unexpected_eq hnodup hg (hseat.symm.trans (seatAt_get hg)), hend]
      rfl
    set w₀ := w.log (.greeterCb t (some r.seat)) with hw₀
    have hgreeters : w₀.greeters = w.greeters := rfl
    have hlength : w₀.tries.length = w.tries.length := rfl
    exact stepCounts_of_reset hnodup hg hreported hgreeters (hlogged (some r.seat)) hlength hgens
      (by rw [attempts, htries, attempts]) seat

/-! ### The steps -/

/-- A step that handles no `GREETER_START` and calls no listener. -/
theorem even_step {e : Event} (hlife : Life none w) (hstart : startHandled w e = none)
    (hvisit : ∀ a, e = .visit a → called w = none) : Even w (step C w e) := by
  have hadvance : Even w (advance w) := even_same rfl rfl
  have hset : ∀ {t : ℕ} {f : SpawnTry → SpawnTry},
      (∀ tr, (f tr).toSpawnRequest = tr.toSpawnRequest) → Even w (w.modTry t f) :=
    fun {t f} hf => (Even.refl w).modTry hf t
  have hdoes := step_does C w e
  generalize step C w e = w' at hdoes
  cases hdoes with
  | idle _ => exact Even.refl w
  | select _ _ _ _ => exact even_same rfl rfl
  | endPass _ _ => exact even_same rfl rfl
  | pass _ _ => exact hadvance
  | accept a _ _ _ =>
    unfold acceptReady
    cases a.peer <;> exact even_same rfl rfl
  | client a c fd w' heval hready hdoes hread =>
    refine hadvance.trans (even_clientData hdoes fun m hinput htype halive => ?_)
    have hsome := startHandled_eq_some.mpr
      ⟨a, c, fd, m, ⟨rfl, hread, heval, hready, hinput⟩, htype, halive, rfl⟩
    rw [hstart] at hsome
    cases hsome
  | child a t fd w' _ hready hdoes _ =>
    obtain ⟨v, hv, -⟩ := hlife.read (ready_mem_live hready) rfl
    obtain ⟨tr, htr, -⟩ := view_eq_some.mp hv
    have htr' : (advance w).tries[t]? = some tr := htr
    exact hadvance.trans (even_childData htr' hdoes)
  | sigchld _ => exact even_same rfl rfl
  | reap t _ _ _ _ _ _ =>
    have hreaped : Even w (w.modTry t fun tr => { tr with exited := true, reaped := true }) := by
      refine hset ?_
      exact fun _ => rfl
    exact hreaped.still rfl rfl
  | scanEnd _ _ _ _ _ => exact even_same rfl rfl
  | scanPass _ _ _ _ _ _ _ => exact even_same rfl rfl
  | scanZeroed _ _ _ _ _ _ _ => exact even_same rfl rfl
  | visit a t i pid hd w' hscan he hpid _ =>
    have hcalled : called w = some (t, hd) := called_eq hscan he hpid
    rw [hvisit a rfl] at hcalled
    cases hcalled
  | sigchldReturn _ => exact even_same rfl rfl
  | childWrite t m _ =>
    refine hset ?_
    exact fun _ => rfl
  | childHangUp _ _ =>
    refine hset ?_
    exact fun _ => rfl
  | childExit _ _ =>
    refine hset ?_
    exact fun _ => rfl

theorem stepCounts_of_called {a : Answers} {t : ℕ} {hd : Handler} (hlife : Life none w)
    (hcells : Cells Undecided w) (hnodup : (seats w).Nodup) (hown : toldRight w (.visit a) = true)
    (hcalled : called w = some (t, hd)) (seat : String) : StepCounts C w (.visit a) seat := by
  obtain ⟨i, pid, -, he, -, hstep⟩ := step_visit (C := C) (a := a) hcalled
  have hcalls := callHandler_called C a t hd w
  generalize callHandler C a t hd w = w' at hcalls hstep
  have hgens : gens (step C w (.visit a)) = gens w' := by rw [hstep]; rfl
  have htries : (step C w (.visit a)).tries = w'.tries := by rw [hstep]; rfl
  cases hd with
  | greeterDone g => exact stepCounts_of_greeterDone hnodup hown hcalled hcalls hgens htries seat
  | spawnedSessionDisappear t' =>
    obtain ⟨v, hv, hpending⟩ := hlife.pending_of_handler he t' rfl
    cases hcalls with
    | disappeared _ _ hfree =>
      exact stepCounts_of_freed hnodup hown hcalled (hcells.undecided hv hpending) hfree hgens
        htries seat

/-- **What every step counts**, if its callback finds the record of its seat. -/
theorem stepCounts_step {e : Event} (hlife : Life none w) (hcells : Cells Undecided w)
    (hnodup : (seats w).Nodup) (hown : toldRight w e = true) (seat : String) :
    StepCounts C w e seat := by
  cases hstart : startHandled w e with
  | some s => exact stepCounts_of_asked hnodup hstart seat
  | none =>
    cases e with
    | visit a =>
      cases hcalled : called w with
      | some c => exact stepCounts_of_called hlife hcells hnodup hown hcalled seat
      | none =>
        have heven : Even w (step C w (.visit a)) := even_step hlife hstart fun _ _ => hcalled
        exact stepCounts_of_quiet hnodup (by simp [failing, hcalled]) heven
    | next a =>
      have heven : Even w (step C w (.next a)) := even_step hlife hstart (by rintro _ ⟨⟩)
      exact stepCounts_of_even hnodup heven rfl (if_neg (by simp [hstart]))
    | reap t =>
      have heven : Even w (step C w (.reap t)) := even_step hlife hstart (by rintro _ ⟨⟩)
      have hheard : failing w (.reap t) = none := Option.isNone_iff_eq_none.mp hown
      exact stepCounts_of_even hnodup heven (if_neg (by simp [hheard])) rfl
    | select _ _ | sigchld | sigchldReturn | childWrite _ _ | childHangUp _ | childExit _ =>
      refine stepCounts_of_even hnodup (even_step hlife hstart ?_) rfl rfl
      rintro _ ⟨⟩

/-! ### Runs -/

/-- The daemon, with what happened to the greeter of each seat since the seat has its record. -/
structure Tallied where
  world : World
  tally : String → Tally

variable (C) in
def talliedStep (m : Tallied) (e : Event) : Tallied where
  world := step C m.world e
  tally seat :=
    if seat ∈ seats m.world then (m.tally seat).add (stepTally C m.world e seat)
    else stepTally C m.world e seat

/-- The daemon at its start. -/
def Tallied.start (debug : Bool) (templates : List Template) : Tallied where
  world := World.start debug templates
  tally _ := ⟨0, 0, 0⟩

variable (C) in
/-- **Greeters that do not come up are given up**: `run_gen` never decreases, a step in which greeters
are started has a `run_gen` of at most `FALLBACK_RUN_GENERATION` at the last start, and failures
have caused at most that many restarts of a record. -/
structure Bounded (m : Tallied) (e : Event) : Prop where
  grows : ∀ r ∈ m.world.greeters, ∀ r' ∈ (step C m.world e).greeters, r'.seat = r.seat →
    r.runGen ≤ r'.runGen
  spawns : ∀ seat, 0 < starts C seat m.world e →
    generation seat m.world + (stepTally C m.world e seat).restarts ≤ FALLBACK_RUN_GENERATION
  restarts : ∀ r ∈ (step C m.world e).greeters,
    ((talliedStep C m e).tally r.seat).restarts ≤ FALLBACK_RUN_GENERATION

variable (C) in
/-- And `run_gen` is the number of failed starts and unexpected exits. -/
structure AllCounted (m : Tallied) (e : Event) : Prop extends Bounded C m e where
  counts : ∀ r ∈ (step C m.world e).greeters,
    r.runGen = ((talliedStep C m e).tally r.seat).failures

/-- What is kept by steps whose callbacks find the records of their seats. -/
structure Kept (m : Tallied) : Prop where
  life : Life none m.world
  cells : Cells Undecided m.world
  nodup : (seats m.world).Nodup
  counts : ∀ seat n, (seat, n) ∈ gens m.world → n + (m.tally seat).noPipe = (m.tally seat).failures
  restarts : ∀ seat n, (seat, n) ∈ gens m.world →
    (m.tally seat).restarts ≤ n ∧ (m.tally seat).restarts ≤ FALLBACK_RUN_GENERATION

theorem kept_start (debug : Bool) (templates : List Template) :
    Kept (Tallied.start debug templates) where
  life := life_start debug templates
  cells := undecided_start debug templates
  nodup := List.nodup_nil
  counts _ _ h := absurd h List.not_mem_nil
  restarts _ _ h := absurd h List.not_mem_nil

/-- What the tally of a seat was before the step: nothing if it had no record. -/
theorem Kept.before {m : Tallied} (h : Kept m) (seat : String) (e : Event) :
    ∃ t : Tally, (talliedStep C m e).tally seat = t.add (stepTally C m.world e seat) ∧
      generation seat m.world + t.noPipe = t.failures ∧ t.restarts ≤ generation seat m.world ∧
        t.restarts ≤ FALLBACK_RUN_GENERATION := by
  by_cases hmem : seat ∈ seats m.world
  · obtain ⟨r, hr, rfl⟩ := List.mem_map.mp hmem
    have hgen : (r.seat, r.runGen) ∈ gens m.world :=
      List.mem_map_of_mem (f := fun r => (r.seat, r.runGen)) hr
    rw [generation_of_mem h.nodup hgen]
    obtain ⟨hle, hbound⟩ := h.restarts _ _ hgen
    exact ⟨m.tally r.seat, if_pos hmem, h.counts _ _ hgen, hle, hbound⟩
  · have hnone : greeterSearch seat m.world = none := by
      by_contra hsome
      exact hmem (mem_seats_iff.mpr hsome)
    rw [generation_of_none hnone]
    refine ⟨⟨0, 0, 0⟩, (if_neg hmem).trans ?_, rfl, le_rfl, Nat.zero_le _⟩
    simp [Tally.add]

theorem kept_step {m : Tallied} {e : Event} (h : Kept m) (hown : toldRight m.world e = true) :
    Kept (talliedStep C m e) := by
  have hstep := stepCounts_step (C := C) h.life h.cells h.nodup hown
  refine ⟨life_step h.life, undecided_step h.cells e, nodup_step h.nodup e, fun seat n hn => ?_,
    fun seat n hn => ?_⟩
  · obtain ⟨t, htally, hcounts, -, -⟩ := h.before (C := C) seat e
    have hnew := (hstep seat).counts n hn
    rw [htally]
    unfold Tally.add
    dsimp only
    omega
  · obtain ⟨t, htally, hcounts, hle, hbound⟩ := h.before (C := C) seat e
    have hnew := (hstep seat).counts n hn
    have hrestarts := (hstep seat).restarts
    have hspawns := (hstep seat).spawns
    have hstarts : (stepTally C m.world e seat).restarts ≤ starts C seat m.world e :=
      Nat.sub_le _ _
    rw [htally]
    unfold Tally.add
    dsimp only
    by_cases hpos : 0 < starts C seat m.world e
    · have hlast := hspawns hpos
      omega
    · omega

theorem bounded_of_kept {m : Tallied} {e : Event} (h : Kept m) (hown : toldRight m.world e = true) :
    Bounded C m e := by
  have hstep := stepCounts_step (C := C) h.life h.cells h.nodup hown
  have hkept := kept_step (C := C) h hown
  refine ⟨fun r hr r' hr' hseat => ?_, fun seat => (hstep seat).spawns, fun r hr => ?_⟩
  · have hgen : (r.seat, r.runGen) ∈ gens m.world :=
      List.mem_map_of_mem (f := fun r => (r.seat, r.runGen)) hr
    have hgen' : (r.seat, r'.runGen) ∈ gens (step C m.world e) := by
      rw [← hseat]
      exact List.mem_map_of_mem (f := fun r => (r.seat, r.runGen)) hr'
    have hcounts := (hstep r.seat).counts _ hgen'
    have hrestarts := (hstep r.seat).restarts
    rw [generation_of_mem h.nodup hgen] at hcounts
    omega
  · exact (hkept.restarts r.seat r.runGen (List.mem_map_of_mem hr)).2

theorem AllCounted.not_meets {es : List Event} {e : Event} {m : Tallied} (r : SeatGreeter)
    (hr : r ∈ (step C (run (talliedStep C) m es).world e).greeters)
    (hne : r.runGen ≠ ((talliedStep C (run (talliedStep C) m es) e).tally r.seat).failures) :
    ¬Meets (talliedStep C) (AllCounted C) m (es ++ [e]) := fun h =>
  hne (((meets_append es [e] m).mp h).2.1.counts r hr)

/-- A `GREETER_START` while there is no pipe. -/
def startsWithoutPipe : Event :=
  .next { Answers.plain with
    input := .msg ⟨.greeterStart, none, none⟩, spawn := fun _ => ⟨false, .forkFails⟩ }

end Spawny.Daemon.Generations
