import Spawny.Daemon.TrueAnswers

/-! # The field `end` of the greeter records

`greeter_lockout` sets `end` in the record of a seat, and nothing clears it: the record goes when the
greeter has ended. `flags` lists the seats with this field, and each step of the daemon does one of
four things to the list.

* `still_activate`, `started_activate`: an activation adds a record for a seat that has none;
* `stepMarks`: the lockouts of a step, and the `GREETER_START` it handles;
* `moves_step`: **what a step does to the flags**, told by the marks of the step;
* `nodup_step`: there is one record for each seat. -/

namespace Spawny.Daemon.GreeterFlags

open Spawny.Lib.Wire Spawny.Lib.Descriptors Spawny.Protocol.Messages
open Spawny.Daemon.Manager Spawny.Daemon.SpawnRegistry
open Spawny.Daemon.SessionMgt Spawny.Daemon.State Spawny.Daemon.SpawnService
open Spawny.Daemon.GreeterTable Spawny.Daemon.Client Spawny.Daemon.Greeter Spawny.Daemon.Activations
open Spawny.Daemon.Server Spawny.Daemon.SafeCalls Spawny.Daemon.Loop Spawny.Daemon.Steps
open Spawny.Daemon.Trace Spawny.Daemon.Activation Spawny.Daemon.TrueAnswers

variable {C : FieldCode SpawnField} {w w' w'' : World}

/-! ### Flags and lockouts -/

/-- The seats of the records, by slot, with the field `end`. -/
def flags (w : World) : List (String × Bool) := w.greeters.map fun r => (r.seat, r.ended)

theorem map_flags (w : World) : (flags w).map Prod.fst = seats w := by
  simp [flags, seats]

theorem getElem?_flags {g : ℕ} {r : SeatGreeter} (hg : w.greeters[g]? = some r) :
    (flags w)[g]? = some (r.seat, r.ended) := by
  rw [flags, List.getElem?_map, hg, Option.map_some]

theorem mem_seats_iff {seat : String} : seat ∈ seats w ↔ greeterSearch seat w ≠ none := by
  rw [ne_eq, greeterSearch_eq_none]
  simp [seats]

/-- The seats that the records of an observation list lock out. -/
def lockouts (os : List Obs) : List String :=
  os.filterMap fun o => match o with
    | .lockout s => some s
    | _ => none

@[simp] theorem lockouts_append (os os' : List Obs) :
    lockouts (os ++ os') = lockouts os ++ lockouts os' := List.filterMap_append

/-- The flags stay, and nothing is locked out. -/
structure Still (w w' : World) : Prop where
  flags : flags w' = flags w
  lockouts : lockouts w'.trace = lockouts w.trace

theorem Still.refl (w : World) : Still w w := ⟨rfl, rfl⟩

theorem Still.trans (h : Still w w') (h' : Still w' w'') : Still w w'' :=
  ⟨h'.flags.trans h.flags, h'.lockouts.trans h.lockouts⟩

theorem Still.seats (h : Still w w') : seats w' = seats w := by
  rw [← map_flags, h.flags, map_flags]

theorem still_of (hgreeters : w'.greeters = w.greeters) (htrace : w'.trace = w.trace) :
    Still w w' := by
  constructor
  · rw [GreeterFlags.flags, hgreeters, GreeterFlags.flags]
  · rw [htrace]

theorem still_append {os : List Obs} (hgreeters : w'.greeters = w.greeters)
    (htrace : w'.trace = w.trace ++ os) (hos : GreeterFlags.lockouts os = []) : Still w w' := by
  constructor
  · rw [GreeterFlags.flags, hgreeters, GreeterFlags.flags]
  · rw [htrace, lockouts_append, hos, List.append_nil]

theorem still_log {o : Obs} (ho : GreeterFlags.lockouts [o] = []) (w : World) : Still w (w.log o) :=
  still_append rfl rfl ho

theorem still_modGreeter {f : SeatGreeter → SeatGreeter}
    (hf : ∀ r, (f r).seat = r.seat ∧ (f r).ended = r.ended) (g : ℕ) (w : World) :
    Still w (w.modGreeter g f) := by
  refine ⟨List.ext_getElem? fun i => ?_, rfl⟩
  rw [GreeterFlags.flags, List.getElem?_map, World.getElem?_modGreeter, GreeterFlags.flags,
    List.getElem?_map, Option.map_map]
  refine congrArg (fun f => (w.greeters[i]?).map f) (funext fun r => ?_)
  dsimp only [Function.comp_apply]
  split_ifs
  · rw [(hf r).1, (hf r).2]
  · rfl

/-! ### Activations -/

theorem still_sessionActivate (session : Option String) (w : World) :
    Still w (sessionActivate session w) := by
  unfold sessionActivate
  cases session
  · exact still_of rfl rfl
  · exact still_log rfl w

theorem still_greeterReset (g : ℕ) (w : World) : Still w (greeterReset g w) := by
  refine still_modGreeter ?_ g w
  exact fun _ => ⟨rfl, rfl⟩

theorem still_greeterStartFailed (t g : ℕ) (w : World) : Still w (greeterStartFailed t g w) :=
  (still_log rfl w).trans (still_greeterReset g _)

theorem still_forked (req : SpawnRequest) (pid : ℕ) (w : World) :
    Still w (childForked w.tries.length pid (openTry req w)) := by
  have htrace : (childForked w.tries.length pid (openTry req w)).trace =
      w.trace ++ [.spawned w.tries.length] := by
    rw [trace_childForked, trace_openTry]
  refine still_append ?_ htrace rfl
  rw [greeters_childForked, greeters_openTry]

theorem still_failed (noTty : Bool) (req : SpawnRequest) (w : World) :
    Still w (tryFailed C noTty req w) :=
  still_append (greeters_tryFailed C w noTty req) (trace_tryFailed C w noTty req) rfl

theorem still_greeterFailed (noTty : Bool) (g : ℕ) (seat : String) (w : World) :
    Still w (greeterFailed C noTty g seat w) :=
  (still_failed noTty _ w).trans (still_greeterStartFailed _ _ _)

theorem still_greeterForked (g : ℕ) (seat : String) (pid : ℕ) (w : World) :
    Still w (greeterForked g seat pid w) := by
  refine (still_forked _ pid w).trans (still_modGreeter ?_ g _)
  exact fun _ => ⟨rfl, rfl⟩

theorem still_release (t : ℕ) (w : World) : Still w (release t w) :=
  still_of (greeters_release w t) (trace_release w t)

theorem still_greeterReturned (g t : ℕ) (w : World) : Still w (greeterReturned g t w) := by
  refine (still_release t w).trans (still_modGreeter ?_ g _)
  exact fun _ => ⟨rfl, rfl⟩

theorem still_greeterStart {a : Answers} {activate : String → World → World} {seat : String}
    (hnested : ∀ w, seat ∈ seats w → Still w (activate seat w)) {g : ℕ} {r : SeatGreeter}
    (hg : w.greeters[g]? = some r) (hseat : r.seat = seat) :
    Still w (greeterStart C (doneCb a activate) a g r w) := by
  have hstart := greeterStart_started C a activate hg
  generalize greeterStart C (doneCb a activate) a g r w = w' at hstart
  cases hstart with
  | session s _ => exact still_log rfl w
  | givesUp _ => exact Still.refl w
  | noPipe _ =>
    refine still_modGreeter ?_ g w
    exact fun _ => ⟨rfl, rfl⟩
  | forked pid _ => exact still_greeterForked g r.seat _ w
  | failed noTty _ _ _ _ _ =>
    have hfailed : Still w (greeterFailed C noTty g r.seat w) := still_greeterFailed noTty g r.seat w
    have hmem : seat ∈ seats (greeterFailed C noTty g r.seat w) := by
      rw [hfailed.seats, ← hseat]
      exact List.mem_map_of_mem (List.mem_of_getElem? hg)
    rw [hseat] at hfailed hmem ⊢
    exact (hfailed.trans (hnested _ hmem)).trans (still_greeterReturned g _ _)

/-- An activation for a seat that has a record. -/
theorem still_activateUpTo (a : Answers) (seat : String) : ∀ (n : ℕ) (w : World),
    seat ∈ seats w → Still w (greeterActivateUpTo C n a seat w)
  | 0, w, _ => Still.refl w
  | n + 1, w, hmem => by
    rcases greeterRecord_cases seat w with ⟨g, r, hrec, -, hg, hseat⟩ | ⟨hnone, -, -⟩
    · simp only [greeterActivateUpTo, hrec, hg, Option.getD_some]
      exact still_greeterStart (still_activateUpTo a seat n) hg hseat
    · exact absurd hnone (mem_seats_iff.mp hmem)

theorem still_activate (a : Answers) {seat : String} (hmem : seat ∈ seats w) :
    Still w (greeterActivate C a seat w) := still_activateUpTo a seat _ w hmem

/-- The seat has a record: if there was none, a new one that is not to end. -/
def start (seat : String) (fl : List (String × Bool)) : List (String × Bool) :=
  if seat ∈ fl.map Prod.fst then fl else fl ++ [(seat, false)]

theorem nodup_start {fl : List (String × Bool)} (h : (fl.map Prod.fst).Nodup) (seat : String) :
    ((start seat fl).map Prod.fst).Nodup := by
  unfold start
  split_ifs with hmem
  · exact h
  · rw [List.map_append]
    refine List.nodup_append.mpr ⟨h, by simp, fun s hs s' hs' => ?_⟩
    rw [List.map_singleton] at hs'
    rw [List.mem_singleton.mp hs']
    rintro rfl
    exact hmem hs

/-- **What an activation does to the flags.** -/
theorem flags_activate (a : Answers) (seat : String) (w : World) :
    flags (greeterActivate C a seat w) = start seat (flags w) ∧
      lockouts (greeterActivate C a seat w).trace = lockouts w.trace := by
  unfold start
  rw [map_flags]
  split_ifs with hmem
  · have h := still_activate (C := C) a hmem
    exact ⟨h.flags, h.lockouts⟩
  · have hnone : greeterSearch seat w = none := by
      by_contra hsome
      exact hmem (mem_seats_iff.mpr hsome)
    have hadd : flags (greeterAdd seat w) = flags w ++ [(seat, false)] := by
      simp [flags, greeterAdd]
    have hmem' : seat ∈ seats (greeterAdd seat w) := by simp
    have h := still_activate (C := C) a hmem'
    rw [greeterActivate_greeterAdd C a hnone]
    exact ⟨h.flags.trans hadd, h.lockouts⟩

/-! ### Lockouts -/

theorem map_fst_set {fl : List (String × Bool)} {g : ℕ} {s : String} {b b' : Bool}
    (hg : fl[g]? = some (s, b)) : (fl.set g (s, b')).map Prod.fst = fl.map Prod.fst := by
  obtain ⟨hlt, hget⟩ := List.getElem?_eq_some_iff.mp hg
  have hmap : g < (fl.map Prod.fst).length := by rwa [List.length_map]
  have hs : (fl.map Prod.fst)[g] = s := by rw [List.getElem_map, hget]
  rw [List.map_set, ← hs, List.set_getElem_self]

/-- The seat is locked out. -/
def LockedOut (s : String) (w w' : World) : Prop :=
  ∃ g b, (flags w)[g]? = some (s, b) ∧ flags w' = (flags w).set g (s, true) ∧
    lockouts w'.trace = lockouts w.trace ++ [s]

/-- The flags stay, or one seat is locked out. -/
def MayLock (w w' : World) : Prop := Still w w' ∨ ∃ s, LockedOut s w w'

theorem Still.mayLock (h : Still w w') (h' : MayLock w' w'') : MayLock w w'' := by
  rcases h' with h' | ⟨s, g, b, hg, hflags, hlock⟩
  · exact Or.inl (h.trans h')
  · refine Or.inr ⟨s, g, b, ?_, ?_, ?_⟩
    · rw [← h.flags, hg]
    · rw [hflags, h.flags]
    · rw [hlock, h.lockouts]

theorem MayLock.still (h : MayLock w w') (h' : Still w' w'') : MayLock w w'' := by
  rcases h with h | ⟨s, g, b, hg, hflags, hlock⟩
  · exact Or.inl (h.trans h')
  · refine Or.inr ⟨s, g, b, hg, ?_, ?_⟩
    · rw [h'.flags, hflags]
    · rw [h'.lockouts, hlock]

theorem mayLock_greeterLockout (seat : Option String) (w : World) :
    MayLock w (greeterLockout seat w) := by
  unfold greeterLockout
  cases seat with
  | none =>
    dsimp only
    split_ifs
    · exact Or.inl (Still.refl w)
    · exact Or.inl (still_of rfl rfl)
  | some s =>
    dsimp only
    cases hsearch : greeterSearch s w with
    | none => exact Or.inl (Still.refl w)
    | some g =>
      obtain ⟨r, hg, rfl⟩ := greeterSearch_spec hsearch
      obtain ⟨hlt, rfl⟩ := List.getElem?_eq_some_iff.mp hg
      refine Or.inr ⟨_, g, _, getElem?_flags hg, List.ext_getElem? fun i => ?_, ?_⟩
      · rw [flags, World.log_greeters, List.getElem?_map, World.getElem?_modGreeter,
          List.getElem?_set, flags, List.getElem?_map, List.length_map]
        by_cases hi : g = i
        · subst hi
          simp [hlt]
        · simp [hi]
      · rw [World.log_trace, lockouts_append]
        rfl

theorem still_sendMessage (why : Sender) (type : ServerType) (fb : Option RequestFeedback)
    (data : Option Data) (fd : ℕ) (w : World) : Still w (sendMessage why type fb data fd w) :=
  still_log rfl w

theorem still_clientFree (c : ℕ) (w : World) : Still w (clientFree c w) := still_of rfl rfl

theorem still_clientGoodbye (why : Sender) (c : ℕ) (w : World) :
    Still w (clientGoodbye why c w) :=
  (still_sendMessage why .leave none none _ w).trans (still_clientFree c _)

theorem still_forceQuit (t : ℕ) (w : World) : Still w (forceQuit t w) := by
  unfold forceQuit
  split_ifs
  · exact still_log rfl w
  · exact still_of rfl rfl

theorem mayLock_sessionDone (a : Answers) (t c : ℕ) (result : SpawnServiceEnd) (w : World) :
    MayLock w (sessionDone a t c result w) := by
  have hfault : Still w (if (w.clientAt c).freed then w.fault else w) := by
    split_ifs <;> exact still_of rfl rfl
  unfold sessionDone
  dsimp only
  generalize (if (w.clientAt c).freed then w.fault else w) = w' at hfault ⊢
  cases hres : result.success with
  | error =>
    have hfeedback := still_sendMessage (.sessionDone t) .loginFeedback
      (some ⟨false, result.message.getD ""⟩) none (w'.clientAt c).fd w'
    exact Or.inl (hfault.trans (hfeedback.trans (still_of rfl rfl)))
  | success =>
    set w₁ := greeterLockout (seatGet a.sd (w'.clientAt c).pid) w' with hw₁
    have hlock : MayLock w' w₁ := mayLock_greeterLockout _ w'
    have hfeedback := still_sendMessage (.sessionDone t) .loginFeedback
      (some ⟨true, "You are logged in!"⟩) none (w₁.clientAt c).fd w₁
    have hidle := hfeedback.trans (still_of (World.modClient_greeters _ _ _)
      (World.modClient_trace c (fun cl => { cl with spawnTry := none }) _))
    exact (hfault.mayLock hlock).still (hidle.trans (still_clientGoodbye _ c _))

/-! ### The callbacks -/

theorem still_calledBack (t : ℕ) (w : World) : Still w (calledBack t w) :=
  still_append (greeters_calledBack w t) (trace_calledBack w t) rfl

/-- The end of a try: if it is a login that has worked, its seat is locked out. -/
theorem mayLock_freed {a : Answers} {t : ℕ} (hf : Freed C a t w w') : MayLock w w' := by
  have hcalled := still_calledBack t w
  cases hf with
  | login c _ => exact hcalled.mayLock ((mayLock_sessionDone a t c _ _).still (still_release t _))
  | lost g _ _ =>
    have hlog : Still (calledBack t w) ((calledBack t w).log (.greeterCb t none)).fault :=
      still_append rfl rfl rfl
    exact Or.inl (hcalled.trans (hlog.trans (still_release t _)))
  | restarted g r _ hg _ =>
    have hfailed := hcalled.trans (still_greeterStartFailed t g _)
    have hmem : r.seat ∈ seats (greeterStartFailed t g (calledBack t w)) := by
      rw [hfailed.seats]
      exact List.mem_map_of_mem (List.mem_of_getElem? hg)
    exact Or.inl (hfailed.trans ((still_activate a hmem).trans (still_release t _)))
  | noTry g r _ _ _ _ =>
    have hlog : Still (calledBack t w) (((calledBack t w).log (.greeterCb t (some r.seat))).log
        (.startDone t none)).fault := (still_log rfl _).trans (still_append rfl rfl rfl)
    exact Or.inl (hcalled.trans (hlog.trans (still_release t _)))
  | started g r t' _ _ _ _ =>
    have hlog := (still_log (o := .greeterCb t (seatAt (calledBack t w) g)) rfl
      (calledBack t w)).trans (still_log (o := .startDone t (some t')) rfl _)
    have hset : Still (calledBack t w) (greeterStarted t g t' (calledBack t w)) := by
      refine (hlog.trans (still_modGreeter ?_ g _)).trans (still_of rfl rfl)
      exact fun _ => ⟨rfl, rfl⟩
    exact Or.inl (hcalled.trans (hset.trans (still_release t _)))

/-- A request of a client that is no `GREETER_START` of a process that is alive. -/
theorem mayLock_clientData {a : Answers} {c fd : ℕ} (hdoes : ClientData C a c fd w w')
    (hno : ∀ m, a.input = .msg m → m.type = .greeterStart → a.alive (w.clientAt c).pid ≠ true) :
    MayLock w w' := by
  induction hdoes with
  | closed _ => exact Or.inl (still_of rfl rfl)
  | dropped _ => exact Or.inl (still_clientFree c w)
  | replied msg => exact Or.inl (still_log rfl w)
  | activated _ session seat =>
    have hactivate := (still_sessionActivate session w).trans (still_sendMessage (.reply c)
      .loginFeedback (some ⟨false, "Activation is called on this session"⟩) none fd _)
    exact hactivate.mayLock ((mayLock_greeterLockout seat _).still (still_clientGoodbye _ c _))
  | noLogin => exact Or.inl (still_of rfl rfl)
  | noPipe _ => exact Or.inl (still_append rfl rfl rfl)
  | loginForked _ _ l pid =>
    exact Or.inl ((still_forked _ _ w).trans (still_of (World.modClient_greeters _ _ _)
      (World.modClient_trace _ _ _)))
  | loginFailed _ l noTty _ _ _ =>
    have hdone := (still_failed (C := C) noTty (loginRequest a c fd l w) w).mayLock
      (mayLock_sessionDone a w.tries.length c ⟨.error, none⟩ _)
    exact (hdone.still (still_release w.tries.length _)).still
      (still_of (World.modClient_greeters _ _ _) (World.modClient_trace _ _ _))
  | started _ m hinput htype halive => exact absurd halive (hno m hinput htype)
  | ignored => exact Or.inl (Still.refl w)
  | fallback w' _ ih => exact ih.still (still_of rfl rfl)

theorem mayLock_childData {a : Answers} {t fd : ℕ} (hdoes : ChildData C a t fd w w') :
    MayLock w w' := by
  have hread : Still w (w.modTry t SpawnTry.readPipe) := still_of rfl rfl
  cases hdoes with
  | undecodable _ =>
    have hclosed : Still w ((w.modTry t SpawnTry.readPipe).unregisterFd fd) := still_of rfl rfl
    exact Or.inl (hclosed.trans (still_forceQuit t _))
  | connect _ _ _ => exact Or.inl hread
  | setupDone _ _ _ session =>
    refine Or.inl (Still.trans ?_ (still_sessionActivate session _))
    have hset : Still w ((w.modTry t SpawnTry.readPipe).modTry t
        fun tr => { tr with session := session }) := still_of rfl rfl
    split_ifs
    · exact hset.trans (still_forceQuit t _)
    · exact hset
  | sessionActive _ _ _ w' hfree =>
    have hset : Still w (((w.modTry t SpawnTry.readPipe).unregisterFd (w.tryAt t).readFd).modTry t
        fun tr => { tr with success := .success }) := still_of rfl rfl
    exact hset.mayLock (mayLock_freed hfree)
  | errorExit _ _ _ reason _ => exact Or.inl (still_of rfl rfl)
  | noReason _ _ _ _ => exact Or.inl (still_of rfl rfl)

/-! ### The marks of a step -/

/-- A seat is locked out, or a `GREETER_START` for it is handled. -/
inductive Mark
  | lockout
  | start
  deriving DecidableEq, Repr

/-- The seat of the `GREETER_START` that the step handles. -/
def startHandled (w : World) : Event → Option String
  | .next a =>
    if w.fds.readout = true ∧ w.registry.evalMode = false then
      (ready w).bind fun r =>
        match r.cb, a.input with
        | some (.clientData c), .msg m =>
          if m.type = .greeterStart ∧ a.alive (w.clientAt c).pid = true then
            some (startSeat a c w) else none
        | _, _ => none
    else none
  | _ => none

theorem startHandled_eq_some {e : Event} {s : String} : startHandled w e = some s ↔
    ∃ a c fd m, Handles w e a c fd m ∧ m.type = .greeterStart ∧
      a.alive (w.clientAt c).pid = true ∧ startSeat a c w = s := by
  constructor
  · intro h
    cases e with
    | next a =>
      unfold startHandled at h
      dsimp only at h
      split_ifs at h with hidle
      obtain ⟨⟨cb, fd⟩, hready, hmatch⟩ := Option.bind_eq_some_iff.mp h
      dsimp only at hmatch
      split at hmatch
      · rename_i c m hinput
        split_ifs at hmatch with hm
        exact ⟨a, c, fd, m, ⟨rfl, hidle.1, hidle.2, hready, hinput⟩, hm.1, hm.2,
          Option.some.inj hmatch⟩
      · cases hmatch
    | select _ _ | sigchld | reap _ | visit _ | sigchldReturn | childWrite _ _ | childHangUp _
      | childExit _ => cases h
  · rintro ⟨a, c, fd, m, ⟨rfl, hread, heval, hready, hinput⟩, htype, halive, rfl⟩
    simp [startHandled, hread, heval, hready, hinput, htype, halive]

variable (C) in
/-- What the step marks. -/
def stepMarks (w : World) (e : Event) : List (String × Mark) :=
  (lockouts (since w (step C w e))).map (fun s => (s, .lockout)) ++
    (startHandled w e).toList.map fun s => (s, .start)

theorem lockouts_since {e : Event} {ss : List String}
    (h : lockouts (step C w e).trace = lockouts w.trace ++ ss) :
    lockouts (since w (step C w e)) = ss := by
  obtain ⟨os, hos⟩ := trace_step (C := C) w e
  rw [← hos, lockouts_append] at h
  rw [since_append hos.symm]
  exact List.append_cancel_left h

/-- **What becomes of the flags**, with the marks of the step. -/
inductive Moves (fl : List (String × Bool)) :
    List (String × Bool) → List (String × Mark) → Prop
  | same : Moves fl fl []
  | lockout (g : ℕ) (s : String) (b : Bool) (hg : fl[g]? = some (s, b)) :
    Moves fl (fl.set g (s, true)) [(s, .lockout)]
  | start (s : String) : Moves fl (start s fl) [(s, .start)]
  | delete (g : ℕ) (s : String) (hg : fl[g]? = some (s, true)) : Moves fl (fl.eraseIdx g) []

theorem moves_of_mayLock {e : Event} (hno : startHandled w e = none)
    (h : MayLock w (step C w e)) : Moves (flags w) (flags (step C w e)) (stepMarks C w e) := by
  unfold stepMarks
  rcases h with h | ⟨s, g, b, hg, hflags, hlock⟩
  · have hnothing : lockouts (since w (step C w e)) = [] :=
      lockouts_since (by rw [h.lockouts, List.append_nil])
    rw [hno, hnothing, h.flags]
    exact .same
  · rw [hno, lockouts_since hlock, hflags]
    exact .lockout g s b hg

/-- A `GREETER_START` that is handled. -/
theorem moves_start {e : Event} {s : String} (h : startHandled w e = some s) :
    Moves (flags w) (flags (step C w e)) (stepMarks C w e) := by
  obtain ⟨a, c, fd, m, hreq, htype, halive, rfl⟩ := startHandled_eq_some.mp h
  obtain ⟨w', rfl, hstep⟩ := step_answered (C := C) hreq htype halive
  obtain ⟨hflags, hlock⟩ := flags_activate (C := C) a (startSeat a c w) (advance w)
  have hgoodbye : Still (greeterActivate C a (startSeat a c w) (advance w)) (step C w e) := by
    have hbye := still_clientGoodbye (.reply c) c (greeterActivate C a (startSeat a c w) (advance w))
    rcases hstep with hstep | hstep <;> rw [hstep]
    · exact hbye
    · exact hbye.trans (still_of rfl rfl)
  have hnothing : lockouts (since w (step C w e)) = [] := by
    refine lockouts_since ?_
    rw [hgoodbye.lockouts, hlock, List.append_nil]
    rfl
  rw [stepMarks, hnothing, h, hgoodbye.flags, hflags]
  exact .start _

/-- The listener of a greeter or of a try is called. -/
theorem moves_visit {a : Answers} {t i : ℕ} {pid : ℤ} {hd : Handler} {w₁ : World}
    (hnodup : (seats w).Nodup) (hcalled : Called C a t w hd w₁)
    (hstep : step C w (.visit a) = scanTo t (i + 1) (w₁.unlisten pid hd)) :
    Moves (flags w) (flags (step C w (.visit a))) (stepMarks C w (.visit a)) := by
  have hstill : Still w₁ (step C w (.visit a)) := by
    rw [hstep]
    exact still_of rfl rfl
  cases hcalled with
  | disappeared t' w' hfree => exact moves_of_mayLock rfl ((mayLock_freed hfree).still hstill)
  | lost g _ =>
    have hlog : Still w (w.log (.greeterCb t none)).fault := still_append rfl rfl rfl
    exact moves_of_mayLock rfl (Or.inl (hlog.trans hstill))
  | ended g r hg hend =>
    have hnothing : lockouts (since w (step C w (.visit a))) = [] := by
      refine lockouts_since ?_
      rw [hstill.lockouts]
      exact (lockouts_append _ _).trans rfl
    have hdel : flags (greeterDel r.seat (w.log (.greeterCb t (some r.seat)))) =
        (flags w).eraseIdx g := by
      have hseats : (seats (w.log (.greeterCb t (some r.seat)))).Nodup := hnodup
      rw [flags, greeters_greeterDel hseats hg, ← List.eraseIdx_map]
      rfl
    rw [stepMarks, hnothing, hstill.flags, hdel]
    refine .delete g r.seat ?_
    rw [getElem?_flags hg, hend]
  | restarted g r hg _ =>
    have hreset : Still w (greeterReset g (w.log (.greeterCb t (some r.seat)))) :=
      (still_log rfl w).trans (still_greeterReset g _)
    have hmem : r.seat ∈ seats (greeterReset g (w.log (.greeterCb t (some r.seat)))) := by
      rw [hreset.seats]
      exact List.mem_map_of_mem (List.mem_of_getElem? hg)
    exact moves_of_mayLock rfl (Or.inl ((hreset.trans (still_activate a hmem)).trans hstill))

/-- **What a step does to the flags.** -/
theorem moves_step (hnodup : (seats w).Nodup) (e : Event) :
    Moves (flags w) (flags (step C w e)) (stepMarks C w e) := by
  cases hstart : startHandled w e with
  | some s => exact moves_start hstart
  | none =>
    have hadvance : Still w (advance w) := still_of rfl rfl
    have hmoves : ∀ {w' : World}, step C w e = w' → MayLock w w' →
        Moves (flags w) (flags (step C w e)) (stepMarks C w e) :=
      fun hw' h => moves_of_mayLock hstart (hw' ▸ h)
    have hdoes := step_does C w e
    generalize hw' : step C w e = w' at hdoes
    rw [← hw']
    cases hdoes with
    | idle _ => exact hmoves hw' (Or.inl (Still.refl w))
    | select _ _ _ _ => exact hmoves hw' (Or.inl (still_of rfl rfl))
    | endPass _ _ => exact hmoves hw' (Or.inl (still_of rfl rfl))
    | pass _ _ => exact hmoves hw' (Or.inl hadvance)
    | accept a _ _ _ =>
      refine hmoves hw' (Or.inl ?_)
      unfold acceptReady
      cases a.peer <;> exact still_of rfl rfl
    | client a c fd w' heval hready hdoes hread =>
      refine hmoves hw' (hadvance.mayLock (mayLock_clientData hdoes fun m hinput htype halive => ?_))
      have hsome := startHandled_eq_some.mpr
        ⟨a, c, fd, m, ⟨rfl, hread, heval, hready, hinput⟩, htype, halive, rfl⟩
      rw [hstart] at hsome
      cases hsome
    | child a t fd w' _ _ hdoes _ => exact hmoves hw' (hadvance.mayLock (mayLock_childData hdoes))
    | sigchld _ => exact hmoves hw' (Or.inl (still_of rfl rfl))
    | reap _ _ _ _ _ _ _ => exact hmoves hw' (Or.inl (still_of rfl rfl))
    | scanEnd _ _ _ _ _ => exact hmoves hw' (Or.inl (still_of rfl rfl))
    | scanPass _ _ _ _ _ _ _ => exact hmoves hw' (Or.inl (still_of rfl rfl))
    | scanZeroed _ _ _ _ _ _ _ => exact hmoves hw' (Or.inl (still_of rfl rfl))
    | visit a t i pid hd w' _ _ _ hcalled => exact moves_visit hnodup hcalled hw'
    | sigchldReturn _ => exact hmoves hw' (Or.inl (still_of rfl rfl))
    | childWrite _ _ _ => exact hmoves hw' (Or.inl (still_of rfl rfl))
    | childHangUp _ _ => exact hmoves hw' (Or.inl (still_of rfl rfl))
    | childExit _ _ => exact hmoves hw' (Or.inl (still_of rfl rfl))

/-- There is one record for each seat, whatever is done to the flags. -/
theorem Moves.nodup {fl fl' : List (String × Bool)} {ms : List (String × Mark)}
    (h : Moves fl fl' ms) (hnodup : (fl.map Prod.fst).Nodup) : (fl'.map Prod.fst).Nodup := by
  cases h with
  | same => exact hnodup
  | lockout g s b hg =>
    rw [map_fst_set hg]
    exact hnodup
  | start s => exact nodup_start hnodup s
  | delete g s hg =>
    rw [← List.eraseIdx_map]
    exact hnodup.eraseIdx g

theorem nodup_step (hnodup : (seats w).Nodup) (e : Event) : (seats (step C w e)).Nodup := by
  have hmoves := moves_step (C := C) hnodup e
  rw [← map_flags] at hnodup ⊢
  exact hmoves.nodup hnodup

end Spawny.Daemon.GreeterFlags
