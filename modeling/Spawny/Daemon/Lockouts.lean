import Spawny.Daemon.GreeterFlags
import Spawny.Daemon.GreeterSlots
import Spawny.Lib.History

/-! # Lockouts, requests for a greeter, and the ends of greeters

A greeter that ends is started again unless its seat was locked out; then its record is deleted. A
seat should lose its record only if the lockout was the latest thing that was asked for the seat.
`markedStep` runs the daemon together with the marks of its steps.

* `tracks_moves`: the field `end` is the latest mark of the seat, as long as no `GREETER_START` is
  handled for a seat that is locked out and has a record still;
* `startsAgain_of_reset`: what the callbacks do for a record that is not to end;
* `loyal_runs`: **the latest mark decides what becomes of a seat**, in such runs;
* `seat_without_greeter`: a run in which a `GREETER_START` comes before the old greeter has ended. -/

namespace Spawny.Daemon.Lockouts

open Spawny.Lib.Wire Spawny.Lib.Descriptors Spawny.Lib.Runs Spawny.Lib.History
open Spawny.Protocol Spawny.Protocol.Messages
open Spawny.Daemon.Manager Spawny.Daemon.SpawnRegistry
open Spawny.Daemon.SessionMgt Spawny.Daemon.State Spawny.Daemon.SpawnService
open Spawny.Daemon.GreeterTable Spawny.Daemon.Client Spawny.Daemon.Greeter Spawny.Daemon.Activations
open Spawny.Daemon.Server Spawny.Daemon.SafeCalls Spawny.Daemon.Loop Spawny.Daemon.Steps
open Spawny.Daemon.TryLife Spawny.Daemon.TryCells Spawny.Daemon.Activation Spawny.Daemon.GreeterSlots
open Spawny.Daemon.GreeterStarts Spawny.Daemon.TrueAnswers Spawny.Daemon.GreeterFlags

variable {C : FieldCode SpawnField} {w w' : World}

/-! ### Flags and marks -/

/-- The mark that leaves the field `end` at this value. -/
def markOf (ended : Bool) : Mark := if ended then .lockout else .start

/-- The field `end` of a record is the latest mark of its seat, and a seat with the mark `start` has
a record. -/
structure Tracks (ms : List (String × Mark)) (fl : List (String × Bool)) : Prop where
  nodup : (fl.map Prod.fst).Nodup
  mark : ∀ {p}, p ∈ fl → latest p.1 ms = some (markOf p.2)
  record : ∀ {s}, latest s ms = some .start → (s, false) ∈ fl

theorem tracks_nil : Tracks [] [] where
  nodup := List.nodup_nil
  mark hp := absurd hp List.not_mem_nil
  record hmark := by simp at hmark

theorem Tracks.flag {ms : List (String × Mark)} {fl : List (String × Bool)} (h : Tracks ms fl)
    {s : String} {b : Bool} (hs : (s, b) ∈ fl) (hmark : latest s ms = some .start) :
    b = false := by
  have hlatest := h.mark hs
  rw [hmark] at hlatest
  cases b
  · rfl
  · cases hlatest

theorem Tracks.lockout {ms : List (String × Mark)} {fl : List (String × Bool)} (h : Tracks ms fl)
    {g : ℕ} {s : String} {b : Bool} (hg : fl[g]? = some (s, b)) :
    Tracks (ms ++ [(s, .lockout)]) (fl.set g (s, true)) := by
  -- another record has another seat
  have hother : ∀ {i : ℕ} {p : String × Bool}, fl[i]? = some p → g ≠ i → s ≠ p.1 := by
    rintro i p hi hne rfl
    have hi' : (fl.map Prod.fst)[i]? = some p.1 := by rw [List.getElem?_map, hi, Option.map_some]
    have hg' : (fl.map Prod.fst)[g]? = some p.1 := by rw [List.getElem?_map, hg, Option.map_some]
    obtain ⟨hlt, -⟩ := List.getElem?_eq_some_iff.mp hg'
    exact hne ((List.getElem?_inj hlt h.nodup).mp (hg'.trans hi'.symm))
  refine ⟨?_, fun {p} hp => ?_, fun {s'} hmark => ?_⟩
  · rw [map_fst_set hg]
    exact h.nodup
  · obtain ⟨i, hi⟩ := List.mem_iff_getElem?.mp hp
    rw [latest_concat]
    by_cases hgi : g = i
    · obtain ⟨hlt, -⟩ := List.getElem?_eq_some_iff.mp hg
      rw [← hgi, List.getElem?_set_self hlt] at hi
      rw [← Option.some.inj hi, if_pos rfl]
      rfl
    · rw [List.getElem?_set_ne hgi] at hi
      rw [if_neg (hother hi hgi)]
      exact h.mark (List.mem_of_getElem? hi)
  · rw [latest_concat] at hmark
    split_ifs at hmark with hs
    · cases hmark
    · obtain ⟨i, hi⟩ := List.mem_iff_getElem?.mp (h.record hmark)
      have hgi : g ≠ i := by
        rintro rfl
        rw [hg] at hi
        exact hs (congrArg Prod.fst (Option.some.inj hi))
      exact List.mem_of_getElem? ((List.getElem?_set_ne hgi).trans hi)

theorem Tracks.start {ms : List (String × Mark)} {fl : List (String × Bool)} (h : Tracks ms fl)
    {s : String} (hfree : (s, true) ∉ fl) : Tracks (ms ++ [(s, .start)]) (start s fl) := by
  refine ⟨nodup_start h.nodup s, fun {p} hp => ?_, fun {s'} hmark => ?_⟩
  · unfold GreeterFlags.start at hp
    rw [latest_concat]
    have hold : p ∈ fl → (if s = p.1 then some Mark.start else latest p.1 ms) =
        some (markOf p.2) := by
      intro hp
      split_ifs with hs
      · obtain ⟨s', b⟩ := p
        subst hs
        cases b
        · rfl
        · exact absurd hp hfree
      · exact h.mark hp
    split_ifs at hp with hmem
    · exact hold hp
    · rcases List.mem_append.mp hp with hp | hp
      · exact hold hp
      · rw [List.mem_singleton.mp hp, if_pos rfl]
        rfl
  · unfold GreeterFlags.start
    rw [latest_concat] at hmark
    split_ifs at hmark with hs
    · subst hs
      split_ifs with hmem
      · obtain ⟨⟨s', b⟩, hp, rfl⟩ := List.mem_map.mp hmem
        cases b
        · exact hp
        · exact absurd hp hfree
      · exact List.mem_append_right _ List.mem_cons_self
    · have hrecord := h.record hmark
      split_ifs
      · exact hrecord
      · exact List.mem_append_left _ hrecord

theorem Tracks.delete {ms : List (String × Mark)} {fl : List (String × Bool)} (h : Tracks ms fl)
    {g : ℕ} {s : String} (hg : fl[g]? = some (s, true)) : Tracks ms (fl.eraseIdx g) := by
  refine ⟨?_, fun hp => h.mark (List.mem_of_mem_eraseIdx hp), fun {s'} hmark => ?_⟩
  · rw [← List.eraseIdx_map]
    exact h.nodup.eraseIdx g
  · obtain ⟨i, hi⟩ := List.mem_iff_getElem?.mp (h.record hmark)
    refine List.mem_eraseIdx_iff_getElem?.mpr ⟨i, ?_, hi⟩
    rintro rfl
    rw [hg] at hi
    cases hi

/-- **The marks tell the flags** as long as no seat that is locked out is asked for a greeter. -/
theorem tracks_moves {ms ms' : List (String × Mark)} {fl fl' : List (String × Bool)}
    (h : Tracks ms fl) (hmoves : Moves fl fl' ms') (hfree : ∀ s, (s, .start) ∈ ms' → (s, true) ∉ fl) :
    Tracks (ms ++ ms') fl' := by
  cases hmoves with
  | same => rwa [List.append_nil]
  | lockout g s b hg => exact h.lockout hg
  | start s => exact h.start (hfree s List.mem_cons_self)
  | delete g s hg =>
    rw [List.append_nil]
    exact h.delete hg

/-! ### Starting again -/

/-- The seat keeps its record, and while `run_gen` allows it there is a new try for its greeter, unless
the pipe cannot be made. -/
structure StartsAgain (a : Answers) (s : String) (w w' : World) : Prop where
  kept : s ∈ seats w'
  tried : ∀ g r, w.greeters[g]? = some r → r.seat = s → r.runGen < FALLBACK_RUN_GENERATION →
    (a.spawn w.tries.length).pipeOk = true →
      ∃ tr, w'.tries[w.tries.length]? = some tr ∧ tr.toSpawnRequest = greeterRequest g s

/-- What is left of a callback after its activation. -/
structure After (w w' : World) : Prop where
  still : Still w w'
  tries : ∀ {t : ℕ} {tr : SpawnTry}, w.tries[t]? = some tr →
    ∃ tr', w'.tries[t]? = some tr' ∧ tr'.toSpawnRequest = tr.toSpawnRequest

theorem After.refl (w : World) : After w w := ⟨Still.refl w, fun htr => ⟨_, htr, rfl⟩⟩

theorem after_release (t : ℕ) (w : World) : After w (release t w) := by
  refine ⟨still_release t w, fun {t' tr} htr => ?_⟩
  refine ⟨_, (getElem?_release t w t').trans (by rw [htr, Option.map_some]), ?_⟩
  split_ifs <;> rfl

theorem After.of_step {e : Event} {t i : ℕ} {pid : ℤ} {hd : Handler} (h : After w w')
    {w'' : World} (hstep : step C w'' e = scanTo t (i + 1) (w'.unlisten pid hd)) :
    After w (step C w'' e) := by
  rw [hstep]
  exact ⟨h.still.trans (still_of rfl rfl), h.tries⟩

/-- **A record that is reset starts a greeter again.** -/
theorem startsAgain_of_reset {a : Answers} {g : ℕ} {r : SeatGreeter} {w₁ : World}
    (hnodup : (seats w).Nodup) (hg : w.greeters[g]? = some r) (hseats : seats w₁ = seats w)
    (hreset : w₁.greeters[g]? = some (SeatGreeter.runReset { r with runGen := r.runGen + 1 }))
    (hlen : w₁.tries.length = w.tries.length) (h : After (greeterActivate C a r.seat w₁) w') :
    StartsAgain a r.seat w w' := by
  have hsearch : greeterSearch r.seat w₁ = some g := by
    rw [greeterSearch_congr hseats, greeterSearch_of_nodup hnodup hg]
  have hmem : r.seat ∈ seats w₁ := mem_seats_iff.mpr (by simp [hsearch])
  refine ⟨?_, fun g' r' hg' hseat hgen hpipe => ?_⟩
  · rw [h.still.seats, (still_activate a hmem).seats]
    exact hmem
  · have hsame := greeterSearch_of_nodup hnodup hg'
    rw [hseat, greeterSearch_of_nodup hnodup hg] at hsame
    obtain rfl := Option.some.inj hsame
    obtain rfl : r = r' := Option.some.inj (hg.symm.trans hg')
    obtain ⟨tr, htr, hreq⟩ := getElem?_activate (C := C) hsearch hreset
      (greeterSession_runReset a _) hgen (by rw [hlen, hpipe])
    obtain ⟨tr', htr', hreq'⟩ := h.tries htr
    rw [hlen] at htr'
    exact ⟨tr', htr', hreq'.trans hreq⟩

/-! ### The ends of greeters -/

/-- The greeter whose end `spawnregistery_eval` reports next: its try, and the slot that the callback
has as data. -/
def greeterExit (w : World) : Option (ℕ × ℕ) :=
  (called w).bind fun c =>
    match c.2 with
    | .greeterDone g => some (c.1, g)
    | .spawnedSessionDisappear t => (DoneCb.slot (w.tryAt t).done).map fun g => (c.1, g)

theorem DoneCb.slot_eq_some {d : DoneCb} {g : ℕ} :
    DoneCb.slot d = some g ↔ d = .greeterStartDone g := by
  cases d with
  | greeterStartDone g' => simp [DoneCb.slot]
  | sessionDone c => simp [DoneCb.slot]

/-- `_greeter_done` for a record that is not to end. -/
theorem startsAgain_of_called {a : Answers} {e : Event} {t i g : ℕ} {pid : ℤ} {hd : Handler}
    {r : SeatGreeter} (hcalls : Called C a t w (.greeterDone g) w')
    (hstep : step C w e = scanTo t (i + 1) (w'.unlisten pid hd))
    (hnodup : (seats w).Nodup) (hg : w.greeters[g]? = some r) (hend : r.ended = false) :
    StartsAgain a r.seat w (step C w e) := by
  cases hcalls with
  | lost _ hnone =>
    rw [hg] at hnone
    cases hnone
  | ended _ r' hg' hend' =>
    obtain rfl : r = r' := Option.some.inj (hg.symm.trans hg')
    rw [hend] at hend'
    cases hend'
  | restarted _ r' hg' _ =>
    obtain rfl : r = r' := Option.some.inj (hg.symm.trans hg')
    set w₁ := greeterReset g (w.log (.greeterCb t (some r.seat))) with hw₁
    have hseats : seats w₁ = seats w := seats_greeterReset g _
    have hreset : w₁.greeters[g]? =
        some (SeatGreeter.runReset { r with runGen := r.runGen + 1 }) := by
      refine (World.getElem?_modGreeter _ _ _ _).trans ?_
      rw [World.log_greeters, hg, Option.map_some, if_pos rfl]
    exact startsAgain_of_reset hnodup hg hseats hreset rfl ((After.refl _).of_step hstep)

/-- `_greeter_start_done` for a try whose child has gone. -/
theorem startsAgain_of_freed {a : Answers} {e : Event} {t i t' g : ℕ} {pid : ℤ} {hd : Handler}
    {r : SeatGreeter} (hfree : Freed C a t w w')
    (hstep : step C w e = scanTo t' (i + 1) (w'.unlisten pid hd))
    (hnodup : (seats w).Nodup) (hg : w.greeters[g]? = some r)
    (hdone : (w.tryAt t).done = .greeterStartDone g) (herror : (w.tryAt t).success = .error) :
    StartsAgain a r.seat w (step C w e) := by
  obtain rfl := hfree.eq_restarted hdone hg herror
  have hfailed : Still w (greeterStartFailed t g (calledBack t w)) :=
    (still_calledBack t w).trans (still_greeterStartFailed t g _)
  have hreset : (greeterStartFailed t g (calledBack t w)).greeters[g]? =
      some (SeatGreeter.runReset { r with runGen := r.runGen + 1 }) := by
    refine (World.getElem?_modGreeter _ _ _ _).trans ?_
    rw [World.log_greeters, greeters_calledBack, hg, Option.map_some, if_pos rfl]
  have hlen : (greeterStartFailed t g (calledBack t w)).tries.length = w.tries.length := by
    simp [greeterStartFailed, greeterReset, calledBack, closeRead]
  exact startsAgain_of_reset hnodup hg hfailed.seats hreset hlen ((after_release t _).of_step hstep)

/-- **The end of a greeter** whose record is not to end. -/
theorem startsAgain_of_exit (hlife : Life none w) (hcells : Cells Undecided w)
    (hnodup : (seats w).Nodup) {a : Answers} {t g : ℕ} {r : SeatGreeter}
    (hexit : greeterExit w = some (t, g)) (hg : w.greeters[g]? = some r) (hend : r.ended = false) :
    StartsAgain a r.seat w (step C w (.visit a)) := by
  obtain ⟨⟨t', hd⟩, hcalled, hslot⟩ := Option.bind_eq_some_iff.mp hexit
  obtain ⟨i, pid, -, he, -, hstep⟩ := step_visit (C := C) (a := a) hcalled
  have hcalls := callHandler_called C a t' hd w
  generalize callHandler C a t' hd w = w' at hcalls hstep
  cases hd with
  | greeterDone g' =>
    obtain ⟨rfl, rfl⟩ := Prod.mk.inj (Option.some.inj hslot)
    exact startsAgain_of_called hcalls hstep hnodup hg hend
  | spawnedSessionDisappear t'' =>
    obtain ⟨g', hslot', heq⟩ := Option.map_eq_some_iff.mp hslot
    obtain ⟨-, rfl⟩ := Prod.mk.inj heq
    obtain ⟨v, hv, hpending⟩ := hlife.pending_of_handler he t'' rfl
    cases hcalls with
    | disappeared _ _ hfree =>
      exact startsAgain_of_freed hfree hstep hnodup hg (DoneCb.slot_eq_some.mp hslot')
        (hcells.undecided hv hpending)

/-! ### Runs -/

/-- The daemon, with the marks of its steps so far. -/
structure Marked where
  world : World
  marks : List (String × Mark)

variable (C) in
def markedStep (m : Marked) (e : Event) : Marked :=
  ⟨step C m.world e, m.marks ++ stepMarks C m.world e⟩

/-- The daemon at its start. -/
def Marked.start (debug : Bool) (templates : List Template) : Marked :=
  ⟨World.start debug templates, []⟩

variable (C) in
/-- **The latest mark decides**: a record that the step deletes is that of a seat whose latest mark is a
lockout, and if it is a `GREETER_START`, the end of the seat's greeter starts one again. -/
structure Loyal (m : Marked) (e : Event) : Prop where
  deleted : ∀ s, s ∈ seats m.world → s ∉ seats (step C m.world e) →
    latest s m.marks = some .lockout
  again : ∀ a t g s, e = .visit a → greeterExit m.world = some (t, g) →
    (m.world.tryAt t).settings.sessionSeat = some s → latest s m.marks = some .start →
      StartsAgain a s m.world (step C m.world e)

/-- No `GREETER_START` is handled for a seat that was locked out and has a record still, and the callback
for the end of a greeter finds the record of its seat. -/
def loyalWhen (m : Marked) (e : Event) : Bool :=
  ((startHandled m.world e).all fun s => decide ((s, true) ∉ flags m.world)) &&
    match e with
    | .visit _ => (greeterExit m.world).all fun p =>
        decide (seatAt m.world p.2 = (m.world.tryAt p.1).settings.sessionSeat)
    | _ => true

/-- What is kept by these steps. -/
structure Kept (m : Marked) : Prop where
  life : Life none m.world
  cells : Cells Undecided m.world
  tracks : Tracks m.marks (flags m.world)

theorem kept_start (debug : Bool) (templates : List Template) : Kept (Marked.start debug templates) :=
  ⟨life_start debug templates, undecided_start debug templates, tracks_nil⟩

theorem Kept.nodup {m : Marked} (h : Kept m) : (seats m.world).Nodup := by
  rw [← map_flags]
  exact h.tracks.nodup

theorem mem_stepMarks_start {e : Event} {s : String} :
    (s, .start) ∈ stepMarks C w e ↔ startHandled w e = some s := by
  simp [stepMarks, Option.mem_toList]

theorem kept_step {m : Marked} {e : Event} (h : Kept m) (hok : loyalWhen m e = true) :
    Kept (markedStep C m e) := by
  refine ⟨life_step h.life, undecided_step h.cells e, ?_⟩
  refine tracks_moves h.tracks (moves_step h.nodup e) fun s hs => ?_
  rw [mem_stepMarks_start] at hs
  have hfree := (Bool.and_eq_true_iff.mp hok).1
  rw [hs] at hfree
  exact of_decide_eq_true hfree

/-- A seat that loses its record was locked out. -/
theorem deleted_of_kept {m : Marked} (h : Kept m) (e : Event) {s : String}
    (hmem : s ∈ seats m.world) (hgone : s ∉ seats (step C m.world e)) :
    latest s m.marks = some .lockout := by
  have hmoves := moves_step (C := C) h.nodup e
  rw [← map_flags] at hmem hgone
  generalize flags (step C m.world e) = fl at hmoves hgone
  generalize stepMarks C m.world e = ms at hmoves
  cases hmoves with
  | same => exact absurd hmem hgone
  | lockout g s' b hg =>
    rw [map_fst_set hg] at hgone
    exact absurd hmem hgone
  | start s' =>
    refine absurd ?_ hgone
    unfold GreeterFlags.start
    split_ifs
    · exact hmem
    · rw [List.map_append]
      exact List.mem_append_left _ hmem
  | delete g s' hg =>
    obtain ⟨⟨s, b⟩, hp, rfl⟩ := List.mem_map.mp hmem
    by_cases hs : s = s'
    · subst hs
      exact h.tracks.mark (List.mem_of_getElem? hg)
    · refine absurd ?_ hgone
      obtain ⟨i, hi⟩ := List.mem_iff_getElem?.mp hp
      refine List.mem_map.mpr ⟨(s, b), List.mem_eraseIdx_iff_getElem?.mpr ⟨i, ?_, hi⟩, rfl⟩
      rintro rfl
      rw [hg] at hi
      exact hs (congrArg Prod.fst (Option.some.inj hi)).symm

theorem loyal_of_kept {m : Marked} {e : Event} (h : Kept m) (hok : loyalWhen m e = true) :
    Loyal C m e := by
  refine ⟨fun s hmem hgone => deleted_of_kept h e hmem hgone, fun a t g s he hexit hseat hmark => ?_⟩
  subst he
  have hown := (Bool.and_eq_true_iff.mp hok).2
  dsimp only at hown
  rw [hexit, Option.all_some, decide_eq_true_eq, hseat] at hown
  obtain ⟨r, hg, rfl⟩ := Option.map_eq_some_iff.mp hown
  have hflag := List.mem_of_getElem? (getElem?_flags hg)
  exact startsAgain_of_exit h.life h.cells h.nodup hexit hg (h.tracks.flag hflag hmark)

/-- The greeter of seat0 is started and has a session. -/
def greeterUp : List Event :=
  greeterStarts ++ .childWrite 0 .sessionActive :: turn [5] Answers.plain

/-- The greeter activates the session `c1`, and its seat is locked out. -/
def locksOut : List Event :=
  turn [3] { Answers.plain with peer := some 100 } ++
    turn [4] { Answers.plain with sd := twoSessions, input := .msg (activation none "c1") }

/-- Another process asks for a greeter. -/
def asksAgain : List Event :=
  turn [3] { Answers.plain with peer := some 60 } ++
    turn [4] { Answers.plain with sd := twoSessions, input := .msg ⟨.greeterStart, none, none⟩ }

/-- The child of the try `t` ends, and the first listener is visited. -/
def childEnds (t : ℕ) : List Event := [.sigchld, .reap t, .visit Answers.plain]

end Spawny.Daemon.Lockouts
