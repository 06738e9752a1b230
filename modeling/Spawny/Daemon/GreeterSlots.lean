import Spawny.Daemon.Processes
import Spawny.Daemon.TryFields

/-! # The slots that greeter callbacks have as data

`_greeter_start_done` and `_greeter_done` get a `Seat_Greeter` pointer, which is a slot of the
`greeters` array. `Slots` says that every slot that is the data of a callback still to come has the
record of the seat that the try was made for. Only a deletion moves records, so `Slots` is kept as
long as no slot behind a deleted record is in use.

* `Slots.congr`: what the slots survive;
* `slots_step`: every step keeps `Slots` that deletes no record in front of a slot in use;
* `right_records`: **the callbacks find the records of their seats** in such runs;
* `wrong_record`: a run in which one does not. -/

namespace Spawny.Daemon.GreeterSlots

open Spawny.Lib.Wire Spawny.Lib.Descriptors Spawny.Lib.Runs Spawny.Protocol Spawny.Protocol.Messages
open Spawny.Daemon.Manager Spawny.Daemon.SpawnRegistry
open Spawny.Daemon.SessionMgt Spawny.Daemon.State Spawny.Daemon.SpawnService
open Spawny.Daemon.GreeterTable Spawny.Daemon.Client Spawny.Daemon.Greeter Spawny.Daemon.Activations
open Spawny.Daemon.Server Spawny.Daemon.Loop Spawny.Daemon.Steps Spawny.Daemon.TryViews
open Spawny.Daemon.TryRule Spawny.Daemon.TryLife Spawny.Daemon.TryFields Spawny.Daemon.Processes

variable {C : FieldCode SpawnField}

/-! ### Slots and seats -/

/-- The seat that the session of the try `t` is for. -/
def trySeat (w : World) (t : ℕ) : Option String :=
  (view w t).bind fun v => v.req.settings.sessionSeat

theorem trySeat_eq {w : World} {t : ℕ} {v : TryView} (hv : view w t = some v) :
    trySeat w t = v.req.settings.sessionSeat := by rw [trySeat, hv, Option.bind_some]

/-- The slot `g` has the record of the seat that the try `t` is for. -/
def Points (w : World) (g t : ℕ) : Prop := ∃ s, seatAt w g = some s ∧ trySeat w t = some s

/-- The try in the field `run.try` of the record in slot `g`. -/
def runTryAt (w : World) (g : ℕ) : Option ℕ := (w.greeters[g]?).bind SeatGreeter.runTry

theorem runTryAt_eq {w : World} {g : ℕ} {r : SeatGreeter} (hg : w.greeters[g]? = some r) :
    runTryAt w g = r.runTry := by rw [runTryAt, hg, Option.bind_some]

theorem seatAt_get {w : World} {g : ℕ} {r : SeatGreeter} (hg : w.greeters[g]? = some r) :
    seatAt w g = some r.seat := by rw [seatAt, hg, Option.map_some]

theorem seats_of_runs {w w' : World} (h : runs w' = runs w) : seats w' = seats w := by
  have hseats : ∀ w : World, seats w = (runs w).map Prod.fst := fun w => by simp [seats, runs]
  rw [hseats, h, hseats]

theorem runTryAt_of_runs {w w' : World} (h : runs w' = runs w) (g : ℕ) :
    runTryAt w' g = runTryAt w g := by
  have hruns : ∀ w : World, runTryAt w g = ((runs w)[g]?).bind fun r => r.2.1 := by
    intro w
    rw [runTryAt, runs, List.getElem?_map]
    cases w.greeters[g]? <;> rfl
  rw [hruns, h, hruns]

/-- **The invariant of the slots.** -/
structure Slots (w : World) : Prop where
  nodup : (seats w).Nodup
  record : ∀ {g t : ℕ}, runTryAt w g = some t → Points w g t
  waiting : ∀ {t g : ℕ} {v : TryView}, view w t = some v → v.doneCalled = false →
    v.req.done = .greeterStartDone g → Points w g t
  listener : ∀ {e : Waiting Handler} {g : ℕ}, e ∈ w.registry.live →
    e.handler = some (.greeterDone g) → 0 < e.pid →
      ∃ t v, Holds w t v ∧ e.pid = v.childPid ∧ Points w g t
  right : ∀ {t : ℕ} {found : Option String}, .greeterCb t found ∈ w.trace →
    ∃ s, found = some s ∧ trySeat w t = some s

/-! ### What the slots survive -/

/-- Slots keep the seats of their records, tries keep their seats, and processes their numbers. -/
structure Keeps (w w' : World) : Prop where
  seats : ∀ {g : ℕ} {s : String}, seatAt w g = some s → seatAt w' g = some s
  tries : ∀ {t : ℕ} {s : String}, trySeat w t = some s → trySeat w' t = some s
  holds : ∀ {t : ℕ} {v : TryView}, Holds w t v → ∃ v', Holds w' t v' ∧ v'.childPid = v.childPid

theorem Keeps.trans {w w' w'' : World} (h : Keeps w w') (h' : Keeps w' w'') : Keeps w w'' where
  seats hs := h'.seats (h.seats hs)
  tries ht := h'.tries (h.tries ht)
  holds hholds := by
    obtain ⟨v, hv, hpid⟩ := h.holds hholds
    obtain ⟨v', hv', hpid'⟩ := h'.holds hv
    exact ⟨v', hv', hpid'.trans hpid⟩

theorem Points.keeps {w w' : World} (hk : Keeps w w') {g t : ℕ} (h : Points w g t) :
    Points w' g t := by
  obtain ⟨s, hs, ht⟩ := h
  exact ⟨s, hk.seats hs, hk.tries ht⟩

/-- What is new since `w` is right. -/
theorem Slots.congr {w w' : World} (h : Slots w) (hk : Keeps w w') (hnodup : (seats w').Nodup)
    (hrecord : ∀ {g t}, runTryAt w' g = some t → runTryAt w g = some t ∨ Points w' g t)
    (hwaiting : ∀ {t g v'}, view w' t = some v' → v'.doneCalled = false →
      v'.req.done = .greeterStartDone g → (∃ v, view w t = some v ∧ v.doneCalled = false ∧
        v.req.done = .greeterStartDone g) ∨ Points w' g t)
    (hlistener : ∀ {e g}, e ∈ w'.registry.live → e.handler = some (.greeterDone g) → 0 < e.pid →
      e ∈ w.registry.live ∨ ∃ t v, Holds w' t v ∧ e.pid = v.childPid ∧ Points w' g t)
    (hright : ∀ {t found}, Obs.greeterCb t found ∈ w'.trace → .greeterCb t found ∈ w.trace ∨
      ∃ s, found = some s ∧ trySeat w' t = some s) : Slots w' where
  nodup := hnodup
  record hg := (hrecord hg).elim (fun hold => (h.record hold).keeps hk) id
  waiting hv hdone hd := by
    rcases hwaiting hv hdone hd with ⟨v, hv, hdone, hd⟩ | hnew
    · exact (h.waiting hv hdone hd).keeps hk
    · exact hnew
  listener he hh hpid := by
    rcases hlistener he hh hpid with hold | hnew
    · obtain ⟨t, v, hholds, heq, hpoints⟩ := h.listener hold hh hpid
      obtain ⟨v', hholds', hchild⟩ := hk.holds hholds
      exact ⟨t, v', hholds', by rw [heq, hchild], hpoints.keeps hk⟩
    · exact hnew
  right hcb := by
    rcases hright hcb with hold | hnew
    · obtain ⟨s, hs, ht⟩ := h.right hold
      exact ⟨s, hs, hk.tries ht⟩
    · exact hnew

/-- Records and views are kept where nothing is deleted. -/
theorem keeps_of_views {w w' : World} (hseats : ∀ {g s}, seatAt w g = some s → seatAt w' g = some s)
    (hscan : w'.scan = w.scan)
    (hview : ∀ {t v}, view w t = some v → ∃ v', view w' t = some v' ∧ SameChild v v' ∧
      v'.req = v.req) : Keeps w w' where
  seats := hseats
  tries {t s} ht := by
    obtain ⟨v, hv, hs⟩ := Option.bind_eq_some_iff.mp ht
    obtain ⟨v', hv', -, hreq⟩ := hview hv
    rw [trySeat_eq hv', hreq, hs]
  holds {t v} hholds := by
    obtain ⟨v', hv', hsame, -⟩ := hview hholds.view_eq
    exact ⟨v', hholds.same hscan hv' hsame⟩

theorem keeps_of_eq {w w' : World} (hseats : seats w' = seats w) (hscan : w'.scan = w.scan)
    (hviews : TryViews.view w' = TryViews.view w) : Keeps w w' := by
  refine keeps_of_views (fun {g s} hs => ?_) hscan fun {t v} hv => ⟨v, ?_, SameChild.refl v, rfl⟩
  · rw [seatAt_congr hseats, hs]
  · rw [hviews, hv]

theorem mem_greeterObs {w : World} {t : ℕ} {found : Option String} :
    Obs.greeterCb t found ∈ greeterObs w ↔ Obs.greeterCb t found ∈ w.trace := by
  simp [greeterObs, Obs.ofGreeter]

theorem Slots.steady {w w' : World} (h : Slots w) (hs : Steady w w') : Slots w' := by
  refine h.congr (keeps_of_eq (seats_of_runs hs.runs) hs.scan hs.views) ?_ ?_ ?_ ?_ ?_
  · rw [seats_of_runs hs.runs]
    exact h.nodup
  · intro g t ht
    rw [runTryAt_of_runs hs.runs] at ht
    exact Or.inl ht
  · intro t g v hv hdone hd
    rw [hs.views] at hv
    exact Or.inl ⟨v, hv, hdone, hd⟩
  · intro e g he _ _
    rw [hs.registry] at he
    exact Or.inl he
  · intro t found hcb
    rw [← mem_greeterObs, hs.obs, mem_greeterObs] at hcb
    exact Or.inl hcb

/-! ### The operations on tries -/

/-- A new try for a slot is for the seat of the record there. -/
def RightRequest (req : SpawnRequest) (w : World) : Prop :=
  ∀ g, req.done = .greeterStartDone g → ∃ s, seatAt w g = some s ∧ req.settings.sessionSeat = some s

theorem Slots.forks {w : World} (h : Slots w) {req : SpawnRequest} (hreq : RightRequest req w)
    (pid : ℕ) : Slots (childForked w.tries.length pid (openTry req w)) := by
  have hview := view_forked req pid w
  have hscan := (scan_childForked (openTry req w) w.tries.length pid).trans (scan_openTry w req)
  have hgreeters : (childForked w.tries.length pid (openTry req w)).greeters = w.greeters := by simp
  have hseats : seats (childForked w.tries.length pid (openTry req w)) = seats w :=
    congrArg (List.map SeatGreeter.seat) hgreeters
  have hkeeps : Keeps w (childForked w.tries.length pid (openTry req w)) := by
    refine keeps_of_views (fun {g s} hs => ?_) hscan fun {t v} hv => ⟨v, ?_, SameChild.refl v, rfl⟩
    · rw [seatAt_congr hseats, hs]
    · rw [hview, if_neg (view_lt hv).ne, hv]
  refine h.congr hkeeps (by rw [hseats]; exact h.nodup) ?_ ?_ ?_ ?_
  · intro g t ht
    rw [runTryAt, hgreeters] at ht
    exact Or.inl ht
  · intro t g v hv hdone hd
    rw [hview] at hv
    split_ifs at hv with ht
    · obtain rfl := Option.some.inj hv
      obtain ⟨s, hs, hseat⟩ := hreq g hd
      refine Or.inr ⟨s, by rw [seatAt_congr hseats, hs], ?_⟩
      rw [trySeat, hview, if_pos ht, Option.bind_some]
      exact hseat
    · exact Or.inl ⟨v, hv, hdone, hd⟩
  · intro e g he hh _
    rw [registry_forked, Registry.live_listen] at he
    rcases List.mem_append.mp he with he | he
    · exact Or.inl he
    · rw [List.mem_singleton.mp he] at hh
      cases hh
  · intro t found hcb
    rw [trace_childForked, trace_openTry] at hcb
    exact Or.inl (by simpa using hcb)

theorem Slots.fails {w : World} (h : Slots w) (noTty : Bool) (req : SpawnRequest) :
    Slots (tryFailed C noTty req w) := by
  have hview := view_tryFailed C noTty req w
  have hgreeters := greeters_tryFailed C w noTty req
  have hseats : seats (tryFailed C noTty req w) = seats w :=
    congrArg (List.map SeatGreeter.seat) hgreeters
  have hkeeps : Keeps w (tryFailed C noTty req w) := by
    refine keeps_of_views (fun {g s} hs => ?_) (scan_tryFailed C w noTty req)
      fun {t v} hv => ⟨v, ?_, SameChild.refl v, rfl⟩
    · rw [seatAt_congr hseats, hs]
    · rw [hview, if_neg (view_lt hv).ne, hv]
  refine h.congr hkeeps (by rw [hseats]; exact h.nodup) ?_ ?_ ?_ ?_
  · intro g t ht
    rw [runTryAt, hgreeters] at ht
    exact Or.inl ht
  · intro t g v hv hdone hd
    rw [hview] at hv
    split_ifs at hv with ht
    · rw [← Option.some.inj hv] at hdone
      cases hdone
    · exact Or.inl ⟨v, hv, hdone, hd⟩
  · intro e g he _ _
    rw [registry_tryFailed] at he
    exact Or.inl he
  · intro t found hcb
    rw [trace_tryFailed] at hcb
    exact Or.inl (by simpa using hcb)

theorem Slots.calls {w : World} (h : Slots w) (t : ℕ) : Slots (calledBack t w) := by
  have hview := view_calledBack t w
  have hseats : seats (calledBack t w) = seats w :=
    congrArg (List.map SeatGreeter.seat) (greeters_calledBack w t)
  have hkeeps : Keeps w (calledBack t w) := by
    refine keeps_of_views (fun {g s} hs => ?_) (scan_calledBack w t) fun {t' v} hv => ?_
    · rw [seatAt_congr hseats, hs]
    · rw [hview, hv]
      split_ifs
      · exact ⟨_, rfl, ⟨rfl, rfl, Or.inl rfl⟩, rfl⟩
      · exact ⟨v, rfl, SameChild.refl v, rfl⟩
  refine h.congr hkeeps (by rw [hseats]; exact h.nodup) ?_ ?_ ?_ ?_
  · intro g t' ht
    rw [runTryAt, greeters_calledBack] at ht
    exact Or.inl ht
  · intro t' g v' hv' hdone hd
    rw [hview] at hv'
    split_ifs at hv' with ht
    · obtain ⟨v, -, rfl⟩ := Option.map_eq_some_iff.mp hv'
      cases hdone
    · exact Or.inl ⟨v', hv', hdone, hd⟩
  · intro e g he _ _
    rw [registry_calledBack] at he
    exact Or.inl he
  · intro t' found hcb
    rw [trace_calledBack] at hcb
    exact Or.inl (by simpa using hcb)

theorem Slots.unlisten {w : World} (h : Slots w) (pid : ℤ) (hd : Handler) :
    Slots (w.unlisten pid hd) := by
  refine h.congr (keeps_of_eq rfl rfl rfl) h.nodup (fun ht => Or.inl ht)
    (fun {t g v} hv hdone hd' => Or.inl ⟨v, hv, hdone, hd'⟩) (fun he _ _ => Or.inl ?_)
    fun hcb => Or.inl hcb
  exact (Registry.mem_live_unlisten.mp he).1

theorem Slots.releases {w : World} (h : Slots w) (t : ℕ) : Slots (release t w) := by
  have hview := view_release t w
  have hseats : seats (release t w) = seats w :=
    congrArg (List.map SeatGreeter.seat) (greeters_release w t)
  have hkeeps : Keeps w (release t w) := by
    refine keeps_of_views (fun {g s} hs => ?_) (scan_release w t) fun {t' v} hv => ?_
    · rw [seatAt_congr hseats, hs]
    · rw [hview, hv]
      split_ifs
      · exact ⟨_, rfl, ⟨rfl, rfl, Or.inr rfl⟩, rfl⟩
      · exact ⟨v, rfl, SameChild.refl v, rfl⟩
  refine h.congr hkeeps (by rw [hseats]; exact h.nodup) ?_ ?_ ?_ ?_
  · intro g t' ht
    rw [runTryAt, greeters_release] at ht
    exact Or.inl ht
  · intro t' g v' hv' hdone hd
    rw [hview] at hv'
    split_ifs at hv' with ht
    · obtain ⟨v, hv, rfl⟩ := Option.map_eq_some_iff.mp hv'
      exact Or.inl ⟨v, hv, hdone, hd⟩
    · exact Or.inl ⟨v', hv', hdone, hd⟩
  · intro e g he _ _
    exact Or.inl (Registry.mem_live_unlisten.mp he).1
  · intro t' found hcb
    rw [trace_release] at hcb
    exact Or.inl hcb

/-! ### The operations on the table -/

theorem Slots.log {w : World} (h : Slots w) {o : Obs}
    (ho : ∀ t found, o = .greeterCb t found → ∃ s, found = some s ∧ trySeat w t = some s) :
    Slots (w.log o) := by
  refine h.congr (keeps_of_eq rfl rfl rfl) h.nodup (fun ht => Or.inl ht)
    (fun {t g v} hv hdone hd => Or.inl ⟨v, hv, hdone, hd⟩) (fun he _ _ => Or.inl he)
    fun {t found} hcb => ?_
  rw [World.log_trace] at hcb
  rcases List.mem_append.mp hcb with hcb | hcb
  · exact Or.inl hcb
  · exact Or.inr (ho t found (List.mem_singleton.mp hcb).symm)

/-- A callback for a slot that has the record of its try. -/
theorem Slots.logCb {w : World} (h : Slots w) {g t : ℕ} (hpoints : Points w g t) :
    Slots (w.log (.greeterCb t (seatAt w g))) := by
  refine h.log fun t' found heq => ?_
  obtain ⟨rfl, rfl⟩ := Obs.greeterCb.inj heq
  exact hpoints

/-- The fields of the record in slot `g` are set; a try that `run.try` gets is one for its seat. -/
theorem Slots.modGreeter {w : World} (h : Slots w) {f : SeatGreeter → SeatGreeter}
    (hf : ∀ r, (f r).seat = r.seat) {g : ℕ}
    (htry : ∀ r t, w.greeters[g]? = some r → (f r).runTry = some t →
      r.runTry = some t ∨ Points w g t) : Slots (w.modGreeter g f) := by
  have hseats : seats (w.modGreeter g f) = seats w := seats_modGreeter hf g w
  have hkeeps : Keeps w (w.modGreeter g f) := keeps_of_eq hseats rfl rfl
  refine h.congr hkeeps (by rw [hseats]; exact h.nodup) (fun {g' t} ht => ?_)
    (fun {t g v} hv hdone hd => Or.inl ⟨v, hv, hdone, hd⟩) (fun he _ _ => Or.inl he)
    fun hcb => Or.inl hcb
  rw [runTryAt, World.getElem?_modGreeter] at ht
  obtain ⟨r', hr', htry'⟩ := Option.bind_eq_some_iff.mp ht
  obtain ⟨r, hr, rfl⟩ := Option.map_eq_some_iff.mp hr'
  split_ifs at htry' with hg
  · subst hg
    refine (htry r t hr htry').imp (fun hold => ?_) fun hnew => hnew.keeps hkeeps
    rw [runTryAt_eq hr, hold]
  · refine Or.inl ?_
    rw [runTryAt_eq hr, htry']

theorem Slots.setTry {w : World} (h : Slots w) {g : ℕ} {o : Option ℕ}
    (ho : ∀ t, o = some t → Points w g t) :
    Slots (w.modGreeter g fun r => { r with runTry := o }) :=
  h.modGreeter (f := fun r => { r with runTry := o }) (fun _ => rfl)
    fun _ t _ ht => Or.inr (ho t ht)

theorem Slots.greeterReset {w : World} (h : Slots w) (g : ℕ) : Slots (greeterReset g w) := by
  refine h.modGreeter (f := fun r => SeatGreeter.runReset { r with runGen := r.runGen + 1 })
    (fun _ => rfl) fun r t _ ht => ?_
  cases ht

theorem Slots.greeterAdd {w : World} (h : Slots w) {seat : String}
    (hnew : greeterSearch seat w = none) : Slots (greeterAdd seat w) := by
  have hlt : ∀ {g : ℕ} {s : String}, seatAt w g = some s →
      seatAt (GreeterTable.greeterAdd seat w) g = some s := by
    intro g s hs
    exact (frame_greeterAdd seat w).seats hs
  refine h.congr ⟨hlt, fun ht => ht, fun hholds => ⟨_, hholds.congr rfl rfl, rfl⟩⟩
    (nodup_greeterAdd h.nodup hnew) (fun {g t} ht => Or.inl ?_)
    (fun {t g v} hv hdone hd => Or.inl ⟨v, hv, hdone, hd⟩) (fun he _ _ => Or.inl he)
    fun hcb => Or.inl hcb
  obtain ⟨r, hr, htry⟩ := Option.bind_eq_some_iff.mp ht
  rcases Nat.lt_or_ge g w.greeters.length with hg | hg
  · have hr' : w.greeters[g]? = some r := (List.getElem?_append_left hg).symm.trans hr
    rw [runTryAt_eq hr', htry]
  · have hmem : (w.greeters ++ [⟨seat, 0, none, -1, false⟩])[g]? = some r := hr
    rw [List.getElem?_append_right hg] at hmem
    have hrec := List.mem_singleton.mp (List.mem_of_getElem? hmem)
    rw [hrec] at htry
    cases htry

/-- A listener for a slot that has the record of the process it listens for. -/
theorem Slots.listen {w : World} (h : Slots w) {pid : ℤ} {g : ℕ}
    (hpid : 0 < pid → ∃ t v, Holds w t v ∧ pid = v.childPid ∧ Points w g t) :
    Slots (w.listen pid (.greeterDone g)) := by
  have hkeeps : Keeps w (w.listen pid (.greeterDone g)) := keeps_of_eq rfl rfl rfl
  refine h.congr hkeeps h.nodup (fun ht => Or.inl ht)
    (fun {t g v} hv hdone hd => Or.inl ⟨v, hv, hdone, hd⟩) (fun {e g'} he hh hpos => ?_)
    fun hcb => Or.inl hcb
  rw [World.listen_registry, Registry.live_listen] at he
  rcases List.mem_append.mp he with he | he
  · exact Or.inl he
  · obtain rfl := List.mem_singleton.mp he
    obtain rfl := Handler.greeterDone.inj (Option.some.inj hh)
    obtain ⟨t, v, hholds, heq, hpoints⟩ := hpid hpos
    exact Or.inr ⟨t, v, hholds.congr rfl rfl, heq, hpoints.keeps hkeeps⟩

/-! ### Activations -/

theorem rightRequest_greeterRequest {w : World} {g : ℕ} {r : SeatGreeter}
    (hg : w.greeters[g]? = some r) : RightRequest (greeterRequest g r.seat) w := by
  intro g' hd
  obtain rfl := DoneCb.greeterStartDone.inj hd
  exact ⟨r.seat, seatAt_get hg, rfl⟩

theorem slots_greeterOps (a : Answers) : GreeterOps C a Slots where
  session s h := h.steady (steady_log rfl rfl _)
  add hnone h := h.greeterAdd hnone
  noPipe _ _ h := h.setTry nofun
  forked {w g r} pid hg _ h := by
    have hforks := h.forks (rightRequest_greeterRequest hg)
      ((openTry (greeterRequest g r.seat) w).freePid pid)
    refine hforks.setTry fun t ht => ?_
    obtain rfl := Option.some.inj ht
    have hview := view_forked (greeterRequest g r.seat)
      ((openTry (greeterRequest g r.seat) w).freePid pid) w w.tries.length
    rw [if_pos rfl] at hview
    exact hforks.waiting hview rfl rfl
  failed {w g r} noTty _ hg _ _ _ h := by
    refine ((h.fails noTty (greeterRequest g r.seat)).logCb (g := g) ?_).greeterReset g
    refine ⟨r.seat, seatAt_get (by rw [greeters_tryFailed, hg]), ?_⟩
    rw [trySeat, view_tryFailed, if_pos rfl, Option.bind_some]
    rfl
  returned {w g t tr} ht _ _ hseat hsome h := by
    refine (h.releases t).setTry fun t' ht' => ?_
    obtain rfl := Option.some.inj ht'
    obtain ⟨s, hs⟩ := Option.isSome_iff_exists.mp hsome
    refine ⟨s, ?_, ?_⟩
    · rw [seatAt, greeters_release, ← seatAt, hs]
    · rw [trySeat, view_release, if_pos rfl, view_of_get ht]
      exact hseat.trans hs

theorem Slots.activate {w : World} (h : Slots w) (a : Answers) (seat : String) :
    Slots (greeterActivate C a seat w) := (slots_greeterOps a).activate C seat h

/-! ### The callbacks -/

/-- **Freeing a try** whose callback is still to come: the slot is that of its record. -/
theorem Slots.freed {a : Answers} {w w' : World} (hlife : Life none w) (hpids : Pids none w)
    (h : Slots w) {t : ℕ} {v : TryView} (hv : view w t = some v) (hdone : v.doneCalled = false)
    (hf : Freed C a t w w') : Slots w' := by
  have hcalled := h.calls t
  have hreq : (w.tryAt t).toSpawnRequest = v.req := congrArg TryView.req (view_tryAt hv)
  have hpoints : ∀ {g : ℕ}, (w.tryAt t).done = .greeterStartDone g → Points w g t :=
    fun hd => h.waiting hv hdone (by rw [← hreq, hd])
  have hkeeps : Keeps w (calledBack t w) := by
    refine keeps_of_views (fun {g s} hs => ?_) (scan_calledBack w t) fun {t' v'} hv' => ?_
    · rw [seatAt, greeters_calledBack, ← seatAt, hs]
    · rw [view_calledBack, hv']
      split_ifs
      · exact ⟨_, rfl, ⟨rfl, rfl, Or.inl rfl⟩, rfl⟩
      · exact ⟨v', rfl, SameChild.refl v', rfl⟩
  have hlogged : ∀ {g : ℕ} {r : SeatGreeter}, (w.tryAt t).done = .greeterStartDone g →
      w.greeters[g]? = some r → Slots ((calledBack t w).log (.greeterCb t (some r.seat))) := by
    intro g r hd hg
    have hseat : seatAt (calledBack t w) g = some r.seat :=
      seatAt_get (by rw [greeters_calledBack, hg])
    rw [← hseat]
    exact hcalled.logCb ((hpoints hd).keeps hkeeps)
  cases hf with
  | login c _ => exact (hcalled.steady (steady_sessionDone _ _ _ _ _)).releases t
  | lost g hd hg =>
    obtain ⟨s, hs, -⟩ := hpoints hd
    rw [seatAt, hg] at hs
    cases hs
  | restarted g r hd hg _ =>
    have hseat : seatAt (calledBack t w) g = some r.seat :=
      seatAt_get (by rw [greeters_calledBack, hg])
    unfold greeterStartFailed
    rw [hseat]
    exact (((hlogged hd hg).greeterReset g).activate a r.seat).releases t
  | noTry g r hd hg _ _ =>
    have hstart := (hlogged hd hg).log (o := .startDone t none) fun _ _ ho => by cases ho
    exact (hstart.steady (steady_fault _)).releases t
  | started g r t' hd hg _ htry =>
    have hseat : seatAt (calledBack t w) g = some r.seat :=
      seatAt_get (by rw [greeters_calledBack, hg])
    have hrun : runTryAt w g = some t' := by rw [runTryAt_eq hg, htry]
    obtain ⟨s, hs, hseat'⟩ := h.record hrun
    obtain ⟨v', hv', -⟩ := Option.bind_eq_some_iff.mp hseat'
    have hpid : ((calledBack t w).tryAt t').pid = v'.pid := by
      have hview := view_calledBack t w t'
      rw [hv'] at hview
      split_ifs at hview <;> exact congrArg TryView.pid (view_tryAt hview)
    have hset : ∀ pid, Keeps (calledBack t w) ((((calledBack t w).log (.greeterCb t
        (some r.seat))).log (.startDone t (some t'))).modGreeter g
          fun r => { r with runTry := none, runPid := pid }) :=
      fun pid => keeps_of_eq (seats_modGreeter
        (f := fun r => { r with runTry := none, runPid := pid }) (fun _ => rfl) g _) rfl rfl
    unfold greeterStarted
    dsimp only
    rw [hseat]
    refine Slots.releases ?_ t
    have hunset := (((hlogged hd hg).log (o := .startDone t (some t'))
      fun _ _ ho => by cases ho).modGreeter
      (f := fun r => { r with runTry := none, runPid := ((calledBack t w).tryAt t').pid })
      (g := g) (fun _ => rfl) fun _ _ _ ht => by cases ht)
    refine hunset.listen fun hpos => ?_
    have hpos' : 0 < v'.pid := hpid ▸ hpos
    obtain ⟨hholds, hchild⟩ := hpids.holds_of_pos hlife hv' hpos'
    obtain ⟨v'', hholds', hsame⟩ := (hkeeps.trans (hset _)).holds hholds
    refine ⟨t', v'', hholds', ?_, Points.keeps (hkeeps.trans (hset _)) ⟨s, hs, hseat'⟩⟩
    rw [hsame, ← hchild, ← hpid]
    rfl

theorem Slots.clientData {a : Answers} {c fd : ℕ} {w w' : World} (h : Slots w)
    (hdoes : ClientData C a c fd w w') : Slots w' := by
  have hlogin : ∀ l : Login, RightRequest (loginRequest a c fd l w) w :=
    fun l g hd => by cases hd
  induction hdoes with
  | closed _ => exact h.steady ((steady_unregisterFd _ _).trans (steady_clientFree _ _))
  | dropped _ => exact h.steady (steady_clientFree _ _)
  | replied msg => exact h.steady (steady_log rfl rfl _)
  | activated _ session seat =>
    exact h.steady (((steady_sessionActivate _ _).trans (steady_sendMessage _ _ _ _ _ _)).trans
      ((steady_greeterLockout _ _).trans (steady_clientGoodbye _ _ _)))
  | noLogin => exact h.steady (steady_fault _)
  | noPipe _ => exact h.steady ((steady_modClient _ _ _).trans (steady_sendMessage _ _ _ _ _ _))
  | loginForked _ _ l pid => exact (h.forks (hlogin l) _).steady (steady_modClient _ _ _)
  | loginFailed _ l noTty _ _ _ =>
    have hfailed := h.fails (C := C) noTty (loginRequest a c fd l w)
    have hdone := hfailed.steady (steady_sessionDone a w.tries.length c ⟨.error, none⟩ _)
    exact (hdone.releases _).steady (steady_modClient _ _ _)
  | started _ m _ _ _ => exact (h.activate a _).steady (steady_clientGoodbye _ _ _)
  | ignored => exact h
  | fallback w' _ ih => exact ih.steady (steady_fault _)

theorem Slots.childData {a : Answers} {t fd : ℕ} {w w' : World} (hlife : Life none w)
    (hpids : Pids none w) (h : Slots w) {v : TryView} (hv : view w t = some v)
    (hdone : v.doneCalled = false) (hdoes : ChildData C a t fd w w') : Slots w' := by
  rcases steady_childData hdoes with hs | hfree
  · exact h.steady hs
  · have hset := steady_setSuccess t w
    exact Slots.freed (hlife.aside hset.toAside) (hpids.aside hset.toAside) (h.steady hset)
      (by rw [hset.views, hv]) hdone hfree

/-! ### Deleting a record -/

def DoneCb.slot : DoneCb → Option ℕ
  | .greeterStartDone g => some g
  | .sessionDone _ => none

def Handler.slot : Handler → Option ℕ
  | .greeterDone g => some g
  | .spawnedSessionDisappear _ => none

/-- The slots that are the data of callbacks still to come: of the tries in flight, and of the
listeners for processes. -/
def slotsInUse (w : World) : List ℕ :=
  (w.tries.filterMap fun tr => if tr.doneCalled then none else DoneCb.slot tr.done) ++
    w.registry.live.filterMap fun l => if 0 < l.pid then l.handler.bind Handler.slot else none

theorem mem_slotsInUse_try {w : World} {t g : ℕ} {v : TryView} (hv : view w t = some v)
    (hdone : v.doneCalled = false) (hd : v.req.done = .greeterStartDone g) : g ∈ slotsInUse w := by
  obtain ⟨tr, htr, rfl⟩ := view_eq_some.mp hv
  refine List.mem_append_left _ (List.mem_filterMap.mpr ⟨tr, List.mem_of_getElem? htr, ?_⟩)
  have hdone' : tr.doneCalled = false := hdone
  have hd' : tr.done = .greeterStartDone g := hd
  simp [hdone', hd', DoneCb.slot]

theorem mem_slotsInUse_listener {w : World} {e : Waiting Handler} {g : ℕ}
    (he : e ∈ w.registry.live) (hh : e.handler = some (.greeterDone g)) (hpid : 0 < e.pid) :
    g ∈ slotsInUse w := by
  refine List.mem_append_right _ (List.mem_filterMap.mpr ⟨e, he, ?_⟩)
  simp [hpid, hh, Handler.slot]

/-- **A record is deleted** that has no slot in use behind it, nor is its own in use. -/
theorem Slots.greeterDel {w : World} (h : Slots w) {g : ℕ} {r : SeatGreeter}
    (hg : w.greeters[g]? = some r) (hlast : ∀ g' ∈ slotsInUse w, g' < g) :
    Slots (greeterDel r.seat w) := by
  have hgreeters := greeters_greeterDel h.nodup hg
  have hseat : ∀ {g' : ℕ}, g' < g → seatAt (GreeterTable.greeterDel r.seat w) g' = seatAt w g' := by
    intro g' hlt
    rw [seatAt, getElem?_greeterDel h.nodup hg hlt, seatAt]
  -- the record in a slot is the old one, or that of the slot behind it
  have hmoved : ∀ g' : ℕ, ∃ g₀ : ℕ,
      (GreeterTable.greeterDel r.seat w).greeters[g']? = w.greeters[g₀]? := by
    intro g'
    rw [hgreeters, List.getElem?_eraseIdx]
    split_ifs
    · exact ⟨g', rfl⟩
    · exact ⟨g' + 1, rfl⟩
  have hpoints : ∀ {g' t}, g' < g → Points w g' t →
      Points (GreeterTable.greeterDel r.seat w) g' t := by
    rintro g' t hlt ⟨s, hs, ht⟩
    exact ⟨s, by rw [hseat hlt, hs], ht⟩
  refine ⟨nodup_greeterDel h.nodup hg, fun {g' t} ht => ?_, fun {t g' v} hv hdone hd => ?_,
    fun {e g'} he hh hpid => ?_, h.right⟩
  · obtain ⟨g₀, hg₀⟩ := hmoved g'
    rw [runTryAt, hg₀] at ht
    obtain ⟨s, hs, hts⟩ := h.record ht
    exact ⟨s, by rw [seatAt, hg₀, ← seatAt, hs], hts⟩
  · exact hpoints (hlast g' (mem_slotsInUse_try hv hdone hd)) (h.waiting hv hdone hd)
  · obtain ⟨t, v, hholds, heq, hp⟩ := h.listener he hh hpid
    exact ⟨t, v, hholds.congr rfl rfl, heq, hpoints (hlast g' (mem_slotsInUse_listener he hh hpid)) hp⟩

/-- The number of the child that `spawnregistery_eval` has reaped. -/
def reapedPid (w : World) : ℤ := ((w.scan.map fun s => (w.tryAt s.1).childPid).getD 0 : ℕ)

/-- If the step deletes the record in slot `g`, then all other callbacks still to come have slots in
front of `g`. -/
def deletesUnused (w : World) (e : Event) : Bool :=
  (deletedSlot w e).all fun g =>
    (slotsInUse (w.unlisten (reapedPid w) (.greeterDone g))).all fun g' => decide (g' < g)

/-! ### The steps -/

/-- The child of the try `t` is reaped, and the scan begins. -/
theorem Slots.reaps {w : World} (h : Slots w) (hscan : w.scan = none) (t : ℕ) : Slots
    (scanTo t 0 (w.modTry t fun tr => { tr with exited := true, reaped := true })) := by
  have hview := view_reap t w
  have hkeeps : Keeps w
      (scanTo t 0 (w.modTry t fun tr => { tr with exited := true, reaped := true })) := by
    refine ⟨id, fun {t' s} hs => ?_, fun {t' v} hholds => ?_⟩
    · obtain ⟨v, hv, hseat⟩ := Option.bind_eq_some_iff.mp hs
      rw [trySeat, hview, hv]
      split_ifs <;> exact hseat
    · have hunreaped := hholds.held.resolve_right (by simp [hscan])
      by_cases ht : t = t'
      · subst ht
        exact ⟨{ v with reaped := true }, ⟨by rw [hview, if_pos rfl, hholds.view_eq, Option.map_some],
          hholds.child, Or.inr ⟨0, rfl⟩⟩, rfl⟩
      · exact ⟨v, ⟨by rw [hview, if_neg ht, hholds.view_eq], hholds.child, Or.inl hunreaped⟩, rfl⟩
  refine h.congr hkeeps h.nodup Or.inl (fun {t' g v'} hv' hdone hd => Or.inl ?_)
    (fun he _ _ => Or.inl he) Or.inl
  rw [hview] at hv'
  split_ifs at hv' with ht
  · obtain ⟨v, hv, rfl⟩ := Option.map_eq_some_iff.mp hv'
    exact ⟨v, hv, hdone, hd⟩
  · exact ⟨v', hv', hdone, hd⟩

/-- At the end of the scan nobody listens for the process that was reaped. -/
theorem Slots.scanEnd {w : World} (hpids : Pids none w) (h : Slots w) {t i : ℕ}
    (hscan : w.scan = some (t, i)) (hend : w.registry.pending[i]? = none) :
    Slots { w with scan := none } := by
  refine ⟨h.nodup, h.record, h.waiting, fun {e g} he hh hpid => ?_, h.right⟩
  obtain ⟨t', v, hholds, heq, hpoints⟩ := h.listener he hh hpid
  refine ⟨t', v, ⟨hholds.view_eq, hholds.child, Or.inl ?_⟩, heq, hpoints⟩
  refine hholds.held.resolve_right ?_
  rintro ⟨i', hi'⟩
  rw [hscan] at hi'
  obtain ⟨rfl, rfl⟩ := Prod.mk.inj (Option.some.inj hi')
  exact hpids.dead_of_scanned hscan hend hholds.view_eq he heq

/-- A listener that is visited has the slot of the record of the process that was reaped. -/
theorem Slots.points_of_visited {w : World} (hpids : Pids none w) (h : Slots w) {t i g : ℕ} {pid : ℤ}
    (hscan : w.scan = some (t, i)) (he : w.registry.pending[i]? = some ⟨pid, some (.greeterDone g)⟩)
    (hpid : pid = (w.tryAt t).childPid) : Points w g t := by
  obtain ⟨-, -, v, hv, hchild, -⟩ := hpids.scanned hscan
  rw [show (w.tryAt t).childPid = v.childPid from congrArg TryView.childPid (view_tryAt hv)] at hpid
  have hlive : ⟨pid, some (.greeterDone g)⟩ ∈ w.registry.live :=
    Registry.mem_live.mpr ⟨List.mem_of_getElem? he, rfl⟩
  obtain ⟨t', v', hholds, heq, hpoints⟩ := h.listener hlive rfl (by dsimp only; omega)
  have hsame : v.childPid = v'.childPid := by
    have : (v.childPid : ℤ) = v'.childPid := hpid.symm.trans heq
    omega
  rwa [hpids.unique ⟨hv, hchild, Or.inr ⟨i, hscan⟩⟩ hholds hsame]

/-- The listener of a greeter that is visited is called and removed. -/
theorem Slots.visited {a : Answers} {w w' : World} (hlife : Life none w) (hpids : Pids none w)
    (h : Slots w) (hunused : deletesUnused w (.visit a) = true) {t i : ℕ} {pid : ℤ} {hd : Handler}
    (hscan : w.scan = some (t, i)) (he : w.registry.pending[i]? = some ⟨pid, some hd⟩)
    (hpid : pid = (w.tryAt t).childPid) (hcalled : Called C a t w hd w') :
    Slots (w'.unlisten pid hd) := by
  have hlogged : ∀ {g : ℕ} {r : SeatGreeter}, w.registry.pending[i]? =
      some ⟨pid, some (.greeterDone g)⟩ → w.greeters[g]? = some r →
        Slots (w.log (.greeterCb t (some r.seat))) := by
    intro g r he hg
    rw [← seatAt_get hg]
    exact h.logCb (h.points_of_visited hpids hscan he hpid)
  cases hcalled with
  | disappeared t' w' hfree =>
    obtain ⟨v, hv, hdone⟩ := hlife.pending_of_handler he t' rfl
    exact (h.freed hlife hpids hv hdone hfree).unlisten _ _
  | lost g hg =>
    obtain ⟨s, hs, -⟩ := h.points_of_visited hpids hscan he hpid
    rw [seatAt, hg] at hs
    cases hs
  | ended g r hg hend =>
    have hreaped : reapedPid w = pid := by rw [reapedPid, hscan, hpid]; rfl
    have hlast : ∀ g' ∈ slotsInUse (w.unlisten pid (.greeterDone g)), g' < g := by
      rw [deletesUnused, deletedSlot_eq hscan he hpid hg hend, hreaped] at hunused
      exact fun g' hg' => of_decide_eq_true (List.all_eq_true.mp hunused g' hg')
    exact ((hlogged he hg).unlisten pid (.greeterDone g)).greeterDel hg hlast
  | restarted g r hg _ =>
    exact (((hlogged he hg).greeterReset g).activate a r.seat).unlisten _ _

/-- **Every step that deletes no record in front of a slot in use keeps the slots.** -/
theorem slots_step {w : World} {e : Event} (hlife : Life none w) (hpids : Pids none w) (h : Slots w)
    (hunused : deletesUnused w e = true) : Slots (step C w e) := by
  have hdoes := step_does C w e
  generalize step C w e = w' at hdoes
  have hnext : ∀ {w' : World} {t i : ℕ}, w'.scan = some (t, i) → Slots w' →
      Slots (scanTo t (i + 1) w') := by
    intro w' t i hscan hslots
    refine hslots.congr ⟨id, id, fun hholds => ⟨_, (holds_scanNext hscan).mpr hholds, rfl⟩⟩
      hslots.nodup Or.inl (fun {t g v} hv hdone hd => Or.inl ⟨v, hv, hdone, hd⟩)
      (fun he _ _ => Or.inl he) Or.inl
  cases hdoes with
  | idle _ => exact h
  | select _ _ _ _ =>
    exact h.steady (steady_fds fun r hr _ _ => FdTable.live_selectReturns_subset _ _ _ r hr)
  | endPass _ _ =>
    refine h.steady (steady_fds fun r hr _ _ => ?_)
    rwa [FdTable.live_endPass] at hr
  | pass _ _ => exact h.steady (steady_advance w)
  | accept a _ => exact h.steady ((steady_advance w).trans (steady_acceptReady a _))
  | client a c fd w' _ _ hdoes => exact (h.steady (steady_advance w)).clientData hdoes
  | child a t fd w' _ hready hdoes =>
    obtain ⟨v, hv, hdone, -⟩ := hlife.read (ready_mem_live hready) rfl
    have hadvance := steady_advance w
    exact Slots.childData (hlife.aside hadvance.toAside) (hpids.aside hadvance.toAside)
      (h.steady hadvance) (v := v) hv hdone hdoes
  | sigchld _ =>
    exact h.congr (keeps_of_eq rfl rfl rfl) h.nodup Or.inl
      (fun {t g v} hv hdone hd => Or.inl ⟨v, hv, hdone, hd⟩) (fun he _ _ => Or.inl he) Or.inl
  | reap t _ _ _ _ _ hscan => exact h.reaps hscan t
  | scanEnd a t i hscan hend => exact h.scanEnd hpids hscan hend
  | scanPass a t i e hscan he hpid => exact hnext hscan h
  | scanZeroed a t i e hscan he hzero => exact hnext hscan (h.steady (steady_fault w))
  | visit a t i pid hd w' hscan he hpid hcalled =>
    have hplaced : Placed t i ⟨pid, some hd⟩ w := ⟨hscan, hlife.scanning _ hscan, Or.inl he⟩
    have hplaced' := (tryOps_placed t i ⟨pid, some hd⟩).called hplaced
      (hlife.pending_of_handler he) hcalled
    exact hnext hplaced'.scan (h.visited hlife hpids hunused hscan he hpid hcalled)
  | sigchldReturn _ =>
    have hlive : Registry.live { pending := cleanup w.registry.pending, evalMode := false } =
        w.registry.live := Registry.live_cleanup w.registry false
    refine h.congr (keeps_of_eq rfl rfl rfl) h.nodup Or.inl
      (fun {t g v} hv hdone hd => Or.inl ⟨v, hv, hdone, hd⟩) (fun he _ _ => Or.inl ?_) Or.inl
    rwa [← hlive]
  | childWrite t m _ =>
    refine h.steady (steady_modTry ?_ t w)
    exact fun _ => rfl
  | childHangUp t _ =>
    refine h.steady (steady_modTry ?_ t w)
    exact fun _ => rfl
  | childExit t _ =>
    refine h.steady (steady_modTry ?_ t w)
    exact fun _ => rfl

/-! ### Runs -/

/-- Every callback of a greeter so far has found the record of the seat that its process was started
for. -/
def RightRecords (w : World) : Prop := ∀ t found, .greeterCb t found ∈ w.trace →
  ∃ s, (w.tryAt t).settings.sessionSeat = some s ∧ found = some s

theorem rightRecords_of_slots {w : World} (h : Slots w) : RightRecords w := by
  intro t found hcb
  obtain ⟨s, hs, ht⟩ := h.right hcb
  obtain ⟨v, hv, hseat⟩ := Option.bind_eq_some_iff.mp ht
  have hreq : (w.tryAt t).toSpawnRequest = v.req := congrArg TryView.req (view_tryAt hv)
  exact ⟨s, by rw [hreq, hseat], hs⟩

theorem slots_start (debug : Bool) (templates : List Template) :
    Slots (World.start debug templates) where
  nodup := List.nodup_nil
  record ht := by simp [runTryAt, World.start] at ht
  waiting hv := by simp [view, World.start] at hv
  listener he := absurd (Registry.mem_live.mp he).1 List.not_mem_nil
  right hcb := absurd hcb List.not_mem_nil

/-- Logind with two seats: the process 60 and the greeter 101 sit at seat1, the greeter 100 at
seat0. -/
def twoSeats : SdLogin :=
  { SdLogin.empty with
    pidSession := fun pid =>
      if pid = 60 ∨ pid = 101 then some "s1" else if pid = 100 then some "s0" else none
    sessionSeat := fun s => if s = "s1" then some "seat1" else some "seat0"
    vt := fun _ => ⟨0, some 1⟩
    desktop := fun _ => ⟨0, some (some "shell")⟩
    type := fun _ => ⟨0, some (some "tty")⟩ }

/-- A greeter is started for seat0 and one for seat1. -/
def twoGreeters : List Event :=
  greeterStarts ++ turn [3] { Answers.plain with peer := some 60 } ++
    turn [4] { Answers.plain with sd := twoSeats, input := .msg ⟨.greeterStart, none, none⟩ }

/-- The greeter of the try `t` has a session, locks out its seat and ends. -/
def lockedOut (t : ℕ) : List Event :=
  .childWrite t .sessionActive :: turn [5 + t] Answers.plain ++
    turn [3] { Answers.plain with peer := some (100 + t) } ++
    turn [4] { Answers.plain with
      sd := twoSeats, input := .msg ⟨.sessionActivation, none, some "s1"⟩ } ++
    [.sigchld, .reap t] ++ List.replicate 3 (.visit Answers.plain)

/-- The child of the try `t` ends during the same walk. -/
def endsToo (t : ℕ) : List Event := .reap t :: List.replicate 3 (.visit Answers.plain)

end Spawny.Daemon.GreeterSlots
