import Spawny.Daemon.TryLife

/-! # The fields that name a try

A `Client` has the field `try` and a `Seat_Greeter` the field `run.try`. They are set from the value of
`spawnservice_spawn` and reset by the done callback. `Fields` says that they name the tries in
flight; the try that is being freed is its parameter.

* `Fields.freed`, `Fields.clientData`: the callbacks keep `Fields`, if no spawn fails at once;
* `named_of_works`: **if no spawn fails at once and no record is deleted in front of one with a try,
  the fields name exactly the tries in flight**;
* `login_refused_forever`: a login that fails at once leaves the address of a freed try behind, and
  the next login is refused. -/

namespace Spawny.Daemon.TryFields

open Spawny.Lib.Wire Spawny.Lib.Descriptors Spawny.Lib.Runs Spawny.Protocol Spawny.Protocol.Messages
open Spawny.Daemon.Manager Spawny.Daemon.SpawnRegistry
open Spawny.Daemon.SessionMgt Spawny.Daemon.State Spawny.Daemon.SpawnService
open Spawny.Daemon.GreeterTable Spawny.Daemon.Client Spawny.Daemon.Greeter Spawny.Daemon.Activations
open Spawny.Daemon.Server Spawny.Daemon.Loop Spawny.Daemon.Steps Spawny.Daemon.TryViews
open Spawny.Daemon.TryRule Spawny.Daemon.SafeCalls Spawny.Daemon.TryLife

variable {C : FieldCode SpawnField}

/-! ### The invariant -/

/-- The try `t` has the callback `d`, and is in flight or being freed. -/
def Pending (x : Option ℕ) (w : World) (t : ℕ) (d : DoneCb) : Prop :=
  ∃ v, view w t = some v ∧ (v.doneCalled = false ∨ x = some t) ∧ v.req.done = d

/-- The seats of the records with their `run.try`, by slot. -/
def owners (w : World) : List (String × Option ℕ) := w.greeters.map fun r => (r.seat, r.runTry)

/-- **The invariant of the fields.** `x` is the try that is being freed, if there is one. -/
structure Fields (x : Option ℕ) (w : World) : Prop where
  client : ∀ c t, (w.clientAt c).spawnTry = some t ↔ Pending x w t (.sessionDone c)
  record : ∀ {g : ℕ} {s : String} {t : ℕ}, (owners w)[g]? = some (s, some t) →
    Pending x w t (.greeterStartDone g)
  seat : ∀ {g : ℕ} {s : String} {t : ℕ}, (owners w)[g]? = some (s, some t) →
    ∃ v, view w t = some v ∧ v.req.settings.sessionSeat = some s
  nodup : (seats w).Nodup
  entry : ∀ {r c}, r ∈ w.fds.live → r.cb = some (.clientData c) → c < w.clients.length

theorem seats_eq_owners (w : World) : seats w = (owners w).map Prod.fst := by
  rw [owners, List.map_map]
  rfl

theorem owners_get {w : World} {g : ℕ} {r : SeatGreeter} (hg : w.greeters[g]? = some r) :
    (owners w)[g]? = some (r.seat, r.runTry) := by rw [owners, List.getElem?_map, hg, Option.map_some]

/-- Nothing has changed that the fields depend on. -/
structure Same (w w' : World) : Prop where
  clients : ∀ c, (w'.clientAt c).spawnTry = (w.clientAt c).spawnTry
  length : w.clients.length = w'.clients.length
  views : view w' = view w
  owners : owners w' = owners w
  fds : ∀ r ∈ w'.fds.live, ∀ c, r.cb = some (.clientData c) → r ∈ w.fds.live

theorem Fields.same {x : Option ℕ} {w w' : World} (h : Fields x w) (hs : Same w w') : Fields x w' where
  client c t := by
    rw [hs.clients, h.client]
    unfold Pending
    rw [hs.views]
  record hg := by
    rw [hs.owners] at hg
    unfold Pending
    rw [hs.views]
    exact h.record hg
  seat hg := by
    rw [hs.owners] at hg
    rw [hs.views]
    exact h.seat hg
  nodup := by
    rw [seats_eq_owners, hs.owners, ← seats_eq_owners]
    exact h.nodup
  entry hr hcb := hs.length ▸ h.entry (hs.fds _ hr _ hcb) hcb

theorem Same.refl (w : World) : Same w w := ⟨fun _ => rfl, rfl, rfl, rfl, fun _ hr _ _ => hr⟩

theorem Same.trans {w w' w'' : World} (h : Same w w') (h' : Same w' w'') : Same w w'' :=
  ⟨fun c => (h'.clients c).trans (h.clients c), h.length.trans h'.length, h'.views.trans h.views,
    h'.owners.trans h.owners, fun r hr c hcb => h.fds r (h'.fds r hr c hcb) c hcb⟩

/-- Only the clients, the tries, the records and the descriptor table matter. -/
theorem same_of_eq {w w' : World} (hclients : w'.clients = w.clients) (htries : w'.tries = w.tries)
    (hgreeters : w'.greeters = w.greeters) (hfds : w'.fds = w.fds) : Same w w' :=
  ⟨fun c => by rw [World.clientAt_congr hclients], by rw [hclients], view_congr htries,
    by rw [owners, hgreeters, owners], fun r hr _ _ => hfds ▸ hr⟩

theorem same_log (o : Obs) (w : World) : Same w (w.log o) := same_of_eq rfl rfl rfl rfl

theorem same_fault (w : World) : Same w w.fault := same_of_eq rfl rfl rfl rfl

theorem same_modTry {f : SpawnTry → SpawnTry} (hf : ∀ tr, SpawnTry.view (f tr) = SpawnTry.view tr)
    (t : ℕ) (w : World) : Same w (w.modTry t f) :=
  ⟨fun _ => rfl, rfl, view_modTry_same hf t w, rfl, fun _ hr _ _ => hr⟩

theorem same_fds {w : World} {m : FdTable FdCb} (h : ∀ r ∈ m.live, r ∈ w.fds.live) :
    Same w { w with fds := m } := ⟨fun _ => rfl, rfl, rfl, rfl, fun r hr _ _ => h r hr⟩

theorem same_unregisterFd (fd : ℕ) (w : World) : Same w (w.unregisterFd fd) :=
  same_fds fun _ hr => (FdTable.mem_live_unregisterFd.mp hr).1

theorem same_modGreeter {f : SeatGreeter → SeatGreeter}
    (hf : ∀ r, (f r).seat = r.seat ∧ (f r).runTry = r.runTry) (g : ℕ) (w : World) :
    Same w (w.modGreeter g f) := by
  refine ⟨fun _ => rfl, rfl, rfl, List.ext_getElem? fun i => ?_, fun _ hr _ _ => hr⟩
  rw [owners, List.getElem?_map, World.getElem?_modGreeter, Option.map_map, owners,
    List.getElem?_map]
  refine congrArg (fun k => (w.greeters[i]?).map k) (funext fun r => ?_)
  dsimp only [Function.comp_apply]
  split_ifs
  · exact Prod.ext (hf r).1 (hf r).2
  · rfl

theorem same_greeterLockout (seat : Option String) (w : World) : Same w (greeterLockout seat w) := by
  unfold greeterLockout
  rcases seat with _ | s
  · dsimp only
    split_ifs
    · exact Same.refl w
    · exact same_fault w
  · dsimp only
    cases greeterSearch s w with
    | none => exact Same.refl w
    | some g =>
      refine (same_modGreeter ?_ g w).trans (same_log _ _)
      exact fun _ => ⟨rfl, rfl⟩

theorem same_sessionActivate (session : Option String) (w : World) :
    Same w (sessionActivate session w) := by
  cases session with
  | none => exact Same.refl w
  | some s => exact same_log _ w

theorem same_forceQuit (t : ℕ) (w : World) : Same w (forceQuit t w) := by
  unfold forceQuit
  split_ifs
  · exact same_log _ w
  · exact Same.refl w

theorem same_clientFree (c : ℕ) (w : World) : Same w (clientFree c w) := by
  have hclients : (clientFree c w).clients =
      w.clients.modify c fun cl => { cl with freed := true } := rfl
  refine ⟨fun c' => ?_, by rw [hclients, List.length_modify], rfl, rfl,
    fun r hr _ _ => (FdTable.mem_live_unregisterFd.mp hr).1⟩
  unfold World.clientAt
  rw [hclients, List.getElem?_modify]
  rcases w.clients[c']? with _ | cl
  · rfl
  · by_cases hc : c = c' <;> simp [hc]

theorem same_clientGoodbye (why : Sender) (c : ℕ) (w : World) : Same w (clientGoodbye why c w) :=
  (same_log _ w).trans (same_clientFree c _)

/-! ### The operations on tries -/

theorem pending_calledBack {w : World} {t : ℕ} {v : TryView} (hv : view w t = some v)
    (hdone : v.doneCalled = false) {t' : ℕ} {d : DoneCb} :
    Pending (some t) (calledBack t w) t' d ↔ Pending none w t' d := by
  unfold Pending
  rw [view_calledBack]
  by_cases ht : t = t'
  · subst ht
    rw [if_pos rfl, hv]
    constructor
    · rintro ⟨v', hv', -, hd⟩
      obtain rfl := Option.some.inj hv'
      exact ⟨v, rfl, Or.inl hdone, hd⟩
    · rintro ⟨v', hv', -, hd⟩
      obtain rfl := Option.some.inj hv'
      exact ⟨_, rfl, Or.inr rfl, hd⟩
  · rw [if_neg ht]
    refine exists_congr fun v' => and_congr_right fun _ => and_congr_left fun _ => ?_
    simp [ht]

/-- The callback of a try in flight is called. -/
theorem Fields.calledBack {w : World} (h : Fields none w) {t : ℕ} {v : TryView}
    (hv : view w t = some v) (hdone : v.doneCalled = false) :
    Fields (some t) (calledBack t w) where
  client c t' := by
    rw [World.clientAt_congr (clients_calledBack w t), h.client, pending_calledBack hv hdone]
  record hg := by
    rw [owners, greeters_calledBack] at hg
    exact (pending_calledBack hv hdone).mpr (h.record hg)
  seat {g s t'} hg := by
    rw [owners, greeters_calledBack] at hg
    obtain ⟨v', hv', hs⟩ := h.seat hg
    rw [view_calledBack, hv']
    split_ifs
    · exact ⟨_, rfl, hs⟩
    · exact ⟨_, rfl, hs⟩
  nodup := by
    rw [seats, greeters_calledBack]
    exact h.nodup
  entry hr hcb := by
    rw [live_calledBack hv] at hr
    rw [clients_calledBack]
    exact h.entry (List.mem_filter.mp hr).1 hcb

/-- One view changes, but not in what the fields depend on. -/
theorem Fields.reviewed {x : Option ℕ} {w w' : World} (h : Fields x w) {t : ℕ}
    {f : TryView → TryView} (hf : ∀ v, (f v).req = v.req ∧ (f v).doneCalled = v.doneCalled)
    (hviews : ∀ t', view w' t' = if t = t' then (view w t').map f else view w t')
    (hclients : w'.clients = w.clients) (hgreeters : w'.greeters = w.greeters)
    (hfds : w'.fds = w.fds) : Fields x w' := by
  have hpending : ∀ t' d, Pending x w' t' d ↔ Pending x w t' d := by
    intro t' d
    unfold Pending
    rw [hviews]
    split_ifs with ht
    · constructor
      · rintro ⟨v', hv', hd, hdone⟩
        obtain ⟨v, hv, rfl⟩ := Option.map_eq_some_iff.mp hv'
        obtain ⟨hreq, hdc⟩ := hf v
        exact ⟨v, hv, hdc ▸ hd, hreq ▸ hdone⟩
      · rintro ⟨v, hv, hd, hdone⟩
        obtain ⟨hreq, hdc⟩ := hf v
        exact ⟨f v, by rw [hv, Option.map_some], by rwa [hdc], by rwa [hreq]⟩
    · exact Iff.rfl
  refine ⟨fun c t' => ?_, fun hg => ?_, fun {g s t'} hg => ?_, ?_, ?_⟩
  · rw [World.clientAt_congr hclients, h.client, hpending]
  · rw [owners, hgreeters] at hg
    exact (hpending _ _).mpr (h.record hg)
  · rw [owners, hgreeters] at hg
    obtain ⟨v, hv, hs⟩ := h.seat hg
    rw [hviews, hv]
    split_ifs
    · exact ⟨_, rfl, by rwa [(hf v).1]⟩
    · exact ⟨v, rfl, hs⟩
  · rw [seats, hgreeters]
    exact h.nodup
  · rw [hfds, hclients]
    exact h.entry

theorem Fields.release {x : Option ℕ} {w : World} (h : Fields x w) (t : ℕ) :
    Fields x (release t w) := by
  refine h.reviewed (f := fun v => { v with pid := -1, freed := true }) ?_ (view_release t w)
    (clients_release w t) (greeters_release w t) (fds_release w t)
  exact fun _ => ⟨rfl, rfl⟩

/-- When no field names the try that is being freed, it is settled. -/
theorem Fields.settle {w : World} {t : ℕ} (h : Fields (some t) w) {v : TryView}
    (hv : view w t = some v) (hdone : v.doneCalled = true)
    (hclient : ∀ c, (w.clientAt c).spawnTry ≠ some t)
    (hrecord : ∀ (g : ℕ) (s : String), (owners w)[g]? ≠ some (s, some t)) : Fields none w := by
  have hne : ∀ {t' d}, t' ≠ t → (Pending (some t) w t' d ↔ Pending none w t' d) := by
    intro t' d ht
    refine exists_congr fun v' => and_congr_right fun _ => and_congr_left fun _ => ?_
    simp [Ne.symm ht]
  refine ⟨fun c t' => ?_, fun {g s t'} hg => ?_, h.seat, h.nodup, h.entry⟩
  · by_cases ht : t' = t
    · subst ht
      refine iff_of_false (hclient c) ?_
      rintro ⟨v', hv', hd | hd, -⟩
      · rw [hv] at hv'
        rw [← Option.some.inj hv', hdone] at hd
        cases hd
      · cases hd
    · rw [h.client, hne ht]
  · have ht : t' ≠ t := by
      rintro rfl
      exact hrecord g s hg
    exact (hne ht).mp (h.record hg)

/-! ### Setting and resetting the fields -/

theorem clientAt_setTry {w : World} {c : ℕ} (hc : c < w.clients.length) (s : Option ℕ) (c' : ℕ) :
    ((w.modClient c fun cl => { cl with spawnTry := s }).clientAt c').spawnTry =
      if c = c' then s else (w.clientAt c').spawnTry := by
  unfold World.clientAt
  rw [World.getElem?_modClient]
  by_cases hcc : c = c'
  · subst hcc
    rw [List.getElem?_eq_getElem hc]
    simp
  · simp [hcc]

theorem clientAt_lt {w : World} {c t : ℕ} (h : (w.clientAt c).spawnTry = some t) :
    c < w.clients.length := by
  by_contra hc
  rw [World.clientAt, List.getElem?_eq_none (Nat.not_lt.mp hc)] at h
  cases h

/-- `_session_done` resets the field of its client, which named the try. -/
theorem Fields.resetClient {w : World} {t c : ℕ} (h : Fields (some t) w) {v : TryView}
    (hv : view w t = some v) (hdone : v.doneCalled = true) (hc : v.req.done = .sessionDone c) :
    Fields none (w.modClient c fun cl => { cl with spawnTry := none }) := by
  have hset : (w.clientAt c).spawnTry = some t := (h.client c t).mpr ⟨v, hv, Or.inr rfl, hc⟩
  have hget := clientAt_setTry (clientAt_lt hset) (none : Option ℕ)
  have hother : ∀ {t' d}, Pending none w t' d → t' ≠ t ∧ Pending (some t) w t' d := by
    rintro t' d ⟨v', hv', hd | hd, hdone'⟩
    · refine ⟨?_, v', hv', Or.inl hd, hdone'⟩
      rintro rfl
      rw [hv] at hv'
      rw [← Option.some.inj hv', hdone] at hd
      cases hd
    · cases hd
  have hback : ∀ {t' d}, t' ≠ t → Pending (some t) w t' d → Pending none w t' d := by
    rintro t' d ht ⟨v', hv', hd | hd, hdone'⟩
    · exact ⟨v', hv', Or.inl hd, hdone'⟩
    · exact absurd (Option.some.inj hd).symm ht
  refine ⟨fun c' t' => ?_, fun {g s t'} hg => ?_, h.seat, h.nodup, fun hr hcb => ?_⟩
  · rw [hget]
    split_ifs with hcc
    · subst hcc
      refine iff_of_false nofun fun hp => ?_
      obtain ⟨hne, hp⟩ := hother hp
      have h' := (h.client c t').mpr hp
      rw [hset] at h'
      exact hne (Option.some.inj h').symm
    · rw [h.client]
      constructor
      · intro hp
        refine hback ?_ hp
        rintro rfl
        obtain ⟨v', hv', -, hc'⟩ := hp
        rw [hv] at hv'
        rw [← Option.some.inj hv', hc] at hc'
        exact hcc (DoneCb.sessionDone.inj hc')
      · exact fun hp => (hother hp).2
  · have hp := h.record hg
    refine hback ?_ hp
    rintro rfl
    obtain ⟨v', hv', -, hg'⟩ := hp
    rw [hv] at hv'
    rw [← Option.some.inj hv', hc] at hg'
    cases hg'
  · have hlt := h.entry hr hcb
    rwa [World.modClient_clients, List.length_modify]

theorem owners_modGreeter {f : SeatGreeter → SeatGreeter} {s : Option ℕ}
    (hf : ∀ r, (f r).seat = r.seat ∧ (f r).runTry = s) (g : ℕ) (w : World) (g' : ℕ) :
    (owners (w.modGreeter g f))[g']? =
      ((owners w)[g']?).map fun o => if g = g' then (o.1, s) else o := by
  rw [owners, List.getElem?_map, World.getElem?_modGreeter, Option.map_map, owners,
    List.getElem?_map, Option.map_map]
  refine congrArg (fun k => (w.greeters[g']?).map k) (funext fun r => ?_)
  dsimp only [Function.comp_apply]
  split_ifs with hg
  · exact Prod.ext (hf r).1 (hf r).2
  · rfl

/-- The field of a record is reset. -/
theorem Fields.unset {x : Option ℕ} {w : World} (h : Fields x w) {f : SeatGreeter → SeatGreeter}
    (hf : ∀ r, (f r).seat = r.seat ∧ (f r).runTry = none) (g : ℕ) : Fields x (w.modGreeter g f) := by
  have hget : ∀ {g' : ℕ} {s : String} {t : ℕ}, (owners (w.modGreeter g f))[g']? = some (s, some t) →
      (owners w)[g']? = some (s, some t) := by
    intro g' s t hg
    rw [owners_modGreeter hf] at hg
    obtain ⟨o, ho, heq⟩ := Option.map_eq_some_iff.mp hg
    split_ifs at heq with hgg
    · cases heq
    · rw [ho, heq]
  refine ⟨h.client, fun hg => h.record (hget hg), fun hg => h.seat (hget hg), ?_, h.entry⟩
  rw [seats_modGreeter fun r => (hf r).1]
  exact h.nodup

/-- Both greeter callbacks reset the field of their record, if it is there. -/
theorem Fields.resetRecord {w : World} {t g : ℕ} (h : Fields (some t) w) {v : TryView}
    (hv : view w t = some v) (hdone : v.doneCalled = true) (hg : v.req.done = .greeterStartDone g)
    (hnone : ∀ s, (owners w)[g]? ≠ some (s, some t)) : Fields none w := by
  refine h.settle hv hdone (fun c hc => ?_) fun g' s hg' => ?_
  · obtain ⟨v', hv', -, hc'⟩ := (h.client c t).mp hc
    rw [hv] at hv'
    rw [← Option.some.inj hv', hg] at hc'
    cases hc'
  · obtain ⟨v', hv', -, hg''⟩ := h.record hg'
    rw [hv] at hv'
    rw [← Option.some.inj hv', hg] at hg''
    obtain rfl := DoneCb.greeterStartDone.inj hg''
    exact hnone s hg'

theorem Fields.unsetRecord {w : World} {t g : ℕ} (h : Fields (some t) w) {v : TryView}
    (hv : view w t = some v) (hdone : v.doneCalled = true) (hg : v.req.done = .greeterStartDone g)
    {f : SeatGreeter → SeatGreeter} (hf : ∀ r, (f r).seat = r.seat ∧ (f r).runTry = none) :
    Fields none (w.modGreeter g f) := by
  refine (h.unset hf g).resetRecord hv hdone hg fun s hs => ?_
  rw [owners_modGreeter hf] at hs
  obtain ⟨o, -, heq⟩ := Option.map_eq_some_iff.mp hs
  rw [if_pos rfl] at heq
  cases heq

theorem Fields.greeterAdd {x : Option ℕ} {w : World} (h : Fields x w) {seat : String}
    (hnone : greeterSearch seat w = none) : Fields x (greeterAdd seat w) := by
  have hget : ∀ {g : ℕ} {s : String} {t : ℕ},
      (owners (GreeterTable.greeterAdd seat w))[g]? = some (s, some t) →
      (owners w)[g]? = some (s, some t) := by
    intro g s t hg
    have howners : owners (GreeterTable.greeterAdd seat w) = owners w ++ [(seat, none)] := by
      simp [owners, GreeterTable.greeterAdd]
    rw [howners] at hg
    rcases Nat.lt_trichotomy g (owners w).length with hlt | rfl | hgt
    · rwa [List.getElem?_append_left hlt] at hg
    · rw [List.getElem?_concat_length] at hg
      cases hg
    · rw [List.getElem?_eq_none (by simp; omega)] at hg
      cases hg
  exact ⟨h.client, fun hg => h.record (hget hg), fun hg => h.seat (hget hg),
    nodup_greeterAdd h.nodup hnone, h.entry⟩

/-- A record is deleted that has no record with a try behind it. -/
theorem Fields.greeterDel {x : Option ℕ} {w : World} (h : Fields x w) {g : ℕ} {r : SeatGreeter}
    (hg : w.greeters[g]? = some r) (hlast : ∀ g' s t, g < g' → (owners w)[g']? ≠ some (s, some t)) :
    Fields x (greeterDel r.seat w) := by
  have howners : owners (GreeterTable.greeterDel r.seat w) = (owners w).eraseIdx g := by
    rw [owners, greeters_greeterDel h.nodup hg, owners, List.eraseIdx_map]
  have hget : ∀ {g' : ℕ} {s : String} {t : ℕ},
      (owners (GreeterTable.greeterDel r.seat w))[g']? = some (s, some t) →
      (owners w)[g']? = some (s, some t) := by
    intro g' s t hg'
    rw [howners, List.getElem?_eraseIdx] at hg'
    split_ifs at hg' with hlt
    · exact hg'
    · exact absurd hg' (hlast _ s t (by omega))
  exact ⟨h.client, fun hg => h.record (hget hg), fun hg => h.seat (hget hg),
    nodup_greeterDel h.nodup hg, h.entry⟩

/-! ### Making tries -/

/-- A child was forked for a new try; the field of its owner is not set yet. -/
theorem pending_forked {w : World} {req : SpawnRequest} {pid : ℕ} {t : ℕ} {d : DoneCb} :
    Pending none (childForked w.tries.length pid (openTry req w)) t d ↔
      (t = w.tries.length ∧ req.done = d) ∨ Pending none w t d := by
  unfold Pending
  rw [view_forked]
  by_cases ht : t = w.tries.length
  · subst ht
    rw [if_pos rfl, view_length]
    simp [forkedView]
  · rw [if_neg ht]
    simp [ht]

theorem Fields.greeterForked {w : World} (h : Fields none w) {g : ℕ} {r : SeatGreeter}
    (hg : w.greeters[g]? = some r) (pid : ℕ) : Fields none (greeterForked g r.seat pid w) := by
  set req := greeterRequest g r.seat with hreq
  have hviews : view (Activations.greeterForked g r.seat pid w) =
      view (childForked w.tries.length pid (openTry req w)) := rfl
  have hpending : ∀ {t d}, Pending none (Activations.greeterForked g r.seat pid w) t d ↔
      (t = w.tries.length ∧ req.done = d) ∨ Pending none w t d := by
    intro t d
    rw [← pending_forked, Pending, hviews, Pending]
  have howners : ∀ g', (owners (Activations.greeterForked g r.seat pid w))[g']? =
      ((owners w)[g']?).map fun o => if g = g' then (o.1, some w.tries.length) else o := by
    intro g'
    have hgreeters : (childForked w.tries.length pid (openTry req w)).greeters = w.greeters := by
      rw [greeters_childForked, greeters_openTry]
    have hmod := owners_modGreeter (f := fun r => { r with runTry := some w.tries.length })
      (s := some w.tries.length) (fun _ => ⟨rfl, rfl⟩) g
      (childForked w.tries.length pid (openTry req w)) g'
    have hold : owners (childForked w.tries.length pid (openTry req w)) = owners w := by
      rw [owners, hgreeters, owners]
    rw [hold] at hmod
    exact hmod
  have hsplit : ∀ {g' : ℕ} {s : String} {t : ℕ},
      (owners (Activations.greeterForked g r.seat pid w))[g']? = some (s, some t) →
      (g' = g ∧ s = r.seat ∧ t = w.tries.length) ∨ (owners w)[g']? = some (s, some t) := by
    intro g' s t hg'
    rw [howners] at hg'
    obtain ⟨o, ho, heq⟩ := Option.map_eq_some_iff.mp hg'
    split_ifs at heq with hgg
    · subst hgg
      rw [owners_get hg] at ho
      obtain rfl := Option.some.inj ho
      obtain ⟨rfl, ht⟩ := Prod.mk.inj heq
      exact Or.inl ⟨rfl, rfl, (Option.some.inj ht).symm⟩
    · exact Or.inr (heq ▸ ho)
  have hclients : (Activations.greeterForked g r.seat pid w).clients = w.clients :=
    (clients_childForked (openTry req w) w.tries.length pid).trans (clients_openTry w req)
  refine ⟨fun c t => ?_, fun hg' => ?_, fun hg' => ?_, ?_, fun hr hcb => ?_⟩
  · rw [World.clientAt_congr hclients, h.client, hpending]
    exact ⟨Or.inr, fun hp => hp.resolve_left fun hnew => DoneCb.noConfusion hnew.2⟩
  · rcases hsplit hg' with ⟨rfl, -, rfl⟩ | hold
    · exact hpending.mpr (Or.inl ⟨rfl, rfl⟩)
    · exact hpending.mpr (Or.inr (h.record hold))
  · rcases hsplit hg' with ⟨rfl, rfl, rfl⟩ | hold
    · exact ⟨forkedView req pid w, by rw [hviews, view_forked, if_pos rfl], rfl⟩
    · obtain ⟨v, hv, hs⟩ := h.seat hold
      exact ⟨v, by rw [hviews, view_forked, if_neg (view_lt hv).ne, hv], hs⟩
  · rw [seats_greeterForked]
    exact h.nodup
  · have hr' := hr
    change _ ∈ (childForked w.tries.length pid (openTry req w)).fds.live at hr'
    rw [live_forked] at hr'
    rw [hclients]
    rcases List.mem_append.mp hr' with hr' | hr'
    · exact h.entry hr' hcb
    · rw [List.mem_singleton.mp hr'] at hcb
      cases hcb

theorem Fields.loginForked {w : World} (h : Fields none w) {c : ℕ} (hc : c < w.clients.length)
    (hidle : (w.clientAt c).spawnTry = none) {req : SpawnRequest} (hreq : req.done = .sessionDone c)
    (pid : ℕ) : Fields none (loginForked c req pid w) := by
  set w₁ := childForked w.tries.length pid (openTry req w) with hw₁
  have hclients : w₁.clients = w.clients := (clients_childForked _ _ _).trans (clients_openTry w _)
  have howners : owners (Steps.loginForked c req pid w) = owners w := by
    have hgreeters : w₁.greeters = w.greeters :=
      (greeters_childForked _ _ _).trans (greeters_openTry w _)
    rw [owners, owners, ← hgreeters]
    rfl
  have hpending : ∀ {t d}, Pending none (Steps.loginForked c req pid w) t d ↔
      (t = w.tries.length ∧ req.done = d) ∨ Pending none w t d := by
    intro t d
    have hviews : view (Steps.loginForked c req pid w) = view w₁ := rfl
    rw [← pending_forked, Pending, hviews, Pending]
  have hat : ∀ c', ((Steps.loginForked c req pid w).clientAt c').spawnTry =
      if c = c' then some w.tries.length else (w.clientAt c').spawnTry := by
    intro c'
    have hlt : c < w₁.clients.length := by rwa [hclients]
    rw [← World.clientAt_congr hclients c']
    exact clientAt_setTry hlt _ c'
  refine ⟨fun c' t => ?_, fun hg => ?_, fun hg => ?_, ?_, fun hr hcb => ?_⟩
  · rw [hat, hpending, hreq]
    split_ifs with hcc
    · subst hcc
      have hno : ¬Pending none w t (.sessionDone c) := by
        rw [← h.client, hidle]
        exact nofun
      simp [hno, eq_comm]
    · rw [h.client]
      simp [hcc]
  · rw [howners] at hg
    exact hpending.mpr (Or.inr (h.record hg))
  · rw [howners] at hg
    obtain ⟨v, hv, hs⟩ := h.seat hg
    refine ⟨v, ?_, hs⟩
    change view w₁ _ = _
    rw [hw₁, view_forked, if_neg (view_lt hv).ne, hv]
  · rw [seats_eq_owners, howners, ← seats_eq_owners]
    exact h.nodup
  · have hr' := hr
    change _ ∈ w₁.fds.live at hr'
    rw [hw₁, live_forked] at hr'
    have hlen : (Steps.loginForked c req pid w).clients.length = w.clients.length := by
      rw [← hclients]
      exact List.length_modify _ _ _
    rw [hlen]
    rcases List.mem_append.mp hr' with hr' | hr'
    · exact h.entry hr' hcb
    · rw [List.mem_singleton.mp hr'] at hcb
      cases hcb

/-! ### The callbacks -/

/-- **An activation** without failures at once. -/
theorem Fields.activate {w : World} (h : Fields none w) {a : Answers}
    (hworks : spawnWorks a w = true) (seat : String) : Fields none (greeterActivate C a seat w) := by
  obtain ⟨w₁, g, r, hw₁, hg, -, hdoes⟩ := greeterActivate_works C hworks seat
  have h₁ : Fields none w₁ := by
    rcases hw₁ with rfl | ⟨hnone, rfl⟩
    · exact h
    · exact h.greeterAdd hnone
  generalize greeterActivate C a seat w = w' at hdoes
  cases hdoes with
  | session s _ => exact h₁.same (same_log _ _)
  | givesUp => exact h₁
  | noPipe _ =>
    refine h₁.unset ?_ g
    exact fun _ => ⟨rfl, rfl⟩
  | forked pid _ => exact h₁.greeterForked hg _

theorem Fields.sessionDone {w : World} {t c : ℕ} (h : Fields (some t) w) {v : TryView}
    (hv : view w t = some v) (hdone : v.doneCalled = true) (hc : v.req.done = .sessionDone c)
    (a : Answers) (result : SpawnServiceEnd) : Fields none (sessionDone a t c result w) := by
  have hfault : Same w (if (w.clientAt c).freed then w.fault else w) := by
    split_ifs
    · exact same_fault w
    · exact Same.refl w
  unfold Client.sessionDone
  dsimp only
  generalize (if (w.clientAt c).freed then w.fault else w) = w₁ at hfault ⊢
  cases result.success with
  | error =>
    have hlog := hfault.trans (same_log (.sent (.sessionDone t) (lookup w₁.fdtab (w₁.clientAt c).fd)
      ⟨.loginFeedback, some ⟨false, result.message.getD ""⟩, none⟩) w₁)
    exact (h.same hlog).resetClient (by rw [hlog.views, hv]) hdone hc
  | success =>
    dsimp only
    have hlock := hfault.trans (same_greeterLockout (seatGet a.sd (w₁.clientAt c).pid) w₁)
    generalize greeterLockout (seatGet a.sd (w₁.clientAt c).pid) w₁ = w₂ at hlock
    have hlog := hlock.trans (same_log (.sent (.sessionDone t) (lookup w₂.fdtab (w₂.clientAt c).fd)
      ⟨.loginFeedback, some ⟨true, "You are logged in!"⟩, none⟩) w₂)
    exact ((h.same hlog).resetClient (by rw [hlog.views, hv]) hdone hc).same
      (same_clientGoodbye _ c _)

/-- **Freeing a try** whose callback is still to come. -/
theorem Fields.freed {a : Answers} {w w' : World} (h : Fields none w) (hworks : spawnWorks a w = true)
    {t : ℕ} {v : TryView} (hv : view w t = some v) (hdone : v.doneCalled = false)
    (hf : Freed C a t w w') : Fields none w' := by
  have hcalled := h.calledBack hv hdone
  have hview : view (SpawnService.calledBack t w) t = some { v with doneCalled := true } := by
    rw [view_calledBack, if_pos rfl, hv, Option.map_some]
  have hreq : ∀ {d}, (w.tryAt t).done = d → v.req.done = d := fun hd => by
    rw [← view_tryAt hv]
    exact hd
  have howners : owners (SpawnService.calledBack t w) = owners w := by
    rw [owners, greeters_calledBack, owners]
  cases hf with
  | login c hc => exact (hcalled.sessionDone hview rfl (hreq hc) a _).release t
  | lost g hd hg =>
    refine Fields.release (Fields.same (hcalled.resetRecord hview rfl (hreq hd) fun s => ?_)
      ((same_log _ _).trans (same_fault _))) t
    rw [howners, owners, List.getElem?_map, hg]
    simp
  | restarted g r hd hg _ =>
    have hreset : Fields none (greeterStartFailed t g (SpawnService.calledBack t w)) := by
      refine Fields.unsetRecord (hcalled.same (same_log _ _)) hview rfl (hreq hd) ?_
      exact fun _ => ⟨rfl, rfl⟩
    have hworks' : spawnWorks a (greeterStartFailed t g (SpawnService.calledBack t w)) = true :=
      spawnWorks_congr
        (by simp [greeterStartFailed, greeterReset, SpawnService.calledBack, closeRead]) hworks
    exact (hreset.activate hworks' r.seat).release t
  | noTry g r hd hg _ htry =>
    refine Fields.release (Fields.same (hcalled.resetRecord hview rfl (hreq hd) fun s => ?_)
      (((same_log _ _).trans (same_log _ _)).trans (same_fault _))) t
    rw [howners, owners_get hg, htry]
    simp
  | started g r t' hd hg _ _ =>
    have hset : Fields none (greeterStarted t g t' (SpawnService.calledBack t w)) := by
      refine Fields.same (Fields.unsetRecord (f := fun r => { r with runTry := none, runPid :=
        ((SpawnService.calledBack t w).tryAt t').pid })
      (hcalled.same ((same_log _ _).trans (same_log _ _)))
          hview rfl (hreq hd) fun _ => ⟨rfl, rfl⟩) (same_of_eq rfl rfl rfl rfl)
    exact hset.release t

/-- **`_client_data`** without failures at once. -/
theorem Fields.clientData {a : Answers} {c fd : ℕ} {w w' : World} (h : Fields none w)
    (hworks : spawnWorks a w = true) (hc : c < w.clients.length)
    (hdoes : ClientData C a c fd w w') : Fields none w' := by
  induction hdoes with
  | closed _ => exact h.same ((same_unregisterFd fd w).trans (same_clientFree c _))
  | dropped _ => exact h.same (same_clientFree c w)
  | replied msg => exact h.same (same_log _ w)
  | activated _ session seat =>
    exact h.same ((((same_sessionActivate session w).trans (same_log _ _)).trans
      (same_greeterLockout seat _)).trans (same_clientGoodbye _ c _))
  | noLogin => exact h.same (same_fault w)
  | noPipe hidle =>
    refine h.same ⟨fun c' => ?_, (List.length_modify _ _ _).symm, rfl, rfl, fun _ hr _ _ => hr⟩
    refine (clientAt_setTry hc none c').trans ?_
    split_ifs with hcc
    · rw [← hcc, hidle]
    · rfl
  | loginForked _ hidle l pid => exact h.loginForked hc hidle rfl _
  | loginFailed _ l noTty _ hpipe hchild =>
    obtain ⟨pid, hpid⟩ := forks_of_spawnWorks hworks hpipe
    exact absurd hpid (hchild pid)
  | started _ m _ _ _ => exact (h.activate hworks _).same (same_clientGoodbye _ c _)
  | ignored => exact h
  | fallback w' _ ih => exact ih.same (same_fault w')

/-- **`_child_data`** for a try in flight. -/
theorem Fields.childData {a : Answers} {t fd : ℕ} {w w' : World} (h : Fields none w)
    (hworks : spawnWorks a w = true) {v : TryView} (hv : view w t = some v)
    (hdone : v.doneCalled = false) (hdoes : ChildData C a t fd w w') : Fields none w' := by
  have hread : Same w (w.modTry t SpawnTry.readPipe) :=
    same_modTry (f := SpawnTry.readPipe) (fun _ => rfl) t w
  cases hdoes with
  | undecodable _ => exact h.same ((hread.trans (same_unregisterFd _ _)).trans (same_forceQuit _ _))
  | connect _ _ _ => exact h.same hread
  | setupDone _ _ _ session =>
    have hset : Same w ((w.modTry t SpawnTry.readPipe).modTry t
        fun tr => { tr with session := session }) := by
      refine hread.trans (same_modTry ?_ t _)
      exact fun _ => rfl
    refine h.same (Same.trans ?_ (same_sessionActivate _ _))
    split_ifs
    · exact hset.trans (same_forceQuit _ _)
    · exact hset
  | sessionActive _ _ _ w' hfree =>
    have hset : Same w (((w.modTry t SpawnTry.readPipe).unregisterFd (w.tryAt t).readFd).modTry t
        fun tr => { tr with success := .success }) := by
      refine (hread.trans (same_unregisterFd _ _)).trans (same_modTry ?_ t _)
      exact fun _ => rfl
    refine Fields.freed (h.same hset) (spawnWorks_congr ?_ hworks) (by rw [hset.views, hv]) hdone hfree
    simp
  | errorExit _ _ _ reason _ =>
    refine h.same ((hread.trans (same_unregisterFd _ _)).trans (same_modTry ?_ t _))
    exact fun _ => rfl
  | noReason _ _ _ _ => exact h.same ((hread.trans (same_unregisterFd _ _)).trans (same_fault _))

theorem Fields.acceptReady {w : World} (h : Fields none w) (a : Answers) :
    Fields none (acceptReady a w) := by
  -- a new client has no try
  have hkeep : ∀ (cl : State.Client) (m : FdTable FdCb), cl.spawnTry = none →
      (∀ {r c}, r ∈ m.live → r.cb = some (.clientData c) →
        r ∈ w.fds.live ∨ c = w.clients.length) →
      Fields none
        { w.openFd (.sock w.clients.length) with clients := w.clients ++ [cl], fds := m } := by
    intro cl m hcl hentry
    refine ⟨fun c t => ?_, h.record, h.seat, h.nodup, fun {r c} hr hcb => ?_⟩
    · refine Iff.trans (Eq.congr_left ?_) (h.client c t)
      unfold World.clientAt
      dsimp only
      rcases Nat.lt_trichotomy c w.clients.length with hlt | rfl | hgt
      · rw [List.getElem?_append_left hlt]
      · rw [List.getElem?_concat_length, List.getElem?_eq_none (Nat.le_refl _)]
        exact hcl
      · rw [List.getElem?_eq_none (by simp; omega), List.getElem?_eq_none (Nat.le_of_lt hgt)]
    · rw [List.length_append, List.length_singleton]
      rcases hentry hr hcb with hr | rfl
      · exact Nat.lt_succ_of_lt (h.entry hr hcb)
      · exact Nat.lt_succ_self _
  unfold Server.acceptReady
  cases a.peer with
  | none => exact hkeep ⟨0, 0, none, true⟩ w.fds rfl fun hr _ => Or.inl hr
  | some pid =>
    refine hkeep ⟨lowestFree w.fdtab, pid, none, false⟩ _ rfl fun {r c} hr hcb => ?_
    have hmem : r ∈ w.fds.live ++ [⟨some (.clientData w.clients.length), lowestFree w.fdtab⟩] := by
      rw [← FdTable.live_registerFd]
      exact hr
    rcases List.mem_append.mp hmem with hr | hr
    · exact Or.inl hr
    · rw [List.mem_singleton.mp hr] at hcb
      exact Or.inr (by simpa using hcb.symm)

/-! ### The steps -/

/-- No spawn of the step fails at once. -/
def stepWorks (w : World) : Event → Bool
  | .next a => spawnWorks a w
  | .visit a => spawnWorks a w
  | _ => true

/-- The slot of the record that a step deletes. -/
def deletedSlot (w : World) : Event → Option ℕ
  | .visit _ =>
    match called w with
    | some (_, .greeterDone g) => if (w.greeters[g]?).any SeatGreeter.ended then some g else none
    | _ => none
  | _ => none

/-- No record with a try is behind the record that the step deletes. -/
def deletesLast (w : World) (e : Event) : Bool :=
  (deletedSlot w e).all fun g => (w.greeters.drop (g + 1)).all fun r => r.runTry.isNone

theorem deletedSlot_eq {w : World} {a : Answers} {t i : ℕ} {pid : ℤ} {g : ℕ} {r : SeatGreeter}
    (hscan : w.scan = some (t, i)) (he : w.registry.pending[i]? = some ⟨pid, some (.greeterDone g)⟩)
    (hpid : pid = (w.tryAt t).childPid) (hg : w.greeters[g]? = some r) (hend : r.ended = true) :
    deletedSlot w (.visit a) = some g := by
  have hcalled : called w = some (t, .greeterDone g) := called_eq hscan he hpid
  simp [deletedSlot, hcalled, hg, hend]

theorem owners_behind {w : World} {e : Event} {g : ℕ} (hlast : deletesLast w e = true)
    (hdel : deletedSlot w e = some g) {g' : ℕ} {s : String} {t : ℕ} (hlt : g < g') :
    (owners w)[g']? ≠ some (s, some t) := by
  intro hg'
  rw [owners, List.getElem?_map] at hg'
  obtain ⟨r, hr, heq⟩ := Option.map_eq_some_iff.mp hg'
  have hmem : r ∈ w.greeters.drop (g + 1) := by
    refine List.mem_of_getElem? (i := g' - (g + 1)) ?_
    rw [List.getElem?_drop, Nat.add_sub_cancel' hlt, hr]
  unfold deletesLast at hlast
  rw [hdel] at hlast
  have hnone := List.all_eq_true.mp hlast r hmem
  rw [(Prod.mk.inj heq).2] at hnone
  cases hnone

/-- **A step without failures at once, that deletes no record in front of one with a try, keeps the
invariant.** -/
theorem fields_step {w : World} {e : Event} (hlife : Life none w) (h : Fields none w)
    (hworks : stepWorks w e = true) (hlast : deletesLast w e = true) :
    Fields none (step C w e) := by
  have hdoes := step_does C w e
  generalize step C w e = w' at hdoes
  have hadvance : Same w (advance w) := same_fds fun _ hr => hr
  cases hdoes with
  | idle _ => exact h
  | select readable error _ _ => exact h.same (same_fds (FdTable.live_selectReturns_subset _ _ _))
  | endPass a _ => exact h.same (same_fds fun r hr => by rwa [FdTable.live_endPass] at hr)
  | pass a _ => exact h.same hadvance
  | accept a _ => exact (h.same hadvance).acceptReady a
  | client a c fd w' _ hready hdoes =>
    exact (h.same hadvance).clientData hworks (h.entry (ready_mem_live hready) rfl) hdoes
  | child a t fd w' _ hready hdoes =>
    obtain ⟨v, hv, hdone, -⟩ := hlife.read (ready_mem_live hready) rfl
    exact (h.same hadvance).childData hworks (v := v) hv hdone hdoes
  | sigchld _ => exact h.same (same_of_eq rfl rfl rfl rfl)
  | reap t _ _ _ _ _ _ =>
    refine h.reviewed (t := t) (f := fun v => { v with reaped := true }) ?_ ?_ rfl rfl rfl
    · exact fun _ => ⟨rfl, rfl⟩
    · exact view_modTry (fun _ => rfl) t w
  | scanEnd a t i _ _ => exact h.same (same_of_eq rfl rfl rfl rfl)
  | scanPass a t i e _ _ _ => exact h.same (same_of_eq rfl rfl rfl rfl)
  | scanZeroed a t i e _ _ _ => exact h.same (same_of_eq rfl rfl rfl rfl)
  | visit a t i pid hd w' hscan he hpid hcalled =>
    have hlive : ⟨pid, some hd⟩ ∈ w.registry.live :=
      Registry.mem_live.mpr ⟨List.mem_of_getElem? he, rfl⟩
    refine Fields.same (w := w') ?_ (same_of_eq rfl rfl rfl rfl)
    cases hcalled with
    | disappeared t' w' hfree =>
      obtain ⟨v, hv, -, -, hdone | hx⟩ := hlife.listens hlive rfl
      · exact h.freed hworks hv hdone hfree
      · cases hx
    | lost g _ => exact h.same ((same_log _ _).trans (same_fault _))
    | ended g r hg hend =>
      have hdel := deletedSlot_eq (a := a) hscan he hpid hg hend
      refine Fields.greeterDel (h.same (same_log _ _)) hg fun g' s t' hlt => ?_
      exact owners_behind hlast hdel hlt
    | restarted g r _ _ =>
      have hreset : Fields none (greeterReset g (w.log (.greeterCb t (some r.seat)))) := by
        refine Fields.unset (h.same (same_log _ _)) ?_ g
        exact fun _ => ⟨rfl, rfl⟩
      exact hreset.activate (spawnWorks_congr rfl hworks) r.seat
  | sigchldReturn _ => exact h.same (same_of_eq rfl rfl rfl rfl)
  | childWrite t m _ =>
    refine h.same (same_modTry ?_ t w)
    exact fun _ => rfl
  | childHangUp t _ =>
    refine h.same (same_modTry ?_ t w)
    exact fun _ => rfl
  | childExit t _ =>
    refine h.same (same_modTry ?_ t w)
    exact fun _ => rfl

/-! ### Refused logins -/

/-- The reply to a login of a client whose field `try` is set. -/
def alreadyTrying (c fd : ℕ) (w : World) : Obs :=
  .sent (.reply c) (lookup w.fdtab fd)
    ⟨.loginFeedback, some ⟨false, "There is already a login try!"⟩, none⟩

/-- `LOGIN_TRY` is refused exactly if the field is set. -/
theorem loginTry_refused_iff (a : Answers) (c fd : ℕ) (l : Login) (w : World) :
    alreadyTrying c fd w ∈ since w (loginTry C a c fd l w) ↔
      (w.clientAt c).spawnTry.isSome = true := by
  have hsince : ∀ {w' : World} {os : List Obs}, w'.trace = w.trace ++ os → since w w' = os :=
    fun h => by simp [since, h]
  constructor
  · intro h
    by_contra hidle
    have hdoes : since w (loginTry C a c fd l w) = [.spawned w.tries.length] ∨
        (∃ dest msg, since w (loginTry C a c fd l w) = [.done w.tries.length ⟨.error, none⟩,
          .sent (.sessionDone w.tries.length) dest msg]) ∨
        since w (loginTry C a c fd l w) = [.sent (.reply c) (lookup w.fdtab fd)
          ⟨.loginFeedback, some ⟨false, "spawn failed."⟩, none⟩] := by
      unfold loginTry
      rw [if_neg hidle]
      set req := loginRequest a c fd l w with hreq
      by_cases hpipe : (a.spawn w.tries.length).pipeOk = true
      · by_cases hfork : ∃ pid, (a.spawn w.tries.length).child = .forks pid
        · obtain ⟨pid, hchild⟩ := hfork
          rw [spawnserviceSpawn_forks C hpipe hchild]
          refine Or.inl (hsince ?_)
          exact (trace_childForked _ _ _).trans (by rw [trace_openTry])
        · rw [spawnserviceSpawn_fails C hpipe (not_exists.mp hfork)]
          generalize decide ((a.spawn w.tries.length).child = .noTty) = noTty
          obtain ⟨dest, msg, ho⟩ := trace_loginFailed C a c noTty req w rfl
          refine Or.inr (Or.inl ⟨dest, msg, hsince ?_⟩)
          have hrelease := trace_release (onDone C a w.tries.length ⟨.error, none⟩
            (tryFailed C noTty req w)) w.tries.length
          refine hrelease.trans (ho.trans ?_)
          rw [trace_tryFailed, List.append_assoc]
          rfl
      · rw [spawnserviceSpawn_pipeFails C (by simpa using hpipe)]
        exact Or.inr (Or.inr (hsince rfl))
    rcases hdoes with hs | ⟨dest, msg, hs⟩ | hs <;> rw [hs] at h <;> simp [alreadyTrying] at h
  · intro hbusy
    have hrefused : loginTry C a c fd l w = w.log (alreadyTrying c fd w) := by
      unfold loginTry
      rw [if_pos hbusy]
      rfl
    rw [hrefused, hsince (World.log_trace _ _)]
    exact List.mem_singleton_self _

/-! ### Runs -/

/-- The try `t` with the callback `d` was started and its callback is still to come. -/
def InFlight (w : World) (t : ℕ) (d : DoneCb) : Prop :=
  ∃ tr, w.tries[t]? = some tr ∧ tr.doneCalled = false ∧ tr.done = d

theorem inFlight_iff {w : World} {t : ℕ} {d : DoneCb} : InFlight w t d ↔ Pending none w t d := by
  unfold InFlight Pending
  constructor
  · rintro ⟨tr, htr, hdone, hd⟩
    exact ⟨_, view_of_get htr, Or.inl hdone, hd⟩
  · rintro ⟨v, hv, hdone | hx, hd⟩
    · obtain ⟨tr, htr, rfl⟩ := view_eq_some.mp hv
      exact ⟨tr, htr, hdone, hd⟩
    · cases hx

/-- What the fields should be: they name tries in flight of their owners, a client has at most one
such try, and a login is refused only if there is one. -/
structure Named (C : FieldCode SpawnField) (w : World) : Prop where
  client : ∀ c t, (w.clientAt c).spawnTry = some t ↔ InFlight w t (.sessionDone c)
  one : ∀ c t t', InFlight w t (.sessionDone c) → InFlight w t' (.sessionDone c) → t = t'
  record : ∀ g r t, w.greeters[g]? = some r → r.runTry = some t →
    InFlight w t (.greeterStartDone g) ∧ (w.tryAt t).settings.sessionSeat = some r.seat
  refused : ∀ a c fd l, alreadyTrying c fd w ∈ since w (loginTry C a c fd l w) ↔
    ∃ t, InFlight w t (.sessionDone c)

theorem named_of_fields {w : World} (h : Fields none w) : Named C w := by
  have hclient : ∀ c t, (w.clientAt c).spawnTry = some t ↔ InFlight w t (.sessionDone c) :=
    fun c t => (h.client c t).trans inFlight_iff.symm
  refine ⟨hclient, fun c t t' ht ht' => ?_, fun g r t hg htry => ⟨?_, ?_⟩, fun a c fd l => ?_⟩
  · have heq := ((hclient c t).mpr ht).symm.trans ((hclient c t').mpr ht')
    exact Option.some.inj heq
  · exact inFlight_iff.mpr (h.record (s := r.seat) (by rw [owners_get hg, htry]))
  · obtain ⟨v, hv, hs⟩ := h.seat (s := r.seat) (g := g) (t := t) (by rw [owners_get hg, htry])
    have hreq : (w.tryAt t).toSpawnRequest = v.req := congrArg TryView.req (view_tryAt hv)
    rw [hreq, hs]
  · rw [loginTry_refused_iff, Option.isSome_iff_exists]
    exact exists_congr fun t => hclient c t

theorem fields_start (debug : Bool) (templates : List Template) :
    Fields none (World.start debug templates) where
  client c t := by
    simp [World.clientAt, World.start, Pending, view, default, instInhabitedClient.default]
  record hg := by simp [owners, World.start] at hg
  seat hg := by simp [owners, World.start] at hg
  nodup := List.nodup_nil
  entry hr hcb := by
    rw [List.mem_singleton.mp (FdTable.mem_live.mp hr).1] at hcb
    cases hcb

/-- A process of the greeter of seat0 asks twice for a login, and no terminal is left. -/
def loginsFail : List Event :=
  let login : Answers :=
    { Answers.plain with
      spawn := fun _ => ⟨true, .noTty⟩
      input := .msg ⟨.loginTry, some ⟨"user", "secret", "shell"⟩, none⟩ }
  greeterStarts ++ turn [3] { Answers.plain with peer := some 100 } ++ turn [4] login ++ turn [4] login

end Spawny.Daemon.TryFields
