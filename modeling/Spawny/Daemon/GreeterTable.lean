import Spawny.Daemon.State

/-! # greeter.c: the table of greeters

The functions of `greeter.c` that only read or write the `greeters` array. A `Seat_Greeter` pointer
is a slot of the array, so deleting a record moves the records behind it to other slots while the
pointers to them stay.

* `greeterSearch_spec`: the record found has the seat;
* `greeterSearch_of_nodup`: with one record for each seat it is the only one;
* `getElem?_greeterDel`: slots in front of the deleted record are not changed. -/

namespace Spawny.Daemon.GreeterTable

open Spawny.Daemon.State

/-- `_greeter_search`: the first record of the seat. -/
def greeterSearch (seat : String) (w : World) : Option ℕ :=
  w.greeters.findIdx? fun r => r.seat == seat

/-- `_greeter_add`: the new record is the last one. -/
def greeterAdd (seat : String) (w : World) : World :=
  { w with greeters := w.greeters ++
      [{ seat := seat, runGen := 0, runTry := none, runPid := -1, ended := false }] }

/-- `_greeter_del`. -/
def greeterDel (seat : String) (w : World) : World :=
  { w with greeters := w.greeters.eraseP fun r => r.seat == seat }

/-- `_greeter_run_reset`. -/
def SeatGreeter.runReset (r : SeatGreeter) : SeatGreeter := { r with runTry := none, runPid := -1 }

/-- `greeter_lockout`. A `NULL` seat is given to `strcmp` if there is a record to compare. -/
def greeterLockout (seat : Option String) (w : World) : World :=
  match seat with
  | none => if w.greeters.isEmpty then w else w.fault
  | some s =>
    match greeterSearch s w with
    | none => w
    | some g => (w.modGreeter g fun r => { r with ended := true }).log (.lockout s)

/-- `seat_greeter_pid_get`. -/
def seatGreeterPidGet (r : SeatGreeter) (w : World) : ℤ :=
  match r.runTry with
  | some t => (w.tryAt t).pid
  | none => r.runPid

/-- `greeter_exists_sid`: a record whose session id cannot be fetched is passed over. -/
def greeterExistsSid (a : Answers) (sid : ℤ) (w : World) : Bool :=
  w.greeters.any fun r =>
    let greeterSid := getsid a (seatGreeterPidGet r w)
    greeterSid != -1 && greeterSid == sid

theorem greeterSearch_spec {seat : String} {w : World} {g : ℕ}
    (h : greeterSearch seat w = some g) : ∃ r, w.greeters[g]? = some r ∧ r.seat = seat := by
  obtain ⟨hlt, hg, -⟩ := List.findIdx?_eq_some_iff_getElem.mp h
  exact ⟨w.greeters[g], List.getElem?_eq_getElem hlt, by simpa using hg⟩

theorem greeterSearch_eq_none {seat : String} {w : World} :
    greeterSearch seat w = none ↔ ∀ r ∈ w.greeters, r.seat ≠ seat := by
  simp [greeterSearch, List.findIdx?_eq_none_iff]

/-- The seats of the records, by slot. -/
def seats (w : World) : List String := w.greeters.map SeatGreeter.seat

/-- The search only looks at the seats. -/
theorem greeterSearch_eq (seat : String) (w : World) :
    greeterSearch seat w = (seats w).findIdx? fun s => s == seat := by
  rw [greeterSearch, seats, List.findIdx?_map]
  rfl

theorem greeterSearch_congr {w w' : World} (h : seats w' = seats w) (seat : String) :
    greeterSearch seat w' = greeterSearch seat w := by rw [greeterSearch_eq, greeterSearch_eq, h]

@[simp] theorem seats_greeterAdd (seat : String) (w : World) :
    seats (greeterAdd seat w) = seats w ++ [seat] := by simp [seats, greeterAdd]

theorem seats_modGreeter {f : SeatGreeter → SeatGreeter} (hf : ∀ r, (f r).seat = r.seat) (g : ℕ)
    (w : World) : seats (w.modGreeter g f) = seats w := by
  refine List.ext_getElem? fun i => ?_
  rw [seats, List.getElem?_map, World.getElem?_modGreeter, seats, List.getElem?_map, Option.map_map]
  refine congrArg (fun f => (w.greeters[i]?).map f) (funext fun r => ?_)
  dsimp only [Function.comp_apply]
  split_ifs
  · exact hf r
  · rfl

/-- A record that is added is found. -/
theorem greeterSearch_greeterAdd {seat : String} {w : World} (h : greeterSearch seat w = none) :
    greeterSearch seat (greeterAdd seat w) = some w.greeters.length := by
  rw [greeterSearch_eq] at h ⊢
  rw [seats_greeterAdd, List.findIdx?_append, h]
  simp [seats]

/-- With one record for each seat, the record that is found is the only one. -/
theorem greeterSearch_of_nodup {w : World} (hw : (seats w).Nodup) {g : ℕ} {r : SeatGreeter}
    (hg : w.greeters[g]? = some r) : greeterSearch r.seat w = some g := by
  cases h : greeterSearch r.seat w with
  | none => exact absurd rfl (greeterSearch_eq_none.mp h r (List.mem_of_getElem? hg))
  | some g' =>
    obtain ⟨r', hr', hseat⟩ := greeterSearch_spec h
    have hi : (seats w)[g]? = some r.seat := by rw [seats, List.getElem?_map, hg]; rfl
    have hi' : (seats w)[g']? = some r.seat := by
      rw [seats, List.getElem?_map, hr', Option.map_some, hseat]
    obtain ⟨hlt, -⟩ := List.getElem?_eq_some_iff.mp hi
    exact congrArg some (((List.getElem?_inj hlt hw).mp (hi.trans hi'.symm)).symm)

/-- **Deleting a record** with one record for each seat: the slots in front of it stay, the others
move up by one. -/
theorem greeters_greeterDel {w : World} (hw : (seats w).Nodup) {g : ℕ} {r : SeatGreeter}
    (hg : w.greeters[g]? = some r) : (greeterDel r.seat w).greeters = w.greeters.eraseIdx g := by
  have h : w.greeters.findIdx? (fun r' => r'.seat == r.seat) = some g :=
    greeterSearch_of_nodup hw hg
  rw [greeterDel]
  dsimp only
  rw [List.eraseP_eq_eraseIdx, h]

theorem nodup_greeterAdd {w : World} (hw : (seats w).Nodup) {seat : String}
    (h : greeterSearch seat w = none) : (seats (greeterAdd seat w)).Nodup := by
  rw [seats_greeterAdd]
  refine List.nodup_append.mpr ⟨hw, by simp, fun s hs s' hs' => ?_⟩
  rw [List.mem_singleton.mp hs']
  obtain ⟨r, hr, rfl⟩ := List.mem_map.mp hs
  exact greeterSearch_eq_none.mp h r hr

theorem nodup_greeterDel {w : World} (hw : (seats w).Nodup) {g : ℕ} {r : SeatGreeter}
    (hg : w.greeters[g]? = some r) : (seats (greeterDel r.seat w)).Nodup := by
  rw [seats, greeters_greeterDel hw hg, ← List.eraseIdx_map]
  exact hw.eraseIdx g

theorem getElem?_greeterDel {w : World} (hw : (seats w).Nodup) {g : ℕ} {r : SeatGreeter}
    (hg : w.greeters[g]? = some r) {g' : ℕ} (h : g' < g) :
    (greeterDel r.seat w).greeters[g']? = w.greeters[g']? := by
  rw [greeters_greeterDel hw hg, List.getElem?_eraseIdx_of_lt h]

end Spawny.Daemon.GreeterTable
