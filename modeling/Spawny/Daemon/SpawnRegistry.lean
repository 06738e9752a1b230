import Spawny.Lib.Tombstones
import Mathlib.Data.Int.Notation

/-! # spawnregistery.c: the processes waited for

The table of listeners for the end of a process. `spawnregistery_eval` walks it by index while the
handlers it calls add and remove listeners; during the walk a removed entry is only zeroed, and the
zeroed entries are taken out afterwards.

* `cleanup_eq_filter`: `_spawnregistery_cleanup` leaves the live entries;
* `mem_live_listen`, `mem_live_unlisten`: the live entries after an operation;
* `unlisten_of_notMem`: removing a listener that is not there changes nothing. -/

namespace Spawny.Daemon.SpawnRegistry

open Spawny.Lib.Tombstones

/-- `Waiting`: a handler with its data, `none` once zeroed, and the process. -/
structure Waiting (η : Type*) where
  pid : ℤ
  handler : Option η
  deriving DecidableEq, Repr

/-- The static variables of `spawnregistery.c`. -/
structure Registry (η : Type*) where
  pending : List (Waiting η)
  evalMode : Bool
  deriving DecidableEq, Repr

variable {η : Type*}

/-- An entry that is not zeroed. -/
def Waiting.alive (w : Waiting η) : Bool := w.handler.isSome

/-- `spawnregistery_listen`. -/
def Registry.listen (pid : ℤ) (handler : η) (r : Registry η) : Registry η :=
  { r with pending := r.pending ++ [⟨pid, some handler⟩] }

/-- `_spawnregistery_cleanup_step`: `none` if there was nothing to take out. -/
def cleanupStep (l : List (Waiting η)) : Option (List (Waiting η)) :=
  if l.all Waiting.alive then none else some (dropDead Waiting.alive l)

/-- `n` rounds of the loop of `_spawnregistery_cleanup`. -/
def cleanupRounds : ℕ → List (Waiting η) → List (Waiting η)
  | 0, l => l
  | n + 1, l =>
    match cleanupStep l with
    | none => l
    | some l' => cleanupRounds n l'

/-- `_spawnregistery_cleanup`: each round but the last takes out one entry. -/
def cleanup (l : List (Waiting η)) : List (Waiting η) := cleanupRounds l.length l

/-- `spawnregistery_unlisten`: equal entries are zeroed, and taken out unless `eval` is walking. -/
def Registry.unlisten [DecidableEq η] (pid : ℤ) (handler : η) (r : Registry η) : Registry η :=
  let pending := kill (fun w => decide (w = ⟨pid, some handler⟩)) (fun _ => ⟨0, none⟩) r.pending
  if r.evalMode then { r with pending := pending } else { r with pending := cleanup pending }

/-- **Cleaning up** leaves the live entries in their order. -/
theorem cleanup_eq_filter (l : List (Waiting η)) : cleanup l = l.filter Waiting.alive := by
  suffices h : ∀ (n : ℕ) (l : List (Waiting η)), l.length ≤ n →
      cleanupRounds n l = l.filter Waiting.alive from h _ l (Nat.le_refl _)
  intro n
  induction n with
  | zero =>
    intro l hl
    rw [List.length_eq_zero_iff.mp (Nat.le_zero.mp hl)]
    rfl
  | succ n ih =>
    intro l hl
    unfold cleanupRounds cleanupStep
    by_cases hall : l.all Waiting.alive = true
    · rw [if_pos hall]
      exact (List.filter_eq_self.mpr (List.all_eq_true.mp hall)).symm
    · rw [if_neg hall]
      obtain ⟨w, hw, hdead⟩ : ∃ w ∈ l, w.alive = false := by simpa using hall
      have hlen := length_dropDead hw hdead
      rw [← filter_dropDead]
      exact ih _ (by omega)

/-- The live listeners, in the order they were registered. -/
def Registry.live (r : Registry η) : List (Waiting η) := r.pending.filter Waiting.alive

theorem Registry.mem_live {r : Registry η} {w : Waiting η} :
    w ∈ r.live ↔ w ∈ r.pending ∧ w.alive = true := List.mem_filter

@[simp] theorem Registry.evalMode_unlisten [DecidableEq η] (pid : ℤ) (h : η) (r : Registry η) :
    (r.unlisten pid h).evalMode = r.evalMode := by
  unfold unlisten
  split <;> rfl

@[simp] theorem Registry.live_listen (pid : ℤ) (h : η) (r : Registry η) :
    (r.listen pid h).live = r.live ++ [⟨pid, some h⟩] := by
  simp [live, listen, Waiting.alive, List.filter_append]

/-- The end of a walk takes out dead entries only. -/
theorem Registry.live_cleanup (r : Registry η) (b : Bool) :
    Registry.live { pending := cleanup r.pending, evalMode := b } = r.live := by
  rw [live, cleanup_eq_filter, List.filter_filter]
  simp [live]

/-- **Unlistening** removes the equal listeners, during a walk or outside of one. -/
@[simp] theorem Registry.live_unlisten [DecidableEq η] (pid : ℤ) (h : η) (r : Registry η) :
    (r.unlisten pid h).live = r.live.filter fun w => !decide (w = ⟨pid, some h⟩) := by
  have hdead : ∀ _ : Waiting η, Waiting.alive (⟨0, none⟩ : Waiting η) = false := fun _ => rfl
  unfold live unlisten
  split_ifs
  · exact filter_kill hdead r.pending
  · exact (live_cleanup ⟨_, r.evalMode⟩ _).trans (filter_kill hdead r.pending)

theorem Registry.mem_live_unlisten [DecidableEq η] {pid : ℤ} {h : η} {r : Registry η}
    {w : Waiting η} : w ∈ (r.unlisten pid h).live ↔ w ∈ r.live ∧ w ≠ ⟨pid, some h⟩ := by simp

/-- During a walk an entry that is removed is zeroed. -/
theorem Registry.getElem?_unlisten_eq [DecidableEq η] {pid : ℤ} {h : η} {r : Registry η}
    (hr : r.evalMode = true) (i : ℕ) : (r.unlisten pid h).pending[i]? =
      (r.pending[i]?).map fun w => if w = ⟨pid, some h⟩ then ⟨0, none⟩ else w := by
  unfold unlisten
  rw [if_pos hr]
  simp [getElem?_kill]

/-- During a walk the entries keep their places. -/
theorem Registry.getElem?_unlisten [DecidableEq η] {pid : ℤ} {h : η} {r : Registry η}
    (hr : r.evalMode = true) {w : Waiting η} (hw : w ≠ ⟨pid, some h⟩) {i : ℕ}
    (hi : r.pending[i]? = some w) : (r.unlisten pid h).pending[i]? = some w := by
  rw [getElem?_unlisten_eq hr, hi, Option.map_some, if_neg hw]

/-- Outside a walk the table has no zeroed entry, and removing a listener that is not there
changes nothing; during a walk it never does. -/
theorem Registry.unlisten_of_notMem [DecidableEq η] {pid : ℤ} {h : η} {r : Registry η}
    (hclean : r.evalMode = false → ∀ w ∈ r.pending, w.alive = true)
    (hnot : ⟨pid, some h⟩ ∉ r.pending) : r.unlisten pid h = r := by
  have hkill : kill (fun w => decide (w = ⟨pid, some h⟩)) (fun _ => ⟨0, none⟩) r.pending =
      r.pending := by
    refine kill_eq_self fun w hw => ?_
    simp only [decide_eq_false_iff_not]
    rintro rfl
    exact hnot hw
  unfold unlisten
  rw [hkill]
  split_ifs with he
  · rfl
  · dsimp only
    rw [cleanup_eq_filter, List.filter_eq_self.mpr (hclean (by simpa using he))]

end Spawny.Daemon.SpawnRegistry
