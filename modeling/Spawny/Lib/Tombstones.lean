import Mathlib.Data.List.Basic
import Mathlib.Logic.Function.Iterate
import Mathlib.Tactic.Common

/-! # Tables with tombstones

A table that is walked by index while its entries are removed: an entry is not taken out at once but
overwritten by a dead one (a tombstone), and the dead entries are taken out later. What such a table
stands for is the list of its live entries, `filter alive`.

* `filter_kill`: overwriting the entries with `p` removes them from the live ones;
* `filter_dropDead`, `filter_iterate_dropDead`: taking out dead entries changes nothing;
* `iterate_dropDead`: taking out as many as there are, or more, leaves the live ones. -/

namespace Spawny.Lib.Tombstones

variable {α : Type*} {alive : α → Bool}

/-- Overwrites every entry with `p` by `dead`. -/
def kill (p : α → Bool) (dead : α → α) (l : List α) : List α :=
  l.map fun a => if p a then dead a else a

/-- Takes out the first dead entry. -/
def dropDead (alive : α → Bool) (l : List α) : List α := l.eraseP fun a => !alive a

@[simp] theorem length_kill (p : α → Bool) (dead : α → α) (l : List α) :
    (kill p dead l).length = l.length := List.length_map _

theorem getElem?_kill (p : α → Bool) (dead : α → α) (l : List α) (i : ℕ) :
    (kill p dead l)[i]? = (l[i]?).map fun a => if p a then dead a else a := List.getElem?_map

theorem filter_kill {p : α → Bool} {dead : α → α} (hdead : ∀ a, alive (dead a) = false) :
    ∀ l : List α, (kill p dead l).filter alive = (l.filter alive).filter fun a => !p a
  | [] => rfl
  | a :: l => by
    have ih := filter_kill (p := p) hdead l
    unfold kill at ih ⊢
    rw [List.map_cons]
    cases hp : p a <;> cases ha : alive a <;> simp [hp, ha, hdead, ih]

theorem kill_eq_self {p : α → Bool} {dead : α → α} {l : List α} (h : ∀ a ∈ l, p a = false) :
    kill p dead l = l := by
  unfold kill
  refine (List.map_congr_left fun a ha => ?_).trans (List.map_id l)
  simp [h a ha]

theorem filter_dropDead : ∀ l : List α, (dropDead alive l).filter alive = l.filter alive
  | [] => rfl
  | a :: l => by
    have ih := filter_dropDead l
    unfold dropDead at ih ⊢
    rw [List.eraseP_cons]
    cases ha : alive a <;> simp [ha, ih]

theorem filter_iterate_dropDead (n : ℕ) (l : List α) :
    ((dropDead alive)^[n] l).filter alive = l.filter alive := by
  induction n generalizing l with
  | zero => rfl
  | succ n ih => rw [Function.iterate_succ_apply, ih, filter_dropDead]

/-- A dead entry shortens the table when it is taken out. -/
theorem length_dropDead {l : List α} {a : α} (h : a ∈ l) (ha : alive a = false) :
    (dropDead alive l).length + 1 = l.length := by
  have := List.length_eraseP_of_mem h (p := fun a => !alive a) (by simp [ha])
  have := List.length_pos_of_mem h
  unfold dropDead
  omega

/-- The number of dead entries. -/
def deadCount (alive : α → Bool) (l : List α) : ℕ := l.countP fun a => !alive a

variable (alive) in
/-- Overwriting makes at most as many entries dead as there were live ones with `p`. -/
theorem deadCount_kill_le (p : α → Bool) (dead : α → α) : ∀ l : List α,
    deadCount alive (kill p dead l) ≤ deadCount alive l + (l.filter alive).countP p
  | [] => Nat.le_refl _
  | a :: l => by
    have ih := deadCount_kill_le p dead l
    unfold deadCount kill at ih ⊢
    rw [List.map_cons, List.countP_cons, List.countP_cons]
    have hhead : (if (!alive (if p a then dead a else a)) = true then 1 else 0) ≤
        (if (!alive a) = true then 1 else 0) + [a].countP fun a => alive a && p a := by
      have hone : (if (!alive (dead a)) = true then 1 else 0) ≤ 1 := by
        split_ifs <;> omega
      cases hp : p a with
      | false => simp
      | true => cases ha : alive a <;> simpa [hp, ha] using hone
    have hfilter : ((a :: l).filter alive).countP p =
        ([a].countP fun a => alive a && p a) + (l.filter alive).countP p := by
      rw [List.countP_filter, List.countP_filter, ← List.singleton_append, List.countP_append]
      simp only [Bool.and_comm]
    omega

theorem deadCount_eq_zero {l : List α} : deadCount alive l = 0 ↔ ∀ a ∈ l, alive a = true := by
  simp [deadCount, List.countP_eq_zero]

theorem filter_of_deadCount {l : List α} (h : deadCount alive l = 0) : l.filter alive = l :=
  List.filter_eq_self.mpr (deadCount_eq_zero.mp h)

theorem deadCount_dropDead : ∀ l : List α,
    deadCount alive (dropDead alive l) = deadCount alive l - 1
  | [] => rfl
  | a :: l => by
    have ih := deadCount_dropDead l
    unfold deadCount dropDead at ih ⊢
    rw [List.eraseP_cons]
    cases ha : alive a <;> simp [ha, ih]

/-- **Taking out dead entries** often enough. -/
theorem iterate_dropDead {n : ℕ} {l : List α} (h : deadCount alive l ≤ n) :
    (dropDead alive)^[n] l = l.filter alive := by
  induction n generalizing l with
  | zero => exact (filter_of_deadCount (Nat.le_zero.mp h)).symm
  | succ n ih =>
    rw [Function.iterate_succ_apply, ih, filter_dropDead]
    rw [deadCount_dropDead]
    omega

end Spawny.Lib.Tombstones
