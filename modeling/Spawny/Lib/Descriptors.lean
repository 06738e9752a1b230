import Mathlib.Data.List.Basic
import Mathlib.Tactic.Common

/-! # Tables that hand out the lowest free number

A table of numbered slots, each free or holding an object: the descriptor table of a process. A new
object takes the lowest free number, so numbers are used again.

* `lookup_open_self`, `lookup_open_of_some`: opening changes the new number only;
* `lookup_lowestFree`: the new number was free;
* `lookup_close`, `lookup_foldl_close`: closing frees the numbers and changes no other;
* `lookup_close_open`: closing undoes opening. -/

namespace Spawny.Lib.Descriptors

variable {α : Type*}

/-- The object at the number `n`, if it is open. -/
def lookup (t : List (Option α)) (n : ℕ) : Option α := (t[n]?).join

/-- The lowest free number. -/
def lowestFree (t : List (Option α)) : ℕ := t.findIdx Option.isNone

/-- The table after opening `a` at the lowest free number. -/
def openSlot (t : List (Option α)) (a : α) : List (Option α) :=
  if lowestFree t < t.length then t.set (lowestFree t) (some a) else t ++ [some a]

/-- The table after closing the number `n`; nothing happens if `n` is not open. -/
def closeSlot (t : List (Option α)) (n : ℕ) : List (Option α) := t.set n none

theorem lookup_lowestFree (t : List (Option α)) : lookup t (lowestFree t) = none := by
  unfold lookup
  by_cases h : lowestFree t < t.length
  · have hnone : (t[lowestFree t]).isNone = true := List.findIdx_getElem (w := h)
    rw [List.getElem?_eq_getElem h, Option.join_some]
    exact Option.isNone_iff_eq_none.mp hnone
  · rw [List.getElem?_eq_none (Nat.not_lt.mp h)]
    rfl

/-- The lowest free number is known by the numbers in front of it. -/
theorem lowestFree_eq {t : List (Option α)} {n : ℕ} (hfree : lookup t n = none)
    (hopen : ∀ m, m < n → lookup t m ≠ none) : lowestFree t = n := by
  rcases Nat.lt_trichotomy (lowestFree t) n with hlt | heq | hgt
  · exact absurd (lookup_lowestFree t) (hopen _ hlt)
  · exact heq
  · have hlen : n < t.length := Nat.lt_of_lt_of_le hgt List.findIdx_le_length
    have hsome := List.not_of_lt_findIdx hgt
    have hnone : t[n] = none := by
      rw [lookup, List.getElem?_eq_getElem hlen, Option.join_some] at hfree
      exact hfree
    rw [hnone] at hsome
    simp at hsome

theorem lookup_open (t : List (Option α)) (a : α) (n : ℕ) :
    lookup (openSlot t a) n = if n = lowestFree t then some a else lookup t n := by
  unfold openSlot lookup
  have hle : lowestFree t ≤ t.length := List.findIdx_le_length
  split_ifs with h hn hn
  · subst hn
    rw [List.getElem?_set_self h]
    rfl
  · rw [List.getElem?_set_ne (Ne.symm hn)]
  · have hlen : n = t.length := by omega
    subst hlen
    rw [List.getElem?_concat_length]
    rfl
  · have hlen : n ≠ t.length := by omega
    rcases Nat.lt_or_ge n t.length with hlt | hge
    · rw [List.getElem?_append_left hlt]
    · rw [List.getElem?_eq_none (by simp; omega), List.getElem?_eq_none hge]

@[simp] theorem lookup_open_self (t : List (Option α)) (a : α) :
    lookup (openSlot t a) (lowestFree t) = some a := by rw [lookup_open, if_pos rfl]

/-- Objects that are open stay where they are. -/
theorem lookup_open_of_some {t : List (Option α)} {n : ℕ} {b : α} (h : lookup t n = some b)
    (a : α) : lookup (openSlot t a) n = some b := by
  rw [lookup_open, if_neg, h]
  rintro rfl
  rw [lookup_lowestFree] at h
  cases h

/-- What is open stays open. -/
theorem lookup_open_ne {t : List (Option α)} {n : ℕ} (h : lookup t n ≠ none) (a : α) :
    lookup (openSlot t a) n ≠ none := by
  obtain ⟨b, hb⟩ := Option.ne_none_iff_exists'.mp h
  rw [lookup_open_of_some hb]
  exact Option.some_ne_none b

theorem lookup_close (t : List (Option α)) (m n : ℕ) :
    lookup (closeSlot t m) n = if n = m then none else lookup t n := by
  unfold closeSlot lookup
  split_ifs with h
  · subst h
    rcases Nat.lt_or_ge n t.length with hlt | hge
    · rw [List.getElem?_set_self hlt]
      rfl
    · rw [List.getElem?_eq_none (by simpa using hge)]
      rfl
  · rw [List.getElem?_set_ne (Ne.symm h)]

theorem lookup_close_of_ne {t : List (Option α)} {m n : ℕ} (h : n ≠ m) :
    lookup (closeSlot t m) n = lookup t n := by rw [lookup_close, if_neg h]

/-- Some numbers are closed, one after another. -/
theorem lookup_foldl_close (n : ℕ) : ∀ (ms : List ℕ) (t : List (Option α)),
    lookup (ms.foldl closeSlot t) n = if n ∈ ms then none else lookup t n
  | [], t => by simp
  | m :: ms, t => by
    rw [List.foldl_cons, lookup_foldl_close n ms, lookup_close]
    by_cases hm : n = m <;> by_cases hms : n ∈ ms <;> simp [hm, hms]

/-- Closing the number that was opened last undoes it. -/
theorem lookup_close_open (t : List (Option α)) (a : α) (n : ℕ) :
    lookup (closeSlot (openSlot t a) (lowestFree t)) n = lookup t n := by
  rw [lookup_close]
  split_ifs with h
  · rw [h, lookup_lowestFree]
  · rw [lookup_open, if_neg h]

/-- Closing the number of one object leaves every other object open. -/
theorem lookup_close_of_some {t : List (Option α)} {m n : ℕ} {a b : α} (hm : lookup t m = some a)
    (hn : lookup t n = some b) (hab : a ≠ b) : lookup (closeSlot t m) n = some b := by
  rw [lookup_close, if_neg, hn]
  rintro rfl
  exact hab (Option.some.inj (hm.symm.trans hn))

end Spawny.Lib.Descriptors
