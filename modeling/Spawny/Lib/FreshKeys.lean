import Mathlib.Data.List.Nodup
import Mathlib.Tactic.Common
import Spawny.Lib.History

/-! # Maps with fresh keys

A map that keeps its bindings in the order of insertion and never gives out a key twice, not even
after the binding was erased. `Replays l m` says that the operations `l` have led from the empty map
to `m`.

* `get?_insert`, `get?_erase`: the map laws;
* `Replays.get?_iff`: a key is bound to what was inserted under it, until it is erased;
* `Replays.keys_eq`: the keys are those inserted and not erased since, in the order of insertion. -/

namespace Spawny.Lib.FreshKeys

open Spawny.Lib.History

variable {κ α : Type*}

/-- **A map with fresh keys**: the keys given out so far, and the bindings that are left. -/
structure FreshMap (κ α : Type*) where
  issued : List κ
  bindings : List (κ × α)
  nodup : issued.Nodup
  sublist : (bindings.map Prod.fst).Sublist issued

/-- What is done to the map. -/
inductive Op (κ α : Type*)
  | insert (k : κ) (a : α)
  | erase (k : κ)
  deriving DecidableEq, Repr

def Op.erases [DecidableEq κ] (k : κ) : Op κ α → Bool
  | insert _ _ => false
  | erase k' => decide (k' = k)

namespace FreshMap

def empty : FreshMap κ α := ⟨[], [], List.nodup_nil, List.Sublist.slnil⟩

/-- A binding for a key that was never given out. -/
def insert (m : FreshMap κ α) (k : κ) (a : α) (hk : k ∉ m.issued) : FreshMap κ α where
  issued := m.issued ++ [k]
  bindings := m.bindings ++ [(k, a)]
  nodup := by
    rw [List.nodup_append]
    refine ⟨m.nodup, List.nodup_singleton k, ?_⟩
    intro x hx y hy hxy
    rw [List.mem_singleton.mp hy] at hxy
    exact hk (hxy ▸ hx)
  sublist := by
    rw [List.map_append]
    exact m.sublist.append (List.Sublist.refl _)

def keys (m : FreshMap κ α) : List κ := m.bindings.map Prod.fst

variable [DecidableEq κ]

def erase (m : FreshMap κ α) (k : κ) : FreshMap κ α where
  issued := m.issued
  bindings := m.bindings.filter fun b => b.1 ≠ k
  nodup := m.nodup
  sublist := (List.filter_sublist.map Prod.fst).trans m.sublist

def get? (m : FreshMap κ α) (k : κ) : Option α := (m.bindings.find? fun b => b.1 = k).map Prod.snd

omit [DecidableEq κ] in
theorem keys_nodup (m : FreshMap κ α) : m.keys.Nodup := m.sublist.nodup m.nodup

omit [DecidableEq κ] in
/-- A key that was never given out has no binding. -/
theorem notMem_keys (m : FreshMap κ α) {k : κ} (hk : k ∉ m.issued) : k ∉ m.keys :=
  fun h => hk (m.sublist.subset h)

theorem get?_eq_some {m : FreshMap κ α} {k : κ} {a : α} :
    m.get? k = some a ↔ (k, a) ∈ m.bindings := by
  unfold get?
  constructor
  · intro h
    obtain ⟨b, hb, rfl⟩ := Option.map_eq_some_iff.mp h
    have hk : b.1 = k := by simpa using List.find?_some hb
    rw [← hk]
    exact List.mem_of_find?_eq_some hb
  · intro hmem
    obtain ⟨b, hb⟩ : ∃ b, (m.bindings.find? fun b => b.1 = k) = some b := by
      rw [← Option.isSome_iff_exists, List.find?_isSome]
      exact ⟨(k, a), hmem, by simp⟩
    have hk : b.1 = k := by simpa using List.find?_some hb
    have heq : b = (k, a) := List.inj_on_of_nodup_map m.keys_nodup
      (List.mem_of_find?_eq_some hb) hmem hk
    rw [hb, heq, Option.map_some]

theorem get?_eq_none {m : FreshMap κ α} {k : κ} : m.get? k = none ↔ k ∉ m.keys := by
  unfold get? keys
  rw [Option.map_eq_none_iff, List.find?_eq_none]
  constructor
  · intro h hmem
    obtain ⟨b, hb, rfl⟩ := List.mem_map.mp hmem
    simpa using h b hb
  · intro h b hb heq
    have hk : b.1 = k := by simpa using heq
    exact h (List.mem_map.mpr ⟨b, hb, hk⟩)

/-- **Inserting** binds the new key and no other. -/
theorem get?_insert (m : FreshMap κ α) {k : κ} (a : α) (hk : k ∉ m.issued) (k' : κ) :
    (m.insert k a hk).get? k' = if k' = k then some a else m.get? k' := by
  split_ifs with h
  · rw [get?_eq_some, h]
    exact List.mem_append_right _ (List.mem_singleton_self _)
  · refine Option.ext fun b => ?_
    rw [get?_eq_some, get?_eq_some, insert, List.mem_append, List.mem_singleton]
    constructor
    · rintro (hb | hb)
      · exact hb
      · exact absurd (Prod.mk.inj hb).1 h
    · exact Or.inl

/-- **Erasing** unbinds the key and no other. -/
theorem get?_erase (m : FreshMap κ α) (k k' : κ) :
    (m.erase k).get? k' = if k' = k then none else m.get? k' := by
  split_ifs with h
  · rw [get?_eq_none, h]
    simp [keys, erase]
  · refine Option.ext fun b => ?_
    rw [get?_eq_some, get?_eq_some, erase, List.mem_filter]
    simp [h]

omit [DecidableEq κ] in
theorem keys_insert (m : FreshMap κ α) {k : κ} (a : α) (hk : k ∉ m.issued) :
    (m.insert k a hk).keys = m.keys ++ [k] := by simp [keys, insert]

theorem keys_erase (m : FreshMap κ α) (k : κ) :
    (m.erase k).keys = m.keys.filter fun k' => k' ≠ k := by
  rw [keys, keys, erase, List.filter_map]
  rfl

end FreshMap

/-! ### Histories -/

variable [DecidableEq κ]

/-- The operations, the last one at the end, that have led to a map. -/
inductive Replays : List (Op κ α) → FreshMap κ α → Prop
  | nil : Replays [] FreshMap.empty
  | insert {l : List (Op κ α)} {m : FreshMap κ α} {k : κ} {a : α} (h : Replays l m)
    (hk : k ∉ m.issued) : Replays (l ++ [.insert k a]) (m.insert k a hk)
  | erase {l : List (Op κ α)} {m : FreshMap κ α} (h : Replays l m) (k : κ) :
    Replays (l ++ [.erase k]) (m.erase k)

/-- The keys that were given out, in their order. -/
def inserted (l : List (Op κ α)) : List κ := l.filterMap fun o =>
  match o with
  | .insert k _ => some k
  | .erase _ => none

/-- The keys that were given out and not erased since. -/
def kept : List (Op κ α) → List κ
  | [] => []
  | .insert k _ :: l => if l.any (Op.erases k) then kept l else k :: kept l
  | .erase _ :: l => kept l

theorem Replays.issued_eq {l : List (Op κ α)} {m : FreshMap κ α} (h : Replays l m) :
    m.issued = inserted l := by
  induction h with
  | nil => rfl
  | insert _ hk ih => simpa [inserted, FreshMap.insert] using ih
  | erase _ k ih => simpa [inserted, FreshMap.erase] using ih

/-- **What a key is bound to**: what was inserted under it, until it is erased. -/
theorem Replays.get?_iff {l : List (Op κ α)} {m : FreshMap κ α} (h : Replays l m) (k : κ) (a : α) :
    m.get? k = some a ↔ ∃ pre post, l = pre ++ .insert k a :: post ∧ .erase k ∉ post := by
  induction h with
  | nil => simp [FreshMap.empty, FreshMap.get?]
  | @insert l m k' a' h hk ih =>
    rw [FreshMap.get?_insert]
    constructor
    · intro hget
      split_ifs at hget with heq
      · obtain rfl := Option.some.inj hget
        exact ⟨l, [], by rw [heq], List.not_mem_nil⟩
      · obtain ⟨pre, post, rfl, hno⟩ := ih.mp hget
        exact ⟨pre, post ++ [.insert k' a'], by simp, by simpa using hno⟩
    · rintro ⟨pre, post, hl, hno⟩
      rcases concat_eq_append_cons.mp hl with ⟨-, ho, -⟩ | ⟨post', rfl, rfl⟩
      · obtain ⟨rfl, rfl⟩ := Op.insert.inj ho
        rw [if_pos rfl]
      · have hget := ih.mpr ⟨pre, post', rfl, fun hmem => hno (List.mem_append_left _ hmem)⟩
        have hne : k ≠ k' := by
          rintro rfl
          exact m.notMem_keys hk (List.mem_map.mpr ⟨_, FreshMap.get?_eq_some.mp hget, rfl⟩)
        rw [if_neg hne, hget]
  | @erase l m h k' ih =>
    rw [FreshMap.get?_erase]
    constructor
    · intro hget
      split_ifs at hget with heq
      obtain ⟨pre, post, rfl, hno⟩ := ih.mp hget
      refine ⟨pre, post ++ [.erase k'], by simp, ?_⟩
      simpa using ⟨hno, heq⟩
    · rintro ⟨pre, post, hl, hno⟩
      rcases concat_eq_append_cons.mp hl with ⟨-, ho, -⟩ | ⟨post', rfl, rfl⟩
      · cases ho
      · have hne : k ≠ k' := by
          rintro rfl
          exact hno (List.mem_append_right _ (List.mem_singleton_self _))
        rw [if_neg hne]
        exact ih.mpr ⟨pre, post', rfl, fun hmem => hno (List.mem_append_left _ hmem)⟩

theorem kept_append_insert (l : List (Op κ α)) (k : κ) (a : α) :
    kept (l ++ [.insert k a]) = kept l ++ [k] := by
  induction l with
  | nil => simp [kept]
  | cons o l ih =>
    cases o with
    | insert k' a' =>
      have hany : (l ++ [Op.insert k a]).any (Op.erases k') = l.any (Op.erases k') := by
        simp [Op.erases]
      rw [List.cons_append, kept, kept, ih, hany]
      split_ifs <;> rfl
    | erase k' =>
      rw [List.cons_append, kept, kept, ih]

theorem kept_append_erase (l : List (Op κ α)) (k : κ) :
    kept (l ++ [.erase k]) = (kept l).filter fun k' => k' ≠ k := by
  induction l with
  | nil => simp [kept]
  | cons o l ih =>
    cases o with
    | insert k' a' =>
      have hany : (l ++ [Op.erase k]).any (Op.erases k') =
          (l.any (Op.erases k') || decide (k = k')) := by
        simp [Op.erases]
      rw [List.cons_append, kept, kept, ih, hany]
      rcases Bool.eq_false_or_eq_true (l.any (Op.erases k')) with hl | hl
      · rw [hl, Bool.true_or, if_pos rfl, if_pos rfl]
      · rw [hl, Bool.false_or]
        by_cases hk : k = k'
        · simp [hk]
        · simp [hk, Ne.symm hk]
    | erase k' =>
      rw [List.cons_append, kept, kept, ih]

/-- **The keys of the map**, in the order of insertion. -/
theorem Replays.keys_eq {l : List (Op κ α)} {m : FreshMap κ α} (h : Replays l m) :
    m.keys = kept l := by
  induction h with
  | nil => rfl
  | insert _ hk ih => rw [FreshMap.keys_insert, kept_append_insert, ih]
  | erase _ k ih => rw [FreshMap.keys_erase, kept_append_erase, ih]

end Spawny.Lib.FreshKeys
