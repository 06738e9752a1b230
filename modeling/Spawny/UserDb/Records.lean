import Spawny.Lib.FirstMatch
import Mathlib.Data.List.Induction
import Mathlib.Tactic.Common

/-! # The records of the user database

The records in memory and the functions of `user_db.c` that work on them: a user has a name and an
array of pairs. A C string is the list of its bytes in front of the NUL.

* `fieldSet_fieldGet`, `fieldSet_fieldGet_ne`: what a lookup finds after an edit;
* `pairRemove_eq`: **what `_user_pair_remove` does**: it only works for the last pair. -/

namespace Spawny.UserDb.Records

open Spawny.Lib.FirstMatch

abbrev Str := List UInt8

/-- The bytes of a text in the source. -/
def ascii (s : String) : Str := s.toList.map fun c => c.toNat.toUInt8

structure Pair where
  name : Str
  value : Str
  deriving DecidableEq, Repr

structure User where
  name : Str
  additional : List Pair
  deriving DecidableEq, Repr

/-- `_user_pair_add`, and what the callers put into the new pair. -/
def User.pairAdd (u : User) (p : Pair) : User :=
  { u with additional := u.additional ++ [p] }

/-- `_user_find`. -/
def userFind (users : List User) (name : Str) : Option User :=
  users.find? fun u => u.name = name

/-- `_user_field_get`. -/
def User.fieldGet (u : User) (field : Str) : Option Pair :=
  u.additional.find? fun p => p.name = field

/-- The edit in `user_db_field_set`. -/
def User.fieldSet (u : User) (field value : Str) : User :=
  { u with
    additional :=
      upsert (fun p => p.name = field) (fun p => { p with value := value }) ⟨field, value⟩
        u.additional }

/-! ### Setting a field -/

theorem fieldSet_fieldGet (u : User) (field value : Str) :
    (u.fieldSet field value).fieldGet field = some ⟨field, value⟩ := by
  have hfind : (u.fieldSet field value).additional.find? (fun p => p.name = field) =
      some ((u.additional.find? fun p => p.name = field).elim ⟨field, value⟩
        fun p => { p with value := value }) := by
    have hset : ∀ p : Pair, decide (p.name = field) = true →
        decide (({ p with value := value } : Pair).name = field) = true := fun _ h => h
    have hnew : decide ((⟨field, value⟩ : Pair).name = field) = true := decide_eq_true rfl
    exact find?_upsert hset hnew u.additional
  refine hfind.trans ?_
  cases h : u.additional.find? (fun p => p.name = field) with
  | none => rfl
  | some p =>
    have hname : p.name = field := by simpa using List.find?_some h
    rw [Option.elim_some, hname]

theorem fieldSet_fieldGet_ne (u : User) {field other : Str} (value : Str) (hne : other ≠ field) :
    (u.fieldSet field value).fieldGet other = u.fieldGet other := by
  refine find?_upsert_of_disjoint (fun p hp => ?_) (by simp [hne.symm]) u.additional
  have hname : p.name = field := by simpa using hp
  simp [hname, hne.symm]

/-- The names keep their order, and a new one comes last. -/
theorem fieldSet_names (u : User) (field value : Str) :
    (u.fieldSet field value).additional.map Pair.name =
      if (u.fieldGet field).isSome then u.additional.map Pair.name
      else u.additional.map Pair.name ++ [field] :=
  map_upsert (f := fun p : Pair => { p with value := value }) (g := Pair.name) (fun _ _ => rfl)
    u.additional

/-- The other pairs stay where they are. -/
theorem fieldSet_filter (u : User) (field value : Str) :
    (u.fieldSet field value).additional.filter (fun p => p.name ≠ field) =
      u.additional.filter fun p => p.name ≠ field := by
  refine filter_upsert (fun p hp => ?_) (by simp) u.additional
  have hname : p.name = field := by simpa using hp
  simp [hname]

/-! ### _user_pair_remove -/

/-- One iteration of the loop, with the cells of the array and `swap`; `none` is a read behind the
array. -/
def removeStep (name : Str) (s : Option (List Pair × Bool)) (i : ℕ) : Option (List Pair × Bool) :=
  s.bind fun s =>
    if s.2 then s.1[i + 1]?.map fun p => (s.1.set i p, true)
    else s.1[i]?.map fun p => (s.1, p.name = name)

/-- `_user_pair_remove`. -/
def User.pairRemove (u : User) (name : Str) : Option User :=
  ((List.range u.additional.length).foldl (removeStep name) (some (u.additional, false))).map
    fun s => if s.2 then { u with additional := s.1.take (u.additional.length - 1) } else u

/-- The loop in front of the last iteration: it has found the name and shifts, or it has not. -/
theorem foldl_removeStep (name : Str) (cells : List Pair) : ∀ k, k ≤ cells.length →
    let s := (List.range k).foldl (removeStep name) (some (cells, false))
    if name ∈ (cells.take k).map Pair.name then
      s = none ∨ ∃ cells', cells'.length = cells.length ∧ s = some (cells', true)
    else s = some (cells, false)
  | 0, _ => rfl
  | k + 1, hk => by
    have ih := foldl_removeStep name cells k (by omega)
    have htake : cells.take (k + 1) = cells.take k ++ [cells[k]] :=
      List.take_succ_eq_append_getElem hk
    dsimp only at ih ⊢
    rw [List.range_succ, List.foldl_append, List.foldl_cons, List.foldl_nil, htake, List.map_append,
      List.map_singleton]
    simp only [List.mem_append, List.mem_singleton]
    split_ifs at ih with hin
    · rw [if_pos (Or.inl hin)]
      rcases ih with ih | ⟨cells', hlen, ih⟩
      · rw [ih]
        exact Or.inl rfl
      · rw [ih, removeStep, Option.bind_some, if_pos rfl]
        cases cells'[k + 1]? with
        | none => exact Or.inl rfl
        | some p => exact Or.inr ⟨cells'.set k p, by rw [List.length_set, hlen], rfl⟩
    · rw [ih, removeStep, Option.bind_some, if_neg Bool.false_ne_true, List.getElem?_eq_getElem hk,
        Option.map_some]
      by_cases hname : cells[k].name = name
      · rw [if_pos (Or.inr hname.symm)]
        exact Or.inr ⟨cells, rfl, by simp [hname]⟩
      · rw [if_neg (not_or.mpr ⟨hin, fun h => hname h.symm⟩)]
        simp [hname]

/-- **What `_user_pair_remove` does.** The cell of the name itself is never overwritten, and the
last iteration reads the cell behind the array. -/
theorem pairRemove_eq (u : User) (name : Str) :
    u.pairRemove name =
      if name ∈ u.additional.dropLast.map Pair.name then none
      else if u.additional.getLast?.map Pair.name = some name then
        some { u with additional := u.additional.dropLast }
      else some u := by
  obtain ⟨uname, cells⟩ := u
  induction cells using List.reverseRecOn with
  | nil => rfl
  | append_singleton cells p _ =>
    have hloop := foldl_removeStep name (cells ++ [p]) cells.length (by simp)
    have hlast : (cells ++ [p])[cells.length + 1]? = none := by simp
    dsimp only at hloop ⊢
    rw [List.take_left] at hloop
    rw [User.pairRemove, List.dropLast_concat, List.getLast?_concat, Option.map_some,
      List.length_append, List.length_singleton, List.range_succ, List.foldl_append,
      List.foldl_cons, List.foldl_nil]
    split_ifs at hloop ⊢ with hin hp
    · rcases hloop with h | ⟨cells', hlen, h⟩
      · rw [h]
        rfl
      · rw [h, removeStep, Option.bind_some, if_pos rfl, List.getElem?_eq_none (by simp [hlen])]
        rfl
    · rw [hloop]
      have hpname : p.name = name := Option.some.inj hp
      simp [removeStep, hpname]
    · rw [hloop]
      have hpname : p.name ≠ name := fun h => hp (congrArg some h)
      simp [removeStep, hpname]

end Spawny.UserDb.Records
