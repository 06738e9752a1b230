import Mathlib.Data.List.Nodup
import Mathlib.Tactic.Common

/-! # The first element that matches

A list that is searched from the front and edited in place: `find?` gives the first match,
`modifyFirst` changes it, and `upsert` changes it or adds an element behind the others.

* `find?_upsert`: the edited element is found;
* `find?_upsert_of_disjoint`: **other searches do not see the edit**;
* `modifyFirst_eq_self_iff`: the edit changes the list if and only if it changes the element. -/

namespace Spawny.Lib.FirstMatch

variable {α β : Type*}

/-- Edits the first element with `p`. -/
def modifyFirst (p : α → Bool) (f : α → α) : List α → List α
  | [] => []
  | a :: l => if p a then f a :: l else a :: modifyFirst p f l

theorem find?_modifyFirst {p : α → Bool} {f : α → α} :
    ∀ {l : List α} {a : α}, l.find? p = some a → p (f a) = true →
      (modifyFirst p f l).find? p = some (f a)
  | [], _, h, _ => by cases h
  | b :: l, a, h, hf => by
    rw [List.find?_cons] at h
    rw [modifyFirst]
    by_cases hb : p b
    · rw [hb] at h
      obtain rfl := Option.some.inj h
      rw [if_pos hb, List.find?_cons_of_pos hf]
    · simp only [hb] at h
      rw [if_neg hb, List.find?_cons_of_neg hb, find?_modifyFirst h hf]

/-- **Other searches do not see the edit.** -/
theorem find?_modifyFirst_of_disjoint {p q : α → Bool} {f : α → α}
    (hq : ∀ a, p a = true → q a = false ∧ q (f a) = false) :
    ∀ l : List α, (modifyFirst p f l).find? q = l.find? q
  | [] => rfl
  | b :: l => by
    rw [modifyFirst]
    split_ifs with hb
    · rw [List.find?_cons_of_neg (by simp [(hq b hb).2]),
        List.find?_cons_of_neg (by simp [(hq b hb).1])]
    · rw [List.find?_cons, List.find?_cons, find?_modifyFirst_of_disjoint hq l]

theorem filter_modifyFirst {p q : α → Bool} {f : α → α}
    (hq : ∀ a, p a = true → q a = false ∧ q (f a) = false) :
    ∀ l : List α, (modifyFirst p f l).filter q = l.filter q
  | [] => rfl
  | b :: l => by
    rw [modifyFirst]
    split_ifs with hb
    · rw [List.filter_cons_of_neg (by simp [(hq b hb).2]),
        List.filter_cons_of_neg (by simp [(hq b hb).1])]
    · rw [List.filter_cons, List.filter_cons, filter_modifyFirst hq l]

theorem map_modifyFirst {p : α → Bool} {f : α → α} {g : α → β}
    (hg : ∀ a, p a = true → g (f a) = g a) : ∀ l : List α, (modifyFirst p f l).map g = l.map g
  | [] => rfl
  | b :: l => by
    rw [modifyFirst]
    split_ifs with hb
    · rw [List.map_cons, List.map_cons, hg b hb]
    · rw [List.map_cons, List.map_cons, map_modifyFirst hg l]

theorem modifyFirst_eq_self_iff {p : α → Bool} {f : α → α} :
    ∀ {l : List α} {a : α}, l.find? p = some a → (modifyFirst p f l = l ↔ f a = a)
  | [], _, h => by cases h
  | b :: l, a, h => by
    rw [List.find?_cons] at h
    rw [modifyFirst]
    by_cases hb : p b
    · rw [hb] at h
      obtain rfl := Option.some.inj h
      rw [if_pos hb, List.cons.injEq, and_iff_left rfl]
    · simp only [hb] at h
      rw [if_neg hb, List.cons.injEq, and_iff_right rfl, modifyFirst_eq_self_iff h]

theorem mem_modifyFirst {p : α → Bool} {f : α → α} {c : α} :
    ∀ {l : List α}, c ∈ modifyFirst p f l → c ∈ l ∨ ∃ a ∈ l, p a = true ∧ c = f a
  | [], h => (List.not_mem_nil h).elim
  | b :: l, h => by
    rw [modifyFirst] at h
    split_ifs at h with hb
    · rcases List.mem_cons.mp h with rfl | h
      · exact Or.inr ⟨b, List.mem_cons_self, hb, rfl⟩
      · exact Or.inl (List.mem_cons_of_mem _ h)
    · rcases List.mem_cons.mp h with rfl | h
      · exact Or.inl List.mem_cons_self
      · exact (mem_modifyFirst h).imp (List.mem_cons_of_mem _)
          fun ⟨a, ha, hp⟩ => ⟨a, List.mem_cons_of_mem _ ha, hp⟩

/-- Edits the first element with `p`; if there is none, `new` is added. -/
def upsert (p : α → Bool) (f : α → α) (new : α) (l : List α) : List α :=
  match l.find? p with
  | none => l ++ [new]
  | some _ => modifyFirst p f l

theorem find?_upsert {p : α → Bool} {f : α → α} {new : α} (hf : ∀ a, p a = true → p (f a) = true)
    (hnew : p new = true) (l : List α) :
    (upsert p f new l).find? p = some ((l.find? p).elim new f) := by
  unfold upsert
  cases h : l.find? p with
  | none => rw [List.find?_append, h, Option.none_or, List.find?_cons_of_pos hnew, Option.elim_none]
  | some a => exact find?_modifyFirst h (hf a (List.find?_some h))

/-- **Other searches do not see the edit.** -/
theorem find?_upsert_of_disjoint {p q : α → Bool} {f : α → α} {new : α}
    (hq : ∀ a, p a = true → q a = false ∧ q (f a) = false) (hnew : q new = false) (l : List α) :
    (upsert p f new l).find? q = l.find? q := by
  unfold upsert
  cases l.find? p with
  | none =>
    rw [List.find?_append, List.find?_cons_of_neg (by simp [hnew]), List.find?_nil, Option.or_none]
  | some a => exact find?_modifyFirst_of_disjoint hq l

theorem filter_upsert {p q : α → Bool} {f : α → α} {new : α}
    (hq : ∀ a, p a = true → q a = false ∧ q (f a) = false) (hnew : q new = false) (l : List α) :
    (upsert p f new l).filter q = l.filter q := by
  unfold upsert
  cases l.find? p with
  | none =>
    rw [List.filter_append, List.filter_cons_of_neg (by simp [hnew]), List.filter_nil,
      List.append_nil]
  | some a => exact filter_modifyFirst hq l

theorem map_upsert {p : α → Bool} {f : α → α} {new : α} {g : α → β}
    (hg : ∀ a, p a = true → g (f a) = g a) (l : List α) :
    (upsert p f new l).map g = if (l.find? p).isSome then l.map g else l.map g ++ [g new] := by
  unfold upsert
  cases l.find? p with
  | none => exact List.map_append
  | some a => exact map_modifyFirst hg l

theorem mem_upsert {p : α → Bool} {f : α → α} {new c : α} {l : List α} (h : c ∈ upsert p f new l) :
    c ∈ l ∨ c = new ∨ ∃ a ∈ l, p a = true ∧ c = f a := by
  unfold upsert at h
  split at h
  · rcases List.mem_append.mp h with h | h
    · exact Or.inl h
    · exact Or.inr (Or.inl (List.mem_singleton.mp h))
  · exact (mem_modifyFirst h).imp_right Or.inr

/-- Keys stay distinct, when the key is what is searched for. -/
theorem nodup_map_upsert [DecidableEq β] {g : α → β} {k : β} {f : α → α} {new : α}
    (hg : ∀ a, g a = k → g (f a) = k) (hnew : g new = k) {l : List α} (h : (l.map g).Nodup) :
    ((upsert (fun a => g a = k) f new l).map g).Nodup := by
  rw [map_upsert fun a ha => by
    have hk : g a = k := by simpa using ha
    rw [hg a hk, hk]]
  split_ifs with hfind
  · exact h
  · rw [List.nodup_append_comm, List.singleton_append, List.nodup_cons]
    refine ⟨fun hmem => hfind ?_, h⟩
    obtain ⟨a, ha, hk⟩ := List.mem_map.mp hmem
    exact List.find?_isSome.mpr ⟨a, ha, by simpa [hnew] using hk⟩

end Spawny.Lib.FirstMatch
