import Mathlib.Data.List.Infix
import Mathlib.Tactic.Common

/-! # Histories

A history is the list of what has happened so far. `Holds ok` says that each item was all right when
it happened: `ok` sees the items before it.

* `holds_append`: an item at the end is checked against the history before it;
* `Holds.at`: what is known of an item anywhere in a history;
* `concat_eq_append_cons`: an item of a history that has grown by one is the new one or an old one;
* `append_cons_inj`: a history is cut at its last item of a kind in one way;
* `latest_concat`: the latest mark of a key, in a history of marked keys. -/

namespace Spawny.Lib.History

variable {ι : Type*}

/-- Every item was all right, given the items before it. -/
def Holds (ok : List ι → ι → Prop) (l : List ι) : Prop :=
  ∀ pre it, pre ++ [it] <+: l → ok pre it

variable {ok : List ι → ι → Prop}

theorem holds_nil : Holds ok [] := fun pre it h => by simp at h

/-- **Histories grow at the end.** -/
theorem holds_append {l : List ι} {it : ι} : Holds ok (l ++ [it]) ↔ Holds ok l ∧ ok l it := by
  constructor
  · intro h
    exact ⟨fun pre it' hpre => h pre it' (hpre.trans (List.prefix_append _ _)), h l it List.prefix_rfl⟩
  · rintro ⟨h, hit⟩ pre it' hpre
    rcases List.prefix_concat_iff.mp hpre with heq | hpre
    · obtain ⟨rfl, hit'⟩ := List.append_inj' heq rfl
      obtain rfl := List.singleton_inj.mp hit'
      exact hit
    · exact h pre it' hpre

theorem Holds.at {pre post : List ι} {it : ι} (h : Holds ok (pre ++ it :: post)) : ok pre it := by
  refine h pre it ⟨post, ?_⟩
  rw [List.append_assoc, List.singleton_append]

theorem Holds.of_append {l l' : List ι} (h : Holds ok (l ++ l')) : Holds ok l :=
  fun pre it hpre => h pre it (hpre.trans (List.prefix_append _ _))

/-- An item of a history that has grown by one. -/
theorem concat_eq_append_cons {l pre post : List ι} {it it' : ι} :
    l ++ [it] = pre ++ it' :: post ↔
      (pre = l ∧ it' = it ∧ post = []) ∨ ∃ post', post = post' ++ [it] ∧ l = pre ++ it' :: post' := by
  constructor
  · intro h
    rcases List.eq_nil_or_concat post with rfl | ⟨post', last, rfl⟩
    · obtain ⟨hl, hit⟩ := List.append_inj' h rfl
      exact Or.inl ⟨hl.symm, (List.singleton_inj.mp hit).symm, rfl⟩
    · rw [List.concat_eq_append, ← List.cons_append, ← List.append_assoc] at h
      obtain ⟨hl, hit⟩ := List.append_inj' h rfl
      obtain rfl := List.singleton_inj.mp hit
      exact Or.inr ⟨post', List.concat_eq_append, hl⟩
  · rintro (⟨rfl, rfl, rfl⟩ | ⟨post', rfl, rfl⟩)
    · rfl
    · simp

theorem append_cons_inj_aux {p : ι → Prop} {pre mid mid' : List ι} {a a' : ι} (ha' : p a')
    (hmid : ∀ x ∈ mid, ¬ p x) : ∀ t, pre ++ a :: mid = pre ++ t ++ a' :: mid' →
      t = [] ∧ a = a' ∧ mid = mid'
  | [], h => by
    rw [List.append_nil] at h
    exact ⟨rfl, List.cons.inj (List.append_cancel_left h)⟩
  | b :: t, h => by
    rw [List.append_assoc, List.cons_append] at h
    have hmem : a' ∈ mid := by
      rw [(List.cons.inj (List.append_cancel_left h)).2]
      simp
    exact absurd ha' (hmid a' hmem)

/-- **The last item of a kind** cuts a history in one way. -/
theorem append_cons_inj {p : ι → Prop} {pre pre' mid mid' : List ι} {a a' : ι} (ha : p a)
    (ha' : p a') (hmid : ∀ x ∈ mid, ¬ p x) (hmid' : ∀ x ∈ mid', ¬ p x)
    (h : pre ++ a :: mid = pre' ++ a' :: mid') : pre = pre' ∧ a = a' ∧ mid = mid' := by
  rcases List.append_eq_append_iff.mp h with ⟨t, rfl, -⟩ | ⟨t, rfl, -⟩
  · obtain ⟨rfl, haa', hmm'⟩ := append_cons_inj_aux ha' hmid t h
    exact ⟨(List.append_nil _).symm, haa', hmm'⟩
  · obtain ⟨rfl, haa', hmm'⟩ := append_cons_inj_aux ha hmid' t h.symm
    exact ⟨List.append_nil _, haa'.symm, hmm'.symm⟩

/-! ### Marked keys -/

variable {κ μ : Type*} [DecidableEq κ]

/-- The latest mark that the key has got. -/
def latest (k : κ) (l : List (κ × μ)) : Option μ :=
  (l.filterMap fun p => if p.1 = k then some p.2 else none).getLast?

@[simp] theorem latest_nil (k : κ) : latest k ([] : List (κ × μ)) = none := rfl

theorem latest_concat (k : κ) (l : List (κ × μ)) (p : κ × μ) :
    latest k (l ++ [p]) = if p.1 = k then some p.2 else latest k l := by
  unfold latest
  rw [List.filterMap_append]
  split_ifs with hk
  · simp [hk]
  · simp [hk]

end Spawny.Lib.History
