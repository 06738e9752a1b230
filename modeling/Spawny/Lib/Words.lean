import Mathlib.Data.List.TakeWhile
import Mathlib.Tactic.Common

/-! # Words

The words of a list are its maximal runs without a separator: the components of a path, the tokens
of `strtok`, what `scanf` reads with `%s`.

* `words_append_cons`: a separator divides the words;
* `words_append_word`: a last word behind a separator;
* `nextWord_eq_none_iff`, `words_of_nextWord`: **reading one word after the other** gives the words;
  `wordTails` has what is behind each. -/

namespace Spawny.Lib.Words

variable {α : Type*} {sep : α → Bool}

def words (sep : α → Bool) (l : List α) : List (List α) :=
  (l.splitOnP sep).filter fun w => !w.isEmpty

/-- Separators are skipped, and a word is taken; what is behind it follows. -/
def nextWord (sep : α → Bool) (l : List α) : Option (List α × List α) :=
  let l := l.dropWhile sep
  if l.isEmpty then none
  else some (l.takeWhile fun a => !sep a, l.dropWhile fun a => !sep a)

@[simp] theorem words_nil : words sep [] = [] := by simp [words]

/-- **A separator divides the words.** -/
theorem words_append_cons {a : α} (ha : sep a = true) (l r : List α) :
    words sep (l ++ a :: r) = words sep l ++ words sep r := by
  rw [words, List.splitOnP_append_cons _ _ ha, List.filter_append]
  rfl

theorem words_cons {a : α} (ha : sep a = true) (l : List α) : words sep (a :: l) = words sep l := by
  have h := words_append_cons ha [] l
  rw [words_nil] at h
  exact h

theorem words_eq_singleton {w : List α} (hne : w ≠ []) (hw : ∀ a ∈ w, sep a = false) :
    words sep w = [w] := by
  rw [words, List.splitOnP_eq_singleton hw]
  simp [hne]

/-- Separators at the end add nothing. -/
theorem words_append_seps (l : List α) :
    ∀ s : List α, (∀ a ∈ s, sep a = true) → words sep (l ++ s) = words sep l
  | [], _ => by rw [List.append_nil]
  | a :: s, h => by
    have ha := h a List.mem_cons_self
    have hs := words_append_seps [] s fun b hb => h b (List.mem_cons_of_mem a hb)
    rw [List.nil_append, words_nil] at hs
    rw [words_append_cons ha, hs, List.append_nil]

theorem words_of_seps {s : List α} (h : ∀ a ∈ s, sep a = true) : words sep s = [] := by
  have hs := words_append_seps [] s h
  rw [words_nil] at hs
  exact hs

/-- **A last word**, behind at least one separator. -/
theorem words_append_word {l s w : List α} (hs : ∀ a ∈ s, sep a = true) (hne : s ≠ [])
    (hw : ∀ a ∈ w, sep a = false) (hwne : w ≠ []) :
    words sep (l ++ s ++ w) = words sep l ++ [w] := by
  obtain ⟨s', a, rfl⟩ : ∃ s' a, s = s' ++ [a] := ⟨_, _, (List.dropLast_concat_getLast hne).symm⟩
  have ha := hs a (by simp)
  have hs' : ∀ b ∈ s', sep b = true := fun b hb => hs b (by simp [hb])
  have happend : l ++ (s' ++ [a]) ++ w = (l ++ s') ++ a :: w := by simp
  rw [happend, words_append_cons ha, words_append_seps l s' hs', words_eq_singleton hwne hw]

theorem mem_splitOnP {w : List α} :
    ∀ {l : List α}, w ∈ l.splitOnP sep → ∀ a ∈ w, sep a = false := by
  intro l
  induction l generalizing w with
  | nil =>
    intro hw a ha
    rw [List.splitOnP_nil, List.mem_singleton] at hw
    rw [hw] at ha
    exact absurd ha List.not_mem_nil
  | cons b l ih =>
    intro hw a ha
    rw [List.splitOnP_cons_eq_if_modifyHead] at hw
    split_ifs at hw with hb
    · rcases List.mem_cons.mp hw with rfl | hw
      · exact absurd ha List.not_mem_nil
      · exact ih hw a ha
    · -- `b` stands in front of the first run
      obtain ⟨u, us, hl⟩ := List.exists_cons_of_ne_nil (List.splitOnP_ne_nil sep l)
      rw [hl, List.modifyHead_cons] at hw
      rcases List.mem_cons.mp hw with rfl | hw
      · rcases List.mem_cons.mp ha with rfl | ha
        · simpa using hb
        · exact ih (hl ▸ List.mem_cons_self) a ha
      · exact ih (hl ▸ List.mem_cons_of_mem u hw) a ha

/-- A word is not empty, and there is no separator in it. -/
theorem mem_words {w l : List α} (h : w ∈ words sep l) : w ≠ [] ∧ ∀ a ∈ w, sep a = false := by
  obtain ⟨hmem, hne⟩ := List.mem_filter.mp h
  exact ⟨by simpa using hne, mem_splitOnP hmem⟩

/-! ### One word after the other -/

theorem words_dropWhile : ∀ l : List α, words sep (l.dropWhile sep) = words sep l
  | [] => rfl
  | a :: l => by
    by_cases ha : sep a = true
    · rw [List.dropWhile_cons_of_pos ha, words_dropWhile l, words_cons ha]
    · rw [List.dropWhile_cons_of_neg ha]

/-- **Reading one word**: it is the first one, and the others are behind it. -/
theorem words_of_nextWord {l w r : List α} (h : nextWord sep l = some (w, r)) :
    words sep l = w :: words sep r := by
  unfold nextWord at h
  dsimp only at h
  split_ifs at h with hempty
  obtain ⟨rfl, rfl⟩ := Prod.mk.inj (Option.some.inj h)
  have hnot : l.dropWhile sep ≠ [] := fun hnil => hempty (List.isEmpty_iff.mpr hnil)
  -- the first element behind the separators begins the word
  obtain ⟨a, t, hl⟩ := List.exists_cons_of_ne_nil hnot
  have ha : sep a = false := by
    have hhead := List.head_dropWhile_not sep hnot
    simp only [hl, List.head_cons] at hhead
    exact hhead
  have hwne : (l.dropWhile sep).takeWhile (fun a => !sep a) ≠ [] := by
    rw [hl, List.takeWhile_cons_of_pos (by rw [ha]; rfl)]
    exact List.cons_ne_nil _ _
  have hw : ∀ b ∈ (l.dropWhile sep).takeWhile fun a => !sep a, sep b = false := by
    intro b hb
    simpa using List.mem_takeWhile_imp hb
  rw [← words_dropWhile l]
  have hsplit := List.takeWhile_append_dropWhile (p := fun a => !sep a) (l := l.dropWhile sep)
  rcases hr : (l.dropWhile sep).dropWhile (fun a => !sep a) with _ | ⟨b, r⟩
  · rw [hr, List.append_nil] at hsplit
    rw [words_nil, ← words_eq_singleton hwne hw, hsplit]
  · have hne : (l.dropWhile sep).dropWhile (fun a => !sep a) ≠ [] := by rw [hr]; simp
    have hb : sep b = true := by
      have hhead := List.head_dropWhile_not (fun a => !sep a) hne
      simp only [hr, List.head_cons] at hhead
      simpa using hhead
    rw [hr] at hsplit
    rw [words_cons hb, ← List.singleton_append, ← words_eq_singleton hwne hw,
      ← words_append_cons hb, hsplit]

theorem nextWord_eq_none_iff {l : List α} : nextWord sep l = none ↔ words sep l = [] := by
  constructor
  · intro h
    unfold nextWord at h
    dsimp only at h
    split_ifs at h with hempty
    rw [← words_dropWhile, List.isEmpty_iff.mp hempty, words_nil]
  · intro h
    by_contra hne
    obtain ⟨⟨w, r⟩, hnext⟩ := Option.ne_none_iff_exists'.mp hne
    rw [words_of_nextWord hnext] at h
    exact List.cons_ne_nil _ _ h

/-- What is behind a word is shorter. -/
theorem length_lt_of_nextWord {l w r : List α} (h : nextWord sep l = some (w, r)) :
    r.length < l.length := by
  unfold nextWord at h
  dsimp only at h
  split_ifs at h with hempty
  obtain ⟨-, rfl⟩ := Prod.mk.inj (Option.some.inj h)
  have hnot : l.dropWhile sep ≠ [] := fun hnil => hempty (List.isEmpty_iff.mpr hnil)
  have hhead := List.head_dropWhile_not sep hnot
  obtain ⟨a, t, hl⟩ := List.exists_cons_of_ne_nil hnot
  simp only [hl, List.head_cons] at hhead
  have hlt : (l.dropWhile sep).length ≤ l.length := (List.dropWhile_sublist sep).length_le
  have hle : (t.dropWhile fun a => !sep a).length ≤ t.length :=
    (List.dropWhile_sublist _).length_le
  rw [hl, List.length_cons] at hlt
  rw [hl, List.dropWhile_cons_of_pos (by rw [hhead]; rfl)]
  omega

/-- The words, each with what is behind it. -/
def wordTails (sep : α → Bool) (l : List α) : List (List α × List α) :=
  match h : nextWord sep l with
  | none => []
  | some (w, r) =>
    have := length_lt_of_nextWord h
    (w, r) :: wordTails sep r
  termination_by l.length

theorem wordTails_of_none {l : List α} (h : nextWord sep l = none) : wordTails sep l = [] := by
  rw [wordTails]
  split
  · rfl
  · next h' => exact absurd (h.symm.trans h') (by simp)

theorem wordTails_of_some {l w r : List α} (h : nextWord sep l = some (w, r)) :
    wordTails sep l = (w, r) :: wordTails sep r := by
  rw [wordTails]
  split
  · next h' => exact absurd (h.symm.trans h') (by simp)
  · next h' =>
    obtain ⟨rfl, rfl⟩ := Prod.mk.inj (Option.some.inj (h.symm.trans h'))
    rfl

end Spawny.Lib.Words
