import Mathlib.Tactic.Common

/-! # Loops that may not end

A computation that takes fuel returns, if it gives a result with enough of it. A round of a loop
goes on with a new state, ends with a result, or is undefined.

* `returns_bind`: one computation behind another;
* `returns_of_next`, `returns_of_done`, `not_returns_of_undefined`: one round;
* `not_returns_of_invariant`: **a loop that always goes on does not return**;
* `exists_last`: the round in which a loop returns;
* `reaches_cons`: an element of a list behind elements that are passed over;
* `nextEvent_iff_of_next`: the first event of a loop whose rounds report some. -/

namespace Spawny.Lib.Loops

variable {σ ρ τ ε : Type*}

/-! ### Computations with fuel -/

/-- `f` gives the result `r` with some fuel. -/
def Returns (f : ℕ → Option ρ) (r : ρ) : Prop := ∃ n, f n = some r

/-- More fuel does not change a result. -/
def Stable (f : ℕ → Option ρ) : Prop := ∀ ⦃n m r⦄, n ≤ m → f n = some r → f m = some r

theorem Stable.unique {f : ℕ → Option ρ} (hf : Stable f) {r r' : ρ} (h : Returns f r)
    (h' : Returns f r') : r = r' := by
  obtain ⟨n, hn⟩ := h
  obtain ⟨m, hm⟩ := h'
  have hn' := hf (Nat.le_max_left n m) hn
  have hm' := hf (Nat.le_max_right n m) hm
  exact Option.some.inj (hn'.symm.trans hm')

theorem stable_const (r : Option ρ) : Stable fun _ => r := fun _ _ _ _ h => h

theorem returns_const {r : Option ρ} {r' : ρ} : Returns (fun _ => r) r' ↔ r = some r' :=
  ⟨fun ⟨_, h⟩ => h, fun h => ⟨0, h⟩⟩

theorem Stable.bind {f : ℕ → Option ρ} {g : ρ → ℕ → Option τ} (hf : Stable f)
    (hg : ∀ r, Stable (g r)) : Stable fun n => (f n).bind fun r => g r n := by
  intro n m t hle h
  obtain ⟨r, hr, ht⟩ := Option.bind_eq_some_iff.mp h
  exact Option.bind_eq_some_iff.mpr ⟨r, hf hle hr, hg r hle ht⟩

/-- **One behind the other**: both have to return. -/
theorem returns_bind {f : ℕ → Option ρ} {g : ρ → ℕ → Option τ} (hf : Stable f)
    (hg : ∀ r, Stable (g r)) {t : τ} :
    Returns (fun n => (f n).bind fun r => g r n) t ↔ ∃ r, Returns f r ∧ Returns (g r) t := by
  constructor
  · rintro ⟨n, h⟩
    obtain ⟨r, hr, ht⟩ := Option.bind_eq_some_iff.mp h
    exact ⟨r, ⟨n, hr⟩, ⟨n, ht⟩⟩
  · rintro ⟨r, ⟨n, hr⟩, ⟨m, ht⟩⟩
    refine ⟨max n m, Option.bind_eq_some_iff.mpr ⟨r, ?_, ?_⟩⟩
    · exact hf (Nat.le_max_left n m) hr
    · exact hg r (Nat.le_max_right n m) ht

theorem Stable.map {f : ℕ → Option ρ} (hf : Stable f) (g : ρ → τ) :
    Stable fun n => (f n).map g := by
  intro n m t hle h
  obtain ⟨r, hr, rfl⟩ := Option.map_eq_some_iff.mp h
  exact Option.map_eq_some_iff.mpr ⟨r, hf hle hr, rfl⟩

theorem exists_returns_map {f : ℕ → Option ρ} {g : ρ → τ} :
    (∃ t, Returns (fun n => (f n).map g) t) ↔ ∃ r, Returns f r := by
  constructor
  · rintro ⟨t, n, h⟩
    obtain ⟨r, hr, -⟩ := Option.map_eq_some_iff.mp h
    exact ⟨r, n, hr⟩
  · rintro ⟨r, n, h⟩
    exact ⟨g r, n, Option.map_eq_some_iff.mpr ⟨r, h, rfl⟩⟩

/-! ### Loops -/

variable {round : σ → Option (σ ⊕ ρ)} {s s' : σ}

/-- The rounds from `s` on. -/
def loop (round : σ → Option (σ ⊕ ρ)) (s : σ) : ℕ → Option ρ
  | 0 => none
  | n + 1 =>
    match round s with
    | none => none
    | some (.inl s') => loop round s' n
    | some (.inr r) => some r

theorem loop_next (h : round s = some (.inl s')) (n : ℕ) :
    loop round s (n + 1) = loop round s' n := by
  rw [loop, h]

theorem stable_loop (s : σ) : Stable (loop round s) := by
  intro n
  induction n generalizing s with
  | zero => exact fun _ _ _ h => absurd h (by simp [loop])
  | succ n ih =>
    intro m r hle h
    obtain ⟨m, rfl⟩ : ∃ k, m = k + 1 := ⟨m - 1, by omega⟩
    rw [loop] at h ⊢
    split at h
    · exact h
    · exact ih _ (by omega) h
    · exact h

theorem returns_of_next (h : round s = some (.inl s')) {r : ρ} :
    Returns (loop round s) r ↔ Returns (loop round s') r := by
  constructor
  · rintro ⟨n, hn⟩
    cases n with
    | zero => exact absurd hn (by simp [loop])
    | succ n => exact ⟨n, by rw [← hn, loop_next h]⟩
  · rintro ⟨n, hn⟩
    exact ⟨n + 1, by rw [loop_next h, hn]⟩

theorem returns_of_done {r r' : ρ} (h : round s = some (.inr r)) :
    Returns (loop round s) r' ↔ r' = r := by
  have hone : loop round s 1 = some r := by rw [loop, h]
  constructor
  · exact fun hr => (stable_loop s).unique hr ⟨1, hone⟩
  · rintro rfl
    exact ⟨1, hone⟩

theorem not_returns_of_undefined (h : round s = none) (r : ρ) : ¬ Returns (loop round s) r := by
  rintro ⟨n, hn⟩
  cases n with
  | zero => exact absurd hn (by simp [loop])
  | succ n => exact absurd hn (by simp [loop, h])

/-- **A loop that always goes on does not return**; neither does one that becomes undefined. -/
theorem not_returns_of_invariant {I : σ → Prop}
    (hI : ∀ s, I s → round s = none ∨ ∃ s', round s = some (.inl s') ∧ I s') (h : I s) (r : ρ) :
    ¬ Returns (loop round s) r := by
  rintro ⟨n, hn⟩
  induction n generalizing s with
  | zero => exact absurd hn (by simp [loop])
  | succ n ih =>
    rcases hI s h with hnone | ⟨s', hs', h'⟩
    · exact not_returns_of_undefined hnone r ⟨n + 1, hn⟩
    · exact ih h' (by rw [← hn, loop_next hs'])

/-- **The last round** of a loop that returns, with what the rounds before it preserve. -/
theorem exists_last {I : σ → Prop} (hI : ∀ s s', I s → round s = some (.inl s') → I s') (h : I s)
    {n : ℕ} {r : ρ} (hr : loop round s n = some r) : ∃ s', I s' ∧ round s' = some (.inr r) := by
  induction n generalizing s with
  | zero => cases hr
  | succ n ih =>
    rw [loop] at hr
    split at hr
    · cases hr
    · next s' hs' => exact ih (hI s s' h hs') hr
    · next r' hr' =>
      obtain rfl := Option.some.inj hr
      exact ⟨s, h, hr'⟩

/-! ### Elements one after the other -/

section Reaches

variable {α : Type*} {P : α → Prop} {Q : List α → α → List α → Prop}

/-- Behind elements with `P` there is one with `Q`, which may depend on those in front of it and on
those that follow. -/
def Reaches (P : α → Prop) (Q : List α → α → List α → Prop) (l : List α) : Prop :=
  ∃ before x after, l = before ++ x :: after ∧ (∀ v ∈ before, P v) ∧ Q before x after

theorem not_reaches_nil : ¬ Reaches P Q [] := by
  rintro ⟨before, x, after, h, -, -⟩
  exact absurd h (by simp)

theorem reaches_cons {a : α} {l : List α} :
    Reaches P Q (a :: l) ↔ Q [] a l ∨ P a ∧ Reaches P (fun before => Q (a :: before)) l := by
  constructor
  · rintro ⟨before, x, after, h, hP, hQ⟩
    rcases before with _ | ⟨b, before⟩
    · obtain ⟨rfl, rfl⟩ := List.cons.inj h
      exact Or.inl hQ
    · obtain ⟨rfl, rfl⟩ := List.cons.inj h
      exact Or.inr ⟨hP a List.mem_cons_self, before, x, after, rfl,
        fun v hv => hP v (List.mem_cons_of_mem a hv), hQ⟩
  · rintro (hQ | ⟨ha, before, x, after, rfl, hP, hQ⟩)
    · exact ⟨[], a, l, rfl, fun v hv => absurd hv List.not_mem_nil, hQ⟩
    · exact ⟨a :: before, x, after, rfl, List.forall_mem_cons.mpr ⟨ha, hP⟩, hQ⟩

end Reaches

/-! ### Events -/

variable {events : σ ⊕ ρ → List ε}

/-- The first event of the rounds from `s` on is `e`; `events` are those so far. -/
inductive NextEvent (round : σ → Option (σ ⊕ ρ)) (events : σ ⊕ ρ → List ε) : σ → ε → Prop
  | now {s x e es} : round s = some x → events x = events (.inl s) ++ e :: es →
      NextEvent round events s e
  | later {s s' e} : round s = some (.inl s') → events (.inl s') = events (.inl s) →
      NextEvent round events s' e → NextEvent round events s e

/-- A round without an event. -/
theorem nextEvent_iff_of_next (h : round s = some (.inl s'))
    (hnone : events (.inl s') = events (.inl s)) {e : ε} :
    NextEvent round events s e ↔ NextEvent round events s' e := by
  refine ⟨fun he => ?_, .later h hnone⟩
  cases he with
  | now hx hevents =>
    obtain rfl := Option.some.inj (h.symm.trans hx)
    rw [hnone] at hevents
    exact absurd hevents.symm (by simp)
  | later hs' _ hnext =>
    obtain rfl := Sum.inl.inj (Option.some.inj (h.symm.trans hs'))
    exact hnext

/-- A round with an event. -/
theorem nextEvent_iff_of_event {x : σ ⊕ ρ} {a : ε} {es : List ε} (h : round s = some x)
    (ha : events x = events (.inl s) ++ a :: es) {e : ε} :
    NextEvent round events s e ↔ e = a := by
  constructor
  · intro he
    cases he with
    | now hx hevents =>
      obtain rfl := Option.some.inj (h.symm.trans hx)
      rw [ha] at hevents
      have hcons := List.append_cancel_left hevents
      exact (List.cons.inj hcons).1.symm
    | later hs' hsame _ =>
      obtain rfl := Option.some.inj (h.symm.trans hs')
      rw [hsame] at ha
      exact absurd ha.symm (by simp)
  · rintro rfl
    exact .now h ha

end Spawny.Lib.Loops
