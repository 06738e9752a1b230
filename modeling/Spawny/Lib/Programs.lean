import Mathlib.Logic.Basic
import Mathlib.Tactic.Common

/-! # Programs that may stop

A program works on a state, one statement after the other, and any statement may stop it; what has been
done to the state until then stays done. `wp p Q E s` says that `p`, begun in `s`, ends in `Q` or is
stopped in `E`.

* `wp_bind`, `wp_stop`, `wp_change`, `wp_read`: the rules for the statements;
* `wp_mono`, `wp_and`: the rules for what is known afterwards;
* `wp_each`: **a program for each element of a list**;
* `Keeps`: what every statement keeps, stopped or not. -/

namespace Spawny.Lib.Programs

/-- A program over the states `σ` that returns an `α` or is stopped with an `ε`. -/
def Program (σ ε α : Type) : Type := σ → Except ε α × σ

variable {σ ε α β : Type}

instance : Monad (Program σ ε) where
  pure a := fun s => (.ok a, s)
  bind p f := fun s =>
    match p s with
    | (.ok a, s') => f a s'
    | (.error e, s') => (.error e, s')

/-- The program is stopped. -/
def stop (e : ε) : Program σ ε α := fun s => (.error e, s)

/-- The state is changed. -/
def change (f : σ → σ) : Program σ ε Unit := fun s => (.ok (), f s)

/-- Something of the state is looked at. -/
def read (f : σ → α) : Program σ ε α := fun s => (.ok (f s), s)

/-- The program is run for one element after the other. -/
def each (p : α → Program σ ε Unit) : List α → Program σ ε Unit
  | [] => pure ()
  | a :: as => do
    p a
    each p as

/-- **What a program leads to**, begun in `s`: it returns in `Q`, or it is stopped in `E`. -/
def wp (p : Program σ ε α) (Q : α → σ → Prop) (E : ε → σ → Prop) (s : σ) : Prop :=
  match p s with
  | (.ok a, s') => Q a s'
  | (.error e, s') => E e s'

variable {Q : α → σ → Prop} {E : ε → σ → Prop} {s : σ}

/-! ### The statements -/

@[simp] theorem wp_pure (a : α) : wp (pure a : Program σ ε α) Q E s ↔ Q a s := Iff.rfl

@[simp] theorem wp_stop (e : ε) : wp (stop e : Program σ ε α) Q E s ↔ E e s := Iff.rfl

@[simp] theorem wp_change (f : σ → σ) {Q : Unit → σ → Prop} :
    wp (change f : Program σ ε Unit) Q E s ↔ Q () (f s) := Iff.rfl

@[simp] theorem wp_read (f : σ → α) : wp (read f : Program σ ε α) Q E s ↔ Q (f s) s := Iff.rfl

@[simp] theorem wp_bind (p : Program σ ε α) (f : α → Program σ ε β) {Q : β → σ → Prop} :
    wp (p >>= f) Q E s ↔ wp p (fun a => wp (f a) Q E) E s := by
  unfold wp
  rcases h : p s with ⟨e | a, s'⟩
  · simp [bind, h]
  · simp [bind, h]

@[simp] theorem wp_ite (c : Prop) [Decidable c] (p q : Program σ ε α) :
    wp (if c then p else q) Q E s ↔ (c → wp p Q E s) ∧ (¬c → wp q Q E s) := by
  by_cases h : c
  · simp [h]
  · simp [h]

/-! ### What is known afterwards -/

theorem wp_mono {p : Program σ ε α} {Q' : α → σ → Prop} {E' : ε → σ → Prop} (h : wp p Q E s)
    (hQ : ∀ a s', Q a s' → Q' a s') (hE : ∀ e s', E e s' → E' e s') : wp p Q' E' s := by
  unfold wp at *
  rcases hp : p s with ⟨e | a, s'⟩
  · rw [hp] at h
    exact hE e s' h
  · rw [hp] at h
    exact hQ a s' h

theorem wp_and {p : Program σ ε α} {Q' : α → σ → Prop} {E' : ε → σ → Prop} (h : wp p Q E s)
    (h' : wp p Q' E' s) :
    wp p (fun a s' => Q a s' ∧ Q' a s') (fun e s' => E e s' ∧ E' e s') s := by
  unfold wp at *
  rcases hp : p s with ⟨e | a, s'⟩
  · rw [hp] at h h'
    exact ⟨h, h'⟩
  · rw [hp] at h h'
    exact ⟨h, h'⟩

/-- A program that does not return is stopped. -/
theorem exists_stop {p : Program σ ε α} (h : wp p (fun _ _ => False) E s) :
    ∃ e s', p s = (.error e, s') ∧ E e s' := by
  unfold wp at h
  rcases hp : p s with ⟨e | a, s'⟩
  · rw [hp] at h
    exact ⟨e, s', rfl, h⟩
  · rw [hp] at h
    exact h.elim

/-- The rule for `each`: `I` is an invariant that goes along the list. -/
theorem wp_each {p : α → Program σ ε Unit} {I : List α → σ → Prop} {E : ε → σ → Prop}
    (hstep : ∀ done a s, I done s → wp (p a) (fun _ => I (done ++ [a])) E s) :
    ∀ (as done : List α) (s : σ), I done s → wp (each p as) (fun _ => I (done ++ as)) E s
  | [], done, s, h => by
    rw [List.append_nil]
    exact h
  | a :: as, done, s, h => by
    have hrest := fun s' h' => wp_each hstep as (done ++ [a]) s' h'
    simp only [List.append_assoc, List.singleton_append] at hrest
    unfold each
    rw [wp_bind]
    exact wp_mono (hstep done a s h) (fun _ s' h' => hrest s' h') fun _ _ h' => h'

/-! ### What every statement keeps -/

/-- The program keeps `I`, whether it returns or is stopped. -/
def Keeps (I : σ → Prop) (p : Program σ ε α) : Prop :=
  ∀ s, I s → wp p (fun _ => I) (fun _ => I) s

variable {I : σ → Prop}

theorem Keeps.pure (a : α) : Keeps I (pure a : Program σ ε α) := fun _ h => h

theorem Keeps.stop (e : ε) : Keeps I (stop e : Program σ ε α) := fun _ h => h

theorem Keeps.read (f : σ → α) : Keeps I (read f : Program σ ε α) := fun _ h => h

theorem Keeps.change {f : σ → σ} (h : ∀ s, I s → I (f s)) :
    Keeps I (change f : Program σ ε Unit) := h

theorem Keeps.bind {p : Program σ ε α} {f : α → Program σ ε β} (hp : Keeps I p)
    (hf : ∀ a, Keeps I (f a)) : Keeps I (p >>= f) := by
  intro s h
  rw [wp_bind]
  exact wp_mono (hp s h) (fun a s' h' => hf a s' h') fun _ _ h' => h'

end Spawny.Lib.Programs
