import Mathlib.Logic.Basic
import Mathlib.Tactic.TypeStar

/-! # Runs of a deterministic step function

A system is a state type `σ`, a type `ε` of events (the environment's choices) and a step function.
`run` folds the step over a list of events, so a state is reachable if it is `run step s es` for
some `es`. `Meets ok` says that every step of a run, looked at in the state before it, satisfies
`ok`.

* `run_induction`: an invariant kept by every step holds after every run;
* `meets_of_invariant`: what an invariant implies of a step holds of every step;
* `Meets.throughout`: what such an invariant implies holds in every state of these runs;
* `Meets.simulates`: two systems that are related stay related in these runs;
* `run_since`: what each step sets or keeps holds if it has been kept since it was set;
* `throughout_iff`: an invariant that needs exactly `ok` holds throughout exactly these runs;
* `Meets.of_invariant`: and what it implies of a step holds of their steps;
* `meets_append`: runs are cut at any point, so what holds at the end holds at every state on the
  way. -/

namespace Spawny.Lib.Runs

variable {σ ε : Type*} (step : σ → ε → σ)

/-- The state after the events `es`. -/
def run (s : σ) (es : List ε) : σ := es.foldl step s

@[simp] theorem run_nil (s : σ) : run step s [] = s := rfl

@[simp] theorem run_cons (s : σ) (e : ε) (es : List ε) :
    run step s (e :: es) = run step (step s e) es := rfl

theorem run_append (s : σ) (es fs : List ε) :
    run step s (es ++ fs) = run step (run step s es) fs := List.foldl_append

/-- Every step of the run satisfies `ok` in the state before it. -/
def Meets (ok : σ → ε → Prop) : σ → List ε → Prop
  | _, [] => True
  | s, e :: es => ok s e ∧ Meets ok (step s e) es

/-- `P` holds in every state of the run. -/
def Throughout (P : σ → Prop) : σ → List ε → Prop
  | s, [] => P s
  | s, e :: es => P s ∧ Throughout P (step s e) es

instance Meets.decidable (ok : σ → ε → Prop) [∀ s e, Decidable (ok s e)] :
    ∀ (s : σ) (es : List ε), Decidable (Meets step ok s es)
  | _, [] => isTrue trivial
  | s, e :: es =>
    have := Meets.decidable ok (step s e) es
    inferInstanceAs (Decidable (ok s e ∧ Meets step ok (step s e) es))

variable {step}

/-- **Invariants.** What holds at the start and is kept by every step holds after every run. -/
theorem run_induction {I : σ → Prop} (hstep : ∀ s e, I s → I (step s e)) :
    ∀ (es : List ε) (s : σ), I s → I (run step s es)
  | [], _, h => h
  | e :: es, s, h => run_induction hstep es (step s e) (hstep s e h)

/-- **What an invariant implies of a step** holds of every step of every run. -/
theorem meets_of_invariant {ok : σ → ε → Prop} {I : σ → Prop}
    (hstep : ∀ s e, I s → I (step s e)) (h : ∀ s e, I s → ok s e) :
    ∀ (es : List ε) (s : σ), I s → Meets step ok s es
  | [], _, _ => trivial
  | e :: es, s, hs => ⟨h s e hs, meets_of_invariant hstep h es (step s e) (hstep s e hs)⟩

/-- **Safety under a condition on the steps**: what the invariant implies holds in every state. -/
theorem Meets.throughout {ok : σ → ε → Prop} {I P : σ → Prop}
    (hstep : ∀ s e, I s → ok s e → I (step s e)) (hP : ∀ s, I s → P s) :
    ∀ (es : List ε) (s : σ), Meets step ok s es → I s → Throughout step P s es
  | [], s, _, h => hP s h
  | e :: es, s, hm, h =>
    ⟨hP s h, Meets.throughout hstep hP es (step s e) hm.2 (hstep s e h hm.1)⟩

/-- **Simulation under a condition on the steps**: two systems stay related. -/
theorem Meets.simulates {τ : Type*} {t : τ → ε → τ} {ok : σ → ε → Prop} {R : σ → τ → Prop}
    (hstep : ∀ s q e, R s q → ok s e → R (step s e) (t q e)) :
    ∀ (es : List ε) (s : σ) (q : τ), Meets step ok s es → R s q → R (run step s es) (run t q es)
  | [], _, _, _, h => h
  | e :: es, s, q, hm, h =>
    Meets.simulates hstep es (step s e) (t q e) hm.2 (hstep s q e h hm.1)

/-- **When an invariant holds in every state of a run**: if every step meets what it needs. -/
theorem throughout_iff {ok : σ → ε → Prop} {P : σ → Prop}
    (hstep : ∀ s e, P s → (P (step s e) ↔ ok s e)) :
    ∀ {es : List ε} {s : σ}, P s → (Throughout step P s es ↔ Meets step ok s es)
  | [], _, hs => iff_of_true hs trivial
  | e :: es, s, hs => by
    have hok := hstep s e hs
    constructor
    · rintro ⟨-, hrest⟩
      have hnext : P (step s e) := by
        cases es with
        | nil => exact hrest
        | cons e' es => exact hrest.1
      exact ⟨hok.mp hnext, (throughout_iff hstep hnext).mp hrest⟩
    · rintro ⟨he, hrest⟩
      exact ⟨hs, (throughout_iff hstep (hok.mpr he)).mpr hrest⟩

theorem Throughout.at_end {P : σ → Prop} : ∀ (es : List ε) (s : σ), Throughout step P s es →
    P (run step s es)
  | [], _, h => h
  | _ :: es, _, h => Throughout.at_end es _ h.2

/-- What follows from a property that holds before and after a step. -/
theorem Meets.of_throughout {ok : σ → ε → Prop} {P : σ → Prop}
    (h : ∀ s e, P s → P (step s e) → ok s e) :
    ∀ {es : List ε} {s : σ}, Throughout step P s es → Meets step ok s es
  | [], _, _ => trivial
  | e :: es, s, hall => by
    have hnext : P (step s e) := by
      cases es with
      | nil => exact hall.2
      | cons e' es => exact hall.2.1
    exact ⟨h s e hall.1 hnext, Meets.of_throughout h hall.2⟩

theorem meets_append {ok : σ → ε → Prop} : ∀ (es fs : List ε) (s : σ),
    Meets step ok s (es ++ fs) ↔ Meets step ok s es ∧ Meets step ok (run step s es) fs
  | [], _, _ => by simp [Meets]
  | e :: es, fs, s => by
    simp only [List.cons_append, Meets, run_cons, meets_append es fs (step s e), and_assoc]

/-- **What the steps do under a condition on them**: every step from a state with the invariant. -/
theorem Meets.of_invariant {ok ok' : σ → ε → Prop} {I : σ → Prop}
    (hstep : ∀ s e, I s → ok s e → I (step s e)) (h : ∀ s e, I s → ok s e → ok' s e) :
    ∀ {es : List ε} {s : σ}, I s → Meets step ok s es → Meets step ok' s es
  | [], _, _, _ => trivial
  | _ :: _, _, hs, hm =>
    ⟨h _ _ hs hm.1, Meets.of_invariant hstep h (hstep _ _ hs hm.1) hm.2⟩

/-- **Since**: what each step sets or keeps holds after a run if it has been kept since it was set. -/
theorem run_since {I P : σ → Prop} {sets keeps : σ → ε → Prop} (hI : ∀ s e, I s → I (step s e))
    (h : ∀ s e, I s → (P (step s e) ↔ sets s e ∨ P s ∧ keeps s e)) : ∀ (es : List ε) (s : σ), I s →
      (P (run step s es) ↔ P s ∧ Meets step keeps s es ∨
        ∃ pre e post, es = pre ++ e :: post ∧ sets (run step s pre) e ∧
          Meets step keeps (run step s (pre ++ [e])) post)
  | [], s, _ => by simp [Meets]
  | e :: es, s, hs => by
    rw [run_cons, run_since hI h es (step s e) (hI s e hs), h s e hs]
    constructor
    · rintro (⟨hset | ⟨hP, hkeep⟩, hkept⟩ | ⟨pre, e', post, rfl, hset, hkept⟩)
      · exact .inr ⟨[], e, es, rfl, hset, hkept⟩
      · exact .inl ⟨hP, hkeep, hkept⟩
      · exact .inr ⟨e :: pre, e', post, rfl, hset, hkept⟩
    · rintro (⟨hP, hkeep, hkept⟩ | ⟨pre, e', post, heq, hset, hkept⟩)
      · exact .inl ⟨.inr ⟨hP, hkeep⟩, hkept⟩
      · cases pre with
        | nil =>
          obtain ⟨rfl, rfl⟩ := List.cons.inj heq
          exact .inl ⟨.inl hset, hkept⟩
        | cons e'' pre =>
          obtain ⟨rfl, rfl⟩ := List.cons.inj heq
          exact .inr ⟨pre, e', post, rfl, hset, hkept⟩

/-- A condition on the events alone. -/
theorem Meets.and_events {ok : σ → ε → Prop} {P : ε → Prop} : ∀ {es : List ε} {s : σ},
    Meets step ok s es → (∀ e ∈ es, P e) → Meets step (fun s e => ok s e ∧ P e) s es
  | [], _, _, _ => trivial
  | e :: _, _, hm, hP =>
    ⟨⟨hm.1, hP e List.mem_cons_self⟩,
      Meets.and_events hm.2 fun e' he' => hP e' (List.mem_cons_of_mem e he')⟩

end Spawny.Lib.Runs
