import Spawny.Lib.Runs
import Mathlib.Data.List.Basic
import Mathlib.Data.Int.Cast.Lemmas

/-! # spawnservice.c: the terminals for new sessions

`available_tty` looks for a virtual terminal that no session of the seat uses, going on from the
terminal it found last (`tty_counter`). What logind says about the seat is a parameter (`Seat`).

* `availableTty_eq`: the loop;
* `TtyState.step`: spawns take terminals, and give them back when they end;
* `correct_iff`: **the terminal is a right one exactly while there are terminals ahead of the
  counter, or none at all.** -/

namespace Spawny.Daemon.Terminals

open Spawny.Lib.Runs

def LAST_TTY : ℕ := 63
def FIRST_TTY : ℕ := 10

/-- What logind says: the sessions of the seat, `none` if it does not answer, and the terminal of a
session, `none` for a negative return value. -/
structure Seat where
  sessions : Option (List String)
  vt : String → Option ℕ

/-- A session of the seat uses the terminal. -/
def Seat.Uses (seat : Seat) (n : ℕ) : Prop :=
  ∃ s ∈ seat.sessions.getD [], seat.vt s = some n

/-- What `session_details` stores for the terminal: -1 if logind does not say one. -/
def sessionVtnr (seat : Seat) (s : String) : ℤ := ((seat.vt s).map Int.ofNat).getD (-1)

/-- `_vt_used`. -/
def vtUsed (seat : Seat) (vtnr : ℕ) : Bool :=
  (seat.sessions.getD []).any fun s => (vtnr : ℤ) == sessionVtnr seat s

theorem vtUsed_iff {seat : Seat} {n : ℕ} : vtUsed seat n = true ↔ seat.Uses n := by
  unfold vtUsed Seat.Uses sessionVtnr
  rw [List.any_eq_true]
  refine exists_congr fun s => and_congr_right fun _ => ?_
  cases seat.vt s with
  | none => simp
  | some m =>
    change ((n : ℤ) == (m : ℤ)) = true ↔ some m = some n
    rw [beq_iff_eq, Nat.cast_inj, Option.some.injEq, eq_comm]

instance (seat : Seat) (n : ℕ) : Decidable (seat.Uses n) := decidable_of_iff _ vtUsed_iff

/-- `n` rounds of the loop of `available_tty`: the terminal, `none` for `NULL`, and `tty_counter`. -/
def ttyRounds (seat : Seat) : ℕ → ℕ → Option ℕ × ℕ
  | 0, counter => (none, counter)
  | n + 1, counter =>
    if LAST_TTY < counter then (none, counter)
    else if vtUsed seat (counter + 1) then ttyRounds seat n (counter + 1)
    else (some (counter + 1), counter + 1)

/-- `available_tty`: it goes through the loop `LAST_TTY + 2 - tty_counter` times at most. -/
def availableTty (seat : Seat) (counter : ℕ) : Option ℕ × ℕ :=
  ttyRounds seat (LAST_TTY + 2 - counter) counter

/-- **The loop**: the bound is tested before the counter is increased. -/
theorem availableTty_eq (seat : Seat) (counter : ℕ) : availableTty seat counter =
    if LAST_TTY < counter then (none, counter)
    else if vtUsed seat (counter + 1) then availableTty seat (counter + 1)
    else (some (counter + 1), counter + 1) := by
  unfold availableTty
  rcases Nat.lt_or_ge (LAST_TTY + 1) counter with h | h
  · rw [Nat.sub_eq_zero_of_le (by omega), if_pos (by omega)]
    rfl
  · obtain ⟨n, hn⟩ : ∃ n, LAST_TTY + 2 - counter = n + 1 := ⟨LAST_TTY + 1 - counter, by omega⟩
    rw [hn, show LAST_TTY + 2 - (counter + 1) = n by omega]
    rfl

/-- **What `available_tty` finds**: the first terminal behind the counter that is not used, up to
`LAST_TTY + 1`, or nothing. -/
inductive Finds (seat : Seat) (counter : ℕ) : Option ℕ × ℕ → Prop
  | found (n : ℕ) (hlt : counter < n) (hle : n ≤ LAST_TTY + 1) (hfree : ¬ seat.Uses n)
      (hskipped : ∀ m, counter < m → m < n → seat.Uses m) : Finds seat counter (some n, n)
  | nothing (n : ℕ) (hn : n = max counter (LAST_TTY + 1))
      (hused : ∀ m, counter < m → m ≤ LAST_TTY + 1 → seat.Uses m) : Finds seat counter (none, n)

theorem finds_availableTty (seat : Seat) (counter : ℕ) :
    Finds seat counter (availableTty seat counter) := by
  induction h : LAST_TTY + 1 - counter generalizing counter with
  | zero =>
    rw [availableTty_eq, if_pos (by omega)]
    exact .nothing _ (by omega) fun m hm hle => by omega
  | succ d ih =>
    rw [availableTty_eq, if_neg (by omega)]
    split_ifs with hused
    · have huses := vtUsed_iff.mp hused
      have hskip : ∀ m, counter < m → ¬ counter + 1 < m → seat.Uses m := by
        intro m hm hnot
        obtain rfl : m = counter + 1 := by omega
        exact huses
      generalize hres : availableTty seat (counter + 1) = res
      have hfinds := ih (counter + 1) (by omega)
      rw [hres] at hfinds
      cases hfinds with
      | found n hlt hle hfree hskipped =>
        refine .found n (by omega) hle hfree fun m hm hmn => ?_
        by_cases hnext : counter + 1 < m
        · exact hskipped m hnext hmn
        · exact hskip m hm hnext
      | nothing n hn hall =>
        refine .nothing n (by omega) fun m hm hle => ?_
        by_cases hnext : counter + 1 < m
        · exact hall m hnext hle
        · exact hskip m hm hnext
    · exact .found (counter + 1) (by omega) (by omega) (fun huses => hused (vtUsed_iff.mpr huses))
        fun m hm hmn => by omega

/-! ### Spawns -/

/-- `tty_counter`, and the terminals given to the spawns that have not ended. -/
structure TtyState where
  counter : ℕ
  inFlight : List ℕ
  deriving DecidableEq

def TtyState.start : TtyState := { counter := FIRST_TTY, inFlight := [] }

/-- A spawn, whose `fork` may fail; a spawn ends. -/
inductive TtyEvent
  | spawn (seat : Seat) (forks : Bool)
  | ends (i : ℕ)

/-- `child_run` asks for a terminal; the child is given it. -/
def TtyState.spawn (s : TtyState) (seat : Seat) (forks : Bool) : TtyState :=
  match availableTty seat s.counter with
  | (none, counter) => { s with counter := counter }
  | (some tty, counter) =>
    { counter := counter, inFlight := if forks then s.inFlight ++ [tty] else s.inFlight }

def TtyState.step (s : TtyState) : TtyEvent → TtyState
  | .spawn seat forks => s.spawn seat forks
  | .ends i => { s with inFlight := s.inFlight.eraseIdx i }

/-- No terminal behind the counter has been given away. -/
structure TtyState.Good (s : TtyState) : Prop where
  first : FIRST_TTY ≤ s.counter
  last : s.counter ≤ LAST_TTY + 1
  given : ∀ n ∈ s.inFlight, n ≤ s.counter

theorem TtyState.good_start : TtyState.start.Good := ⟨by decide, by decide, nofun⟩

theorem TtyState.Good.step {s : TtyState} (hs : s.Good) (e : TtyEvent) : (s.step e).Good := by
  obtain ⟨hfirst, hlast, hgiven⟩ := hs
  cases e with
  | ends i => exact ⟨hfirst, hlast, fun n hn => hgiven n (List.mem_of_mem_eraseIdx hn)⟩
  | spawn seat forks =>
    dsimp only [TtyState.step, TtyState.spawn]
    have hfinds := finds_availableTty seat s.counter
    generalize availableTty seat s.counter = res at hfinds
    cases hfinds with
    | nothing n hn _ => exact ⟨by dsimp only; omega, by dsimp only; omega, fun m hm => by
        have := hgiven m hm
        dsimp only
        omega⟩
    | found n hlt hle _ _ =>
      refine ⟨by dsimp only; omega, by dsimp only; omega, fun m hm => ?_⟩
      dsimp only at hm ⊢
      split_ifs at hm
      · rcases List.mem_append.mp hm with hm | hm
        · have := hgiven m hm
          omega
        · exact Nat.le_of_eq (List.mem_singleton.mp hm)
      · have := hgiven m hm
        omega

theorem TtyState.good_run (es : List TtyEvent) :
    (run TtyState.step TtyState.start es).Good :=
  run_induction (I := TtyState.Good) (fun _ e hs => hs.step e) es _ good_start

/-! ### Which terminal is right -/

/-- The terminal is one that a session may be started on. -/
def TtyState.Free (s : TtyState) (seat : Seat) (n : ℕ) : Prop :=
  FIRST_TTY ≤ n ∧ n ≤ LAST_TTY ∧ ¬ seat.Uses n ∧ n ∉ s.inFlight

/-- **A spawn gets a right terminal**: a free one, and none only if there is none. -/
def TtyState.Correct (s : TtyState) (seat : Seat) : Prop :=
  match (availableTty seat s.counter).1 with
  | some n => s.Free seat n
  | none => ∀ n, ¬ s.Free seat n

/-- A terminal up to `LAST_TTY` that is not used is behind the counter; or none is free, and the one
after `LAST_TTY` is out of reach. -/
def TtyState.Ahead (s : TtyState) (seat : Seat) : Prop :=
  (∃ n, s.counter < n ∧ n ≤ LAST_TTY ∧ ¬ seat.Uses n) ∨
    ((∀ n, ¬ s.Free seat n) ∧ (s.counter ≤ LAST_TTY → seat.Uses (LAST_TTY + 1)))

/-- **When `available_tty` is right**, after every run of spawns and ends of sessions. -/
theorem correct_iff (es : List TtyEvent) (seat : Seat) :
    (run TtyState.step TtyState.start es).Correct seat ↔
      (run TtyState.step TtyState.start es).Ahead seat := by
  obtain ⟨hfirst, hlast, hgiven⟩ := TtyState.good_run es
  generalize run TtyState.step TtyState.start es = s at *
  unfold TtyState.Correct TtyState.Ahead
  have hfinds := finds_availableTty seat s.counter
  generalize availableTty seat s.counter = res at hfinds
  cases hfinds with
  | found n hlt hle hfree hskipped =>
    constructor
    · intro hn
      exact Or.inl ⟨n, hlt, hn.2.1, hfree⟩
    · rintro (⟨m, hm, hmlast, hmfree⟩ | ⟨-, hnext⟩)
      · have hnm : n ≤ m := by
          by_contra hnot
          exact hmfree (hskipped m hm (by omega))
        exact ⟨by omega, by omega, hfree, fun hmem => by
          have := hgiven n hmem
          omega⟩
      · -- then it found a terminal before the one after the last
        have huses := hnext (by omega)
        have hne : n ≠ LAST_TTY + 1 := by
          rintro rfl
          exact hfree huses
        exact ⟨by omega, by omega, hfree, fun hmem => by
          have := hgiven n hmem
          omega⟩
  | nothing n hn hused =>
    constructor
    · exact fun hnone => Or.inr ⟨hnone, fun hle => hused _ (by omega) (Nat.le_refl _)⟩
    · rintro (⟨m, hm, hmlast, hmfree⟩ | ⟨hnone, -⟩)
      · exact absurd (hused m hm (by omega)) hmfree
      · exact hnone

/-- A login and a logout. -/
def loginLogout : List TtyEvent := [.spawn ⟨some [], fun _ => none⟩ true, .ends 0]

set_option maxRecDepth 4000 in
/-- **After 53 logins and logouts** the next spawn gets the terminal after the last one. -/
theorem incorrect_after_logins : ¬ ∀ (es : List TtyEvent) (seat : Seat),
    (run TtyState.step TtyState.start es).Correct seat := by
  intro h
  have h53 := h (List.replicate 53 loginLogout).flatten ⟨some [], fun _ => none⟩
  have hcounter : run TtyState.step TtyState.start (List.replicate 53 loginLogout).flatten =
      { counter := 63, inFlight := [] } := by decide
  rw [hcounter] at h53
  exact absurd h53.2.1 (by decide)

end Spawny.Daemon.Terminals
