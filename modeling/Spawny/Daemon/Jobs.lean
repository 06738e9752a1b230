import Spawny.Daemon.Startup
import Spawny.Lib.Paths

/-! # The programs of the sessions

What the process of a job executes: the function of a template with its data, or a greeter. The shell of
the user comes from passwd.

* `sessionJob_startup`: **the job of a template executes what its offer says**;
* `greeterPath_eq`: a greeter is the fallback after too many starts, or if there is no other. -/

namespace Spawny.Daemon.Jobs

open Spawny.Lib.Paths Spawny.Daemon.SessionMgt Spawny.Daemon.State Spawny.Daemon.TemplateRegistry
open Spawny.Daemon.Startup

/-! ### basename -/

/-- `basename` of libgen.h: what is left in the buffer, without the slashes at the end, and the name. -/
def basename (path : Path) : Path × Path :=
  if path = [] then (path, ['.'])
  else
    let front := path.rdropWhile isSlash
    if front = [] then (path, ['/']) else (front, front.rtakeWhile fun c => !isSlash c)

/-! ### The functions of the templates -/

/-- The arguments of `execl`. -/
structure Exec where
  path : String
  argv : List String
  deriving DecidableEq, Repr

/-- How a job ends, if `execl` succeeds: it returns, a `NULL` pointer is used, or it executes a
program. -/
inductive JobEnd
  | returns
  | undefined
  | exec (e : Exec)
  deriving DecidableEq, Repr

/-- `execl` with the shell, whose name is taken from the same buffer before. -/
def execShell (shell : Option String) (args : List String) : JobEnd :=
  match shell with
  | none => .undefined
  | some shell =>
    let (path, name) := basename shell.toList
    .exec ⟨String.ofList path, String.ofList name :: args⟩

/-- The command of x11_temp.c, in a buffer for it, the blank and the `NUL`. -/
def startxCommand (data : String) : String :=
  snprintf ("startx".length + data.length + 2) ("startx" ++ " " ++ data)

/-- `_tty_fire_up` and the two `_fire_up`; `shell` is the entry of the user in passwd. The arguments of
`execl` end at the first `NULL`. -/
def fireUp (shell : Option String) (data : Option String) : FireUp → JobEnd
  | .tty => execShell shell ["--login", "-i"]
  | .x11 =>
    match data with
    | none => .undefined
    | some data => execShell shell ["--login", "-i", "-c", startxCommand data]
  | .wayland => execShell shell (["--login", "-i", "-c"] ++ data.toList)

/-- `_session_job`, with `template_run`. -/
def sessionJob (reg : Registry) (shell : Option String) (id : String) : JobEnd :=
  match reg.run id with
  | none => .returns
  | some (cb, data) => fireUp shell data cb

/-! ### _greeter_job -/

def FALLBACK_RUN_GENERATION : ℕ := 5

/-- The paths of the build. -/
structure Install where
  spGreeter : String
  spGreeterFallback : String

/-- The path that is executed; `readable` is the answer of `access`. -/
def greeterPath (i : Install) (readable : Bool) (runGen : ℕ) : String :=
  let cmdpath :=
    if runGen < FALLBACK_RUN_GENERATION then if readable then some i.spGreeter else none else none
  if FALLBACK_RUN_GENERATION ≤ runGen then i.spGreeterFallback
  else cmdpath.getD i.spGreeterFallback

/-- `_greeter_job`. -/
def greeterJob (i : Install) (debug readable : Bool) (runGen : ℕ) : Exec :=
  let (path, name) := basename (greeterPath i readable runGen).toList
  ⟨String.ofList path, String.ofList name :: if debug then ["--debug"] else []⟩

/-- **A greeter is the fallback** exactly after too many starts, or if there is no other. -/
theorem greeterPath_eq (i : Install) (readable : Bool) (runGen : ℕ) : greeterPath i readable runGen =
    if runGen < FALLBACK_RUN_GENERATION ∧ readable = true then i.spGreeter else i.spGreeterFallback := by
  unfold greeterPath
  rcases Nat.lt_or_ge runGen FALLBACK_RUN_GENERATION with h | h
  · rw [if_pos h, if_neg (Nat.not_le.mpr h)]
    cases readable <;> simp [h]
  · rw [if_pos h, if_neg fun hlt => Nat.not_lt.mpr h hlt.1]

/-! ### What is executed -/

/-- The buffer holds the whole command. -/
theorem startxCommand_eq (data : String) : startxCommand data = "startx " ++ data := by
  unfold startxCommand snprintf
  rw [List.take_of_length_le, String.ofList_toList]
  · rfl
  · rw [String.toList_append, String.toList_append, List.length_append, List.length_append,
      String.length_toList, String.length_toList, String.length_toList]
    change _ + 1 + _ ≤ _
    omega

/-- **The job of a template** executes what its offer says. -/
theorem sessionJob_startup {d : Desktop} (h : (offers d).length ≤ 2 ^ 31) {i : ℕ} {o : Offer}
    (ho : (offers d)[i]? = some o) (shell : Option String) :
    sessionJob (startup d) shell ("t" ++ toString i) = fireUp shell o.data o.cb := by
  rw [sessionJob, TemplateReg.run, template_startup h ho]
  rfl

end Spawny.Daemon.Jobs
