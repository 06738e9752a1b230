import Spawny.Daemon.WatchedFds
import Spawny.Daemon.TryCells
import Spawny.Daemon.SafeCalls
import Spawny.Daemon.TryLife
import Spawny.Protocol.Encoding

/-! # The sets for `select`

`manager_run` copies the numbers of the live registrations into two `fd_set`s, one entry of the table
after another, and gives the sets to `select`, which fails with `EBADF` if one of the numbers is not
open. The `SIGCHLD` handler can come between any two of these statements; it closes the pipe of the child
that has ended, and takes entries out of the table or adds some.

`Main` is the daemon and the place where `manager_run` is. The passes over the table are those of `Loop`,
and a callback is one step.

* `keepsOpen_visit`: what a listener leaves open;
* `mainStep_does`: the steps of the machine; `MainDoes.world`: those of the daemon are those of `Loop`;
* `readied_step`: what is kept while the handler leaves `manager_run` alone;
* `selects_throughout`: **the loop ends for `manager_stop` only**, in every run of that kind;
* `select_fails`: a child ends between the last `FD_SET` and `select`. -/

namespace Spawny.Daemon.SelectSets

open Spawny.Lib.Wire Spawny.Lib.Descriptors Spawny.Lib.Runs Spawny.Protocol Spawny.Protocol.Messages
open Spawny.Daemon.Manager Spawny.Daemon.SpawnRegistry
open Spawny.Daemon.SessionMgt Spawny.Daemon.State Spawny.Daemon.SpawnService
open Spawny.Daemon.GreeterTable Spawny.Daemon.Client Spawny.Daemon.Greeter Spawny.Daemon.Activations
open Spawny.Daemon.Server Spawny.Daemon.SafeCalls Spawny.Daemon.Loop Spawny.Daemon.Steps
open Spawny.Daemon.TryViews Spawny.Daemon.TryLife Spawny.Daemon.TryCells Spawny.Daemon.WatchedFds

variable {C : FieldCode SpawnField} {w w' : World}

/-! ### What a listener leaves open -/

/-- An activation closes nothing that was open. -/
theorem greeterOps_opens (a : Answers) (n : ℕ) (o : FdObj) :
    GreeterOps C a fun w => lookup w.fdtab n = some o where
  session _ h := h
  add _ h := h
  noPipe _ _ h := h
  forked pid _ _ h := by
    rw [greeterForked, World.modGreeter_fdtab, lookup_forked]
    exact lookup_open_of_some h _
  failed noTty _ _ _ _ _ h := by
    rw [greeterFailed, greeterStartFailed, greeterReset, World.modGreeter_fdtab, World.log_fdtab]
    exact lookup_tryFailed C noTty _ h
  returned {_ _ t _} _ _ _ _ _ h := by
    rw [greeterReturned, World.modGreeter_fdtab, fdtab_release]
    exact h

/-- A try without success is freed: its read end is closed, and nothing else. -/
theorem lookup_freed {a : Answers} {t n : ℕ} {o : FdObj} (hfree : Freed C a t w w')
    (hsuccess : (w.tryAt t).success = .error) (hne : n ≠ (w.tryAt t).readFd)
    (h : lookup w.fdtab n = some o) : lookup w'.fdtab n = some o := by
  have hcalled : lookup (calledBack t w).fdtab n = some o := by
    rw [fdtab_calledBack_eq, lookup_close_of_ne hne]
    exact h
  cases hfree with
  | login c _ =>
    have hresult : SpawnTry.result (w.tryAt t) = ⟨.error, (w.tryAt t).errorMsg⟩ := by
      rw [SpawnTry.result, hsuccess]
    rw [fdtab_release, hresult]
    have hdone : (sessionDone a t c ⟨.error, (w.tryAt t).errorMsg⟩ (calledBack t w)).fdtab =
        (calledBack t w).fdtab := by
      unfold Client.sessionDone
      dsimp only
      split_ifs <;> rfl
    rw [hdone]
    exact hcalled
  | lost g _ _ =>
    rw [fdtab_release]
    exact hcalled
  | restarted g r _ _ _ =>
    rw [fdtab_release]
    exact (greeterOps_opens a n o).activate C r.seat hcalled
  | noTry _ _ _ _ hres _ =>
    rw [hsuccess] at hres
    cases hres
  | started _ _ _ _ _ hres _ =>
    rw [hsuccess] at hres
    cases hres

/-- The read end of the try whose listener is called. -/
def closing (w : World) : Option ℕ :=
  (called w).bind fun s => match s.2 with
    | .spawnedSessionDisappear t => some (w.tryAt t).readFd
    | .greeterDone _ => none

/-- **What a listener leaves open**: everything but the read end of its try. -/
theorem keepsOpen_visit (hlife : Life none w) (hcells : Cells Undecided w) (a : Answers) {n : ℕ}
    {o : FdObj} (hne : closing w ≠ some n) (h : lookup w.fdtab n = some o) :
    lookup (step C w (.visit a)).fdtab n = some o := by
  have hdoes := step_does C w (.visit a)
  generalize step C w (.visit a) = w' at hdoes
  cases hdoes with
  | idle _ => exact h
  | scanEnd _ _ _ _ _ => exact h
  | scanPass _ _ _ _ _ _ _ => exact h
  | scanZeroed _ _ _ _ _ _ _ => exact h
  | visit _ t i pid hd w' hscan he hpid hcalls =>
    change lookup w'.fdtab n = some o
    cases hcalls with
    | disappeared t' _ hfree =>
      obtain ⟨v, hv, hpending⟩ := hlife.pending_of_handler he t' rfl
      refine lookup_freed hfree (hcells.undecided hv hpending) ?_ h
      rintro rfl
      refine hne ?_
      simp [closing, called_eq hscan he hpid]
    | lost g _ => exact h
    | ended g r _ _ => exact h
    | restarted g r _ _ => exact (greeterOps_opens a n o).activate C r.seat h

/-! ### The machine -/

/-- An `fd_set`: the numbers in it, each with what the descriptor was when its number was put in, which is
not in the source. -/
abbrev FdSet := List (ℕ × Option FdObj)

/-- The next statement for an entry of the table: the condition of the loop, `array_Fd_Register_get`, the
test of `reg->cb`, `max_fd`, and the two `FD_SET`s. -/
inductive Stmt
  | cond
  | get
  | test
  | max
  | setRead
  | setError
  deriving DecidableEq, Repr

/-- The locals of the loop that fills the sets. `moved` is not in the source: the table has changed since
`reg` was set, so that `reg` may point to anything. -/
structure Fill where
  i : ℕ
  stmt : Stmt
  moved : Bool
  maxFd : ℕ
  read : FdSet
  error : FdSet
  deriving DecidableEq, Repr

/-- Where `manager_run` is. The numbers in `selected` are those that `select` has left in the sets, and
`failed` says whether `errno` is `EINTR`. -/
inductive Point
  | head
  | fill (f : Fill)
  | select (f : Fill)
  | blocked (f : Fill)
  | selected (readable error : List ℕ)
  | failed (eintr : Bool)
  | pass
  | returned (result : ℕ)
  | crashed
  deriving DecidableEq, Repr

/-- The daemon in `manager_run`, with the variable `stop`. -/
structure Main where
  world : World
  stop : Bool
  point : Point

/-- `manager_run` goes on, `select` returns or is interrupted, a callback is called, or something comes
from outside: the handler runs, or a child, or `manager_stop` is called. `stale` is what lies behind `reg`
if the table has changed, and `errno` says that a listener has set `errno`. -/
inductive MainEvent
  | go (stale : FdRegister FdCb)
  | returns (readable error : List ℕ)
  | interrupted
  | next (a : Answers)
  | outside (e : Event) (errno : Bool)
  | managerStop

/-- The entry behind `reg`. -/
def Fill.reg (f : Fill) (stale : FdRegister FdCb) (w : World) : FdRegister FdCb :=
  if f.moved then stale else (w.fds.fds[f.i]?).getD stale

/-- Both sets. -/
def Fill.sets (f : Fill) : FdSet := f.read ++ f.error

/-- `FD_SET`. -/
def fdSet (w : World) (fd : ℕ) (s : FdSet) : FdSet := (fd, lookup w.fdtab fd) :: s

/-- One statement of the loop that fills the sets. -/
def fillStep (stale : FdRegister FdCb) (f : Fill) (w : World) : Point :=
  match f.stmt with
  | .cond => if f.i < w.fds.fds.length then .fill { f with stmt := .get } else .select f
  | .get =>
    -- the pointer is `NULL` if the table has become shorter
    if f.i < w.fds.fds.length then .fill { f with stmt := .test, moved := false } else .crashed
  | .test =>
    if (f.reg stale w).alive then .fill { f with stmt := .max }
    else .fill { f with stmt := .cond, i := f.i + 1 }
  | .max => .fill { f with stmt := .setRead, maxFd := max f.maxFd (f.reg stale w).fd }
  | .setRead => .fill { f with stmt := .setError, read := fdSet w (f.reg stale w).fd f.read }
  | .setError =>
    .fill { f with stmt := .cond, i := f.i + 1, error := fdSet w (f.reg stale w).fd f.error }

/-- `select` finds a number in the sets that is not open. -/
def badFd (f : Fill) (w : World) : Bool :=
  f.sets.any fun p => decide (p.1 ≤ f.maxFd) && (lookup w.fdtab p.1).isNone

variable (C) in
/-- `manager_run` goes on by one statement. -/
def goStep (stale : FdRegister FdCb) (m : Main) : Main :=
  match m.point with
  | .head =>
    { m with point := if m.stop then .returned 1 else .fill ⟨0, .cond, false, 0, [], []⟩ }
  | .fill f => { m with point := fillStep stale f m.world }
  | .select f => { m with point := if badFd f m.world then .returned 0 else .blocked f }
  | .selected readable error =>
    { m with world := step C m.world (.select readable error), point := .pass }
  | .failed eintr =>
    if eintr then { m with world := step C m.world (.select [] []), point := .pass }
    else { m with point := .returned 0 }
  | _ => m

/-- The events of the handler and of the children. -/
def fromOutside : Event → Bool
  | .select _ _ => false
  | .next _ => false
  | _ => true

/-- There is a child that `waitpid` can wait for. -/
def childLeft (w : World) : Bool := w.tries.any fun tr => tr.childPid != 0 && !tr.reaped

/-- `errno` is set: by a listener, or by the last `waitpid` (`ECHILD`). -/
def setsErrno (w : World) (e : Event) (errno : Bool) : Bool :=
  match e with
  | .visit _ => errno
  | .sigchldReturn => !childLeft w
  | _ => false

/-- What the handler does to the place where `manager_run` is. -/
def Point.interrupted (moved errno : Bool) : Point → Point
  | .fill f => .fill { f with moved := f.moved || moved }
  | .failed eintr => .failed (eintr && !errno)
  | p => p

def Point.over : Point → Bool
  | .returned _ => true
  | .crashed => true
  | _ => false

variable (C) in
/-- The handler, or a child, does `e`. -/
def outsideStep (e : Event) (errno : Bool) (m : Main) : Main :=
  let w := step C m.world e
  { m with
    world := w
    point := m.point.interrupted (decide (w.fds.fds ≠ m.world.fds.fds)) (setsErrno m.world e errno) }

variable (C) in
/-- What `manager_run` does itself. -/
def ownStep (m : Main) : MainEvent → Main
  | .go stale => goStep C stale m
  | .returns readable error =>
    match m.point with
    | .blocked f => { m with
        point := .selected (readable.filter (· ∈ f.read.map Prod.fst))
          (error.filter (· ∈ f.error.map Prod.fst)) }
    | _ => m
  | .interrupted =>
    match m.point with
    | .blocked _ => { m with point := .failed true }
    | _ => m
  | .next a =>
    match m.point with
    | .pass =>
      let w := step C m.world (.next a)
      { m with world := w, point := if w.fds.readout then .pass else .head }
    | _ => m
  | _ => m

variable (C) in
/-- **The transition function.** While the handler runs `manager_run` waits. -/
def mainStep (m : Main) (e : MainEvent) : Main :=
  match e with
  | .outside e errno =>
    if fromOutside e = true ∧ m.point.over = false then outsideStep C e errno m else m
  | .managerStop => { m with stop := true }
  | e => if m.world.registry.evalMode then m else ownStep C m e

def Main.start (debug : Bool) (templates : List Template) : Main :=
  ⟨World.start debug templates, false, .head⟩

/-! ### What is to hold -/

/-- The sets while they are filled and until `select` is called. -/
def Point.sets : Point → FdSet
  | .fill f => f.sets
  | .select f => f.sets
  | _ => []

/-- What was put into a set was open, and is still. -/
def StillOpen (w : World) (s : FdSet) : Prop := ∀ p ∈ s, p.2 ≠ none ∧ lookup w.fdtab p.1 = p.2

/-- **What `manager_run` needs**: when `select` is called all that is in the sets is open, and it
returns 1 and only after `manager_stop`. -/
structure Selects (m : Main) : Prop where
  still : ∀ f, m.point = .select f → StillOpen m.world f.sets
  returns : ∀ r, m.point = .returned r → r = 1 ∧ m.stop = true

/-- The listener that is called does not close what is in the sets. -/
def leavesSets (m : Main) : MainEvent → Bool
  | .outside (.visit _) _ => (closing m.world).all fun n => decide (n ∉ m.point.sets.map Prod.fst)
  | _ => true

/-- If the table has changed since `reg` was set, the number behind it is open at `FD_SET`. -/
def leavesReg (m : Main) : MainEvent → Bool
  | .go stale =>
    match m.point with
    | .fill f => !f.moved || (lookup m.world.fdtab (f.reg stale m.world).fd).isSome ||
        decide (f.stmt ≠ .setRead ∧ f.stmt ≠ .setError)
    | _ => true
  | _ => true

/-- `errno` is not set between an interrupted `select` and the test of `errno`. -/
def leavesErrno (m : Main) : MainEvent → Bool
  | .outside e errno =>
    match m.point with
    | .failed _ => !setsErrno m.world e errno
    | _ => true
  | _ => true

/-- **The handler leaves `manager_run` alone.** -/
def leavesAlone (m : Main) (e : MainEvent) : Bool :=
  leavesSets m e && leavesReg m e && leavesErrno m e

/-! ### What a step does -/

variable (C) in
/-- What one step does; everything is known of the place where `manager_run` was. -/
inductive MainDoes (m : Main) : MainEvent → Main → Prop
  | idle (e : MainEvent) : MainDoes m e m
  | outside (e : Event) (errno : Bool) (he : fromOutside e = true) :
    MainDoes m (.outside e errno) (outsideStep C e errno m)
  | stopped : MainDoes m .managerStop { m with stop := true }
  | ends (stale : FdRegister FdCb) (hp : m.point = .head) (hstop : m.stop = true) :
    MainDoes m (.go stale) { m with point := .returned 1 }
  | starts (stale : FdRegister FdCb) (hp : m.point = .head) :
    MainDoes m (.go stale) { m with point := .fill ⟨0, .cond, false, 0, [], []⟩ }
  | fills (stale : FdRegister FdCb) (f : Fill) (hp : m.point = .fill f) :
    MainDoes m (.go stale) { m with point := fillStep stale f m.world }
  | bad (stale : FdRegister FdCb) (f : Fill) (hp : m.point = .select f)
    (hbad : badFd f m.world = true) : MainDoes m (.go stale) { m with point := .returned 0 }
  | blocks (stale : FdRegister FdCb) (f : Fill) (hp : m.point = .select f) :
    MainDoes m (.go stale) { m with point := .blocked f }
  | passes (stale : FdRegister FdCb) (readable error : List ℕ) :
    MainDoes m (.go stale)
      { m with world := step C m.world (.select readable error), point := .pass }
  | givesUp (stale : FdRegister FdCb) (hp : m.point = .failed false) :
    MainDoes m (.go stale) { m with point := .returned 0 }
  | returns (readable error r e : List ℕ) :
    MainDoes m (.returns readable error) { m with point := .selected r e }
  | interrupted : MainDoes m .interrupted { m with point := .failed true }
  | calls (a : Answers) (p : Point) (hp : p = .pass ∨ p = .head) :
    MainDoes m (.next a) { m with world := step C m.world (.next a), point := p }

theorem goStep_does (stale : FdRegister FdCb) (m : Main) :
    MainDoes C m (.go stale) (goStep C stale m) := by
  obtain ⟨w, stop, p⟩ := m
  cases p with
  | head =>
    cases stop
    · exact .starts stale rfl
    · exact .ends stale rfl rfl
  | fill f => exact .fills stale f rfl
  | select f =>
    unfold goStep
    dsimp only
    split_ifs with hbad
    · exact .bad stale f rfl hbad
    · exact .blocks stale f rfl
  | selected readable error => exact .passes stale readable error
  | failed eintr =>
    cases eintr
    · exact .givesUp stale rfl
    · exact .passes stale [] []
  | _ => exact .idle _

theorem ownStep_does (m : Main) (e : MainEvent) (he : ∀ e' errno, e ≠ .outside e' errno) :
    MainDoes C m e (ownStep C m e) := by
  obtain ⟨w, stop, p⟩ := m
  cases e with
  | go stale => exact goStep_does stale _
  | returns readable error =>
    cases p with
    | blocked f => exact .returns readable error _ _
    | _ => exact .idle _
  | interrupted =>
    cases p with
    | blocked f => exact .interrupted
    | _ => exact .idle _
  | next a =>
    cases p with
    | pass =>
      refine .calls a _ ?_
      split_ifs
      · exact Or.inl rfl
      · exact Or.inr rfl
    | _ => exact .idle _
  | outside e errno => exact absurd rfl (he e errno)
  | managerStop => exact .idle _

/-- **What one step does**, in every state. -/
theorem mainStep_does (m : Main) (e : MainEvent) : MainDoes C m e (mainStep C m e) := by
  have hown : ∀ e : MainEvent, (∀ e' errno, e ≠ .outside e' errno) →
      MainDoes C m e (if m.world.registry.evalMode then m else ownStep C m e) := by
    intro e he
    split_ifs
    · exact .idle e
    · exact ownStep_does m e he
  cases e with
  | outside e errno =>
    unfold mainStep
    dsimp only
    split_ifs with h
    · exact .outside e errno h.1
    · exact .idle _
  | managerStop => exact .stopped
  | go stale => exact hown (.go stale) (by rintro _ _ ⟨⟩)
  | returns readable error => exact hown (.returns readable error) (by rintro _ _ ⟨⟩)
  | interrupted => exact hown .interrupted (by rintro _ _ ⟨⟩)
  | next a => exact hown (.next a) (by rintro _ _ ⟨⟩)

/-- Every step is one of the daemon, or none. -/
theorem MainDoes.world {m m' : Main} {e : MainEvent} (h : MainDoes C m e m') :
    m'.world = m.world ∨ ∃ e', m'.world = step C m.world e' := by
  cases h with
  | outside e _ _ => exact Or.inr ⟨e, rfl⟩
  | passes _ readable error => exact Or.inr ⟨.select readable error, rfl⟩
  | calls a _ _ => exact Or.inr ⟨.next a, rfl⟩
  | _ => exact Or.inl rfl

/-! ### What the handler leaves open -/

theorem StillOpen.nil (w : World) : StillOpen w [] := List.forall_mem_nil _

theorem StillOpen.fdSet {s : FdSet} (h : StillOpen w s) {fd : ℕ} (hopen : lookup w.fdtab fd ≠ none) :
    StillOpen w (fdSet w fd s) := by
  intro p hp
  rcases List.mem_cons.mp hp with rfl | hp
  · exact ⟨hopen, rfl⟩
  · exact h p hp

theorem StillOpen.append {s s' : FdSet} : StillOpen w (s ++ s') ↔ StillOpen w s ∧ StillOpen w s' :=
  List.forall_mem_append

theorem fdtab_outside {e : Event} (he : fromOutside e = true) (hvisit : ∀ a, e ≠ .visit a) :
    (step C w e).fdtab = w.fdtab := by
  have hdoes := step_does C w e
  generalize step C w e = w' at hdoes
  cases hdoes with
  | idle _ => rfl
  | sigchld _ => rfl
  | reap _ _ _ _ _ _ _ => rfl
  | sigchldReturn _ => rfl
  | childWrite _ _ _ => rfl
  | childHangUp _ _ => rfl
  | childExit _ _ => rfl
  | scanEnd a _ _ _ _ => exact absurd rfl (hvisit a)
  | scanPass a _ _ _ _ _ _ => exact absurd rfl (hvisit a)
  | scanZeroed a _ _ _ _ _ _ => exact absurd rfl (hvisit a)
  | visit a _ _ _ _ _ _ _ _ _ => exact absurd rfl (hvisit a)
  | _ => cases he

/-- What comes from outside closes only the read end of the try whose listener is called. -/
theorem StillOpen.outside {s : FdSet} (h : StillOpen w s) (hlife : Life none w)
    (hcells : Cells Undecided w) {e : Event} (he : fromOutside e = true)
    (hclosing : ∀ a, e = .visit a → ∀ n, closing w = some n → n ∉ s.map Prod.fst) :
    StillOpen (step C w e) s := by
  intro p hp
  obtain ⟨hsome, hlookup⟩ := h p hp
  refine ⟨hsome, ?_⟩
  by_cases hvisit : ∃ a, e = .visit a
  · obtain ⟨a, rfl⟩ := hvisit
    obtain ⟨o, ho⟩ := Option.ne_none_iff_exists'.mp hsome
    rw [ho] at hlookup ⊢
    refine keepsOpen_visit hlife hcells a (fun hn => ?_) hlookup
    exact hclosing a rfl p.1 hn (List.mem_map_of_mem hp)
  · rw [fdtab_outside he (not_exists.mp hvisit)]
    exact hlookup

/-! ### Filling the sets -/

/-- Unless the table has changed, `reg` points to an entry, and past its test to a live one. -/
def Held (w : World) (f : Fill) : Prop :=
  f.moved = false → f.stmt ≠ .cond → f.stmt ≠ .get →
    ∃ r, w.fds.fds[f.i]? = some r ∧ (f.stmt ≠ .test → r.alive = true)

theorem Fill.reg_eq {f : Fill} {r : FdRegister FdCb} (hmoved : f.moved = false)
    (hget : w.fds.fds[f.i]? = some r) (stale : FdRegister FdCb) : f.reg stale w = r := by
  rw [Fill.reg, hmoved, if_neg Bool.false_ne_true, hget, Option.getD_some]

/-- What is kept of the place where `manager_run` is. -/
structure Fits (w : World) (stop : Bool) (p : Point) : Prop where
  sets : StillOpen w p.sets
  held : ∀ f, p = .fill f → Held w f
  errno : p ≠ .failed false
  returned : ∀ r, p = .returned r → r = 1 ∧ stop = true

/-- The number that is put into a set is open. -/
theorem reg_open (hwatched : WatchedOpen w) {f : Fill} (hheld : Held w f) {stale : FdRegister FdCb}
    (hstmt : f.stmt = .setRead ∨ f.stmt = .setError)
    (hreg : f.moved = false ∨ lookup w.fdtab (f.reg stale w).fd ≠ none) :
    lookup w.fdtab (f.reg stale w).fd ≠ none := by
  rcases hreg with hmoved | hopen
  · have hne : f.stmt ≠ .cond ∧ f.stmt ≠ .get ∧ f.stmt ≠ .test := by
      rcases hstmt with h | h <;> simp [h]
    obtain ⟨r, hget, halive⟩ := hheld hmoved hne.1 hne.2.1
    rw [Fill.reg_eq hmoved hget]
    exact hwatched r (FdTable.mem_live.mpr ⟨List.mem_of_getElem? hget, halive hne.2.2⟩)
  · exact hopen

theorem Fits.plain {w : World} {stop : Bool} {p : Point} (hsets : p.sets = [])
    (hfill : ∀ f, p ≠ .fill f) (herrno : p ≠ .failed false) (hreturned : ∀ r, p ≠ .returned r) :
    Fits w stop p where
  sets := hsets ▸ StillOpen.nil w
  held f hf := absurd hf (hfill f)
  errno := herrno
  returned r hr := absurd hr (hreturned r)

theorem Fits.fill {w : World} {stop : Bool} {f : Fill} (hsets : StillOpen w f.sets)
    (hheld : Held w f) : Fits w stop (.fill f) where
  sets := hsets
  held f' hf := by
    cases hf
    exact hheld
  errno := by rintro ⟨⟩
  returned r hr := by cases hr

/-- One statement of the loop that fills the sets. -/
theorem fits_fillStep (hwatched : WatchedOpen w) {stop : Bool} {f : Fill}
    (hsets : StillOpen w f.sets) (hheld : Held w f) {stale : FdRegister FdCb}
    (hreg : f.stmt = .setRead ∨ f.stmt = .setError →
      f.moved = false ∨ lookup w.fdtab (f.reg stale w).fd ≠ none) :
    Fits w stop (fillStep stale f w) := by
  obtain ⟨hread, herror⟩ := StillOpen.append.mp hsets
  unfold fillStep
  cases hstmt : f.stmt with
  | cond =>
    dsimp only
    split_ifs with hlt
    · exact Fits.fill hsets fun _ _ hget => absurd rfl hget
    · exact ⟨hsets, by rintro _ ⟨⟩, by rintro ⟨⟩, by rintro _ ⟨⟩⟩
  | get =>
    dsimp only
    split_ifs with hlt
    · exact Fits.fill hsets fun _ _ _ => ⟨_, List.getElem?_eq_getElem hlt, fun h => absurd rfl h⟩
    · exact Fits.plain rfl (by rintro _ ⟨⟩) (by rintro ⟨⟩) (by rintro _ ⟨⟩)
  | test =>
    dsimp only
    split_ifs with halive
    · refine Fits.fill hsets fun hmoved _ _ => ?_
      obtain ⟨r, hget, -⟩ := hheld hmoved (by simp [hstmt]) (by simp [hstmt])
      rw [Fill.reg_eq (f := f) hmoved hget] at halive
      exact ⟨r, hget, fun _ => halive⟩
    · exact Fits.fill hsets fun _ hcond _ => absurd rfl hcond
  | max =>
    refine Fits.fill hsets fun hmoved _ _ => ?_
    obtain ⟨r, hget, halive⟩ := hheld hmoved (by simp [hstmt]) (by simp [hstmt])
    exact ⟨r, hget, fun _ => halive (by simp [hstmt])⟩
  | setRead =>
    have hopen := reg_open hwatched hheld (Or.inl hstmt) (hreg (Or.inl hstmt))
    refine Fits.fill (StillOpen.append.mpr ⟨hread.fdSet hopen, herror⟩) fun hmoved _ _ => ?_
    obtain ⟨r, hget, halive⟩ := hheld hmoved (by simp [hstmt]) (by simp [hstmt])
    exact ⟨r, hget, fun _ => halive (by simp [hstmt])⟩
  | setError =>
    have hopen := reg_open hwatched hheld (Or.inr hstmt) (hreg (Or.inr hstmt))
    exact Fits.fill (StillOpen.append.mpr ⟨hread, herror.fdSet hopen⟩)
      fun _ hcond _ => absurd rfl hcond

/-- While all that is in the sets is open `select` does not fail. -/
theorem badFd_eq_false {f : Fill} (h : StillOpen w f.sets) : badFd f w = false := by
  unfold badFd
  rw [List.any_eq_false]
  intro p hp
  obtain ⟨hsome, hlookup⟩ := h p hp
  obtain ⟨o, ho⟩ := Option.ne_none_iff_exists'.mp hsome
  rw [hlookup, ho]
  simp

/-- The handler, or a child. -/
theorem Fits.outside {stop : Bool} {p : Point} (h : Fits w stop p) {w' : World}
    (hsets : StillOpen w' p.sets) {errno : Bool} (herrno : ∀ b, p = .failed b → errno = false) :
    Fits w' stop (p.interrupted (decide (w'.fds.fds ≠ w.fds.fds)) errno) := by
  cases p with
  | fill f =>
    refine Fits.fill hsets fun hmoved hcond hget => ?_
    obtain ⟨hmoved, hsame⟩ := Bool.or_eq_false_iff.mp hmoved
    have hfds : w'.fds.fds = w.fds.fds := not_not.mp (of_decide_eq_false hsame)
    obtain ⟨r, hr, halive⟩ := h.held f rfl hmoved hcond hget
    exact ⟨r, hfds ▸ hr, halive⟩
  | select f => exact ⟨hsets, by rintro _ ⟨⟩, by rintro ⟨⟩, by rintro _ ⟨⟩⟩
  | failed eintr =>
    have heintr : eintr = true := by
      cases eintr with
      | false => exact absurd rfl h.errno
      | true => rfl
    rw [heintr, herrno eintr rfl]
    exact Fits.plain rfl (by rintro _ ⟨⟩) (by rintro ⟨⟩) (by rintro _ ⟨⟩)
  | returned r => exact ⟨hsets, by rintro _ ⟨⟩, by rintro ⟨⟩, fun r' hr => h.returned r' hr⟩
  | _ => exact Fits.plain rfl (by rintro _ ⟨⟩) (by rintro ⟨⟩) (by rintro _ ⟨⟩)

/-! ### Runs -/

/-- What is kept while the handler leaves `manager_run` alone. -/
structure Readied (m : Main) : Prop where
  life : Life none m.world
  cells : Cells Undecided m.world
  watched : WatchedOpen m.world
  fits : Fits m.world m.stop m.point

theorem readied_step {m : Main} {e : MainEvent} (h : Readied m) (hok : leavesAlone m e = true) :
    Readied (mainStep C m e) := by
  obtain ⟨hok, herrno⟩ := Bool.and_eq_true_iff.mp hok
  obtain ⟨hsets, hreg⟩ := Bool.and_eq_true_iff.mp hok
  have hdoes := mainStep_does (C := C) m e
  generalize mainStep C m e = m' at hdoes
  have hworld : Life none m'.world ∧ Cells Undecided m'.world ∧ WatchedOpen m'.world := by
    rcases hdoes.world with hw | ⟨e', hw⟩
    · rw [hw]
      exact ⟨h.life, h.cells, h.watched⟩
    · rw [hw]
      exact ⟨life_step h.life, undecided_step h.cells e', watched_step h.watched⟩
  refine ⟨hworld.1, hworld.2.1, hworld.2.2, ?_⟩
  cases hdoes with
  | idle _ => exact h.fits
  | outside e errno he =>
    refine h.fits.outside (h.fits.sets.outside h.life h.cells he ?_) ?_
    · rintro a rfl n hn
      unfold leavesSets at hsets
      dsimp only at hsets
      rw [hn, Option.all_some] at hsets
      exact of_decide_eq_true hsets
    · intro b hb
      unfold leavesErrno at herrno
      rw [hb] at herrno
      simpa using herrno
  | stopped =>
    exact ⟨h.fits.sets, h.fits.held, h.fits.errno, fun r hr => ⟨(h.fits.returned r hr).1, rfl⟩⟩
  | ends _ _ hstop =>
    refine ⟨StillOpen.nil _, by rintro _ ⟨⟩, by rintro ⟨⟩, fun r hr => ?_⟩
    cases hr
    exact ⟨rfl, hstop⟩
  | starts _ _ => exact Fits.fill (StillOpen.nil _) fun _ hcond _ => absurd rfl hcond
  | fills stale f hp =>
    have hfits := h.fits
    rw [hp] at hfits
    refine fits_fillStep h.watched hfits.sets (hfits.held f rfl) fun hstmt => ?_
    unfold leavesReg at hreg
    rw [hp] at hreg
    dsimp only at hreg
    have hnot : ¬(f.stmt ≠ .setRead ∧ f.stmt ≠ .setError) := by tauto
    rw [decide_eq_false hnot, Bool.or_false, Bool.or_eq_true, Bool.not_eq_true',
      Option.isSome_iff_ne_none] at hreg
    exact hreg
  | bad _ f hp hbad =>
    have hopen := h.fits.sets
    rw [hp] at hopen
    rw [badFd_eq_false hopen] at hbad
    cases hbad
  | givesUp _ hp => exact absurd hp h.fits.errno
  | calls a p hp =>
    rcases hp with rfl | rfl
    · exact Fits.plain rfl (by rintro _ ⟨⟩) (by rintro ⟨⟩) (by rintro _ ⟨⟩)
    · exact Fits.plain rfl (by rintro _ ⟨⟩) (by rintro ⟨⟩) (by rintro _ ⟨⟩)
  | _ => exact Fits.plain rfl (by rintro _ ⟨⟩) (by rintro ⟨⟩) (by rintro _ ⟨⟩)

theorem readied_start (debug : Bool) (templates : List Template) :
    Readied (Main.start debug templates) where
  life := life_start debug templates
  cells := undecided_start debug templates
  watched := watched_start debug templates
  fits := Fits.plain rfl (by rintro _ ⟨⟩) (by rintro ⟨⟩) (by rintro _ ⟨⟩)

theorem Readied.selects {m : Main} (h : Readied m) : Selects m where
  still f hf := by
    have hsets := h.fits.sets
    rw [hf] at hsets
    exact hsets
  returns := h.fits.returned

/-- **The loop ends for `manager_stop` only**, and what is given to `select` is open, in every state of
every run in which the handler leaves `manager_run` alone. -/
theorem selects_throughout (debug : Bool) (templates : List Template) (es : List MainEvent)
    (hok : Meets (mainStep C) (fun m e => leavesAlone m e = true) (Main.start debug templates) es) :
    Throughout (mainStep C) Selects (Main.start debug templates) es :=
  Meets.throughout (fun _ _ h hok => readied_step h hok) (fun _ h => h.selects) es _ hok
    (readied_start debug templates)

/-! ### Two runs -/

/-- `manager_run` executes `n` statements. -/
def goes (n : ℕ) : List MainEvent := List.replicate n (.go ⟨none, 0⟩)

/-- A round of `manager_run` with `n` registrations, in which the descriptors `fds` are readable; the
events after the end of the pass are idle. -/
def managerRound (n : ℕ) (fds : List ℕ) (a : Answers) : List MainEvent :=
  goes (6 * n + 3) ++ .returns fds [] :: goes 1 ++ List.replicate (n + 2) (.next a)

/-- A client connects and asks for a greeter, and the sets are filled again. -/
def greeterWatched : List MainEvent :=
  managerRound 1 [3] Answers.plain ++
    managerRound 2 [4] { Answers.plain with input := .msg ⟨.greeterStart, none, none⟩ } ++ goes 14

/-- The child of the greeter ends, and the handler runs. -/
def greeterEnds : List MainEvent :=
  [.outside (.childExit 0) false, .outside .sigchld false, .outside (.reap 0) false,
    .outside (.visit Answers.plain) false, .outside (.visit Answers.plain) false,
    .outside (.visit Answers.plain) false, .outside .sigchldReturn false]

set_option maxRecDepth 8000 in
/-- The child ends while `select` blocks. -/
theorem selects_blocked : Throughout (mainStep Encoding.spawnCode) Selects (Main.start false [])
    (greeterWatched ++ goes 1 ++ greeterEnds ++ [.interrupted] ++ goes 2) :=
  selects_throughout false [] (greeterWatched ++ goes 1 ++ greeterEnds ++ [.interrupted] ++ goes 2)
    (by decide)

set_option maxRecDepth 8000 in
/-- **The daemon ends with a select error**: the child ends between the last `FD_SET` and `select`; the pipe
of the next greeter has another number. -/
theorem select_fails : ¬Throughout (mainStep Encoding.spawnCode) Selects (Main.start false [])
    (greeterWatched ++ greeterEnds ++ goes 1) := by
  intro h
  have hend := Throughout.at_end (greeterWatched ++ greeterEnds ++ goes 1) _ h
  have hpoint : (run (mainStep Encoding.spawnCode) (Main.start false [])
      (greeterWatched ++ greeterEnds ++ goes 1)).point = .returned 0 := by decide
  cases (hend.returns 0 hpoint).1

set_option maxRecDepth 4000 in
/-- The same if the last `waitpid` of the handler fails before `errno` is looked at. -/
example : (run (mainStep Encoding.spawnCode) (Main.start false [])
    (goes 9 ++ [.interrupted, .outside .sigchld false, .outside .sigchldReturn false] ++
      goes 1)).point = .returned 0 := by decide

end Spawny.Daemon.SelectSets
