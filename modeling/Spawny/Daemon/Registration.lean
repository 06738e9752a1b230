import Spawny.Lib.Runs
import Spawny.Daemon.State

/-! # The end of a child during its registration

The branch of the parent in `child_run`, statement by statement, with the `SIGCHLD` handler between any
two of them. `spawnregistery_listen` is `array_add`, which leaves the new slot as it finds it in memory,
and three writes through the pointer to the slot; the handler walks the same array, adds entries to it
and takes entries out.

Everything else that the daemon does with the registry is one step, as in `Loop`.

* `advance_alone`: without the handler the statements are `Registry.listen`;
* `intact_step`: what is kept while the registration is left alone;
* `none_lost`: **no try stays pending whose child was reaped**, in every run of that kind;
* `lost`: the child that is being registered is reaped, or another one. -/

namespace Spawny.Daemon.Registration

open Spawny.Lib.Tombstones Spawny.Lib.Runs Spawny.Daemon.SpawnRegistry Spawny.Daemon.State

/-! ### The machine -/

/-- A try that was forked, with its child: the number of the child, whether it has ended and was reaped,
`try->pid`, and whether `_spawn_try_free` was called for the try. -/
structure Child where
  pid : ℕ
  exited : Bool
  reaped : Bool
  tryPid : ℤ
  freed : Bool
  deriving DecidableEq, Repr, Inhabited

/-- The next statement of the parent: `manager_register_fd`, then `array_add` and the writes of
`spawnregistery_listen`, then the write of `try->pid`. -/
inductive Stmt
  | registerFd
  | arrayAdd
  | writePid
  | writeHandler
  | writeData
  | storePid
  deriving DecidableEq, Repr

/-- The parent in `child_run`: its try and child, the slot it fills. `moved` is not in the source: the
array was made longer or shorter since, so that the pointer to the slot is not valid. -/
structure Parent where
  spawnTry : ℕ
  pid : ℕ
  stmt : Stmt
  slot : ℕ
  moved : Bool
  deriving DecidableEq, Repr

/-- The tries, the registry, the reaped try and the index of the walk in `spawnregistery_eval`, and the
parent in `child_run`. -/
structure Registrar where
  tries : List Child
  registry : Registry Handler
  scan : Option (ℕ × ℕ)
  parent : Option Parent
  ub : Bool
  deriving DecidableEq, Repr

/-- `fork` returns in the parent; it goes on by one statement, where `garbage` is what the new slot holds,
`data` what its field `data` holds and `place` where a write through an invalid pointer falls; a try has
success and is freed; a greeter is listened for; a child ends; and the steps of the handler, where the
listener that is called forks the children `forks`. -/
inductive RegistrarEvent
  | fork (pid : ℕ)
  | advance (garbage : Waiting Handler) (data : ℕ) (place : Option ℕ)
  | free (spawnTry : ℕ)
  | listen (pid : ℤ) (greeter : ℕ)
  | exit (spawnTry : ℕ)
  | sigchld
  | reap (spawnTry : ℕ)
  | visit (forks : List ℕ)
  | sigchldReturn

namespace Registrar

def childAt (s : Registrar) (t : ℕ) : Child := (s.tries[t]?).getD default

/-- A process holds its number until it was reaped and its end has been handled. -/
def holdsPid (s : Registrar) (t : ℕ) : Bool :=
  !(s.childAt t).reaped || (s.scan.map Prod.fst) == some t

def pidFree (s : Registrar) (pid : ℕ) : Bool :=
  pid != 0 && (List.range s.tries.length).all fun t => !(s.holdsPid t && (s.childAt t).pid == pid)

/-- A write through the pointer to the slot. -/
def write (p : Parent) (place : Option ℕ) (f : Waiting Handler → Waiting Handler) (s : Registrar) :
    Registrar :=
  let slot := if p.moved then place else some p.slot
  { s with registry := { s.registry with
      pending := slot.elim s.registry.pending fun i => s.registry.pending.modify i f } }

/-- `w->data = data`. -/
def setData (t : ℕ) : Handler → Handler
  | .spawnedSessionDisappear _ => .spawnedSessionDisappear t
  | .greeterDone _ => .greeterDone t

/-- The parent goes on by one statement. -/
def advance (garbage : Waiting Handler) (data : ℕ) (place : Option ℕ) (p : Parent) (s : Registrar) :
    Registrar :=
  match p.stmt with
  | .registerFd => { s with parent := some { p with stmt := .arrayAdd } }
  | .arrayAdd => { s with
      registry := { s.registry with pending := s.registry.pending ++ [garbage] }
      parent := some { p with stmt := .writePid, slot := s.registry.pending.length, moved := false } }
  | .writePid => { write p place (fun e => { e with pid := p.pid }) s with
      parent := some { p with stmt := .writeHandler } }
  | .writeHandler =>
    { write p place (fun e => { e with handler := some (.spawnedSessionDisappear data) }) s with
      parent := some { p with stmt := .writeData } }
  | .writeData =>
    { write p place (fun e => { e with handler := e.handler.map (setData p.spawnTry) }) s with
      parent := some { p with stmt := .storePid } }
  | .storePid => { s with
      tries := s.tries.modify p.spawnTry fun c => { c with tryPid := p.pid }
      parent := none }

/-- `child_run` in a listener; it is not interrupted. -/
def handlerFork (s : Registrar) (pid : ℕ) : Registrar :=
  if s.pidFree pid then { s with
    tries := s.tries ++ [⟨pid, false, false, pid, false⟩]
    registry := s.registry.listen pid (.spawnedSessionDisappear s.tries.length) }
  else s

/-- `_spawn_try_free`, whose done callback forks the children `forks`. -/
def tryFree (t : ℕ) (forks : List ℕ) (s : Registrar) : Registrar :=
  let s' := forks.foldl handlerFork (if (s.childAt t).freed then { s with ub := true } else s)
  { s' with
    tries := s'.tries.modify t fun c => { c with freed := true }
    registry := s'.registry.unlisten (s'.childAt t).tryPid (.spawnedSessionDisappear t) }

/-- A listener is called and removed. -/
def call (pid : ℤ) (h : Handler) (forks : List ℕ) (s : Registrar) : Registrar :=
  let s' := match h with
    | .spawnedSessionDisappear t => s.tryFree t forks
    | .greeterDone _ => forks.foldl Registrar.handlerFork s
  { s' with registry := s'.registry.unlisten pid h }

/-- One round of the inner loop of `spawnregistery_eval` for the try `t`, or its end. -/
def visit (t i : ℕ) (forks : List ℕ) (s : Registrar) : Registrar :=
  match s.registry.pending[i]? with
  | none => { s with scan := none }
  | some e =>
    let s' :=
      if e.pid = (s.childAt t).pid then
        match e.handler with
        | none => { s with ub := true }
        | some h => s.call e.pid h forks
      else s
    { s' with scan := some (t, i + 1) }

/-- The handler has made the array longer or shorter. -/
def noteMoved (n : ℕ) (s : Registrar) : Registrar :=
  { s with parent := s.parent.map fun p =>
      { p with moved := p.moved || decide (s.registry.pending.length ≠ n) } }

def start : Registrar where
  tries := []
  registry := { pending := [], evalMode := false }
  scan := none
  parent := none
  ub := false

end Registrar

open Registrar

/-- **The transition function.** While the handler runs the parent waits. -/
def step (s : Registrar) : RegistrarEvent → Registrar
  | .fork pid =>
    if s.registry.evalMode = false ∧ s.parent = none ∧ s.pidFree pid = true then
      { s with
        tries := s.tries ++ [⟨pid, false, false, 0, false⟩]
        parent := some ⟨s.tries.length, pid, .registerFd, 0, false⟩ }
    else s
  | .advance garbage data place =>
    if s.registry.evalMode = false then s.parent.elim s fun p => s.advance garbage data place p else s
  | .free t =>
    if s.registry.evalMode = false ∧ s.parent = none ∧ (s.tries[t]?).any (fun c => !c.freed) = true then
      s.tryFree t []
    else s
  | .listen pid g =>
    if s.registry.evalMode = false ∧ s.parent = none then
      { s with registry := s.registry.listen pid (.greeterDone g) }
    else s
  | .exit t => { s with tries := s.tries.modify t fun c => { c with exited := true } }
  | .sigchld =>
    if s.registry.evalMode = false then
      { s with registry := { s.registry with evalMode := true } }
    else s
  | .reap t =>
    if s.registry.evalMode = true ∧ s.scan = none ∧
        (s.tries[t]?).any (fun c => c.exited && !c.reaped) = true then
      { s with tries := s.tries.modify t fun c => { c with reaped := true }, scan := some (t, 0) }
    else s
  | .visit forks =>
    match s.scan with
    | some (t, i) => (s.visit t i forks).noteMoved s.registry.pending.length
    | none => s
  | .sigchldReturn =>
    if s.registry.evalMode = true ∧ s.scan = none then
      noteMoved s.registry.pending.length
        { s with registry := { pending := cleanup s.registry.pending, evalMode := false } }
    else s

/-- **No end of a child is lost**: a try whose child was reaped is freed, or the handler is still on its
way to the listener. -/
def NoneLost (s : Registrar) : Prop :=
  ∀ t c, s.tries[t]? = some c → c.reaped = true → c.freed = true ∨ ∃ i, s.scan = some (t, i)

/-- The parent fills a slot. -/
def Parent.filling (p : Parent) : Bool :=
  match p.stmt with
  | .writePid => true
  | .writeHandler => true
  | .writeData => true
  | _ => false

/-- **The registration is left alone**: its child is not reaped before the listener is there, and while
the slot is filled the handler adds no entry to the array and takes none out. -/
def leftAlone (s : Registrar) (e : RegistrarEvent) : Bool :=
  match s.parent, e with
  | some p, .reap t => decide (t = p.spawnTry → p.stmt = .storePid)
  | some p, .visit forks => !p.filling || forks.isEmpty
  | some p, .sigchldReturn => !p.filling || s.registry.pending.all Waiting.alive
  | _, _ => true

/-! ### Without the handler -/

theorem modify_concat {α : Type*} (f : α → α) (a : α) : ∀ l : List α,
    (l ++ [a]).modify l.length f = l ++ [f a]
  | [] => rfl
  | b :: l => by simp [modify_concat f a l]

/-- The statements after the `fork` of the child `pid` for the try `t`, with nothing in between. -/
theorem advance_alone (s : Registrar) (heval : s.registry.evalMode = false) (t pid slot : ℕ)
    (moved : Bool)
    (garbage : Waiting Handler) (data : ℕ) (place : Option ℕ)
    (hparent : s.parent = some ⟨t, pid, .registerFd, slot, moved⟩) :
    run step s (List.replicate 6 (.advance garbage data place)) =
      { s with
        tries := s.tries.modify t fun c => { c with tryPid := pid }
        registry := s.registry.listen pid (.spawnedSessionDisappear t)
        parent := none } := by
  obtain ⟨tries, ⟨pending, evalMode⟩, scan, parent, ub⟩ := s
  obtain rfl : evalMode = false := heval
  obtain rfl : parent = _ := hparent
  simp only [List.replicate, run_cons, run_nil, step, advance, write, Option.elim, if_true,
    Bool.false_eq_true, if_false, Registry.listen, modify_concat, Option.map_some, setData]

/-! ### The invariant -/

/-- The listener of the try `t`. -/
def listener (t : ℕ) (c : Child) : Waiting Handler := ⟨c.pid, some (.spawnedSessionDisappear t)⟩

/-- The number of the child is in use. -/
def Holds (s : Registrar) (t : ℕ) (c : Child) : Prop := c.reaped = false ∨ ∃ i, s.scan = some (t, i)

/-- The parent is about to register the child of `t`. -/
def Registers (s : Registrar) (t : ℕ) : Prop :=
  ∃ p, s.parent = some p ∧ p.spawnTry = t ∧ p.stmt ≠ .storePid

/-- The parent fills the slot `i`. -/
def Fills (s : Registrar) (i : ℕ) : Prop := ∃ p, s.parent = some p ∧ p.filling = true ∧ p.slot = i

/-- What the slot holds by now. -/
def Parent.Written (p : Parent) (e : Waiting Handler) : Prop :=
  (p.stmt ≠ .writePid → e.pid = p.pid) ∧
    (p.stmt = .writeData → ∃ d, e.handler = some (.spawnedSessionDisappear d))

/-- **The invariant.** -/
structure Intact (s : Registrar) : Prop where
  distinct : ∀ {t t' : ℕ} {c c' : Child}, s.tries[t]? = some c → s.tries[t']? = some c' →
    t ≠ t' → Holds s t c →
    Holds s t' c' → c.pid ≠ c'.pid
  positive : ∀ {t : ℕ} {c : Child}, s.tries[t]? = some c → c.pid ≠ 0
  tryPid : ∀ {t : ℕ} {c : Child}, s.tries[t]? = some c → c.tryPid = 0 ∨ c.tryPid = c.pid
  scanned : ∀ {t i : ℕ}, s.scan = some (t, i) → s.registry.evalMode = true ∧
    ∃ c : Child, s.tries[t]? = some c ∧ c.reaped = true
  /-- a listener has the number of the child of its try -/
  honest : ∀ {i : ℕ} {q : ℤ} {t : ℕ},
    s.registry.pending[i]? = some ⟨q, some (.spawnedSessionDisappear t)⟩ →
    ¬Fills s i → ∃ c : Child, s.tries[t]? = some c ∧ q = c.pid
  /-- a try that is pending has a listener, and if its child was reaped the walk is on its way there -/
  waits : ∀ {t : ℕ} {c : Child}, s.tries[t]? = some c → c.freed = false → ¬Registers s t →
    ∃ j, s.registry.pending[j]? = some (listener t c) ∧ ¬Fills s j ∧
      (c.reaped = true → ∃ i, s.scan = some (t, i) ∧ i ≤ j)
  parent : ∀ {p : Parent}, s.parent = some p → ∃ c : Child,
    s.tries[p.spawnTry]? = some c ∧ c.pid = p.pid ∧
    (p.stmt ≠ .storePid → c.reaped = false)
  slot : ∀ {p : Parent}, s.parent = some p → p.filling = true → p.moved = false ∧
    ∃ e, s.registry.pending[p.slot]? = some e ∧ p.Written e

variable {s : Registrar}

theorem Intact.noneLost (h : Intact s) : NoneLost s := by
  intro t c ht hreaped
  cases hfreed : c.freed with
  | true => exact Or.inl rfl
  | false =>
    have hnot : ¬Registers s t := by
      rintro ⟨p, hp, rfl, hstmt⟩
      obtain ⟨c', ht', -, halive⟩ := h.parent hp
      rw [ht] at ht'
      rw [Option.some.inj ht', halive hstmt] at hreaped
      cases hreaped
    obtain ⟨j, -, -, hscan⟩ := h.waits ht hfreed hnot
    obtain ⟨i, hi, -⟩ := hscan hreaped
    exact Or.inr ⟨i, hi⟩

theorem childAt_eq {t : ℕ} {c : Child} (h : s.tries[t]? = some c) : s.childAt t = c := by
  rw [childAt, h]
  rfl

/-- A number that is free is not in use. -/
theorem pidFree_spec {pid : ℕ} (h : s.pidFree pid = true) :
    pid ≠ 0 ∧ ∀ {t : ℕ} {c : Child}, s.tries[t]? = some c → Holds s t c → c.pid ≠ pid := by
  obtain ⟨hpos, hall⟩ := Bool.and_eq_true_iff.mp h
  refine ⟨by simpa using hpos, fun {t c} ht hholds hpid => ?_⟩
  have hlt := (List.getElem?_eq_some_iff.mp ht).1
  have hfree := List.all_eq_true.mp hall t (List.mem_range.mpr hlt)
  have hold : s.holdsPid t = true := by
    unfold holdsPid
    rw [childAt_eq ht]
    rcases hholds with hreaped | ⟨i, hscan⟩
    · rw [hreaped]
      rfl
    · rw [hscan]
      simp
  rw [hold, childAt_eq ht, hpid] at hfree
  simp at hfree

/-- A try of the list after a change at one place. -/
theorem getElem?_of_modify {α : Type*} {l : List α} {f : α → α} {t t' : ℕ} {c : α}
    (h : (l.modify t f)[t']? = some c) :
    ∃ c₀, l[t']? = some c₀ ∧ (c = c₀ ∧ t ≠ t' ∨ t = t' ∧ c = f c₀) := by
  by_cases ht : t = t'
  · subst ht
    rw [List.getElem?_modify_eq] at h
    obtain ⟨c₀, hc₀, rfl⟩ := Option.map_eq_some_iff.mp h
    exact ⟨c₀, hc₀, Or.inr ⟨rfl, rfl⟩⟩
  · rw [List.getElem?_modify_ne _ _ ht] at h
    exact ⟨c, h, Or.inl ⟨rfl, ht⟩⟩

/-- The try `t` changes, but for the number of its child and whether that was reaped. -/
theorem Intact.modifyTry (h : Intact s) (t : ℕ) {f : Child → Child} (hpid : ∀ c, (f c).pid = c.pid)
    (hreaped : ∀ c, (f c).reaped = c.reaped) (hfreed : ∀ c, (f c).freed = false → c.freed = false)
    (htryPid : ∀ c, s.tries[t]? = some c → (f c).tryPid = 0 ∨ (f c).tryPid = c.pid) :
    Intact { s with tries := s.tries.modify t f } := by
  have hold : ∀ {t' : ℕ} {c : Child}, (s.tries.modify t f)[t']? = some c →
      ∃ c₀ : Child, s.tries[t']? = some c₀ ∧
      c.pid = c₀.pid ∧ c.reaped = c₀.reaped ∧ (c.freed = false → c₀.freed = false) ∧
      (c.tryPid = 0 ∨ c.tryPid = c₀.pid) := by
    intro t' c hc
    obtain ⟨c₀, hc₀, ⟨rfl, -⟩ | ⟨rfl, rfl⟩⟩ := getElem?_of_modify hc
    · exact ⟨c, hc₀, rfl, rfl, id, h.tryPid hc₀⟩
    · exact ⟨c₀, hc₀, hpid c₀, hreaped c₀, hfreed c₀, htryPid c₀ hc₀⟩
  have hnew : ∀ {t' : ℕ} {c : Child}, s.tries[t']? = some c →
      ∃ c' : Child, (s.tries.modify t f)[t']? = some c' ∧
      c'.pid = c.pid ∧ c'.reaped = c.reaped := by
    intro t' c hc
    by_cases ht : t = t'
    · subst ht
      exact ⟨f c, by rw [List.getElem?_modify_eq, hc]; rfl, hpid c, hreaped c⟩
    · exact ⟨c, by rw [List.getElem?_modify_ne _ _ ht, hc], rfl, rfl⟩
  refine ⟨fun {t₁ t₂ c₁ c₂} h₁ h₂ hne hh₁ hh₂ => ?_, fun {t' c} hc => ?_, fun {t' c} hc => ?_,
    fun {t' i} hs => ?_, fun {i q t'} he hfill => ?_, fun {t' c} hc hfree hreg => ?_,
    fun {p} hp => ?_, fun {p} hp hfill => h.slot hp hfill⟩
  · obtain ⟨c₁', h₁', hpid₁, hr₁, -⟩ := hold h₁
    obtain ⟨c₂', h₂', hpid₂, hr₂, -⟩ := hold h₂
    rw [hpid₁, hpid₂]
    unfold Holds at hh₁ hh₂
    rw [hr₁] at hh₁
    rw [hr₂] at hh₂
    exact h.distinct h₁' h₂' hne hh₁ hh₂
  · obtain ⟨c₀, hc₀, hp, -⟩ := hold hc
    rw [hp]
    exact h.positive hc₀
  · obtain ⟨c₀, hc₀, hp, -, -, htry⟩ := hold hc
    rw [hp]
    exact htry
  · obtain ⟨heval, c, hc, hr⟩ := h.scanned hs
    obtain ⟨c', hc', -, hr'⟩ := hnew hc
    exact ⟨heval, c', hc', hr'.trans hr⟩
  · obtain ⟨c, hc, hq⟩ := h.honest he hfill
    obtain ⟨c', hc', hp, -⟩ := hnew hc
    exact ⟨c', hc', hq.trans (by rw [hp])⟩
  · obtain ⟨c₀, hc₀, hp, hr, hf, -⟩ := hold hc
    obtain ⟨j, hj, hfill, hscan⟩ := h.waits hc₀ (hf hfree) hreg
    refine ⟨j, ?_, hfill, fun hreap => hscan (hr ▸ hreap)⟩
    rw [listener, hp]
    exact hj
  · obtain ⟨c, hc, hp', hr⟩ := h.parent hp
    obtain ⟨c', hc', hpid', hr'⟩ := hnew hc
    exact ⟨c', hc', hpid'.trans hp', fun hstmt => hr'.trans (hr hstmt)⟩

/-! ### New children -/

theorem getElem?_of_concat {α : Type*} {l : List α} {a b : α} {i : ℕ} (h : (l ++ [a])[i]? = some b) :
    l[i]? = some b ∨ i = l.length ∧ b = a := by
  rw [List.getElem?_append] at h
  split_ifs at h with hlt
  · exact Or.inl h
  · obtain ⟨hz, rfl⟩ := List.getElem?_eq_some_iff.mp h
    rw [List.length_singleton] at hz
    have hi : i - l.length = 0 := by omega
    exact Or.inr ⟨by omega, by simp [hi]⟩

theorem getElem?_concat_of {α : Type*} {l : List α} {b : α} {i : ℕ} (h : l[i]? = some b) (a : α) :
    (l ++ [a])[i]? = some b := by
  rw [List.getElem?_append_left (List.getElem?_eq_some_iff.mp h).1, h]

/-- A child is new, and no slot is being filled: it is registered already, or the parent registers it. -/
theorem Intact.newChild (h : Intact s) {s' : Registrar} {pid : ℕ} {tryPid : ℤ}
    (hfree : s.pidFree pid = true) (htry : tryPid = 0 ∨ tryPid = pid)
    (htries : s'.tries = s.tries ++ [⟨pid, false, false, tryPid, false⟩]) (hscan : s'.scan = s.scan)
    (heval : s'.registry.evalMode = s.registry.evalMode) (hfill : ∀ i, ¬Fills s i)
    (hfill' : ∀ p, s'.parent = some p → p.filling = false)
    (hkeep : ∀ {i : ℕ} {e : Waiting Handler}, s.registry.pending[i]? = some e →
      s'.registry.pending[i]? = some e)
    (honly : ∀ {i : ℕ} {e : Waiting Handler}, s'.registry.pending[i]? = some e →
      s.registry.pending[i]? = some e ∨ e = ⟨pid, some (.spawnedSessionDisappear s.tries.length)⟩)
    (hregisters : ∀ {t : ℕ}, Registers s t → Registers s' t)
    (hnew : ¬Registers s' s.tries.length →
      ∃ j : ℕ, s'.registry.pending[j]? = some ⟨pid, some (.spawnedSessionDisappear s.tries.length)⟩)
    (hparent : ∀ {p : Parent}, s'.parent = some p → s.parent = some p ∨
      p.spawnTry = s.tries.length ∧ p.pid = pid) : Intact s' := by
  obtain ⟨hpos, hne⟩ := pidFree_spec hfree
  have hnofill : ∀ i, ¬Fills s' i := by
    rintro i ⟨p, hp, hfilling, -⟩
    rw [hfill' p hp] at hfilling
    cases hfilling
  have hold : ∀ {t : ℕ} {c : Child}, s.tries[t]? = some c → s'.tries[t]? = some c := fun hc => by
    rw [htries]
    exact getElem?_concat_of hc _
  have hcases : ∀ {t : ℕ} {c : Child}, s'.tries[t]? = some c → s.tries[t]? = some c ∨
      t = s.tries.length ∧ c = ⟨pid, false, false, tryPid, false⟩ := fun hc => by
    rw [htries] at hc
    exact getElem?_of_concat hc
  have hholds : ∀ {t : ℕ} {c : Child}, Holds s' t c → Holds s t c := fun hh => by
    rw [Holds, hscan] at hh
    exact hh
  refine ⟨fun {t t' c c'} hc hc' htt hh hh' => ?_, fun {t c} hc => ?_, fun {t c} hc => ?_,
    fun {t i} hs => ?_, fun {i q t} he _ => ?_, fun {t c} hc hfreed hreg => ?_, fun {p} hp => ?_,
    fun {p} hp hfilling => ?_⟩
  · rcases hcases hc with hc | ⟨rfl, rfl⟩ <;> rcases hcases hc' with hc' | ⟨rfl, rfl⟩
    · exact h.distinct hc hc' htt (hholds hh) (hholds hh')
    · exact hne hc (hholds hh)
    · exact (hne hc' (hholds hh')).symm
    · exact absurd rfl htt
  · rcases hcases hc with hc | ⟨rfl, rfl⟩
    · exact h.positive hc
    · exact hpos
  · rcases hcases hc with hc | ⟨rfl, rfl⟩
    · exact h.tryPid hc
    · exact htry
  · rw [hscan] at hs
    obtain ⟨he, c, hc, hr⟩ := h.scanned hs
    exact ⟨heval.trans he, c, hold hc, hr⟩
  · rcases honly he with he | he
    · obtain ⟨c, hc, hq⟩ := h.honest he (hfill i)
      exact ⟨c, hold hc, hq⟩
    · simp only [Waiting.mk.injEq, Option.some.injEq, Handler.spawnedSessionDisappear.injEq] at he
      obtain ⟨rfl, rfl⟩ := he
      refine ⟨⟨pid, false, false, tryPid, false⟩, ?_, rfl⟩
      rw [htries, List.getElem?_concat_length]
  · rcases hcases hc with hc | ⟨rfl, rfl⟩
    · obtain ⟨j, hj, -, hwalk⟩ := h.waits hc hfreed fun hr => hreg (hregisters hr)
      exact ⟨j, hkeep hj, hnofill j, fun hr => by rw [hscan]; exact hwalk hr⟩
    · obtain ⟨j, hj⟩ := hnew hreg
      exact ⟨j, hj, hnofill j, fun hr => by cases hr⟩
  · rcases hparent hp with hp | ⟨htry', hpid⟩
    · obtain ⟨c, hc, hpid, hr⟩ := h.parent hp
      exact ⟨c, hold hc, hpid, hr⟩
    · refine ⟨⟨pid, false, false, tryPid, false⟩, ?_, hpid.symm, fun _ => rfl⟩
      rw [htry', htries, List.getElem?_concat_length]
  · rw [hfill' p hp] at hfilling
    cases hfilling

/-- `child_run` in a listener. -/
theorem Intact.handlerFork (h : Intact s) (hfill : ∀ i, ¬Fills s i) (pid : ℕ) :
    Intact (s.handlerFork pid) := by
  unfold Registrar.handlerFork
  split_ifs with hfree
  · refine h.newChild hfree (Or.inr rfl) rfl rfl rfl hfill ?_ (fun he => getElem?_concat_of he _)
      (fun he => (getElem?_of_concat he).imp_right And.right) (fun hr => hr)
      (fun _ => ⟨_, List.getElem?_concat_length⟩) (fun hp => Or.inl hp)
    intro p hp
    by_contra hfilling
    exact hfill p.slot ⟨p, hp, by simpa using hfilling, rfl⟩
  · exact h

/-- `fork` in the parent. -/
theorem Intact.fork (h : Intact s) (hparent : s.parent = none) {pid : ℕ}
    (hfree : s.pidFree pid = true) :
    Intact { s with
      tries := s.tries ++ [⟨pid, false, false, 0, false⟩]
      parent := some ⟨s.tries.length, pid, .registerFd, 0, false⟩ } := by
  have hnone : ∀ p, s.parent ≠ some p := fun p hp => by
    rw [hparent] at hp
    cases hp
  refine h.newChild hfree (Or.inl rfl) rfl rfl rfl ?_ ?_ id Or.inl ?_ ?_ ?_
  · rintro i ⟨p, hp, -⟩
    exact hnone p hp
  · rintro p hp
    cases hp
    rfl
  · rintro t ⟨p, hp, -⟩
    exact absurd hp (hnone p)
  · intro hreg
    exact absurd ⟨_, rfl, rfl, by rintro ⟨⟩⟩ hreg
  · rintro p hp
    cases hp
    exact Or.inr ⟨rfl, rfl⟩

/-! ### Listeners are removed -/

/-- In the handler a listener is removed whose try is freed, or that of a greeter; what the parent has
written into its slot is not taken for it. -/
theorem Intact.unlisten (h : Intact s) (heval : s.registry.evalMode = true) {q : ℤ} {hd : Handler}
    (hfreed : ∀ {t : ℕ} {c : Child}, hd = .spawnedSessionDisappear t → s.tries[t]? = some c →
      c.freed = true)
    (hslot : ∀ p, s.parent = some p → p.filling = true → p.stmt ≠ .writePid → q ≠ p.pid) :
    Intact { s with registry := s.registry.unlisten q hd } where
  distinct := h.distinct
  positive := h.positive
  tryPid := h.tryPid
  scanned hs := by
    obtain ⟨he, hc⟩ := h.scanned hs
    exact ⟨by rw [Registry.evalMode_unlisten]; exact he, hc⟩
  honest {i q' t} he hfill := by
    rw [Registry.getElem?_unlisten_eq heval] at he
    obtain ⟨e, he, heq⟩ := Option.map_eq_some_iff.mp he
    split_ifs at heq
    · cases heq
    · exact h.honest (heq ▸ he) hfill
  waits {t c} hc hfree hreg := by
    obtain ⟨j, hj, hfill, hwalk⟩ := h.waits hc hfree hreg
    refine ⟨j, Registry.getElem?_unlisten heval ?_ hj, hfill, hwalk⟩
    intro heq
    rw [listener, Waiting.mk.injEq, Option.some.injEq] at heq
    rw [hfreed heq.2.symm hc] at hfree
    cases hfree
  parent := h.parent
  slot {p} hp hfilling := by
    obtain ⟨hmoved, e, he, hwritten⟩ := h.slot hp hfilling
    refine ⟨hmoved, _, by rw [Registry.getElem?_unlisten_eq heval, he, Option.map_some], ?_⟩
    by_cases hstmt : p.stmt = .writePid
    · exact ⟨fun hne => absurd hstmt hne, fun hdata => by rw [hstmt] at hdata; cases hdata⟩
    · rw [if_neg]
      · exact hwritten
      · rintro rfl
        exact hslot p hp hfilling hstmt (hwritten.1 hstmt)

/-- What becomes of the entries in the handler: they stay, or are zeroed. -/
def Stays (l l' : List (Waiting Handler)) : Prop :=
  ∀ (i : ℕ) (e : Waiting Handler), l[i]? = some e → l'[i]? = some e ∨ l'[i]? = some ⟨0, none⟩

theorem Stays.refl (l : List (Waiting Handler)) : Stays l l := fun _ _ => Or.inl

theorem Stays.trans {l l' l'' : List (Waiting Handler)} (h : Stays l l') (h' : Stays l' l'') :
    Stays l l'' := by
  intro i e he
  rcases h i e he with he | he
  · exact h' i e he
  · exact Or.inr ((h' i _ he).elim id id)

theorem stays_unlisten {r : Registry Handler} (heval : r.evalMode = true) (q : ℤ) (hd : Handler) :
    Stays r.pending (r.unlisten q hd).pending := by
  intro i e he
  rw [Registry.getElem?_unlisten_eq heval, he, Option.map_some]
  split_ifs
  · exact Or.inr rfl
  · exact Or.inl rfl

theorem stays_handlerFork (pid : ℕ) (s : Registrar) :
    Stays s.registry.pending (s.handlerFork pid).registry.pending := by
  unfold Registrar.handlerFork
  split_ifs
  · exact fun _ _ he => Or.inl (getElem?_concat_of he _)
  · exact Stays.refl _

/-- What a listener leaves as it is. -/
structure Handled (s s' : Registrar) : Prop where
  scan : s'.scan = s.scan
  evalMode : s'.registry.evalMode = s.registry.evalMode
  parent : s'.parent = s.parent
  stays : Stays s.registry.pending s'.registry.pending

theorem Handled.refl (s : Registrar) : Handled s s := ⟨rfl, rfl, rfl, Stays.refl _⟩

theorem Handled.trans {s' s'' : Registrar} (h : Handled s s') (h' : Handled s' s'') : Handled s s'' :=
  ⟨h'.scan.trans h.scan, h'.evalMode.trans h.evalMode, h'.parent.trans h.parent,
    h.stays.trans h'.stays⟩

theorem Handled.fills {s' : Registrar} (h : Handled s s') {i : ℕ} : Fills s' i ↔ Fills s i := by
  rw [Fills, Fills, h.parent]

theorem handled_handlerFork (pid : ℕ) (s : Registrar) : Handled s (s.handlerFork pid) := by
  refine ⟨?_, ?_, ?_, stays_handlerFork pid s⟩ <;> unfold Registrar.handlerFork <;>
    split_ifs <;> rfl

theorem handled_unlisten (heval : s.registry.evalMode = true) (q : ℤ) (hd : Handler) :
    Handled s { s with registry := s.registry.unlisten q hd } :=
  ⟨rfl, Registry.evalMode_unlisten q hd _, rfl, stays_unlisten heval q hd⟩

/-- The children that a listener forks. -/
theorem Intact.forks (h : Intact s) {forks : List ℕ} (hfill : forks = [] ∨ ∀ i, ¬Fills s i) :
    Intact (forks.foldl Registrar.handlerFork s) ∧
      Handled s (forks.foldl Registrar.handlerFork s) := by
  induction forks generalizing s with
  | nil => exact ⟨h, Handled.refl s⟩
  | cons pid forks ih =>
    have hno := hfill.resolve_left (List.cons_ne_nil pid forks)
    have hstep := handled_handlerFork pid s
    obtain ⟨hintact, hforked⟩ := ih (h.handlerFork hno pid)
      (Or.inr fun i hi => hno i (hstep.fills.mp hi))
    exact ⟨hintact, hstep.trans hforked⟩

theorem Intact.fault (h : Intact s) : Intact { s with ub := true } :=
  ⟨h.distinct, h.positive, h.tryPid, h.scanned, h.honest, h.waits, h.parent, h.slot⟩

/-- `_spawn_try_free` in a listener. -/
theorem Intact.tryFree (h : Intact s) (heval : s.registry.evalMode = true) {t : ℕ} {forks : List ℕ}
    (hfill : forks = [] ∨ ∀ i, ¬Fills s i)
    (hslot : ∀ p, s.parent = some p → p.filling = true → p.stmt ≠ .writePid →
      (s.childAt t).tryPid ≠ p.pid) :
    Intact (s.tryFree t forks) ∧ Handled s (s.tryFree t forks) ∧
      ∀ c, (s.tryFree t forks).tries[t]? = some c → c.freed = true := by
  have hub : Intact (if (s.childAt t).freed then { s with ub := true } else s) ∧
      Handled s (if (s.childAt t).freed then { s with ub := true } else s) ∧
      (if (s.childAt t).freed then { s with ub := true } else s).tries = s.tries := by
    split_ifs
    · exact ⟨h.fault, ⟨rfl, rfl, rfl, Stays.refl _⟩, rfl⟩
    · exact ⟨h, Handled.refl s, rfl⟩
  unfold Registrar.tryFree
  generalize (if (s.childAt t).freed then { s with ub := true } else s) = s₀ at hub ⊢
  obtain ⟨h₀, hhandled₀, htries⟩ := hub
  have hchild : s₀.childAt t = s.childAt t := by rw [childAt, childAt, htries]
  have hfill₀ : forks = [] ∨ ∀ i, ¬Fills s₀ i :=
    hfill.imp_right fun hno i hi => hno i (hhandled₀.fills.mp hi)
  obtain ⟨h₁, hhandled₁⟩ := h₀.forks hfill₀
  have hslot₁ : ∀ p, (forks.foldl Registrar.handlerFork s₀).parent = some p → p.filling = true →
      p.stmt ≠ .writePid → ((forks.foldl Registrar.handlerFork s₀).childAt t).tryPid ≠ p.pid := by
    intro p hp hfilling hstmt
    rw [hhandled₁.parent, hhandled₀.parent] at hp
    obtain rfl := hfill.resolve_right fun hno => hno p.slot ⟨p, hp, hfilling, rfl⟩
    rw [List.foldl_nil, hchild]
    exact hslot p hp hfilling hstmt
  generalize forks.foldl Registrar.handlerFork s₀ = s₁ at h₁ hhandled₁ hslot₁ ⊢
  have hhandled := hhandled₀.trans hhandled₁
  have heval₁ : s₁.registry.evalMode = true := hhandled.evalMode.trans heval
  have hmod := h₁.modifyTry t (f := fun c => { c with freed := true }) (fun _ => rfl) (fun _ => rfl)
    (fun _ hf => by cases hf) (fun c hc => h₁.tryPid (c := c) hc)
  have hfreed : ∀ c, (s₁.tries.modify t fun c => { c with freed := true })[t]? = some c →
      c.freed = true := by
    intro c hc
    obtain ⟨c₀, -, ⟨-, hne⟩ | ⟨-, rfl⟩⟩ := getElem?_of_modify hc
    · exact absurd rfl hne
    · rfl
  refine ⟨hmod.unlisten heval₁ ?_ hslot₁, ⟨hhandled.scan, ?_, hhandled.parent,
    hhandled.stays.trans (stays_unlisten heval₁ _ _)⟩, hfreed⟩
  · rintro t' c heq hc
    cases heq
    exact hfreed c hc
  · exact (Registry.evalMode_unlisten _ _ _).trans hhandled.evalMode

/-! ### The walk -/

/-- The walk passes an entry that is not the listener of its try. -/
theorem Intact.scanTo (h : Intact s) {t i : ℕ} (hscan : s.scan = some (t, i))
    (hne : ∀ c, s.tries[t]? = some c → c.freed = false →
      s.registry.pending[i]? ≠ some (listener t c)) :
    Intact { s with scan := some (t, i + 1) } := by
  have hholds : ∀ {t' : ℕ} {c : Child}, Holds { s with scan := some (t, i + 1) } t' c →
      Holds s t' c := by
    rintro t' c (hr | ⟨j, hj⟩)
    · exact Or.inl hr
    · obtain ⟨rfl, -⟩ := Prod.mk.inj (Option.some.inj hj)
      exact Or.inr ⟨i, hscan⟩
  refine ⟨fun hc hc' htt hh hh' => h.distinct hc hc' htt (hholds hh) (hholds hh'), h.positive, h.tryPid,
    fun hs => ?_, h.honest, fun {t' c} hc hfree hreg => ?_, h.parent, h.slot⟩
  · obtain ⟨rfl, -⟩ := Prod.mk.inj (Option.some.inj hs)
    exact h.scanned hscan
  · obtain ⟨j, hj, hfill, hwalk⟩ := h.waits hc hfree hreg
    refine ⟨j, hj, hfill, fun hr => ?_⟩
    obtain ⟨i', hi', hle⟩ := hwalk hr
    rw [hscan] at hi'
    obtain ⟨rfl, rfl⟩ := Prod.mk.inj (Option.some.inj hi')
    have hij : i ≠ j := by
      rintro rfl
      exact hne c hc hfree hj
    exact ⟨i + 1, rfl, by omega⟩

/-- The walk is over. -/
theorem Intact.scanEnd (h : Intact s) {t i : ℕ} (hscan : s.scan = some (t, i))
    (hend : s.registry.pending[i]? = none) : Intact { s with scan := none } := by
  have hholds : ∀ {t' : ℕ} {c : Child}, Holds { s with scan := none } t' c → Holds s t' c := by
    rintro t' c (hr | ⟨j, hj⟩)
    · exact Or.inl hr
    · cases hj
  refine ⟨fun hc hc' htt hh hh' => h.distinct hc hc' htt (hholds hh) (hholds hh'), h.positive, h.tryPid,
    fun hs => (by cases hs), h.honest, fun {t' c} hc hfree hreg => ?_, h.parent, h.slot⟩
  obtain ⟨j, hj, hfill, hwalk⟩ := h.waits hc hfree hreg
  refine ⟨j, hj, hfill, fun hr => ?_⟩
  obtain ⟨i', hi', hle⟩ := hwalk hr
  rw [hscan] at hi'
  obtain ⟨rfl, rfl⟩ := Prod.mk.inj (Option.some.inj hi')
  have hlt := (List.getElem?_eq_some_iff.mp hj).1
  have hge := List.getElem?_eq_none_iff.mp hend
  omega

/-- A listener for the child of `t` is called. -/
theorem Intact.call (h : Intact s) {t i : ℕ} {c : Child} (hscan : s.scan = some (t, i))
    (hc : s.tries[t]? = some c) {hd : Handler}
    (he : s.registry.pending[i]? = some ⟨c.pid, some hd⟩) {forks : List ℕ}
    (hfill : forks = [] ∨ ∀ i, ¬Fills s i) :
    Intact (s.call c.pid hd forks) ∧ Handled s (s.call c.pid hd forks) ∧
      ∀ c', hd = .spawnedSessionDisappear t → (s.call c.pid hd forks).tries[t]? = some c' →
        c'.freed = true := by
  obtain ⟨heval, c₀, hc₀, hreaped⟩ := h.scanned hscan
  rw [hc] at hc₀
  obtain rfl := Option.some.inj hc₀
  -- the number of the child that is being registered is not that of the one that was reaped
  have hother : ∀ p, s.parent = some p → p.filling = true → c.pid ≠ p.pid := by
    intro p hp hfilling
    obtain ⟨c', hc', hpid, hr⟩ := h.parent hp
    have hstmt : p.stmt ≠ .storePid := by
      intro hstmt
      rw [Parent.filling, hstmt] at hfilling
      cases hfilling
    have hne : t ≠ p.spawnTry := by
      rintro rfl
      rw [hc] at hc'
      rw [Option.some.inj hc', hr hstmt] at hreaped
      cases hreaped
    rw [← hpid]
    exact h.distinct hc hc' hne (Or.inr ⟨i, hscan⟩) (Or.inl (hr hstmt))
  unfold Registrar.call
  cases hd with
  | greeterDone g =>
    dsimp only
    obtain ⟨h₁, hhandled₁⟩ := h.forks hfill
    have heval₁ := hhandled₁.evalMode.trans heval
    refine ⟨h₁.unlisten heval₁ (by rintro _ _ ⟨⟩) ?_, hhandled₁.trans (handled_unlisten heval₁ _ _),
      by rintro _ ⟨⟩⟩
    intro p hp hfilling _ hpid
    rw [hhandled₁.parent] at hp
    exact hother p hp hfilling (by exact_mod_cast hpid)
  | spawnedSessionDisappear t' =>
    dsimp only
    have hslot : ∀ p, s.parent = some p → p.filling = true → p.stmt ≠ .writePid →
        (s.childAt t').tryPid ≠ p.pid := by
      intro p hp hfilling hstmt hpid
      obtain ⟨-, e, hslot, hwritten⟩ := h.slot hp hfilling
      have hnot : ¬Fills s i := by
        rintro ⟨p', hp', -, rfl⟩
        rw [hp] at hp'
        obtain rfl := Option.some.inj hp'
        rw [he] at hslot
        obtain rfl := Option.some.inj hslot
        have hpid' : (c.pid : ℤ) = p.pid := hwritten.1 hstmt
        exact hother p hp hfilling (by exact_mod_cast hpid')
      obtain ⟨c', hc', hq⟩ := h.honest he hnot
      rw [childAt_eq hc'] at hpid
      rcases h.tryPid hc' with hzero | hsame
      · obtain ⟨c'', hc'', hpid'', -⟩ := h.parent hp
        refine h.positive hc'' (hpid''.trans ?_)
        exact_mod_cast hpid.symm.trans hzero
      · refine hother p hp hfilling ?_
        exact_mod_cast hq.trans (hsame.symm.trans hpid)
    obtain ⟨h₁, hhandled₁, hfreed⟩ := h.tryFree heval hfill hslot
    have heval₁ := hhandled₁.evalMode.trans heval
    refine ⟨h₁.unlisten heval₁ ?_ ?_, hhandled₁.trans (handled_unlisten heval₁ _ _), ?_⟩
    · rintro t'' c' heq hc'
      cases heq
      exact hfreed c' hc'
    · intro p hp hfilling _ hpid
      rw [hhandled₁.parent] at hp
      exact hother p hp hfilling (by exact_mod_cast hpid)
    · rintro c' heq hc'
      cases heq
      exact hfreed c' hc'

/-- One round of the inner loop. -/
theorem Intact.visit (h : Intact s) {t i : ℕ} (hscan : s.scan = some (t, i)) {forks : List ℕ}
    (hfill : forks = [] ∨ ∀ i, ¬Fills s i) :
    Intact (s.visit t i forks) ∧ (s.visit t i forks).parent = s.parent := by
  obtain ⟨heval, c, hc, hreaped⟩ := h.scanned hscan
  unfold Registrar.visit
  cases he : s.registry.pending[i]? with
  | none => exact ⟨h.scanEnd hscan he, rfl⟩
  | some e =>
    obtain ⟨q, hd⟩ := e
    dsimp only
    rw [childAt_eq hc]
    split_ifs with hpid
    · subst hpid
      cases hd with
      | none =>
        refine ⟨h.fault.scanTo hscan fun c' _ _ heq => ?_, rfl⟩
        have heq' : s.registry.pending[i]? = some (listener t c') := heq
        rw [he] at heq'
        simp [listener] at heq'
      | some hd =>
        dsimp only
        obtain ⟨h₁, hhandled, hfreed⟩ := h.call hscan hc he hfill
        refine ⟨h₁.scanTo (hhandled.scan.trans hscan) fun c' hc' hfree heq => ?_, hhandled.parent⟩
        rcases hhandled.stays i _ he with hstay | hzero
        · rw [heq] at hstay
          have hhd : hd = .spawnedSessionDisappear t := by
            have := Option.some.inj hstay
            rw [listener, Waiting.mk.injEq, Option.some.injEq] at this
            exact this.2.symm
          rw [hfreed c' hhd hc'] at hfree
          cases hfree
        · rw [heq] at hzero
          simp [listener] at hzero
    · refine ⟨h.scanTo hscan fun c' hc' _ heq => ?_, rfl⟩
      rw [hc] at hc'
      obtain rfl := Option.some.inj hc'
      rw [he, listener] at heq
      cases heq
      exact hpid rfl

/-- The handler notes whether the array was made longer or shorter, which it is not while a slot is
filled. -/
theorem Intact.noteMoved (h : Intact s) {n : ℕ} (hlen : ∀ p, s.parent = some p → p.filling = true →
    s.registry.pending.length = n) : Intact (s.noteMoved n) := by
  have hparent : ∀ {p' : Parent}, (s.noteMoved n).parent = some p' → ∃ p, s.parent = some p ∧
      p' = { p with moved := p.moved || decide (s.registry.pending.length ≠ n) } := fun hp => by
    obtain ⟨p, hp', rfl⟩ := Option.map_eq_some_iff.mp hp
    exact ⟨p, hp', rfl⟩
  have hfills : ∀ {i : ℕ}, Fills s i → Fills (s.noteMoved n) i := by
    rintro i ⟨p, hp, hfilling, hslot⟩
    exact ⟨{ p with moved := p.moved || decide (s.registry.pending.length ≠ n) },
      by rw [Registrar.noteMoved, hp]; rfl, hfilling, hslot⟩
  refine ⟨h.distinct, h.positive, h.tryPid, h.scanned,
    fun he hfill => h.honest he fun hf => hfill (hfills hf),
    fun hc hfree hreg => ?_, fun hp => ?_, fun hp hfilling => ?_⟩
  · obtain ⟨j, hj, hfill, hwalk⟩ := h.waits hc hfree (by
      rintro ⟨p, hp, hrest⟩
      exact hreg ⟨{ p with moved := p.moved || decide (s.registry.pending.length ≠ n) },
        by rw [Registrar.noteMoved, hp]; rfl, hrest⟩)
    refine ⟨j, hj, ?_, hwalk⟩
    rintro ⟨p', hp', hfilling, hslot⟩
    obtain ⟨p, hp, rfl⟩ := hparent hp'
    exact hfill ⟨p, hp, hfilling, hslot⟩
  · obtain ⟨p, hp', rfl⟩ := hparent hp
    obtain ⟨c, hc⟩ := h.parent hp'
    exact ⟨c, hc⟩
  · obtain ⟨p, hp', rfl⟩ := hparent hp
    obtain ⟨hmoved, he⟩ := h.slot hp' hfilling
    refine ⟨?_, he⟩
    rw [hmoved, hlen p hp' hfilling]
    simp

/-- Outside of the walk entries are taken out, but for the listeners of pending tries. -/
theorem Intact.sift (h : Intact s) {r : Registry Handler} (hscan : s.scan = none)
    (hfill : ∀ i, ¬Fills s i) (hsub : ∀ e ∈ r.pending, e ∈ s.registry.pending)
    (hkeep : ∀ {t : ℕ} {c : Child}, s.tries[t]? = some c → c.freed = false →
      listener t c ∈ s.registry.pending → listener t c ∈ r.pending) :
    Intact { s with registry := r } := by
  refine ⟨h.distinct, h.positive, h.tryPid, fun hs => ?_, fun he _ => ?_, fun hc hfree hreg => ?_,
    h.parent, fun {p} hp hfilling => absurd ⟨p, hp, hfilling, rfl⟩ (hfill p.slot)⟩
  · have hs' : s.scan = _ := hs
    rw [hscan] at hs'
    cases hs'
  · obtain ⟨i', he'⟩ := List.mem_iff_getElem?.mp (hsub _ (List.mem_of_getElem? he))
    exact h.honest he' (hfill i')
  · obtain ⟨j, hj, -, hwalk⟩ := h.waits hc hfree hreg
    obtain ⟨j', hj'⟩ := List.mem_iff_getElem?.mp (hkeep hc hfree (List.mem_of_getElem? hj))
    refine ⟨j', hj', hfill j', fun hr => ?_⟩
    obtain ⟨i, hi, -⟩ := hwalk hr
    rw [hscan] at hi
    cases hi

/-- The handler returns. -/
theorem Intact.cleanup (h : Intact s) (hscan : s.scan = none)
    (hfill : ∀ p, s.parent = some p → p.filling = true → s.registry.pending.all Waiting.alive = true) :
    Intact { s with registry := { pending := cleanup s.registry.pending, evalMode := false } } := by
  rw [cleanup_eq_filter]
  by_cases hno : ∀ i, ¬Fills s i
  · refine h.sift hscan hno (fun e he => (List.mem_filter.mp he).1) fun _ _ hmem => ?_
    exact List.mem_filter.mpr ⟨hmem, rfl⟩
  · obtain ⟨i, hi⟩ := not_forall.mp hno
    obtain ⟨p, hp, hfilling, -⟩ := not_not.mp hi
    rw [List.filter_eq_self.mpr (List.all_eq_true.mp (hfill p hp hfilling))]
    refine ⟨h.distinct, h.positive, h.tryPid, fun hs => ?_, h.honest, h.waits, h.parent, h.slot⟩
    have hs' : s.scan = _ := hs
    rw [hscan] at hs'
    cases hs'

/-- `waitpid` returns a child that is registered. -/
theorem Intact.reap (h : Intact s) (heval : s.registry.evalMode = true) (hscan : s.scan = none) {t : ℕ}
    {c : Child} (hc : s.tries[t]? = some c) (hreaped : c.reaped = false)
    (hreg : ¬Registers s t) :
    Intact { s with
      tries := s.tries.modify t fun c => { c with reaped := true }, scan := some (t, 0) } := by
  have hcases : ∀ {t' : ℕ} {c' : Child},
      (s.tries.modify t fun c => { c with reaped := true })[t']? = some c' →
      s.tries[t']? = some c' ∧ t ≠ t' ∨ t = t' ∧ c' = { c with reaped := true } := by
    intro t' c' hc'
    obtain ⟨c₀, hc₀, ⟨rfl, hne⟩ | ⟨rfl, rfl⟩⟩ := getElem?_of_modify hc'
    · exact Or.inl ⟨hc₀, hne⟩
    · rw [hc] at hc₀
      exact Or.inr ⟨rfl, by rw [Option.some.inj hc₀]⟩
  have hnew : ∀ {t' : ℕ} {c' : Child}, s.tries[t']? = some c' → ∃ c'' : Child,
      (s.tries.modify t fun c => { c with reaped := true })[t']? = some c'' ∧ c''.pid = c'.pid ∧
        (t ≠ t' → c'' = c') := by
    intro t' c' hc'
    by_cases ht : t = t'
    · subst ht
      exact ⟨{ c' with reaped := true }, by rw [List.getElem?_modify_eq, hc']; rfl, rfl,
        fun hne => absurd rfl hne⟩
    · exact ⟨c', by rw [List.getElem?_modify_ne _ _ ht, hc'], rfl, fun _ => rfl⟩
  -- the child of another try is held as before
  have hholds : ∀ {t' : ℕ} {c' : Child}, t ≠ t' →
      Holds { s with
        tries := s.tries.modify t fun c => { c with reaped := true }, scan := some (t, 0) } t' c' →
        Holds s t' c' := by
    rintro t' c' hne (hr | ⟨i, hi⟩)
    · exact Or.inl hr
    · exact absurd (Prod.mk.inj (Option.some.inj hi)).1 hne
  refine ⟨fun {t₁ t₂ c₁ c₂} h₁ h₂ htt hh₁ hh₂ => ?_, fun {t' c'} hc' => ?_, fun {t' c'} hc' => ?_,
    fun {t' i} hs => ?_, fun he hfill => ?_, fun {t' c'} hc' hfree hreg' => ?_,
    fun {p} hp => ?_, h.slot⟩
  · rcases hcases h₁ with ⟨h₁, hne₁⟩ | ⟨rfl, rfl⟩ <;> rcases hcases h₂ with ⟨h₂, hne₂⟩ | ⟨rfl, rfl⟩
    · exact h.distinct h₁ h₂ htt (hholds hne₁ hh₁) (hholds hne₂ hh₂)
    · have hne := h.distinct h₁ hc htt (hholds hne₁ hh₁) (Or.inl hreaped)
      exact hne
    · have hne := h.distinct hc h₂ htt (Or.inl hreaped) (hholds hne₂ hh₂)
      exact hne
    · exact absurd rfl htt
  · rcases hcases hc' with ⟨hc', -⟩ | ⟨rfl, rfl⟩
    · exact h.positive hc'
    · exact h.positive (c := c) hc
  · rcases hcases hc' with ⟨hc', -⟩ | ⟨rfl, rfl⟩
    · exact h.tryPid hc'
    · exact h.tryPid (c := c) hc
  · obtain ⟨rfl, rfl⟩ := Prod.mk.inj (Option.some.inj hs)
    exact ⟨heval, { c with reaped := true }, by rw [List.getElem?_modify_eq, hc]; rfl, rfl⟩
  · obtain ⟨c', hc', hq⟩ := h.honest he hfill
    obtain ⟨c'', hc'', hpid, -⟩ := hnew hc'
    exact ⟨c'', hc'', hq.trans (by rw [hpid])⟩
  · rcases hcases hc' with ⟨hc', hne⟩ | ⟨rfl, rfl⟩
    · obtain ⟨j, hj, hfill, hwalk⟩ := h.waits hc' hfree hreg'
      refine ⟨j, hj, hfill, fun hr => ?_⟩
      obtain ⟨i, hi, -⟩ := hwalk hr
      rw [hscan] at hi
      cases hi
    · obtain ⟨j, hj, hfill, -⟩ := h.waits hc hfree hreg
      exact ⟨j, hj, hfill, fun _ => ⟨0, rfl, Nat.zero_le j⟩⟩
  · obtain ⟨c', hc', hpid, hr⟩ := h.parent hp
    obtain ⟨c'', hc'', hpid', hsame⟩ := hnew hc'
    refine ⟨c'', hc'', hpid'.trans hpid, fun hstmt => ?_⟩
    have hne : t ≠ p.spawnTry := by
      rintro rfl
      exact hreg ⟨p, hp, rfl, hstmt⟩
    rw [hsame hne]
    exact hr hstmt

/-! ### The parent -/

/-- The parent goes on, and its registration is not over: what is not its slot stays. -/
theorem Intact.goOn (h : Intact s) {p : Parent} (p' : Parent) (hp : s.parent = some p)
    (htry : p'.spawnTry = p.spawnTry) (hpid : p'.pid = p.pid) (hbefore : p.stmt ≠ .storePid)
    {pending : List (Waiting Handler)}
    (hold : ∀ {i : ℕ} {e : Waiting Handler}, s.registry.pending[i]? = some e → ¬Fills s i →
      pending[i]? = some e)
    (hnew : ∀ {i : ℕ} {e : Waiting Handler}, pending[i]? = some e → p'.filling = true ∧ p'.slot = i ∨
      s.registry.pending[i]? = some e ∧ ¬Fills s i ∨
        e = ⟨p.pid, some (.spawnedSessionDisappear p.spawnTry)⟩)
    (hslot : p'.filling = true → p'.moved = false ∧ ∃ e, pending[p'.slot]? = some e ∧ p'.Written e)
    (hplace : p'.filling = true → s.registry.pending[p'.slot]? = none ∨ Fills s p'.slot)
    (hdone : p'.stmt = .storePid → ∃ j : ℕ, pending[j]? =
      some ⟨p.pid, some (.spawnedSessionDisappear p.spawnTry)⟩) :
    Intact { s with registry := { s.registry with pending := pending }, parent := some p' } := by
  obtain ⟨c, hc, hcpid, hreaped⟩ := h.parent hp
  refine ⟨h.distinct, h.positive, h.tryPid, h.scanned, fun {i q t} he hfill => ?_,
    fun {t c'} hc' hfree hreg => ?_, fun {p''} hp'' => ?_, fun {p''} hp'' hfilling => ?_⟩
  · rcases hnew he with ⟨hfilling, hi⟩ | ⟨he, hno⟩ | he
    · exact absurd ⟨p', rfl, hfilling, hi⟩ hfill
    · exact h.honest he hno
    · simp only [Waiting.mk.injEq, Option.some.injEq, Handler.spawnedSessionDisappear.injEq] at he
      obtain ⟨rfl, rfl⟩ := he
      exact ⟨c, hc, by rw [hcpid]⟩
  · by_cases ht : t = p.spawnTry
    · subst ht
      have hstmt : p'.stmt = .storePid := by
        by_contra hne
        exact hreg ⟨p', rfl, htry, hne⟩
      rw [hc] at hc'
      obtain rfl := Option.some.inj hc'
      obtain ⟨j, hj⟩ := hdone hstmt
      refine ⟨j, by rw [listener, hcpid]; exact hj, ?_, fun hr => ?_⟩
      · rintro ⟨p'', hp'', hfilling, -⟩
        obtain rfl := Option.some.inj hp''
        rw [Parent.filling, hstmt] at hfilling
        cases hfilling
      · rw [hreaped hbefore] at hr
        cases hr
    · have hreg' : ¬Registers s t := by
        rintro ⟨p'', hp'', rfl, -⟩
        rw [hp] at hp''
        exact ht (by rw [Option.some.inj hp''])
      obtain ⟨j, hj, hno, hwalk⟩ := h.waits hc' hfree hreg'
      refine ⟨j, hold hj hno, ?_, hwalk⟩
      rintro ⟨p'', hp'', hfilling, rfl⟩
      obtain rfl := Option.some.inj hp''
      rcases hplace hfilling with hnone | hfills
      · rw [hnone] at hj
        cases hj
      · exact hno hfills
  · obtain rfl := Option.some.inj hp''
    exact ⟨c, by rw [htry]; exact hc, hcpid.trans hpid.symm, fun _ => hreaped hbefore⟩
  · obtain rfl := Option.some.inj hp''
    exact hslot hfilling

theorem fills_iff {p : Parent} (hp : s.parent = some p) {i : ℕ} :
    Fills s i ↔ p.filling = true ∧ p.slot = i := by
  constructor
  · rintro ⟨p', hp', hrest⟩
    rw [hp] at hp'
    rw [Option.some.inj hp']
    exact hrest
  · exact fun hrest => ⟨p, hp, hrest⟩

/-- A field of the slot is written. -/
theorem Intact.write (h : Intact s) {p : Parent} (p' : Parent) (hp : s.parent = some p)
    (hfilling : p.filling = true)
    (hsame : p'.spawnTry = p.spawnTry ∧ p'.pid = p.pid ∧ p'.slot = p.slot ∧ p'.moved = p.moved)
    {place : Option ℕ} {f : Waiting Handler → Waiting Handler}
    (hwritten : ∀ e, p.Written e → p'.filling = true → p'.Written (f e))
    (hdone : ∀ e, p.Written e → p'.stmt = .storePid →
      f e = ⟨p.pid, some (.spawnedSessionDisappear p.spawnTry)⟩)
    (hnext : p'.filling = true ∨ p'.stmt = .storePid) :
    Intact { Registrar.write p place f s with parent := some p' } := by
  obtain ⟨hmoved, e, he, hw⟩ := h.slot hp hfilling
  obtain ⟨htry, hpid, hslot, hmoved'⟩ := hsame
  have hbefore : p.stmt ≠ .storePid := by
    intro hstmt
    rw [Parent.filling, hstmt] at hfilling
    cases hfilling
  have hget : (s.registry.pending.modify p.slot f)[p.slot]? = some (f e) := by
    rw [List.getElem?_modify_eq, he]
    rfl
  have hwrite : { Registrar.write p place f s with parent := some p' } =
      { s with
        registry := { s.registry with pending := s.registry.pending.modify p.slot f }
        parent := some p' } := by
    rw [Registrar.write, hmoved]
    rfl
  rw [hwrite]
  refine h.goOn p' hp htry hpid hbefore (fun {i e'} hi hno => ?_) (fun {i e'} hi => ?_) (fun hf => ?_)
    (fun hf => ?_) fun hstmt => ?_
  · rw [fills_iff hp] at hno
    rw [List.getElem?_modify_ne _ _ fun hs => hno ⟨hfilling, hs⟩]
    exact hi
  · by_cases hs : p.slot = i
    · subst hs
      rcases hnext with hf | hstmt
      · exact Or.inl ⟨hf, hslot⟩
      · rw [hget] at hi
        exact Or.inr (Or.inr ((Option.some.inj hi).symm.trans (hdone e hw hstmt)))
    · rw [List.getElem?_modify_ne _ _ hs] at hi
      exact Or.inr (Or.inl ⟨hi, fun hfills => hs ((fills_iff hp).mp hfills).2⟩)
  · rw [hslot]
    exact ⟨hmoved'.trans hmoved, f e, hget, hwritten e hw hf⟩
  · rw [hslot]
    exact Or.inr ⟨p, hp, hfilling, rfl⟩
  · exact ⟨p.slot, hget.trans (congrArg some (hdone e hw hstmt))⟩

theorem not_fills {p : Parent} (hp : s.parent = some p) (h : p.filling = false) (i : ℕ) :
    ¬Fills s i := by
  rw [fills_iff hp, h]
  rintro ⟨⟨⟩, -⟩

/-- `try->pid` is written, and the parent is done. -/
theorem Intact.storePid (h : Intact s) {p : Parent} (hp : s.parent = some p)
    (hstmt : p.stmt = .storePid) :
    Intact { s with
      tries := s.tries.modify p.spawnTry fun c => { c with tryPid := p.pid }
      parent := none } := by
  obtain ⟨c, hc, hcpid, -⟩ := h.parent hp
  have hmod := h.modifyTry p.spawnTry (f := fun c => { c with tryPid := p.pid }) (fun _ => rfl)
    (fun _ => rfl) (fun _ hf => hf) fun c' hc' => by
      rw [hc] at hc'
      rw [← Option.some.inj hc', hcpid]
      exact Or.inr rfl
  have hno := not_fills hp (by rw [Parent.filling, hstmt])
  refine ⟨hmod.distinct, hmod.positive, hmod.tryPid, hmod.scanned,
    fun {i q t} he _ => hmod.honest he (hno i), fun {t c'} hc' hfree _ => ?_, fun {p'} hp' => ?_,
    fun {p'} hp' _ => ?_⟩
  · obtain ⟨j, hj, -, hwalk⟩ := hmod.waits hc' hfree (by
      rintro ⟨p', hp', -, hne⟩
      have hp'' : s.parent = some p' := hp'
      rw [hp] at hp''
      rw [← Option.some.inj hp''] at hne
      exact hne hstmt)
    refine ⟨j, hj, ?_, hwalk⟩
    rintro ⟨p', hp', -⟩
    cases hp'
  · cases hp'
  · cases hp'

/-- One statement of the parent. -/
theorem Intact.advance (h : Intact s) {p : Parent} (hp : s.parent = some p) (garbage : Waiting Handler)
    (data : ℕ) (place : Option ℕ) : Intact (s.advance garbage data place p) := by
  obtain ⟨t, pid, stmt, slot, moved⟩ := p
  cases stmt with
  | registerFd =>
    exact h.goOn ⟨t, pid, .arrayAdd, slot, moved⟩ hp rfl rfl (by rintro ⟨⟩) (fun he _ => he)
      (fun {i _} he => Or.inr (Or.inl ⟨he, not_fills hp rfl i⟩))
      (fun hf => absurd hf Bool.false_ne_true) (fun hf => absurd hf Bool.false_ne_true) (by rintro ⟨⟩)
  | arrayAdd =>
    refine h.goOn ⟨t, pid, .writePid, s.registry.pending.length, false⟩ hp rfl rfl (by rintro ⟨⟩)
      (fun he _ => getElem?_concat_of he _)
      (fun {i _} he => ?_) (fun _ => ?_) (fun _ => Or.inl ?_) (by rintro ⟨⟩)
    · rcases getElem?_of_concat he with he | ⟨rfl, -⟩
      · exact Or.inr (Or.inl ⟨he, not_fills hp rfl i⟩)
      · exact Or.inl ⟨rfl, rfl⟩
    · exact ⟨rfl, garbage, List.getElem?_concat_length, fun hne => absurd rfl hne, by rintro ⟨⟩⟩
    · exact List.getElem?_eq_none (Nat.le_refl _)
  | writePid =>
    exact h.write ⟨t, pid, .writeHandler, slot, moved⟩ hp rfl ⟨rfl, rfl, rfl, rfl⟩
      (fun e _ _ => ⟨fun _ => rfl, by rintro ⟨⟩⟩)
      (fun e _ => by rintro ⟨⟩) (Or.inl rfl)
  | writeHandler =>
    exact h.write ⟨t, pid, .writeData, slot, moved⟩ hp rfl ⟨rfl, rfl, rfl, rfl⟩
      (fun e hw _ => ⟨fun _ => hw.1 (by rintro ⟨⟩), fun _ => ⟨data, rfl⟩⟩)
      (fun e _ => by rintro ⟨⟩) (Or.inl rfl)
  | writeData =>
    refine h.write ⟨t, pid, .storePid, slot, moved⟩ hp rfl ⟨rfl, rfl, rfl, rfl⟩
      (fun e _ hf => absurd hf Bool.false_ne_true)
      (fun e hw _ => ?_) (Or.inr rfl)
    obtain ⟨q, hd⟩ := e
    obtain ⟨d, rfl⟩ := hw.2 rfl
    obtain rfl : q = pid := hw.1 (by rintro ⟨⟩)
    rfl
  | storePid => exact h.storePid hp rfl

/-! ### Steps and runs -/

theorem length_unlisten {r : Registry Handler} (heval : r.evalMode = true) (q : ℤ) (hd : Handler) :
    (r.unlisten q hd).pending.length = r.pending.length := by
  unfold Registry.unlisten
  rw [if_pos heval]
  exact length_kill _ _ _

/-- A listener that forks nothing changes entries in place. -/
theorem length_visit (heval : s.registry.evalMode = true) (t i : ℕ) :
    (s.visit t i []).registry.pending.length = s.registry.pending.length := by
  unfold Registrar.visit
  cases s.registry.pending[i]? with
  | none => rfl
  | some e =>
    dsimp only
    split_ifs
    · cases e.handler with
      | none => rfl
      | some hd =>
        cases hd with
        | greeterDone g => exact length_unlisten heval _ _
        | spawnedSessionDisappear t' =>
          have hub : (if (s.childAt t').freed then { s with ub := true } else s).registry =
              s.registry := by split_ifs <;> rfl
          unfold Registrar.call Registrar.tryFree
          dsimp only [List.foldl_nil]
          rw [hub, length_unlisten, length_unlisten heval]
          exact (Registry.evalMode_unlisten _ _ _).trans heval
    · rfl

/-- In the main loop a try with success is freed. -/
theorem Intact.free (h : Intact s) (heval : s.registry.evalMode = false) (hparent : s.parent = none)
    {t : ℕ} {c : Child} (hc : s.tries[t]? = some c) (hfreed : c.freed = false) :
    Intact (s.tryFree t []) := by
  have hscan : s.scan = none := by
    rw [← Option.not_isSome_iff_eq_none]
    intro hsome
    obtain ⟨⟨t', i⟩, hs⟩ := Option.isSome_iff_exists.mp hsome
    rw [(h.scanned hs).1] at heval
    cases heval
  have hno : ∀ i, ¬Fills s i := by
    rintro i ⟨p, hp, -⟩
    rw [hparent] at hp
    cases hp
  have hmod := h.modifyTry t (f := fun c => { c with freed := true }) (fun _ => rfl) (fun _ => rfl)
    (fun _ hf => by cases hf) (fun c hc => h.tryPid (c := c) hc)
  have hchild : (s.childAt t).freed = false := by rw [childAt_eq hc, hfreed]
  unfold Registrar.tryFree
  rw [hchild, if_neg Bool.false_ne_true, List.foldl_nil]
  have hpending : ∀ e, e ∈ (s.registry.unlisten (s.childAt t).tryPid
      (.spawnedSessionDisappear t)).pending ↔ e ∈ s.registry.pending ∧ e.alive = true ∧
        e ≠ ⟨(s.childAt t).tryPid, some (.spawnedSessionDisappear t)⟩ := by
    intro e
    unfold Registry.unlisten
    rw [heval, if_neg Bool.false_ne_true]
    dsimp only
    rw [cleanup_eq_filter, filter_kill (fun _ => rfl), List.mem_filter, List.mem_filter]
    simp [and_assoc]
  refine hmod.sift hscan hno (fun e he => ((hpending e).mp he).1) fun {t' c'} hc' hfree hmem => ?_
  refine (hpending _).mpr ⟨hmem, rfl, fun heq => ?_⟩
  obtain ⟨-, heq⟩ := Waiting.mk.inj heq
  obtain rfl := Handler.spawnedSessionDisappear.inj (Option.some.inj heq)
  obtain ⟨c₀, -, ⟨-, hne⟩ | ⟨-, rfl⟩⟩ := getElem?_of_modify hc'
  · exact hne rfl
  · cases hfree

/-- A greeter is listened for. -/
theorem Intact.listen (h : Intact s) (hparent : s.parent = none) (q : ℤ) (g : ℕ) :
    Intact { s with registry := s.registry.listen q (.greeterDone g) } := by
  have hnone : ∀ p, s.parent ≠ some p := fun p hp => by
    rw [hparent] at hp
    cases hp
  refine ⟨h.distinct, h.positive, h.tryPid, h.scanned, fun he hfill => ?_, fun hc hfree hreg => ?_,
    h.parent, fun {p} hp _ => absurd hp (hnone p)⟩
  · rcases getElem?_of_concat he with he | ⟨-, he⟩
    · exact h.honest he hfill
    · simp at he
  · obtain ⟨j, hj, hfill, hwalk⟩ := h.waits hc hfree hreg
    exact ⟨j, getElem?_concat_of hj _, hfill, hwalk⟩

theorem intact_step {e : RegistrarEvent} (h : Intact s) (hok : leftAlone s e = true) :
    Intact (step s e) := by
  cases e with
  | fork pid =>
    unfold step
    dsimp only
    split_ifs with hcan
    · exact h.fork hcan.2.1 hcan.2.2
    · exact h
  | advance garbage data place =>
    unfold step
    dsimp only
    split_ifs
    · cases hp : s.parent with
      | none => exact h
      | some p => exact h.advance hp garbage data place
    · exact h
  | free t =>
    unfold step
    dsimp only
    split_ifs with hcan
    · obtain ⟨heval, hparent, hany⟩ := hcan
      obtain ⟨c, hc, hfreed⟩ := (Option.any_eq_true _ _).mp hany
      exact h.free heval hparent hc (by simpa using hfreed)
    · exact h
  | listen q g =>
    unfold step
    dsimp only
    split_ifs with hcan
    · exact h.listen hcan.2 q g
    · exact h
  | exit t =>
    exact h.modifyTry t (fun _ => rfl) (fun _ => rfl) (fun _ hf => hf) fun c hc => h.tryPid (c := c) hc
  | sigchld =>
    unfold step
    dsimp only
    split_ifs
    · exact ⟨h.distinct, h.positive, h.tryPid, fun hs => ⟨rfl, (h.scanned hs).2⟩, h.honest, h.waits,
        h.parent, h.slot⟩
    · exact h
  | reap t =>
    unfold step
    dsimp only
    split_ifs with hcan
    · obtain ⟨heval, hscan, hany⟩ := hcan
      obtain ⟨c, hc, hends⟩ := (Option.any_eq_true _ _).mp hany
      refine h.reap heval hscan hc (by simpa using (Bool.and_eq_true_iff.mp hends).2) ?_
      rintro ⟨p, hp, rfl, hstmt⟩
      unfold leftAlone at hok
      rw [hp] at hok
      exact hstmt (of_decide_eq_true hok rfl)
    · exact h
  | visit forks =>
    unfold step
    dsimp only
    cases hscan : s.scan with
    | none => exact h
    | some w =>
      obtain ⟨t, i⟩ := w
      dsimp only
      have hforks : ∀ p, s.parent = some p → p.filling = true → forks = [] := by
        intro p hp hfilling
        unfold leftAlone at hok
        rw [hp] at hok
        dsimp only at hok
        rw [hfilling, Bool.not_true, Bool.false_or, List.isEmpty_iff] at hok
        exact hok
      have hfill : forks = [] ∨ ∀ i, ¬Fills s i := by
        by_cases hno : forks = []
        · exact Or.inl hno
        · refine Or.inr ?_
          rintro i ⟨p, hp, hfilling, -⟩
          exact hno (hforks p hp hfilling)
      obtain ⟨hintact, hparent⟩ := h.visit hscan hfill
      refine hintact.noteMoved fun p hp hfilling => ?_
      rw [hparent] at hp
      rw [hforks p hp hfilling]
      exact length_visit (h.scanned hscan).1 t i
  | sigchldReturn =>
    unfold step
    dsimp only
    split_ifs with hcan
    · have halive : ∀ p, s.parent = some p → p.filling = true →
          s.registry.pending.all Waiting.alive = true := by
        intro p hp hfilling
        unfold leftAlone at hok
        rw [hp] at hok
        dsimp only at hok
        rwa [hfilling, Bool.not_true, Bool.false_or] at hok
      refine (h.cleanup hcan.2 halive).noteMoved fun p hp hfilling => ?_
      dsimp only
      rw [cleanup_eq_filter, List.filter_eq_self.mpr (List.all_eq_true.mp (halive p hp hfilling))]
    · exact h

theorem intact_start : Intact Registrar.start := by
  refine ⟨?_, ?_, ?_, ?_, ?_, ?_, ?_, ?_⟩ <;> intros <;> simp_all [Registrar.start]

/-- **No end of a child is lost**, in every state of every run in which the registrations are left
alone. -/
theorem none_lost (es : List RegistrarEvent)
    (hok : Meets step (fun s e => leftAlone s e = true) Registrar.start es) :
    Throughout step NoneLost Registrar.start es :=
  Meets.throughout (fun _ _ h hok => intact_step h hok) (fun _ h => h.noneLost) es _ hok intact_start

/-- The parent executes `n` statements. -/
def advances (n : ℕ) : List RegistrarEvent := List.replicate n (.advance ⟨7, none⟩ 9 none)

/-- The child of the try `t` ends, and the handler runs, which looks at `n` entries. -/
def childEnds (t n : ℕ) : List RegistrarEvent :=
  [.exit t, .sigchld, .reap t] ++ List.replicate (n + 1) (.visit []) ++ [.sigchldReturn]

/-- The child ends when it is registered, but before `try->pid` is written. -/
theorem none_lost_registered : Throughout step NoneLost Registrar.start
    (.fork 100 :: advances 5 ++ childEnds 0 1 ++ advances 1) :=
  none_lost (.fork 100 :: advances 5 ++ childEnds 0 1 ++ advances 1) (by decide)

/-- **The end of a child is lost** that is reaped before its registration, or that is registered while the
handler takes the listener of another one out of the array. -/
theorem lost : ¬Throughout step NoneLost Registrar.start (.fork 100 :: childEnds 0 0 ++ advances 6) ∧
    ¬Throughout step NoneLost Registrar.start
      (.fork 100 :: advances 6 ++ .fork 101 :: advances 2 ++ childEnds 0 2 ++ advances 4 ++
        childEnds 1 1) := by
  refine ⟨fun h => ?_, fun h => ?_⟩
  · have hend := Throughout.at_end (.fork 100 :: childEnds 0 0 ++ advances 6) _ h
    rcases hend 0 ⟨100, true, true, 100, false⟩ (by decide) rfl with hfreed | ⟨i, hi⟩
    · cases hfreed
    · cases hi
  · have hend := Throughout.at_end (.fork 100 :: advances 6 ++ .fork 101 :: advances 2 ++ childEnds 0 2 ++
      advances 4 ++ childEnds 1 1) _ h
    rcases hend 1 ⟨101, true, true, 101, false⟩ (by decide) rfl with hfreed | ⟨i, hi⟩
    · cases hfreed
    · cases hi

end Spawny.Daemon.Registration
